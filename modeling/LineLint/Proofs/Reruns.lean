import LineLint.Proofs.ConfigFaults
import LineLint.Proofs.ExitCodes

/-!
# Commands that are run again

The reports that a command writes are no files that a run over the project looks for. So the next
run says the same, and a command that is given again writes the same bytes and comes to the same
end. Main statement: `Command.reports_unseen`.
-/

namespace LineLint.Command

open FileTree (placeOf waysTo places Updated Fits)

variable {env : Environment} {s s' s₁ : Session} {t t' : FileTree} {p : Project} {file : Path}
  {r : LintResult} {choice : ProjectChoice} {files directories : Set Location}
  {d : LintResult → Delivery} {command : Run Unit}

/-! ## Files that nobody looks for -/

/-- Where a configuration is looked for: at the file that is named, or in the root. -/
def ProjectChoice.configPlace (choice : ProjectChoice) (cwd root : Location) : Location :=
  (choice.config.map (placeOf cwd)).getD root

/-- None of these files is one that a run over a project looks for. -/
structure Unsought (p : Project) (choice : ProjectChoice) (cwd : Location)
    (files : Set Location) : Prop where
  names : ∀ location ∈ files, ∃ above name, location = above ++ [name] ∧
    p.settings.wants name = false ∧ name ∉ Settings.configNames
  config : ∀ config ∈ choice.config, placeOf cwd config ∉ files

theorem wants_eq_false (settings : Settings) {name : String}
    (hname : .text name ∉ settings.manifestNames)
    (hsuffix : .text (Path.suffixOf name) ∉ settings.extensions) :
    settings.wants name = false := by
  simp [Settings.wants, hname, hsuffix]

namespace Unsought

variable (hunsought : Unsought p choice env.cwd files) (hupdated : Updated files directories t t')

include hunsought hupdated

theorem sameWanted : p.SameWanted t t' := by
  intro dirs name _ hname bytes
  refine (hupdated.file_iff fun hmem => ?_).symm
  obtain ⟨above, other, heq, hother, -⟩ := hunsought.names _ hmem
  rw [← List.append_assoc] at heq
  obtain ⟨-, rfl⟩ := List.append_singleton_inj.1 heq
  rw [hname] at hother
  cases hother

theorem sameConfigs (root : Location) : Settings.SameConfigs t t' root := by
  intro directory _ name hname bytes
  refine (hupdated.file_iff fun hmem => ?_).symm
  obtain ⟨above, other, heq, -, hother⟩ := hunsought.names _ hmem
  obtain ⟨-, rfl⟩ := List.append_singleton_inj.1 heq
  exact hother hname

/-- The same settings are loaded as before. -/
theorem load_eq (h : t.Sound) (hfree : t.LinkFree) (hgiven : ∀ path ∈ choice.paths, path.IsGiven)
    (hfits : Fits (choice.configPlace env.cwd p.root)) :
    Settings.load Run.configRoom t env.cwd choice.config (.absolute p.root) =
      Settings.load Run.configRoom t' env.cwd choice.config (.absolute p.root) := by
  obtain ⟨config, directory⟩ := choice
  cases config with
  | none =>
    exact Settings.load_congr_nearest h hfree hupdated.sound hupdated.linkFree hfits
      (hunsought.sameConfigs hupdated p.root)
  | some config =>
    have hconfig : config.IsGiven := hgiven config (by simp [ProjectChoice.paths])
    exact Settings.load_congr_named h hfree hupdated.sound hupdated.linkFree hconfig.no_null hfits
      fun bytes => (hupdated.file_iff (hunsought.config config rfl)).symm

/-- The same project is opened as before. -/
theorem opens {warnings : List Warning} (h : t.Sound) (hfree : t.LinkFree)
    (hgiven : ∀ path ∈ choice.paths, path.IsGiven)
    (hfits : Fits (choice.configPlace env.cwd p.root))
    (hopens : Run.Opens env t choice p warnings) : Run.Opens env t' choice p warnings :=
  ⟨(FileTree.resolve_congr hupdated.linkFree hfree _ _).trans hopens.root,
    (hunsought.load_eq hupdated h hfree hgiven hfits).symm.trans hopens.settings⟩

end Unsought

/-! ## Commands that deliver -/

namespace Run

/-- Where all names are UTF-8, a command comes to a result over the whole project, delivers it and
then looks at no files. -/
def Delivers (env : Environment) (choice : ProjectChoice) (d : LintResult → Delivery)
    (command : Run Unit) : Prop :=
  ∃ (before : List String) (rest : LintResult → Run Unit),
    (∀ s : Session, s.undecoded = false → command.run s = (do
      display (.ok before)
      let r ← lintResult env [] choice
      deliver env (d r)
      rest r).run s) ∧ ∀ r, KeepsFiles (rest r)

theorem delivers_lint {format : String} (hformat : format ∈ ["text", "json"]) :
    Delivers env choice (reportDelivery file) (lint env [] choice format (some file)) := by
  have hnothing : display (.ok []) = pure () :=
    ExceptT.ext (funext fun s => by
      rw [run_display_ok rfl rfl, List.append_nil]
      rfl)
  simp only [List.mem_cons, List.not_mem_nil, or_false] at hformat
  rcases hformat with rfl | rfl
  · refine ⟨[], fun r => lintText r (some file), fun s _ => ?_, fun r => keepsFiles_lintText r _⟩
    rw [lint_eq, hnothing, pure_bind]
    simp only [writeReport_eq]
    rfl
  · refine ⟨[], fun r => throw (.reported (document r) r.exitCode), fun s _ => ?_,
      fun r => keepsFiles_throw _⟩
    rw [lint_eq, hnothing, pure_bind]
    simp only [writeReport_eq]
    rfl

theorem delivers_triage {limit : ℤ} {directory : Path} :
    Delivers env choice
      (fun r => triageDelivery env directory (TriageSummary.ofViolations [] r.violations))
      (triage env choice limit (some directory)) := by
  refine ⟨Screen.banner, fun r => do
    display (Screen.info s!"{Report.all.length} report(s) written to {directory}")
    triageText r limit, fun s hs => ?_, fun r => ?_⟩
  · rw [triage_eq]
    refine run_bind_congr fun _ s₁ hbanner => run_bind_congr fun r s₂ hresult => ?_
    have hplain : s₂.undecoded = false := by
      have hkeeps : KeepsFiles (lintResult env [] choice) := keepsFiles_lintResult [] choice
      have hfirst := (keepsFiles_display (.ok Screen.banner)).undecoded s
      have hsecond := hkeeps.undecoded s₁
      rw [hbanner] at hfirst
      rw [hresult] at hsecond
      exact hsecond.trans (hfirst.trans hs)
    rw [run_bind, run_writeReports_eq directory (Session.all_encodes hplain _), ← run_bind,
      bind_assoc]
  · exact (keepsFiles_display _).seq (keepsFiles_triageText r limit)

variable {warnings found : List Warning} {before : List String} {rest : LintResult → Run Unit}

theorem run_delivery (hopens : Opens env t choice p found)
    (hlint : p.lint t [] = .ok (r, warnings)) : (do
      display (.ok before)
      let r ← lintResult env [] choice
      deliver env (d r)
      rest r).run { tree := t } =
    match t.deliver env.cwd (d r) with
    | (tree, .ok ()) => (rest r).run { tree, lines := before, warnings := found ++ warnings }
    | (tree, .error e) => (.error (.crashed (.access e)),
      { tree, lines := before, warnings := found ++ warnings }) := by
  have hshown : (display (.ok before)).run { tree := t } =
      (.ok (), { tree := t, lines := before }) := run_display_ok rfl (Session.all_encodes rfl _)
  rw [run_bind_ok hshown, run_bind_ok (run_lintResult_of_opens hopens hlint), run_bind, run_deliver]
  cases t.deliver env.cwd (d r) with
  | mk tree done => cases done <;> rfl

/-- A command that has delivered its result comes to the same end again, if a run says the same as
before and the delivery changes nothing more. -/
theorem Delivers.again (hdelivers : Delivers env choice d command)
    (hopens : Opens env t choice p found) (hlint : p.lint t [] = .ok (r, warnings))
    (hdeliver : t.deliver env.cwd (d r) = (t', .ok ())) (hopens' : Opens env t' choice p found)
    (hlint' : p.lint t' [] = .ok (r, warnings))
    (hdeliver' : t'.deliver env.cwd (d r) = (t', .ok ())) :
    (command.run { tree := t }).2.tree = t' ∧
      command.run { tree := t' } = command.run { tree := t } := by
  obtain ⟨before, rest, hcommand, hrest⟩ := hdelivers
  rw [hcommand _ rfl, hcommand _ rfl, run_delivery hopens hlint, run_delivery hopens' hlint',
    hdeliver, hdeliver']
  exact ⟨(hrest r).tree _, rfl⟩

/-- A command that does not crash has delivered its result. -/
theorem Delivers.exists_deliver (hdelivers : Delivers env choice d command)
    (hopens : Opens env t choice p found) (hlint : p.lint t [] = .ok (r, warnings))
    (hrun : ∀ fault s, command.run { tree := t } ≠ (.error (.crashed fault), s)) :
    ∃ t', t.deliver env.cwd (d r) = (t', .ok ()) := by
  obtain ⟨before, rest, hcommand, -⟩ := hdelivers
  rw [hcommand _ rfl, run_delivery hopens hlint] at hrun
  cases hdeliver : t.deliver env.cwd (d r) with
  | mk tree done =>
    cases done with
    | ok => exact ⟨tree, rfl⟩
    | error e =>
      rw [hdeliver] at hrun
      exact absurd rfl (hrun _ _)

end Run

/-! ## Whole commands -/

/-- The project is opened and linted after a command as it was before, and the command given again
comes to the same end, shows and warns of the same, and leaves the same files. -/
structure RunsAgain (env : Environment) (t : FileTree) (choice : ProjectChoice) (p : Project)
    (words : List String) : Prop where
  opens : ∀ warnings, Run.Opens env t choice p warnings →
    Run.Opens env (run env t words).session.tree choice p warnings
  lint : p.lint (run env t words).session.tree [] = p.lint t []
  again : run env (run env t words).session.tree words = run env t words

section

variable {words : List String} {request : Request} (h : t.Sound) (hfree : t.LinkFree)
  (hcwd : t.entry? env.cwd = some .directory)
  (hopen : (Run.openProject env choice).run { tree := t } = (.ok p, s))
  (hgiven : ∀ path ∈ choice.paths, path.IsGiven)
  (hsizes : ∀ name ∈ choice.configPlace env.cwd p.root, name.utf8ByteSize ≤ FileTree.maxNameBytes)

include h hcwd hopen hgiven

include hsizes

theorem fits_configPlace : Fits (choice.configPlace env.cwd p.root) := by
  refine ⟨?_, hsizes⟩
  have hreal : Location.IsReal env.cwd := h.isReal_of_entry?_eq hcwd
  have hroot := isReal_root_of_given h hreal hopen hgiven
  obtain ⟨config, directory⟩ := choice
  cases config with
  | none => exact hroot
  | some config =>
    have hconfig : config.IsGiven := hgiven config (by simp [ProjectChoice.paths])
    exact FileTree.isReal_descend (FileTree.isReal_start hreal config) hconfig.plain hconfig.no_null

include hfree

/-- A command that delivers files that nobody looks for runs again. -/
theorem runsAgain_of_delivers (hwords : Request.parse words = .ok request)
    (hdelivers : Run.Delivers env choice d (Run.ofRequest env request))
    (hproper : ∀ r, (d r).Proper env.cwd)
    (hunsought : ∀ r t', t.deliver env.cwd (d r) = (t', .ok ()) →
      Unsought p choice env.cwd (places env.cwd (d r).files))
    (hrun : ∀ fault, (run env t words).ending ≠ .crashed fault) :
    RunsAgain env t choice p words ∧ ∃ r warnings, p.lint t [] = .ok (r, warnings) ∧
      ∀ row ∈ (d r).files, (run env t words).session.tree.read env.cwd row.1 = .ok row.2 := by
  have hroot := isReal_root_of_given h (h.isReal_of_entry?_eq hcwd) hopen hgiven
  have hfits := fits_configPlace h hcwd hopen hgiven hsizes
  obtain ⟨found, hopens, -⟩ := Run.run_openProject_eq_ok_iff.1 hopen
  have hopens : Run.Opens env t choice p found := hopens
  obtain ⟨r, warnings, hlint⟩ := Project.exists_lint (p := p) h hroot
  have hruns : ∀ u, run env u words = perform env u request := by
    intro u
    simp only [run, hwords]
  have hstays : ∀ fault s', (Run.ofRequest env request).run { tree := t } ≠
      (.error (.crashed fault), s') := by
    intro fault s' heq
    refine hrun fault ?_
    rw [hruns, perform_of_error heq]
  obtain ⟨t', hdeliver⟩ := hdelivers.exists_deliver hopens hlint hstays
  have hupdated := FileTree.updated_of_deliver h hfree hcwd (hproper r)
  obtain ⟨-, -, -, hlocate⟩ := FileTree.locate_of_deliver h hfree hcwd (hproper r) hdeliver
  rw [hdeliver] at hupdated
  have hnobody := hunsought _ _ hdeliver
  -- the tree after the delivery looks the same to a run
  have hopens' : ∀ warnings, Run.Opens env t choice p warnings →
      Run.Opens env t' choice p warnings :=
    fun warnings => hnobody.opens hupdated h hfree hgiven hfits
  have hlint' := Project.lint_congr h hfree hupdated.sound hupdated.linkFree hroot
    (hnobody.sameWanted hupdated)
  have hagain := FileTree.deliver_again h hfree hcwd (hproper _) hdeliver
  obtain ⟨htree, hsame⟩ := hdelivers.again hopens hlint hdeliver (hopens' found hopens)
    (hlint'.symm.trans hlint) hagain
  have htree' : (run env t words).session.tree = t' := by
    rw [hruns, session_perform, htree]
  refine ⟨⟨?_, ?_, ?_⟩, _, _, hlint, fun row hrow => ?_⟩
  · rwa [htree']
  · rw [htree', hlint']
  · rw [htree', hruns, hruns, perform, perform, hsame]
  · rw [htree']
    exact FileTree.read_eq_ok_iff.2 ⟨_, hlocate row hrow⟩

end

/-- Nobody looks for a report whose name is none that a run looks for. -/
theorem unsought_reportDelivery (h : t.Sound) (hfree : t.LinkFree)
    (hcwd : t.entry? env.cwd = some .directory) (hfile : file.IsPlain)
    (hname : .text file.name ∉ p.settings.manifestNames)
    (hsuffix : .text file.suffix ∉ p.settings.extensions)
    (hconfigName : file.name ∉ Settings.configNames)
    (hother : ∀ config ∈ choice.config, placeOf env.cwd config ≠ placeOf env.cwd file)
    (hdeliver : t.deliver env.cwd (reportDelivery file r) = (t', .ok ())) :
    Unsought p choice env.cwd (places env.cwd (reportDelivery file r).files) := by
  have hproper := proper_reportDelivery env.cwd hfile r
  obtain ⟨hsound, hlinks, hcwd', hlocate⟩ :=
    FileTree.locate_of_deliver h hfree hcwd hproper hdeliver
  obtain ⟨-, hplace⟩ := FileTree.locate_parent hsound hlinks hcwd' hfile
    (hlocate _ (mem_reportDelivery file r))
  rw [places_reportDelivery]
  refine ⟨?_, hother⟩
  rintro _ rfl
  exact ⟨_, _, hplace, wants_eq_false _ hname hsuffix, hconfigName⟩

/-- Nobody looks for the reports of a triage if no run looks at their names. -/
theorem unsought_triageDelivery {directory : Path} (hsuffix : .text ".md" ∉ p.settings.extensions)
    (hnames : ∀ report ∈ Report.all, .text report.fileName ∉ p.settings.manifestNames)
    (hother : ∀ config ∈ choice.config, ∀ report ∈ Report.all,
      placeOf env.cwd config ≠ placeOf env.cwd (directory.join (.parse report.fileName)))
    (summary : TriageSummary) :
    Unsought p choice env.cwd (places env.cwd (triageDelivery env directory summary).files) := by
  rw [places_triageDelivery]
  constructor
  · rintro _ ⟨report, hreport, rfl⟩
    have hmd : Path.suffixOf report.fileName = ".md" := by cases report <;> decide +kernel
    have hconfigName : report.fileName ∉ Settings.configNames := by cases report <;> decide
    exact ⟨_, _, placeOf_join_fileName env.cwd directory report,
      wants_eq_false _ (hnames report hreport) (by rwa [hmd]), hconfigName⟩
  · rintro config hconfig ⟨report, hreport, heq⟩
    exact hother config hconfig report hreport heq

/-- Without links the reports that a command writes change nothing for the next run, if none of them
has the name of a manifest, a chosen extension or the name or place of a configuration file, and no
name is too long on the way to where a configuration is looked for: a run over the project gives the
same result, and the command given again writes the same bytes and comes to the same end. -/
theorem reports_unseen {env : Environment} {t : FileTree} {choice : ProjectChoice} {p : Project}
    {s : Session} (h : t.Sound) (hfree : t.LinkFree) (hcwd : t.entry? env.cwd = some .directory)
    (hopen : (Run.openProject env choice).run { tree := t } = (.ok p, s))
    (hsizes : ∀ name ∈ choice.configPlace env.cwd p.root,
      name.utf8ByteSize ≤ FileTree.maxNameBytes) :
    (∀ {words format file},
      Request.parse words = .ok (.lint [] choice format (some file)) → format ∈ ["text", "json"] →
      .text file.name ∉ p.settings.manifestNames → .text file.suffix ∉ p.settings.extensions →
      file.name ∉ Settings.configNames →
      (∀ config ∈ choice.config, placeOf env.cwd config ≠ placeOf env.cwd file) →
      (∀ fault, (run env t words).ending ≠ .crashed fault) →
      RunsAgain env t choice p words ∧ ∃ r warnings, p.lint t [] = .ok (r, warnings) ∧
        (run env t words).session.tree.read env.cwd file =
          .ok (Text.Utf8.encode r.toJson.pretty.toList)) ∧
    ∀ {words limit directory},
      Request.parse words = .ok (.triage choice limit (some directory)) →
      .text ".md" ∉ p.settings.extensions →
      (∀ report ∈ Report.all, .text report.fileName ∉ p.settings.manifestNames) →
      (∀ config ∈ choice.config, ∀ report ∈ Report.all,
        placeOf env.cwd config ≠ placeOf env.cwd (directory.join (.parse report.fileName))) →
      (∀ fault, (run env t words).ending ≠ .crashed fault) →
      RunsAgain env t choice p words ∧ ∃ r warnings, p.lint t [] = .ok (r, warnings) ∧
        ∀ report ∈ Report.all, (run env t words).session.tree.read env.cwd
          (directory.join (.parse report.fileName)) = .ok (Text.Utf8.encode (report.render
            (TriageSummary.ofViolations [] r.violations) env.now.toText).toList) := by
  constructor
  · intro words format file hwords hformat hname hsuffix hconfigName hother hrun
    have hgiven := Request.given_of_parse hwords
    have hfile : file.IsPlain := (hgiven file (by simp [Request.paths])).plain
    obtain ⟨hagain, r, warnings, hlint, hread⟩ := runsAgain_of_delivers h hfree hcwd hopen
      (fun path hpath => hgiven path (by simp [Request.paths, hpath])) hsizes hwords
      (Run.delivers_lint hformat) (proper_reportDelivery env.cwd hfile)
      (fun r t' => unsought_reportDelivery h hfree hcwd hfile hname hsuffix hconfigName hother) hrun
    have hbytes := hread _ (mem_reportDelivery file r)
    exact ⟨hagain, r, warnings, hlint, hbytes⟩
  · intro words limit directory hwords hsuffix hnames hother hrun
    have hgiven := Request.given_of_parse hwords
    have hdirectory : directory.IsPlain := (hgiven directory (by simp [Request.paths])).plain
    obtain ⟨hagain, r, warnings, hlint, hread⟩ := runsAgain_of_delivers h hfree hcwd hopen
      (fun path hpath => hgiven path (by simp [Request.paths, hpath])) hsizes hwords
      Run.delivers_triage (fun r => proper_triageDelivery env hdirectory _)
      (fun r t' _ => unsought_triageDelivery hsuffix hnames hother _) hrun
    refine ⟨hagain, r, warnings, hlint, fun report hreport => ?_⟩
    have hbytes := hread _ (mem_triageDelivery env directory _ hreport)
    exact hbytes

/-- A project without a file that is wanted. -/
def bareTree : FileTree :=
  ⟨[(#["proj"], .directory), (#["proj", "notes.md"], .file [0x61])]⟩

theorem lint_bareTree : sampleProject.lint bareTree [] = .ok (sampleProject.resultOf [], []) := by
  have hnone : sampleProject.files bareTree = [] := by
    refine List.eq_nil_iff_forall_not_mem.2 fun path hpath => ?_
    obtain ⟨dirs, name, bytes, -, hentry, hdirs, hname, -⟩ :=
      Project.entry?_of_mem_files (by decide) (by decide) (by decide) hpath
    have hrows : ∀ row ∈ bareTree.toList, ∀ names ∈ FileTree.namesBelow? sampleProject.root row.1,
        names.getLast?.any sampleProject.settings.wants = false := by decide
    have hwanted := hrows _ (FileTree.mem_of_entry?_eq (by simp) hentry) (dirs ++ [name])
      (FileTree.namesBelow?_eq_some_iff.2 ⟨by simp, rfl⟩)
    simp [hname] at hwanted
  exact Project.lint_eq_ok_iff.2 ⟨_, [], rfl, by rw [hnone]; exact .nil, rfl⟩

theorem open_bareTree : (Run.openProject linkedEnv ⟨none, (some "/proj").map Path.parse⟩).run
    { tree := bareTree } = (.ok sampleProject, { tree := bareTree }) := by
  have h : bareTree.Sound := by decide
  exact Run.open_default h (by decide)
    (Settings.configIn_eq_none h (by decide) (by decide))
    (Settings.configIn_eq_none h (by decide) (by decide))

/-- A lint that writes its report is given again, and a triage that writes its reports. -/
theorem reports_unseen_tidy :
    RunsAgain linkedEnv tidyTree ⟨none, (some "/proj").map Path.parse⟩ sampleProject reportWords ∧
    RunsAgain linkedEnv bareTree ⟨none, (some "/proj").map Path.parse⟩ sampleProject
      triageWords := by
  constructor
  · have h : tidyTree.Sound := by decide +kernel
    have hfree : tidyTree.LinkFree := by decide +kernel
    have hreal : Location.IsReal sampleProject.root := by decide
    obtain ⟨r, warnings, hlint⟩ := Project.exists_lint (p := sampleProject) h hreal
    have hreported := Project.isReported_of_lint h hreal (List.forall_mem_nil _) hlint
    have hfiles := Project.no_bracket_of_lint h hreal (by decide +kernel) (by decide +kernel) hlint
    obtain ⟨_, hopens, -⟩ := Run.run_openProject_eq_ok_iff.1 open_tidyTree
    have hstays : ∀ crash, (run linkedEnv tidyTree reportWords).ending ≠ .crashed crash := by
      refine (ending_lint hopens hlint hreported hfiles parse_reportWords (by decide)
        (by decide +kernel) ?_).ne_crashed
      simpa using exists_deliver_report h hfree (by decide +kernel) r
    exact ((reports_unseen h hfree rfl open_tidyTree (by decide +kernel)).1 parse_reportWords
      (by decide) (by decide +kernel) (by decide +kernel) (by decide +kernel) (by simp)
      hstays).1
  · have h : bareTree.Sound := by decide +kernel
    have hfree : bareTree.LinkFree := by decide +kernel
    obtain ⟨_, hopens, -⟩ := Run.run_openProject_eq_ok_iff.1 open_bareTree
    have hstays : ∀ crash, (run linkedEnv bareTree triageWords).ending ≠ .crashed crash := by
      refine (ending_triage hopens lint_bareTree (List.forall_mem_nil _) (List.forall_mem_nil _)
        parse_triageWords (by decide +kernel) ?_).ne_crashed
      simpa using exists_deliver_triage h hfree (by decide +kernel) _
    exact ((reports_unseen h hfree rfl open_bareTree (by decide +kernel)).2 parse_triageWords
      (by decide +kernel) (by decide +kernel) (by simp) hstays).1

/-! ## A configuration under a name that is too long -/

/-- A configuration that is named where nothing stands, under a name that is too long. -/
def longConfig : Path := .absolute ["x", letters 256]

/-- The words of a lint with a configuration, whose report goes into a directory of its own. -/
def configWords (config : String) : List String :=
  ["lint", "--dir", "/proj", "--config", config, "--format", "json", "--output", "/x/out.json"]

theorem parse_configWords {config : String} (hnull : Char.ofNat 0 ∉ config.toList) :
    Request.parse (configWords config) = .ok (.lint []
      ⟨some (.parse config), (some "/proj").map Path.parse⟩ "json"
        (some (.parse "/x/out.json"))) := by
  have hcommand : Request.parse (configWords config) =
      Request.readLint (configWords config).tail := by
    rw [Request.parse, Request.split, configWords, Arguments.parse_command (by decide)]
    rfl
  have hsplit : Request.split
      (Request.projectOptions ++ [Request.formatOption, Request.outputOption]) true
        (configWords config).tail = .ok { options := [("output", "/x/out.json"),
          ("format", "json"), ("config", config), ("directory", "/proj")] } := by
    rw [Request.split, configWords, List.tail_cons,
      Arguments.parse_option (by decide) (by decide) rfl,
      Arguments.parse_option (by decide) (by decide) rfl,
      Arguments.parse_option (by decide) (by decide) rfl,
      Arguments.parse_option (by decide) (by decide) rfl, Arguments.parse_nil]
    rfl
  have hconfig := Request.path_eq hnull
  have hdirectory : Request.path "/proj" = .ok (.parse "/proj") :=
    Request.path_eq (by decide)
  have houtput : Request.path "/x/out.json" = .ok (.parse "/x/out.json") :=
    Request.path_eq (by decide)
  rw [hcommand, Request.readLint, hsplit]
  simp [Request.choice, Request.format, Request.pathOption, Request.formatOption,
    Request.outputOption, Arguments.option?, List.lookup_cons, hconfig, hdirectory, houtput, bind,
    Except.bind, pure, Except.pure]

/-- The words of a lint that writes its report where its configuration is looked for. -/
def longConfigWords : List String := configWords longConfig.toString

theorem isReal_longConfig : Location.IsReal ["x", letters 256] := by
  simp only [Location.IsReal, List.forall_mem_cons]
  exact ⟨by decide, isName_letters (by decide), List.forall_mem_nil _⟩

theorem toString_longConfig : longConfig.toString = "/x/" ++ letters 256 := by
  -- for any name, so that no long text is computed
  have hsplit : ∀ name, (Path.absolute ["x", name]).toString = "/" ++ ("x" ++ "/" ++ name) :=
    fun _ => rfl
  have hstart : "/" ++ ("x" ++ "/") = "/x/" := by decide
  rw [longConfig, hsplit, ← String.append_assoc, hstart]

theorem parse_longConfigWords : Request.parse longConfigWords = .ok (.lint []
    ⟨some longConfig, (some "/proj").map Path.parse⟩ "json" (some (.parse "/x/out.json"))) := by
  have hplain : longConfig.IsPlain := isReal_longConfig.plainNames
  have hnull : Char.ofNat 0 ∉ longConfig.toString.toList := by
    rw [toString_longConfig, String.toList_append, toList_letters]
    refine List.not_mem_append (by decide) fun hmem => ?_
    exact absurd (List.eq_of_mem_replicate hmem) (by decide)
  rw [longConfigWords, parse_configWords hnull, Path.parse_toString hplain]

/-- A name that is too long is looked at only in a directory that is there. -/
theorem locate_longConfig (t : FileTree) :
    (t.entry? ["x"] = none → t.locate [] longConfig = .error .notFound) ∧
    (t.entry? ["x"] = some .directory → t.locate [] longConfig = .error .nameTooLong) := by
  have hname := isName_letters (n := 256) (by decide)
  have hsize : (longConfig.toString).utf8ByteSize < FileTree.maxPathBytes := by
    have hstart : "/x/".utf8ByteSize = 3 := by decide
    rw [toString_longConfig, String.utf8ByteSize_append, hstart, size_letters]
    decide
  have hnull : ¬(longConfig.parts.any (·.toList.contains (Char.ofNat 0))) = true := by
    simpa [longConfig, Path.absolute] using fun name hname => (isReal_longConfig name hname).no_null
  have hlong : FileTree.maxNameBytes < (letters 256).utf8ByteSize := by
    rw [size_letters]
    decide
  have hshort : ¬FileTree.maxNameBytes < "x".utf8ByteSize := by decide
  rw [FileTree.locate, FileTree.walk, if_neg hnull, if_neg (not_le_of_gt hsize)]
  constructor <;> intro hentry <;>
    simp [longConfig, Path.absolute, Path.isAbsolute, FileTree.start,
      FileTree.walkFrom.eq_def t _ _ [], FileTree.slashStep, FileTree.dotStep, hentry,
      FileTree.walkFrom_of_long hname hlong, hshort]

section

variable (hfree : t.LinkFree) (room : ℕ) (search : Path)

include hfree

theorem resolve_longConfig : t.resolve [] longConfig = .ok ["x", letters 256] := by
  rw [FileTree.resolve_eq hfree fun name hname => (isReal_longConfig name hname).no_null,
    longConfig, FileTree.placeOf_absolute isReal_longConfig]

theorem load_longConfig_missing (hnone : t.entry? ["x"] = none) :
    Settings.load room t [] (some longConfig) search =
      .ok ({}, [.configMissing longConfig]) := by
  refine Settings.load_of_missing (resolve_longConfig hfree) ?_
  have hlocate := (locate_longConfig t).1 hnone
  rw [longConfig] at hlocate
  rw [FileTree.isFile, FileTree.find?, hlocate]
  rfl

theorem load_longConfig_fails (hdir : t.entry? ["x"] = some .directory) :
    Settings.load room t [] (some longConfig) search = .error (.access .nameTooLong) := by
  refine Settings.load_of_unmeasurable (resolve_longConfig hfree) ?_
  have hlocate := (locate_longConfig t).2 hdir
  rw [longConfig] at hlocate
  rw [FileTree.isFile, FileTree.find?, hlocate]
  rfl

end

/-- The report is written into a directory that is made for it. -/
theorem deliver_longConfig (r : LintResult) : ∃ t', bareTree.deliver []
    (reportDelivery (.parse "/x/out.json") r) = (t', .ok ()) ∧ t'.LinkFree ∧
      t'.entry? ["x"] = some .directory := by
  have hparse : Path.parse "/x/out.json" = .absolute (["x"] ++ ["out.json"]) := by decide
  let made := bareTree.insert ["x"] .directory
  have h : made.Sound := by decide
  have hfree : made.LinkFree := by decide
  have hdir : made.entry? ["x"] = some .directory := by decide
  have hmade : bareTree.makeDirectories (FileTree.maxLevels - 9) [] (.absolute ([] ++ ["x"])) =
      (made, .ok ()) :=
    FileTree.makeDirectories_of_missing (by decide) (by decide) rfl
      (by decide) (by decide) (by decide) _
  have hnew : made.entry? (["x"] ++ ["out.json"]) = none ∧ Fits ["out.json"] ∧
      (Path.absolute (["x"] ++ ["out.json"])).toString.utf8ByteSize < FileTree.maxPathBytes := by
    decide
  have hplain : (Path.absolute (["x"] ++ ["out.json"])).IsPlain := by decide
  let bytes := Text.Utf8.encode r.toJson.pretty.toList
  let rows : List (Path × List UInt8) := [(.absolute (["x"] ++ ["out.json"]), bytes)]
  obtain ⟨t', hwrite⟩ : ∃ t', made.writeAll [] rows = (t', .ok ()) :=
    FileTree.exists_writeAll [("out.json", bytes)] h hfree rfl hdir
      (List.nodup_singleton _) (List.forall_mem_singleton.2 hnew)
  have hupdated : Updated (places [] rows) ∅ made (made.writeAll [] rows).1 :=
    FileTree.updated_of_writeAll h hfree rfl (List.forall_mem_singleton.2 hplain)
  rw [hwrite] at hupdated
  refine ⟨t', ?_, hupdated.linkFree, hupdated.directory hdir⟩
  rw [FileTree.deliver, reportDelivery, hparse]
  change (match bareTree.makeDirectories _ [] (.absolute ([] ++ ["x"])) with
    | (t, .ok ()) => t.writeAll [] [(.absolute (["x"] ++ ["out.json"]), bytes)]
    | (t, .error e) => (t, .error e)) = _
  rw [hmade]
  exact hwrite

theorem resolve_proj (hfree : t.LinkFree) : t.resolve [] (.parse "/proj") = .ok ["proj"] := by
  have hplace : placeOf [] (.parse "/proj") = ["proj"] := by decide
  rw [FileTree.resolve_eq hfree (by decide), hplace]

theorem run_longConfig : ∃ t' : FileTree, t'.LinkFree ∧ t'.entry? ["x"] = some .directory ∧
    run linkedEnv bareTree longConfigWords =
      ⟨.reported (Run.document (sampleProject.resultOf [])) 0,
        { tree := t', warnings := [.configMissing longConfig] }⟩ := by
  have hfree : bareTree.LinkFree := by decide
  have hopens : Run.Opens linkedEnv bareTree ⟨some longConfig, (some "/proj").map Path.parse⟩
      sampleProject [.configMissing longConfig] :=
    ⟨resolve_proj hfree, load_longConfig_missing hfree _ _ (by decide)⟩
  obtain ⟨t', hdeliver, hfree', hdir⟩ := deliver_longConfig (sampleProject.resultOf [])
  refine ⟨t', hfree', hdir, ?_⟩
  have hwrite : ((some (Path.parse "/x/out.json")).forM fun file =>
      Run.writeReport linkedEnv file (sampleProject.resultOf [])).run
        { tree := bareTree, warnings := [.configMissing longConfig] } =
          (.ok (), { tree := t', warnings := [.configMissing longConfig] }) :=
    Run.run_writeReport hdeliver
  have hdone := Run.run_lint_json (Run.run_lintResult_of_opens hopens lint_bareTree) hwrite
  rw [run, parse_longConfigWords]
  dsimp only
  rw [perform, Run.ofRequest, hdone]
  rfl

/-- The first run makes the directory in which the next one looks for its configuration in vain. -/
theorem second_run_crashes :
    (run linkedEnv bareTree longConfigWords).ending.exitCode = 0 ∧
    (run linkedEnv (run linkedEnv bareTree longConfigWords).session.tree longConfigWords).ending =
      .crashed (.load (.access .nameTooLong)) := by
  obtain ⟨t', hfree, hdir, hfirst⟩ := run_longConfig
  rw [hfirst]
  refine ⟨rfl, ?_⟩
  have hreach : Request.Reaches linkedEnv t' (.lint [] ⟨some longConfig,
      (some "/proj").map Path.parse⟩ "json" (some (.parse "/x/out.json"))) :=
    ⟨by decide, List.forall_mem_nil _⟩
  have hsecond := perform_fails hreach (resolve_proj hfree)
    (load_longConfig_fails hfree _ _ hdir)
  rw [run, parse_longConfigWords]
  exact hsecond.eq_crashed

end LineLint.Command
