import LineLint.Proofs.Deliveries
import LineLint.Proofs.JsonReport
import LineLint.Proofs.Requests

/-!
# What a command writes

The only writing that a command does is one delivery: the report of a lint, or the reports of a
triage. Main statement: `Command.updated_of_perform`, a request changes nothing but the files that
it names and the missing directories on the way to them, however it ends.
-/

namespace LineLint.Command

open FileTree (placeOf waysTo places Updated)

variable {env : Environment} {s s' : Session} {t : FileTree} {file directory : Path}
  {r : LintResult} {summary : TriageSummary} {choice : ProjectChoice} {limit : ℤ}
  {reports output : Option Path} {d : Delivery} {undecoded : Bool}

/-- What a lint delivers to the file of its report. -/
def reportDelivery (file : Path) (r : LintResult) : Delivery where
  levels := FileTree.maxLevels - 9
  directory := file.parent
  files := [(file, Text.Utf8.encode r.toJson.pretty.toList)]

/-- What a triage delivers to the directory of its reports. -/
def triageDelivery (env : Environment) (directory : Path) (summary : TriageSummary) :
    Delivery where
  levels := FileTree.maxLevels - 10
  directory
  files := Report.all.map fun report => (directory.join (.parse report.fileName),
    Text.Utf8.encode (report.render summary env.now.toText).toList)

theorem mem_reportDelivery (file : Path) (r : LintResult) :
    (file, Text.Utf8.encode r.toJson.pretty.toList) ∈ (reportDelivery file r).files :=
  List.mem_singleton_self _

theorem mem_triageDelivery (env : Environment) (directory : Path) (summary : TriageSummary)
    {report : Report} (hreport : report ∈ Report.all) :
    (directory.join (.parse report.fileName),
      Text.Utf8.encode (report.render summary env.now.toText).toList) ∈
        (triageDelivery env directory summary).files :=
  List.mem_map_of_mem hreport

theorem isName_fileName (report : Report) : IsName report.fileName := by
  cases report <;> decide

/-- The file of a report is a name in the directory of the reports. -/
theorem join_fileName (directory : Path) (report : Report) :
    directory.join (.parse report.fileName) =
      ⟨directory.root, directory.parts ++ [report.fileName]⟩ := by
  rw [Path.parse_of_isName (isName_fileName report)]
  rfl

theorem proper_reportDelivery (cwd : Location) (hfile : file.IsPlain) (r : LintResult) :
    (reportDelivery file r).Proper cwd where
  directory := fun name hname => hfile name (List.dropLast_subset _ hname)
  files := by simpa [reportDelivery] using hfile
  places := by simp [reportDelivery]
  parents := by simp [reportDelivery]
  nonempty := by simp [reportDelivery]

theorem placeOf_join_fileName (cwd : Location) (directory : Path) (report : Report) :
    placeOf cwd (directory.join (.parse report.fileName)) =
      placeOf cwd directory ++ [report.fileName] := by
  rw [join_fileName, FileTree.placeOf_concat (isName_fileName report).ne_up]

theorem proper_triageDelivery (env : Environment) (hdirectory : directory.IsPlain)
    (summary : TriageSummary) : (triageDelivery env directory summary).Proper env.cwd where
  directory := hdirectory
  files := by
    intro row hrow
    obtain ⟨report, -, rfl⟩ := List.mem_map.1 hrow
    have hreal : Location.IsReal [report.fileName] := by
      simpa [Location.IsReal] using isName_fileName report
    simp only [join_fileName]
    exact PlainNames.append hdirectory hreal.plainNames
  places := by
    have hnames : (Report.all.map Report.fileName).Nodup := by decide
    have hplaces :
        (triageDelivery env directory summary).files.map (fun row => placeOf env.cwd row.1) =
          (Report.all.map Report.fileName).map fun name => placeOf env.cwd directory ++ [name] := by
      simp [triageDelivery, placeOf_join_fileName]
    rw [hplaces]
    exact hnames.map fun first second heq => by simpa using heq
  parents := by
    intro row hrow
    obtain ⟨report, -, rfl⟩ := List.mem_map.1 hrow
    simp [join_fileName, Path.parent, triageDelivery]
  nonempty := by simp [triageDelivery, Report.all]

namespace Run

/-! ## Deliveries -/

/-- Carries out a delivery. -/
def deliver (env : Environment) (d : Delivery) : Run Unit := do
  let (tree, done) := (← get).tree.deliver env.cwd d
  modify fun s => { s with tree }
  if let .error e := done then throw (.crashed (.access e))

theorem run_deliver (d : Delivery) : (deliver env d).run s =
    match s.tree.deliver env.cwd d with
    | (tree, .ok ()) => (.ok (), { s with tree })
    | (tree, .error e) => (.error (.crashed (.access e)), { s with tree }) := by
  rw [deliver, run_bind_ok run_get]
  cases s.tree.deliver env.cwd d with
  | mk tree done => cases done <;> rfl

section

variable {α : Type} (place : α → Path) (text : α → String) (items : List α)
  (hencodes : ∀ item ∈ items, s.encodes (text item) = true)

include hencodes

/-- Texts are written one after the other. -/
theorem run_writeTexts :
    (items.forM fun item => writeText env (place item) (text item)).run s =
      match s.tree.writeAll env.cwd
        (items.map fun item => (place item, Text.Utf8.encode (text item).toList)) with
      | (tree, .ok ()) => (.ok (), { s with tree })
      | (tree, .error e) => (.error (.crashed (.access e)), { s with tree }) := by
  induction items generalizing s with
  | nil => rfl
  | cons item rest ih =>
    have hcons : ((item :: rest).forM fun item => writeText env (place item) (text item)) = (do
        writeText env (place item) (text item)
        rest.forM fun item => writeText env (place item) (text item)) := rfl
    rw [List.forall_mem_cons] at hencodes
    rw [hcons, run_bind, run_writeText hencodes.1, List.map_cons, FileTree.writeAll]
    cases s.tree.write env.cwd (place item) (Text.Utf8.encode (text item).toList) with
    | error e => rfl
    | ok tree => exact ih hencodes.2

/-- Making a directory and writing texts into it is a delivery. -/
theorem run_makeDirectories_writeTexts (fewer : ℕ) (directory : Path) : (do
      makeDirectories env fewer directory
      items.forM fun item => writeText env (place item) (text item)).run s =
    (deliver env ⟨FileTree.maxLevels - fewer, directory,
      items.map fun item => (place item, Text.Utf8.encode (text item).toList)⟩).run s := by
  rw [run_bind, run_makeDirectories, run_deliver, FileTree.deliver]
  cases s.tree.makeDirectories (FileTree.maxLevels - fewer) env.cwd directory with
  | mk made made? =>
    cases made? with
    | error e => rfl
    | ok => exact run_writeTexts place text items hencodes

end

theorem writeReport_eq (file : Path) (r : LintResult) :
    writeReport env file r = deliver env (reportDelivery file r) := by
  refine ExceptT.ext (funext fun s => ?_)
  -- the report is the only text
  have hone : ([()].forM fun _ => writeText env file r.toJson.pretty) =
      writeText env file r.toJson.pretty := bind_pure_unit
  rw [writeReport, ← hone]
  exact run_makeDirectories_writeTexts (fun _ => file) (fun _ => r.toJson.pretty) [()]
    (fun _ _ => r.encodes_pretty s) 9 file.parent

/-- The texts of the reports of a triage. -/
def reportTexts (env : Environment) (summary : TriageSummary) : List String :=
  Report.all.map (·.render summary env.now.toText)

theorem run_writeReports_eq (directory : Path)
    (hencodes : (reportTexts env summary).all s.encodes = true) :
    (writeReports env directory summary).run s = (do
      deliver env (triageDelivery env directory summary)
      display (Screen.info s!"{Report.all.length} report(s) written to {directory}")).run s := by
  have hall : ∀ report ∈ Report.all, s.encodes (report.render summary env.now.toText) = true := by
    rwa [reportTexts, List.all_map, List.all_eq_true] at hencodes
  have hdelivered : (do
      makeDirectories env 10 directory
      Report.all.forM fun report => writeText env (directory.join (.parse report.fileName))
        (report.render summary env.now.toText)).run s =
      (deliver env (triageDelivery env directory summary)).run s :=
    run_makeDirectories_writeTexts _ _ Report.all hall 10 directory
  rw [writeReports, ← bind_assoc, run_bind, hdelivered, run_bind]

/-- A report that can be delivered is written. -/
theorem run_writeReport {t' : FileTree}
    (hdeliver : s.tree.deliver env.cwd (reportDelivery file r) = (t', .ok ())) :
    (writeReport env file r).run s = (.ok (), { s with tree := t' }) := by
  rw [writeReport_eq, run_deliver, hdeliver]

/-- Reports that can be delivered are written, which is shown. -/
theorem run_writeReports {t' : FileTree} {lines : List String}
    (hdeliver : s.tree.deliver env.cwd (triageDelivery env directory summary) = (t', .ok ()))
    (hinfo : Screen.info s!"{Report.all.length} report(s) written to {directory}" = .ok lines)
    (hencodes : (reportTexts env summary).all s.encodes = true)
    (hlines : lines.all s.encodes = true) :
    (writeReports env directory summary).run s =
      (.ok (), { s with tree := t', lines := s.lines ++ lines }) := by
  have hdone : (deliver env (triageDelivery env directory summary)).run s =
      (.ok (), { s with tree := t' }) := by
    rw [run_deliver, hdeliver]
  rw [run_writeReports_eq directory hencodes, run_bind_ok hdone]
  exact run_display_ok hinfo hlines

/-! ## Triages -/

/-- What a triage shows of its result. -/
def triageText (r : LintResult) (limit : ℤ) : Run Unit := do
  let s := TriageSummary.ofViolations [] r.violations
  if s.total = 0 then
    display (Screen.success "No violations to triage.")
    throw (.finished 0)
  display (Screen.triage s limit)
  throw (.finished r.exitCode)

theorem triage_eq (choice : ProjectChoice) (limit : ℤ) (reports : Option Path) :
    triage env choice limit reports = (do
      display (.ok Screen.banner)
      let r ← lintResult env [] choice
      if let some directory := reports then
        writeReports env directory (TriageSummary.ofViolations [] r.violations)
      triageText r limit) := by
  simp only [triage, lintResult, bind_assoc]
  rfl

/-- What is left of a triage once there is a result. -/
theorem run_triage {p : Project} {found warnings : List Warning}
    (hopens : Opens env t choice p found) (hlint : p.lint t [] = .ok (r, warnings)) :
    (triage env choice limit reports).run { tree := t, undecoded } = (do
      reports.forM fun directory =>
        writeReports env directory (TriageSummary.ofViolations [] r.violations)
      triageText r limit).run
        { tree := t, lines := Screen.banner, warnings := found ++ warnings, undecoded } := by
  have hshown : (display (.ok Screen.banner)).run { tree := t, undecoded } =
      (.ok (), { tree := t, lines := Screen.banner, undecoded }) := run_banner
  rw [triage_eq, run_bind_ok hshown, run_bind_ok (run_lintResult_of_opens hopens hlint)]
  cases reports <;> rfl

theorem keepsFiles_triageText (r : LintResult) (limit : ℤ) : KeepsFiles (triageText r limit) := by
  simp only [triageText]
  split
  · exact (keepsFiles_display _).seq fun _ => ⟨_, _, rfl⟩
  · exact (keepsFiles_display _).seq (keepsFiles_throw _)

/-! ## What a command leaves alone -/

theorem keepsFiles_readFormat (name : String) : KeepsFiles (readFormat name) := by
  unfold readFormat
  split
  · exact keepsFiles_pure _
  · exact keepsFiles_pure _
  · exact keepsFiles_refuse _

theorem keepsFiles_checkFile (file : Path) (choice : ProjectChoice) (format : String) :
    KeepsFiles (checkFile env file choice format) := by
  rw [checkFile_eq]
  refine (keepsFiles_readFormat _).bind fun format => KeepsFiles.bind ?_ fun r => ?_
  · refine (keepsFiles_look _).bind fun found => ?_
    have hrest : KeepsFiles (do
        let project ← openProject env choice
        let target ← resolve env file
        result fun t => project.check t target) :=
      (keepsFiles_openProject choice).bind fun _ => (keepsFiles_resolve file).bind fun _ =>
        keepsFiles_result _
    cases found with
    | true => exact hrest
    | false => exact (keepsFiles_refuse _).seq hrest
  · cases format with
    | json => exact fun _ => ⟨_, _, rfl⟩
    | text =>
      by_cases hempty : r.violations.isEmpty = true
      · simp only [reduceCtorEq, if_false, hempty, if_true]
        exact (keepsFiles_display _).seq fun _ => ⟨_, _, rfl⟩
      · simp only [reduceCtorEq, if_false, hempty]
        exact (keepsFiles_display _).seq (keepsFiles_throw _)

theorem keepsFiles_rules (choice : ProjectChoice) : KeepsFiles (rules env choice) :=
  (keepsFiles_openProject choice).bind fun _ => keepsFiles_display _

section

variable {α β : Type} {files directories : Set Location}

/-- Where all names are UTF-8, a step adds only to some files and directories of a tree, however it
ends. -/
def Updates (t : FileTree) (files directories : Set Location) (x : Run α) : Prop :=
  ∀ s, s.undecoded = false → Updated files directories t s.tree →
    (x.run s).2.undecoded = false ∧ Updated files directories t (x.run s).2.tree

theorem KeepsFiles.updates {x : Run α} (hx : KeepsFiles x) : Updates t files directories x := by
  intro s hplain hs
  rw [hx.tree, hx.undecoded]
  exact ⟨hplain, hs⟩

theorem Updates.bind {x : Run α} {f : α → Run β} (hx : Updates t files directories x)
    (hf : ∀ a, Updates t files directories (f a)) : Updates t files directories (x >>= f) := by
  intro s hplain hs
  have hfirst := hx s hplain hs
  rw [run_bind]
  cases hrun : x.run s with
  | mk found s' =>
    rw [hrun] at hfirst
    cases found with
    | ok a => exact hf a s' hfirst.1 hfirst.2
    | error e => exact hfirst

end

/-- A delivery adds only to its files and the directories on the way to them. -/
theorem updates_deliver (hcwd : t.entry? env.cwd = some .directory) (hproper : d.Proper env.cwd) :
    Updates t (places env.cwd d.files) (waysTo env.cwd d.directory) (deliver env d) := by
  intro s hplain hs
  have hdelivered := hs.trans
    (FileTree.updated_of_deliver hs.sound hs.linkFree (hs.directory hcwd) hproper)
  rw [run_deliver]
  cases hrun : s.tree.deliver env.cwd d with
  | mk tree done =>
    rw [hrun] at hdelivered
    cases done <;> exact ⟨hplain, hdelivered⟩

/-- The reports of a triage add only to their files and the directories on the way to them. -/
theorem updates_writeReports (hcwd : t.entry? env.cwd = some .directory)
    (hdirectory : directory.IsPlain) :
    Updates t (places env.cwd (triageDelivery env directory summary).files)
      (waysTo env.cwd directory) (writeReports env directory summary) := by
  intro s hplain
  rw [run_writeReports_eq directory (Session.all_encodes hplain _)]
  exact (updates_deliver hcwd (proper_triageDelivery env hdirectory summary)).bind
    (fun _ => (keepsFiles_display _).updates) s hplain

end Run

theorem isReal_root_of_given {p : Project} (h : t.Sound) (hcwd : Location.IsReal env.cwd)
    (hopen : (Run.openProject env choice).run { tree := t } = (.ok p, s))
    (hgiven : ∀ path ∈ choice.paths, path.IsGiven) : Location.IsReal p.root := by
  refine FileTree.isReal_of_resolve h hcwd ?_ (Run.opened hopen).2
  obtain ⟨config, directory⟩ := choice
  cases directory with
  | none => exact hcwd.plainNames
  | some path => exact (hgiven path (by simp [ProjectChoice.paths])).plain

/-! ## What a request names -/

namespace Request

/-- The path that a request writes to, if it writes. -/
def output? : Request → Option Path
  | .lint _ _ _ output => output
  | .triage _ _ reports => reports
  | .checkFile _ _ _ | .rules _ => none

/-- Where a request writes files. -/
def outputFiles (cwd : Location) : Request → Set Location
  | .lint _ _ _ (some file) => {placeOf cwd file}
  | .triage _ _ (some directory) => {location | ∃ report ∈ Report.all,
      location = placeOf cwd (directory.join (.parse report.fileName))}
  | _ => ∅

/-- Where a request makes directories. -/
def outputWays (cwd : Location) : Request → Set Location
  | .lint _ _ _ (some file) => waysTo cwd file.parent
  | .triage _ _ (some directory) => waysTo cwd directory
  | _ => ∅

/-- What a request delivers of the result of its run, if it is to write. -/
def delivery? (env : Environment) (r : LintResult) : Request → Option Delivery
  | .lint _ _ _ (some file) => some (reportDelivery file r)
  | .triage _ _ (some directory) =>
    some (triageDelivery env directory (TriageSummary.ofViolations [] r.violations))
  | _ => none

end Request

theorem places_reportDelivery (cwd : Location) (file : Path) (r : LintResult) :
    places cwd (reportDelivery file r).files = {placeOf cwd file} := by
  ext location
  simp [places, reportDelivery]

theorem places_triageDelivery (env : Environment) (directory : Path) (summary : TriageSummary) :
    places env.cwd (triageDelivery env directory summary).files =
      {location | ∃ report ∈ Report.all,
        location = placeOf env.cwd (directory.join (.parse report.fileName))} := by
  ext location
  simp [places, triageDelivery]

theorem keepsFiles_ofRequest {request : Request} (hnone : request.output? = none) :
    Run.KeepsFiles (Run.ofRequest env request) := by
  cases request with
  | lint targets choice format output =>
    cases hnone
    rw [Run.ofRequest, Run.lint_eq]
    refine (Run.keepsFiles_readFormat _).bind fun format =>
      (Run.keepsFiles_lintResult _ _).bind fun r => ?_
    cases format with
    | json => exact fun _ => ⟨_, _, rfl⟩
    | text => exact Run.keepsFiles_lintText r none
  | checkFile file choice format => exact Run.keepsFiles_checkFile file choice format
  | triage choice limit reports =>
    cases hnone
    rw [Run.ofRequest, Run.triage_eq]
    exact (Run.keepsFiles_display _).bind fun _ => (Run.keepsFiles_lintResult _ _).bind fun r =>
      Run.keepsFiles_triageText r limit
  | rules choice => exact Run.keepsFiles_rules choice

theorem updates_ofRequest {request : Request} (hcwd : t.entry? env.cwd = some .directory)
    (hgiven : request.IsGiven) : Run.Updates t (request.outputFiles env.cwd)
      (request.outputWays env.cwd) (Run.ofRequest env request) := by
  cases hout : request.output? with
  | none => exact (keepsFiles_ofRequest hout).updates
  | some path =>
    cases request with
    | lint targets choice format output =>
      cases hout
      have hfile : path.IsPlain := (hgiven path (by simp [Request.paths])).plain
      rw [Run.ofRequest, Run.lint_eq]
      refine (Run.keepsFiles_readFormat _).updates.bind fun format =>
        (Run.keepsFiles_lintResult _ _).updates.bind fun r => Run.Updates.bind ?_ fun _ => ?_
      · rw [Run.writeReport_eq, Request.outputFiles, ← places_reportDelivery env.cwd path r]
        exact Run.updates_deliver hcwd (proper_reportDelivery env.cwd hfile r)
      · refine Run.KeepsFiles.updates ?_
        cases format with
        | json => exact fun _ => ⟨_, _, rfl⟩
        | text => exact Run.keepsFiles_lintText r (some path)
    | triage choice limit reports =>
      cases hout
      have hdirectory : path.IsPlain := (hgiven path (by simp [Request.paths])).plain
      rw [Run.ofRequest, Run.triage_eq]
      refine (Run.keepsFiles_display _).updates.bind fun _ =>
        (Run.keepsFiles_lintResult _ _).updates.bind fun r => Run.Updates.bind ?_ fun _ =>
          (Run.keepsFiles_triageText r limit).updates
      rw [Request.outputFiles, ← places_triageDelivery env path
        (TriageSummary.ofViolations [] r.violations)]
      exact Run.updates_writeReports hcwd hdirectory
    | checkFile file choice format => cases hout
    | rules choice => cases hout

/-- A request changes only the files that it names and the missing directories on the way to them,
however it ends. -/
theorem updated_of_perform {request : Request} (h : t.Sound) (hfree : t.LinkFree)
    (hcwd : t.entry? env.cwd = some .directory) (hgiven : request.IsGiven) :
    Updated (request.outputFiles env.cwd) (request.outputWays env.cwd) t
      (perform env t request).session.tree := by
  rw [session_perform]
  exact (updates_ofRequest hcwd hgiven { tree := t } rfl (.refl h hfree)).2

/-- A request that names no output changes nothing. -/
theorem tree_of_perform {request : Request} (hnone : request.output? = none) :
    (perform env t request).session.tree = t := by
  rw [session_perform]
  exact (keepsFiles_ofRequest hnone).tree { tree := t }

/-! ## Reports in the topmost directory -/

section

variable (h : t.Sound) (hfree : t.LinkFree)

include h hfree

theorem exists_deliver_report (hnew : t.entry? ["out.json"] = none) (r : LintResult) :
    ∃ t', t.deliver linkedEnv.cwd (reportDelivery (.parse "/out.json") r) = (t', .ok ()) := by
  have hparse : Path.parse "/out.json" = .absolute ([] ++ ["out.json"]) := by decide
  have hfits : FileTree.Fits ["out.json"] ∧
      (Path.absolute ([] ++ ["out.json"])).toString.utf8ByteSize < FileTree.maxPathBytes := by
    decide
  refine FileTree.exists_deliver [] [("out.json", _)] h hfree rfl rfl
    (by decide) (by rw [hparse]; rfl) (by rw [hparse]; rfl) (by simp) ?_
  rw [List.forall_mem_singleton]
  exact ⟨hnew, hfits⟩

theorem exists_deliver_triage (hnew : ∀ report ∈ Report.all, t.entry? [report.fileName] = none)
    (summary : TriageSummary) : ∃ t', t.deliver linkedEnv.cwd
      (triageDelivery linkedEnv (.parse "/") summary) = (t', .ok ()) := by
  have hfits : ∀ report ∈ Report.all, FileTree.Fits [report.fileName] ∧
      (Path.absolute ([] ++ [report.fileName])).toString.utf8ByteSize <
        FileTree.maxPathBytes := by decide
  have hparse : Path.parse "/" = .absolute [] := by decide
  have hnames : (Report.all.map Report.fileName).Nodup := by decide
  refine FileTree.exists_deliver [] (Report.all.map fun report =>
    (report.fileName, Text.Utf8.encode (report.render summary linkedEnv.now.toText).toList))
    h hfree rfl rfl (by decide) hparse ?_ (by rwa [List.map_map]) ?_
  · rw [List.map_map]
    refine List.map_congr_left fun report _ => ?_
    rw [join_fileName, hparse]
    rfl
  · refine List.forall_mem_map.2 fun report hreport => ?_
    exact ⟨hnew report hreport, hfits report hreport⟩

end

end LineLint.Command
