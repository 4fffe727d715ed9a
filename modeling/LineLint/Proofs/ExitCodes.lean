import LineLint.Proofs.Brackets
import LineLint.Proofs.ConfigSearch
import LineLint.Proofs.Encoding
import LineLint.Proofs.Unseen

/-!
# Exit codes

A run finds nothing but warnings, so only settings that ask for it make a run fail. Lint and triage
tell this by one code, be it in text or in JSON, with reports or without, unless they come to a text
that is no UTF-8. Main statement: `Command.exit_codes_agree`.
-/

namespace LineLint

/-- No name has an opening bracket. -/
def NoBrackets (names : List String) : Prop := ∀ name ∈ names, '[' ∉ name.toList

instance (names : List String) : Decidable (NoBrackets names) :=
  inferInstanceAs (Decidable (∀ name ∈ names, '[' ∉ name.toList))

theorem NoBrackets.mono {names more : List String} (h : NoBrackets more) (hsub : names ⊆ more) :
    NoBrackets names :=
  fun name hname => h name (hsub hname)

theorem NoBrackets.append {names more : List String} (hnames : NoBrackets names)
    (hmore : NoBrackets more) : NoBrackets (names ++ more) := by
  intro name hname
  rcases List.mem_append.1 hname with hname | hname
  · exact hnames name hname
  · exact hmore name hname

theorem NoBrackets.intercalate {names : List String} (h : NoBrackets names) :
    '[' ∉ ("/".intercalate names).toList := by
  induction names with
  | nil => exact List.not_mem_nil
  | cons name rest ih =>
    have hrest := ih (h.mono (List.subset_cons_self _ _))
    have hname := h name List.mem_cons_self
    cases rest with
    | nil => simpa using hname
    | cons next rest =>
      rw [String.intercalate_cons_cons, String.toList_append, String.toList_append]
      exact List.not_mem_append (List.not_mem_append hname (by decide)) hrest

/-- A path without brackets is written without brackets. -/
theorem Path.no_bracket_toString {p : Path} (h : NoBrackets p.parts) : '[' ∉ p.toString.toList := by
  have hbody := h.intercalate
  rw [toString]
  cases p.root with
  | relative =>
    dsimp only
    split
    · decide
    · exact hbody
  | slash =>
    rw [String.toList_append]
    exact List.not_mem_append (by decide) hbody
  | doubleSlash =>
    rw [String.toList_append]
    exact List.not_mem_append (by decide) hbody

/-! ## Severities -/

/-- All rules warn. -/
theorem Settings.severity_of_mem_allRules {s : Settings} {r : Rule} (hr : r ∈ s.allRules) :
    r.severity = .warning := by
  simp only [allRules, catalogue, List.map_cons, List.map_nil, List.mem_cons, List.not_mem_nil,
    or_false] at hr
  rcases hr with rfl | rfl | rfl <;> rfl

theorem Settings.severity_of_mem_lintText {s : Settings} {file content : String} {v : Violation}
    (hv : v ∈ s.lintText file content) : v.severity = .warning := by
  obtain ⟨r, hr, _, -, htold⟩ := exists_row_of_mem_lintText hv
  rw [htold]
  exact severity_of_mem_allRules hr

/-- Warnings alone make a run fail if the settings say so. -/
theorem LintResult.exitCode_of_warnings {r : LintResult}
    (h : ∀ v ∈ r.violations, v.severity = .warning) :
    r.exitCode = if r.failOn = .warning ∧ r.violations ≠ [] then 1 else 0 := by
  have hrank : ∀ v ∈ r.violations, v.severity.rank = Severity.warning.rank :=
    fun v hv => congrArg _ (h v hv)
  rw [exitCode]
  cases r.failOn with
  | warning =>
    have hany : (r.violations.any (Severity.warning.rank ≤ ·.severity.rank)) = true ↔
        r.violations ≠ [] := by
      rw [List.any_eq_true]
      constructor
      · rintro ⟨v, hv, -⟩
        exact List.ne_nil_of_mem hv
      · intro hne
        obtain ⟨v, hv⟩ := List.exists_mem_of_ne_nil _ hne
        exact ⟨v, hv, by simp [hrank v hv]⟩
    simp only [FailOn.threshold?, hany, true_and]
  | error =>
    have hany : (r.violations.any (Severity.error.rank ≤ ·.severity.rank)) = false := by
      rw [List.any_eq_false]
      intro v hv
      rw [hrank v hv]
      decide
    simp only [FailOn.threshold?, hany]
    rfl
  | never => rfl

namespace Project

variable {p : Project} {t : FileTree} {r : LintResult} {warnings : List Warning}

theorem severity_of_mem_violations {targets : List Path} {run : LintResult × List Warning}
    (hrun : p.lint t targets = .ok run) : ∀ v ∈ run.1.violations, v.severity = .warning := by
  intro v hv
  obtain ⟨_, _, _, _, -, -, -, -, hv⟩ := exists_of_mem_violations hrun hv
  exact Settings.severity_of_mem_lintText hv

/-- The code of a run over a whole project. -/
theorem exitCode_of_lint (hlint : p.lint t [] = .ok (r, warnings)) :
    r.exitCode = if p.settings.failOn = .warning ∧ r.violations ≠ [] then 1 else 0 := by
  have hfail : r.failOn = p.settings.failOn := by
    obtain ⟨_, _, -, -, hrun⟩ := lint_eq_ok_iff.1 hlint
    cases hrun
    rfl
  rw [LintResult.exitCode_of_warnings (severity_of_mem_violations hlint), hfail]

/-- Where no name has a bracket, no file is told of under one. -/
theorem no_bracket_of_lint (h : t.Sound) (hreal : Location.IsReal p.root)
    (hnames : ∀ row ∈ t.toList, NoBrackets row.1) (hroot : NoBrackets p.root)
    (hlint : p.lint t [] = .ok (r, warnings)) : ∀ v ∈ r.violations, '[' ∉ v.file.toList := by
  intro v hv
  obtain ⟨files, path, bytes, id, hfiles, hpath, hread, hid, hv⟩ :=
    exists_of_mem_violations hlint hv
  cases hfiles
  have hplain := FileTree.isPlain_of_mem_filesBelow h (isPlain_rootPath hreal) hpath
  obtain ⟨here, names, entry, -, hrow, rfl, -⟩ := FileTree.mem_filesBelow.1 hpath
  obtain ⟨location, hlocate⟩ := FileTree.read_eq_ok_iff.1 hread
  have hentry := FileTree.entry?_of_locate hlocate
  have hlocation : NoBrackets location := by
    refine hnames _ (FileTree.mem_of_entry?_eq ?_ hentry)
    rintro rfl
    cases hentry
  rw [fileId_of_locate h hplain hlocate] at hid
  cases hid
  rw [Settings.file_of_mem_lintText hv]
  refine Path.no_bracket_toString ?_
  rw [Path.relativeTo?]
  split
  · exact hlocation.mono (List.drop_subset _ _)
  · exact hroot.append ((hnames _ hrow).mono (List.subset_append_right _ _))

end Project

namespace Command

variable {env : Environment} {t : FileTree} {choice : ProjectChoice} {p : Project} {s : Session}
  {r : LintResult} {warnings : List Warning} {words : List String} {output reports : Option Path}
  {limit : ℤ} {format : String} {undecoded : Bool}

/-- The request asks for a run over the whole project, told of in a format that is known. -/
def Request.IsWhole (choice : ProjectChoice) : Request → Prop
  | .lint targets chosen format _ => targets = [] ∧ chosen = choice ∧ format ∈ ["text", "json"]
  | .triage chosen _ _ => chosen = choice
  | .checkFile _ _ _ | .rules _ => False

instance (choice : ProjectChoice) (request : Request) : Decidable (request.IsWhole choice) := by
  cases request <;> unfold Request.IsWhole <;> infer_instance

/-- A path without brackets can be told of. -/
theorem exists_info {before : String} {file : Path} (hbefore : '[' ∉ before.toList)
    (h : NoBrackets file.parts) : ∃ lines, Screen.info (before ++ toString file) = .ok lines := by
  refine Screen.info_of_no_bracket ?_
  rw [String.toList_append]
  exact List.not_mem_append hbefore (Path.no_bracket_toString h)

/-- Lines, if they can be shown. -/
def linesOf (shown : Except Markup.MarkupError (List String)) : List String :=
  shown.toOption.getD []

theorem linesOf_ok {shown : Except Markup.MarkupError (List String)} {lines : List String}
    (h : shown = .ok lines) : linesOf shown = lines := by
  rw [h]
  rfl

/-- The texts of a request over a whole project that have to be UTF-8: what it shows of its result
and the reports that it writes. JSON escapes the names of files, so it is always UTF-8. -/
def Request.texts (env : Environment) (r : LintResult) : Request → List String
  | .lint _ _ format output =>
    if format = "json" then [] else linesOf (Screen.violations r) ++ linesOf (closing r output)
  | .triage _ limit reports => (reports.toList.flatMap fun directory =>
      Run.reportTexts env (TriageSummary.ofViolations [] r.violations) ++
        linesOf (Screen.info s!"{Report.all.length} report(s) written to {directory}")) ++
      linesOf (Run.triageShown r limit)
  | .checkFile _ _ _ | .rules _ => []

/-- A request ends with a code if it can write all its texts, and otherwise for want of that. -/
def Request.EndsWith (env : Environment) (r : LintResult) (code : ℕ) (request : Request)
    (undecoded : Bool) (ending : Ending) : Prop :=
  if undecoded = true ∧ ∃ text ∈ request.texts env r, Text.isEncodable text = false then
    ending = .crashed .encoding
  else ending ∈ [.finished code, .reported (Run.document r) code]

/-- Where all names are UTF-8, a request ends with a code. -/
theorem Request.endsWith_decoded_iff {request : Request} {code : ℕ} {ending : Ending} :
    request.EndsWith env r code false ending ↔
      ending ∈ [.finished code, .reported (Run.document r) code] := by
  simp [EndsWith]

theorem Request.EndsWith.ne_crashed {request : Request} {code : ℕ} {ending : Ending}
    (h : request.EndsWith env r code false ending) (crash : Crash) : ending ≠ .crashed crash := by
  rintro rfl
  simpa using endsWith_decoded_iff.1 h

/-- How a request ends that can write all its texts, and how it ends if it cannot. -/
theorem Request.endsWith_of {request : Request} {ending : Ending} {code : ℕ} (t : FileTree)
    (hwritten : (request.texts env r).all ({ tree := t, undecoded } : Session).encodes = true →
      ending ∈ [.finished code, .reported (Run.document r) code])
    (hfails : (request.texts env r).all ({ tree := t, undecoded } : Session).encodes = false →
      ending = .crashed .encoding) : request.EndsWith env r code undecoded ending := by
  rw [Session.all_encodes_iff] at hwritten
  rw [← Bool.not_eq_true, Session.all_encodes_iff] at hfails
  rw [EndsWith]
  split
  · rename_i h
    obtain ⟨hundecoded, text, htext, hfails'⟩ := h
    exact hfails fun hall => Bool.false_ne_true (hfails'.symm.trans (hall hundecoded text htext))
  · rename_i h
    refine hwritten fun hundecoded text htext => ?_
    by_contra hfails'
    exact h ⟨hundecoded, text, htext, Bool.eq_false_iff.2 hfails'⟩

section

variable {found : List Warning} (hopens : Run.Opens env t choice p found)
  (hlint : p.lint t [] = .ok (r, warnings)) (hreported : ∀ v ∈ r.violations, v.IsReported)
  (hfiles : ∀ v ∈ r.violations, '[' ∉ v.file.toList)

include hopens hlint hreported hfiles

theorem ending_lint (hwords : Request.parse words = .ok (.lint [] choice format output))
    (hformat : format ∈ ["text", "json"]) (houtput : ∀ file ∈ output, NoBrackets file.parts)
    (hdeliver : ∀ file ∈ output, ∃ t', t.deliver env.cwd (reportDelivery file r) = (t', .ok ())) :
    (Request.lint [] choice format output).EndsWith env r r.exitCode undecoded
      (run env t words undecoded).ending := by
  have hresult : (Run.lintResult env [] choice).run { tree := t, undecoded } =
      (.ok r, { tree := t, warnings := found ++ warnings, undecoded }) :=
    Run.run_lintResult_of_opens hopens hlint
  obtain ⟨t', hwrite⟩ : ∃ t', (output.forM fun file => Run.writeReport env file r).run
      { tree := t, warnings := found ++ warnings, undecoded } =
        (.ok (), { tree := t', warnings := found ++ warnings, undecoded }) := by
    cases output with
    | none => exact ⟨t, rfl⟩
    | some file =>
      obtain ⟨t', hdeliver⟩ := hdeliver file rfl
      exact ⟨t', Run.run_writeReport hdeliver⟩
  simp only [List.mem_cons, List.not_mem_nil, or_false] at hformat
  rcases hformat with rfl | rfl
  · obtain ⟨shown, hshown⟩ := Screen.violations_of_no_bracket hreported hfiles
    obtain ⟨last, hlast⟩ := exists_closing (r := r) fun file hfile =>
      exists_info (by decide) (houtput file hfile)
    have htexts : (Request.lint [] choice "text" output).texts env r = shown ++ last := by
      rw [Request.texts, linesOf_ok hshown, linesOf_ok hlast]
      rfl
    refine Request.endsWith_of t (fun hencodes => ?_) fun hfails => ?_
    · rw [htexts] at hencodes
      rw [run_eq_of_lintText hwords hresult hwrite (Run.run_lintText hshown hlast hencodes)]
      exact List.mem_cons_self
    · rw [htexts] at hfails
      obtain ⟨s', hrun⟩ := Run.fails_lintText (s := { tree := t', warnings := _, undecoded })
        hshown hlast hfails
      rw [run_eq_of_lintText hwords hresult hwrite hrun]
  · have hrun : (Run.ofRequest env (.lint [] choice "json" output)).run { tree := t, undecoded } =
        (.error (.reported (Run.document r) r.exitCode), _) := Run.run_lint_json hresult hwrite
    refine Request.endsWith_of t (fun _ => ?_) nofun
    rw [Command.run, hwords]
    dsimp only
    rw [perform_of_error hrun]
    simp

theorem ending_triage (hwords : Request.parse words = .ok (.triage choice limit reports))
    (houtput : ∀ directory ∈ reports, NoBrackets directory.parts)
    (hdeliver : ∀ directory ∈ reports, ∃ t', t.deliver env.cwd (triageDelivery env directory
      (TriageSummary.ofViolations [] r.violations)) = (t', .ok ())) :
    (Request.triage choice limit reports).EndsWith env r r.exitCode undecoded
      (run env t words undecoded).ending := by
  obtain ⟨shown, hshown⟩ : ∃ lines, Run.triageShown r limit = .ok lines := by
    rw [Run.triageShown]
    split
    · exact Screen.success_of_no_bracket (by decide)
    · exact Screen.triage_of_no_bracket (s := TriageSummary.ofViolations [] r.violations)
        (List.forall_mem_map.2 hreported) (List.forall_mem_map.2 hfiles) limit
  have hperform {ending : Ending} {s' : Session}
      (hrun : (Run.ofRequest env (.triage choice limit reports)).run { tree := t, undecoded } =
        (.error ending, s')) : (run env t words undecoded).ending = ending := by
    rw [Command.run, hwords]
    dsimp only
    rw [perform_of_error hrun]
  cases reports with
  | none =>
    have htexts : (Request.triage choice limit none).texts env r = shown := by
      rw [Request.texts, linesOf_ok hshown]
      rfl
    have hrun : (Run.ofRequest env (.triage choice limit none)).run { tree := t, undecoded } =
        (Run.triageText r limit).run
          { tree := t, lines := Screen.banner, warnings := found ++ warnings, undecoded } := by
      rw [Run.ofRequest, Run.run_triage hopens hlint]
      rfl
    rw [Run.run_triageText hshown] at hrun
    refine Request.endsWith_of t (fun hencodes => ?_) fun hfails => ?_
    · rw [htexts] at hencodes
      rw [hperform (hrun.trans (if_pos hencodes))]
      exact List.mem_cons_self
    · rw [htexts] at hfails
      exact hperform (hrun.trans (if_neg (ne_true_of_eq_false hfails)))
  | some directory =>
    obtain ⟨t', hdeliver⟩ := hdeliver directory rfl
    have hbefore : '[' ∉ s!"{Report.all.length} report(s) written to ".toList := by
      decide
    obtain ⟨info, hinfo⟩ := exists_info hbefore (houtput directory rfl)
    have htexts : (Request.triage choice limit (some directory)).texts env r =
        (Run.reportTexts env (TriageSummary.ofViolations [] r.violations) ++ info) ++ shown := by
      rw [Request.texts, Option.toList_some, List.flatMap_singleton, linesOf_ok hinfo,
        linesOf_ok hshown]
    let start : Session :=
      { tree := t, lines := Screen.banner, warnings := found ++ warnings, undecoded }
    have hrun : (Run.ofRequest env (.triage choice limit (some directory))).run
        { tree := t, undecoded } = (do
          Run.writeReports env directory (TriageSummary.ofViolations [] r.violations)
          Run.triageText r limit).run start := by
      rw [Run.ofRequest, Run.run_triage hopens hlint]
      rfl
    refine Request.endsWith_of t (fun hencodes => ?_) fun hfails => ?_
    · rw [htexts, List.all_append, List.all_append, Bool.and_eq_true, Bool.and_eq_true] at hencodes
      obtain ⟨⟨hreports, hlines⟩, hshows⟩ := hencodes
      have hwritten := Run.run_writeReports (s := start) hdeliver hinfo hreports hlines
      rw [Run.run_bind_ok hwritten, Run.run_triageText hshown] at hrun
      rw [hperform (hrun.trans (if_pos hshows))]
      exact List.mem_cons_self
    · rw [htexts] at hfails
      obtain ⟨s', hfailed⟩ := Run.fails_reports (s := start) hdeliver hinfo hshown hfails
      exact hperform (hrun.trans hfailed)

end

/-- A triage that writes its reports cannot write all its texts if the name of a file that it tells
of is no UTF-8. -/
theorem Request.exists_text_of_undecoded {v : Violation} (hv : v ∈ r.violations)
    (hfile : Text.isEncodable v.file = false) (directory : Path) :
    ∃ text ∈ (Request.triage choice limit (some directory)).texts env r,
      Text.isEncodable text = false := by
  let summary := TriageSummary.ofViolations [] r.violations
  have hitem : Triage.triage [] v ∈ summary.items := List.mem_map_of_mem hv
  have htext : Report.render summary env.now.toText .detailed ∈ Run.reportTexts env summary :=
    List.mem_map_of_mem (by decide)
  refine ⟨_, List.mem_append_left _ (List.mem_flatMap.2 ⟨directory, List.mem_singleton_self _,
    List.mem_append_left _ htext⟩), ?_⟩
  rw [Text.isEncodable, List.all_eq_false] at hfile ⊢
  obtain ⟨c, hc, hundecoded⟩ := hfile
  exact ⟨c, Report.file_subset_render _ hitem hc, hundecoded⟩

/-- Where no name has a bracket, every run over the whole project, be it a lint in either format or
a triage, comes to one code if it can write what it is to write: one if the settings say that
warnings make a run fail and something is found, and zero else. A run that has a text to write that
is no UTF-8 ends for want of that, as every triage does that writes its reports when something is
found in a file whose name is no UTF-8. -/
theorem exit_codes_agree {env : Environment} {t : FileTree} {choice : ProjectChoice} {p : Project}
    {s : Session} (h : t.Sound) (hcwd : Location.IsReal env.cwd)
    (hgiven : ∀ path ∈ choice.paths, path.IsGiven)
    (hopen : (Run.openProject env choice).run { tree := t } = (.ok p, s))
    (hnames : ∀ row ∈ t.toList, NoBrackets row.1) (hroot : NoBrackets p.root) :
    ∃ r warnings code, p.lint t [] = .ok (r, warnings) ∧
      code = (if p.settings.failOn = .warning ∧ r.violations ≠ [] then 1 else 0) ∧
      (∀ {words request undecoded}, Request.parse words = .ok request → request.IsWhole choice →
        (∀ path ∈ request.output?, NoBrackets path.parts) →
        (∀ d ∈ request.delivery? env r, ∃ t', t.deliver env.cwd d = (t', .ok ())) →
        request.EndsWith env r code undecoded (run env t words undecoded).ending) ∧
      ∀ v ∈ r.violations, Text.isEncodable v.file = false → ∀ limit directory,
        ∃ text ∈ (Request.triage choice limit (some directory)).texts env r,
          Text.isEncodable text = false := by
  have hreal := isReal_root_of_given h hcwd hopen hgiven
  obtain ⟨found, hopens, -⟩ := Run.run_openProject_eq_ok_iff.1 hopen
  obtain ⟨r, warnings, hlint⟩ := Project.exists_lint (p := p) h hreal
  have hreported := Project.isReported_of_lint h hreal (List.forall_mem_nil _) hlint
  have hfiles := Project.no_bracket_of_lint h hreal hnames hroot hlint
  refine ⟨r, warnings, r.exitCode, hlint, Project.exitCode_of_lint hlint, ?_, ?_⟩
  · intro words request undecoded hwords hwhole houtput hdeliver
    cases request with
    | lint targets chosen format output =>
      obtain ⟨rfl, rfl, hformat⟩ := hwhole
      refine ending_lint hopens hlint hreported hfiles hwords hformat houtput ?_
      rintro file rfl
      exact hdeliver _ rfl
    | triage chosen limit reports =>
      obtain rfl := hwhole
      refine ending_triage hopens hlint hreported hfiles hwords houtput ?_
      rintro directory rfl
      exact hdeliver _ rfl
    | checkFile file chosen format => exact hwhole.elim
    | rules chosen => exact hwhole.elim
  · intro v hv hfile limit directory
    exact Request.exists_text_of_undecoded hv hfile directory

/-- The words of a triage that also writes its reports. -/
def triageWords : List String := ["triage", "--dir", "/proj", "--output-dir", "/"]

theorem parse_reportWords : Request.parse reportWords =
    .ok (.lint [] ⟨none, (some "/proj").map Path.parse⟩ "json" (some (.parse "/out.json"))) := by
  decide +kernel

theorem parse_triageWords : Request.parse triageWords =
    .ok (.triage ⟨none, (some "/proj").map Path.parse⟩ 5 (some (.parse "/"))) := by
  decide +kernel

/-- A lint in JSON with a report, one as text and a triage with its reports fail alike. -/
theorem exit_codes_tidy : ∃ r, sampleProject.settings.failOn = .warning ∧
    ∀ words ∈ [reportWords, ["lint", "--dir", "/proj"], triageWords],
      (run linkedEnv tidyTree words).ending ∈ [.finished 1, .reported (Run.document r) 1] := by
  have h : tidyTree.Sound := by decide +kernel
  have hfree : tidyTree.LinkFree := by decide +kernel
  have hgiven := Request.given_of_parse parse_reportWords
  obtain ⟨r, warnings, code, hlint, rfl, hends, -⟩ := exit_codes_agree h (by decide)
    (fun path hpath => hgiven path (List.mem_append_right _ (List.mem_append_left _ hpath)))
    open_tidyTree
    (by decide +kernel) (by decide +kernel)
  have hentry : tidyTree.entry? (sampleProject.root ++ ([] ++ ["a.ts"])) =
      some (.file requireBytes) := by decide
  have hfound := Project.mem_violations_of_entry h hentry (by decide) (by decide) (by decide) hlint
    (Settings.requireCall_mem_lintText rfl _)
  rw [if_pos ⟨rfl, List.ne_nil_of_mem hfound⟩] at hends
  refine ⟨r, rfl, ?_⟩
  simp only [List.forall_mem_cons]
  refine ⟨?_, ?_, ?_, List.forall_mem_nil _⟩
  · refine Request.endsWith_decoded_iff.1
      (hends parse_reportWords (by decide) (by decide +kernel) ?_)
    rintro _ ⟨⟩
    exact exists_deliver_report h hfree (by decide +kernel) r
  · have hwords : Request.parse ["lint", "--dir", "/proj"] =
        .ok (.lint [] ⟨none, (some "/proj").map Path.parse⟩ "text" none) := by decide +kernel
    refine Request.endsWith_decoded_iff.1 (hends hwords (by decide) (by decide) ?_)
    rintro _ ⟨⟩
  · refine Request.endsWith_decoded_iff.1
      (hends parse_triageWords (by decide) (by decide +kernel) ?_)
    rintro _ ⟨⟩
    exact exists_deliver_triage h hfree (by decide +kernel) _

/-! ## A file whose name is no UTF-8 -/

/-- A project whose settings let no run fail, with a file in which something is found. The name of
the file starts with a byte that is no UTF-8. -/
def strayTree : FileTree :=
  ⟨[(#["proj"], .directory),
    (#["proj", "goldenlint.yaml"], .file (Text.Utf8.encode "fail_on: never\n".toList)),
    (#["proj", "\uE07F.ts"], .file requireBytes)]⟩

def strayProject : Project := ⟨{ failOn := .never }, ["proj"]⟩

theorem opens_strayTree :
    Run.Opens linkedEnv strayTree ⟨none, (some "/proj").map Path.parse⟩ strayProject [] := by
  have h : strayTree.Sound := by decide +kernel
  have hdir : strayTree.entry? ["proj"] = some .directory := by decide
  have hroot : strayTree.resolve [] (.absolute ["proj"]) = .ok ["proj"] :=
    FileTree.resolve_of_locate h (by decide)
      (FileTree.locate_absolute h hdir (by simp) (by decide) [])
  have hentry : strayTree.entry? ["proj", "goldenlint.yaml"] =
      some (.file (Text.Utf8.encode "fail_on: never\n".toList)) := by decide
  have hlocate := FileTree.locate_absolute h hentry (by simp) (by decide) []
  have hnearest : Settings.IsNearest strayTree ["proj"] [] ["proj", "goldenlint.yaml"]
      ((Settings.candidates ["proj"]).drop 1) := ⟨by decide, ⟨_, _, hlocate⟩, by simp⟩
  have hchosen : Settings.Chosen strayTree [] (.absolute ["proj"]) none
      (.absolute ["proj", "goldenlint.yaml"]) :=
    .nearest hroot (Settings.findConfig_of_isNearest hnearest (by simp))
  have hconfig : (Settings.ofConfig Run.configRoom (.absolute ["proj", "goldenlint.yaml"])
      (Text.Utf8.encode "fail_on: never\n".toList)).toOption = some strayProject.settings := by
    decide +kernel
  have hload : Settings.load Run.configRoom strayTree [] none (.absolute ["proj"]) =
      .ok (strayProject.settings, []) := by
    rw [Settings.load_of_chosen hchosen (FileTree.read_eq_ok_iff.2 ⟨_, hlocate⟩)]
    cases hread : Settings.ofConfig Run.configRoom (.absolute ["proj", "goldenlint.yaml"])
        (Text.Utf8.encode "fail_on: never\n".toList) with
    | error e =>
      rw [hread] at hconfig
      cases hconfig
    | ok settings =>
      rw [hread] at hconfig
      cases hconfig
      rfl
  have hparse : Path.parse "/proj" = .absolute ["proj"] := by decide
  exact ⟨by rw [Option.map_some, hparse]; exact hroot, hload⟩

/-- A lint of the project exits with zero, and a triage that writes its reports ends in a crash,
since the reports name the file. -/
theorem undecoded_name_crashes :
    strayTree.Sound ∧ strayTree.LinkFree ∧ (∀ row ∈ strayTree.toList, NoBrackets row.1) ∧
      Run.Opens linkedEnv strayTree ⟨none, (some "/proj").map Path.parse⟩ strayProject [] ∧
      strayProject.settings.failOn = .never ∧
      (∀ summary, ∃ t', strayTree.deliver linkedEnv.cwd
        (triageDelivery linkedEnv (.parse "/") summary) = (t', .ok ())) ∧
      (run linkedEnv strayTree lintWords true).ending.exitCode = 0 ∧
      (run linkedEnv strayTree triageWords true).ending = .crashed .encoding ∧
      (run linkedEnv strayTree triageWords true).ending.exitCode = 1 := by
  have h : strayTree.Sound := by decide +kernel
  have hfree : strayTree.LinkFree := by decide +kernel
  have hnames : ∀ row ∈ strayTree.toList, NoBrackets row.1 := by decide +kernel
  have hreal : Location.IsReal strayProject.root := by decide
  have hdeliver := exists_deliver_triage h hfree (by decide +kernel)
  obtain ⟨r, warnings, hlint⟩ := Project.exists_lint (p := strayProject) h hreal
  have hcode : r.exitCode = 0 :=
    (Project.exitCode_of_lint hlint).trans (if_neg fun hfail => nomatch hfail.1)
  have hentry : strayTree.entry? (strayProject.root ++ ([] ++ ["\uE07F.ts"])) =
      some (.file requireBytes) := by decide
  have hfound := Project.mem_violations_of_entry h hentry (by decide) (by decide) (by decide) hlint
    (Settings.requireCall_mem_lintText rfl _)
  have hname : Text.isEncodable (Path.mk .relative ([] ++ ["\uE07F.ts"])).toString = false := by
    decide
  have hcrash : (run linkedEnv strayTree triageWords true).ending = .crashed .encoding := by
    have hreported := Project.isReported_of_lint h hreal (List.forall_mem_nil _) hlint
    have hfiles := Project.no_bracket_of_lint h hreal hnames (by decide) hlint
    have hends : (Request.triage ⟨none, (some "/proj").map Path.parse⟩ 5
        (some (.parse "/"))).EndsWith linkedEnv r r.exitCode true
          (run linkedEnv strayTree triageWords true).ending := by
      refine ending_triage opens_strayTree hlint hreported hfiles parse_triageWords
        (by decide +kernel) ?_
      rintro _ ⟨⟩
      exact hdeliver _
    rwa [Request.EndsWith, if_pos] at hends
    exact ⟨rfl, Request.exists_text_of_undecoded hfound hname _⟩
  refine ⟨h, hfree, hnames, opens_strayTree, rfl, hdeliver, ?_, hcrash, ?_⟩
  · rw [run_lint_whole parse_lintWords opens_strayTree hlint]
    exact hcode
  · rw [hcrash]
    rfl

end Command

end LineLint
