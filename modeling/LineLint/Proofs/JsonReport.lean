import LineLint.Proofs.CheckFile
import LineLint.Proofs.Directories
import LineLint.Proofs.JsonReading

/-!
# The report of a run

A report in JSON says all that a run has found. Main statements: `LintResult.isReport_document`, who
reads the report of a result gets its violations back, and `Command.reports_exact`, a command shows
the report of its own result and leaves the same text in the file that it was told to write.
-/

namespace LineLint

/-! ## Reading a report -/

namespace Json

def text? : Json → Option String
  | string s => some s
  | _ => none

def int? : Json → Option ℤ
  | int n => some n
  | _ => none

def items? : Json → Option (List Json)
  | array items => some items
  | _ => none

/-- A value that may be null. -/
def orNull? {α : Type} (read : Json → Option α) : Json → Option (Option α)
  | null => some none
  | v => (read v).map some

end Json

/-- The violation that a record is about. -/
def Violation.ofJson? (record : Json) : Option Violation := do
  let rule ← (← record.field? "rule").text?
  let file ← (← record.field? "file").text?
  let message ← (← record.field? "message").text?
  let severity ← Severity.ofName? (← (← record.field? "severity").text?)
  let line ← (← record.field? "line").orNull? Json.int?
  let suggestion ← (← record.field? "suggestion").orNull? Json.text?
  return ⟨rule, file, message, severity, line, suggestion⟩

/-- All that a report says. -/
structure LintReport where
  filesScanned : ℤ
  violations : List Violation
  total : ℤ
  warnings : ℤ
  errors : ℤ
  deriving DecidableEq, Repr

def LintReport.ofJson? (document : Json) : Option LintReport := do
  let filesScanned ← (← document.field? "files_scanned").int?
  let records ← (← document.field? "violations").items?
  let violations ← records.mapM Violation.ofJson?
  let summary ← document.field? "summary"
  let total ← (← summary.field? "total").int?
  let warnings ← (← summary.field? "warning").int?
  let errors ← (← summary.field? "error").int?
  return ⟨filesScanned, violations, total, warnings, errors⟩

theorem Violation.ofJson?_toJson (v : Violation) : ofJson? v.toJson = some v := by
  obtain ⟨rule, file, message, severity, line, suggestion⟩ := v
  cases severity <;> cases line <;> cases suggestion <;> rfl

namespace LintResult

variable {r : LintResult}

/-- The violations of a severity. -/
def ofSeverity (r : LintResult) (severity : Severity) : List Violation :=
  r.violations.filter (·.severity = severity)

theorem count_eq (severity : Severity) : r.count severity = (r.ofSeverity severity).length := by
  rw [count, ofSeverity, List.countP_eq_length_filter]
  congr 1

/-- Every violation is a warning or an error, and none is both. -/
theorem length_violations :
    r.violations.length = (r.ofSeverity .warning).length + (r.ofSeverity .error).length := by
  rw [ofSeverity, ofSeverity]
  induction r.violations with
  | nil => rfl
  | cons v rest ih =>
    obtain ⟨rule, file, message, severity, line, suggestion⟩ := v
    cases severity <;> simp_all <;> omega

theorem ofJson?_toJson (r : LintResult) : LintReport.ofJson? r.toJson = some
    ⟨r.filesScanned, r.violations, r.violations.length, r.count .warning, r.count .error⟩ := by
  have hread : Violation.ofJson? ∘ Violation.toJson = pure := funext Violation.ofJson?_toJson
  have hviolations : (r.violations.map Violation.toJson).mapM Violation.ofJson? =
      some r.violations := by
    rw [List.mapM_map, hread, List.mapM_pure]
    exact congrArg some (List.map_id _)
  change ((r.violations.map Violation.toJson).mapM Violation.ofJson?).bind (fun violations =>
    some (LintReport.mk r.filesScanned violations r.violations.length (r.count .warning)
      (r.count .error))) = _
  rw [hviolations]
  rfl

/-- A text is the report of a result: a single document in ASCII, from which everything can be read
that the result holds. -/
structure IsReport (r : LintResult) (text : String) : Prop where
  ascii : ∀ c ∈ text.toList, c.toNat < 0x80
  document : Json.parse? text = some r.toJson
  tells : (Json.parse? text).bind LintReport.ofJson? = some ⟨r.filesScanned, r.violations,
    r.violations.length, (r.ofSeverity .warning).length, (r.ofSeverity .error).length⟩
  total : r.violations.length = (r.ofSeverity .warning).length + (r.ofSeverity .error).length

/-- The text of a result is its report, with or without a line end. -/
theorem isReport_pretty (r : LintResult) (blanks : List Char)
    (hblanks : ∀ c ∈ blanks, c ∈ [' ', '\n', '\r', '\t']) :
    r.IsReport (r.toJson.pretty ++ String.ofList blanks) := by
  have htext : r.toJson.pretty ++ String.ofList blanks =
      String.ofList (Json.write (.spread 0) r.toJson ++ blanks) := by
    rw [Json.pretty, String.ofList_append]
  have hparse := Json.parse?_write (.spread 0) r.toJson hblanks
  rw [htext]
  refine ⟨?_, hparse, ?_, length_violations⟩
  · rw [String.toList_ofList]
    refine Json.isAscii_append.2 ⟨Json.isAscii_write _ _, fun c hc => ?_⟩
    have hblank := hblanks c hc
    simp only [List.mem_cons, List.not_mem_nil, or_false] at hblank
    rcases hblank with rfl | rfl | rfl | rfl <;> decide
  · rw [hparse, ← count_eq, ← count_eq]
    exact ofJson?_toJson r

theorem isReport_document (r : LintResult) : r.IsReport (Command.Run.document r) :=
  isReport_pretty r ['\n'] (by simp)

/-- The text of a result can always be written, whatever the names of its files hold. -/
theorem encodes_pretty (r : LintResult) (s : Command.Session) :
    s.encodes r.toJson.pretty = true := by
  refine Command.Session.encodes_iff.2 fun _ => List.all_eq_true.2 fun c hc => ?_
  rw [Json.pretty, String.toList_ofList] at hc
  have hascii := Json.isAscii_write _ _ c hc
  rw [Bool.not_eq_true', Text.isUndecoded, Bool.and_eq_false_iff, decide_eq_false_iff_not]
  omega

end LintResult

namespace Command

variable {env : Environment} {s s' : Session}

namespace Run

variable {α β : Type}

/-! ## A command and its result -/

/-- The steps of a lint up to its result. -/
def lintResult (env : Environment) (targets : List Path) (choice : ProjectChoice) :
    Run LintResult := do
  let targets ← resolveTargets env targets
  let project ← openProject env choice
  result fun t => project.lint t targets

/-- What a lint shows of its result as text. -/
def lintText (r : LintResult) (output : Option Path) : Run Unit := do
  display (.ok Screen.banner)
  if r.violations.isEmpty then
    display (Screen.success s!"{r.filesScanned} file(s) passed all golden rules.")
    throw (.finished 0)
  display (Screen.violations r)
  display (Screen.lintSummary r)
  if let some file := output then display (Screen.info s!"Report written to {file}")
  throw (.finished r.exitCode)

/-- The steps of a check of one file up to its result. -/
def checkResult (env : Environment) (file : Path) (choice : ProjectChoice) : Run LintResult := do
  if !(← look fun t => t.isFile env.cwd file) then refuse s!"No such file: {file}"
  let project ← openProject env choice
  let target ← resolve env file
  result fun t => project.check t target

theorem keepsFiles_lintResult (targets : List Path) (choice : ProjectChoice) :
    KeepsFiles (lintResult env targets choice) :=
  (keepsFiles_resolveTargets targets).bind fun _ =>
    (keepsFiles_openProject choice).bind fun _ => keepsFiles_result _

theorem keepsFiles_lintText (r : LintResult) (output : Option Path) :
    KeepsFiles (lintText r output) := by
  simp only [lintText]
  refine (keepsFiles_display _).seq ?_
  split
  · exact (keepsFiles_display _).seq fun _ => ⟨_, _, rfl⟩
  · refine (keepsFiles_display _).seq ((keepsFiles_display _).seq ?_)
    cases output with
    | none => exact keepsFiles_throw _
    | some file => exact (keepsFiles_display _).seq (keepsFiles_throw _)

theorem lint_eq (targets : List Path) (choice : ProjectChoice) (format : String)
    (output : Option Path) : lint env targets choice format output = (do
      let format ← readFormat format
      let r ← lintResult env targets choice
      if let some file := output then writeReport env file r
      if format = .json then throw (.reported (document r) r.exitCode)
      lintText r output) := by
  simp only [lint, lintResult, bind_assoc]
  rfl

theorem checkFile_eq (file : Path) (choice : ProjectChoice) (format : String) :
    checkFile env file choice format = (do
      let format ← readFormat format
      let r ← checkResult env file choice
      if format = .json then throw (.reported (document r) r.exitCode)
      if r.violations.isEmpty then
        display (Screen.success s!"{file} passed all golden rules.")
        throw (.finished 0)
      display (Screen.violations r)
      throw (.finished r.exitCode)) := by
  simp only [checkFile, checkResult, bind_assoc]
  refine bind_congr fun format => bind_congr fun found => ?_
  cases found <;> simp only [Bool.not_false, Bool.not_true, Bool.false_eq_true, if_true, if_false,
    bind_assoc]

/-! ## The file of a report -/

variable {t : FileTree} {targets : List Path} {choice : ProjectChoice} {file : Path}
  {r : LintResult} {start : Session}

theorem run_makeDirectories (fewer : ℕ) (directory : Path) :
    (makeDirectories env fewer directory).run s =
      match s.tree.makeDirectories (FileTree.maxLevels - fewer) env.cwd directory with
      | (tree, .ok ()) => (.ok (), { s with tree })
      | (tree, .error e) => (.error (.crashed (.access e)), { s with tree }) := by
  rw [makeDirectories, run_bind_ok run_get]
  cases s.tree.makeDirectories (FileTree.maxLevels - fewer) env.cwd directory with
  | mk tree made => cases made <;> rfl

theorem run_writeText {text : String} (hencodes : s.encodes text = true) :
    (writeText env file text).run s =
      match s.tree.write env.cwd file (Text.Utf8.encode text.toList) with
      | .ok tree => (.ok (), { s with tree })
      | .error e => (.error (.crashed (.access e)), s) := by
  rw [writeText, run_bind_ok run_get]
  dsimp only
  rw [hencodes, if_pos rfl]
  cases hwrite : s.tree.write env.cwd file (Text.Utf8.encode text.toList) with
  | ok tree =>
    rw [run_bind_ok (run_look hwrite)]
    rfl
  | error e => rw [run_bind_error (run_look_error hwrite)]

/-- The file of a text that cannot be written is left empty. -/
theorem run_writeText_unencoded {text : String} (hencodes : s.encodes text = false) :
    (writeText env file text).run s =
      match s.tree.write env.cwd file [] with
      | .ok tree => (.error (.crashed .encoding), { s with tree })
      | .error e => (.error (.crashed (.access e)), s) := by
  rw [writeText, run_bind_ok run_get]
  dsimp only
  rw [hencodes, if_neg Bool.false_ne_true]
  cases hwrite : s.tree.write env.cwd file [] with
  | ok tree =>
    rw [run_bind_ok (run_look hwrite)]
    rfl
  | error e => rw [run_bind_error (run_look_error hwrite)]

/-- A report is written once the directories over its file have been made. -/
theorem run_writeReport_eq_ok_iff : (writeReport env file r).run s = (.ok (), s') ↔ ∃ made tree,
    s.tree.makeDirectories (FileTree.maxLevels - 9) env.cwd file.parent = (made, .ok ()) ∧
      made.write env.cwd file (Text.Utf8.encode r.toJson.pretty.toList) = .ok tree ∧
      s' = { s with tree } := by
  rw [writeReport, run_bind, run_makeDirectories]
  cases s.tree.makeDirectories (FileTree.maxLevels - 9) env.cwd file.parent with
  | mk made made? =>
    cases made? with
    | error e =>
      refine ⟨nofun, ?_⟩
      rintro ⟨_, _, hmade, -⟩
      cases hmade
    | ok =>
      simp only [run_writeText (r.encodes_pretty _)]
      cases hwrite : made.write env.cwd file (Text.Utf8.encode r.toJson.pretty.toList) with
      | error e =>
        refine ⟨nofun, ?_⟩
        rintro ⟨_, _, hmade, hwritten, -⟩
        cases hmade
        rw [hwrite] at hwritten
        cases hwritten
      | ok tree =>
        refine ⟨fun hrun => ?_, ?_⟩
        · cases hrun
          exact ⟨made, tree, rfl, hwrite, rfl⟩
        · rintro ⟨_, _, hmade, hwritten, rfl⟩
          cases hmade
          cases hwrite.symm.trans hwritten
          rfl

/-- The file of a report holds its text. -/
theorem read_of_writeReport (h : s.tree.Sound) (hcwd : s.tree.entry? env.cwd = some .directory)
    (hfile : file.IsPlain) (hwrite : (writeReport env file r).run s = (.ok (), s')) :
    s'.tree.read env.cwd file = .ok (Text.Utf8.encode r.toJson.pretty.toList) := by
  obtain ⟨made, tree, hmade, hwritten, rfl⟩ := run_writeReport_eq_ok_iff.1 hwrite
  have hparent : file.parent.IsPlain := fun name hname => hfile name (List.dropLast_subset _ hname)
  have hgrows := FileTree.grows_of_makeDirectories h hcwd hparent (FileTree.maxLevels - 9)
  rw [hmade] at hgrows
  obtain ⟨-, location, hlocate⟩ :=
    FileTree.locate_of_write hgrows.sound (hgrows.keeps _ _ hcwd) hfile hwritten
  exact FileTree.read_eq_ok_iff.2 ⟨location, hlocate⟩

/-! ## Whole commands -/

/-- The result of a lint of the whole project. -/
theorem run_lintResult_nil {p : Project} {warnings : List Warning}
    (hopen : (openProject env choice).run s = (.ok p, s'))
    (hlint : p.lint s.tree [] = .ok (r, warnings)) : (lintResult env [] choice).run s =
      (.ok r, { s' with warnings := s'.warnings ++ warnings }) := by
  rw [← (opened hopen).1] at hlint
  rw [lintResult, run_bind_ok run_resolveTargets_nil, run_bind_ok hopen, run_result_ok hlint]

/-- The result of a lint of a whole project that can be opened. -/
theorem run_lintResult_of_opens {p : Project} {found warnings : List Warning} {lines : List String}
    {undecoded : Bool} (hopens : Opens env t choice p found)
    (hlint : p.lint t [] = .ok (r, warnings)) :
    (lintResult env [] choice).run { tree := t, lines, undecoded } =
      (.ok r, { tree := t, lines, warnings := found ++ warnings, undecoded }) := by
  have hopen : (openProject env choice).run { tree := t, lines, undecoded } =
      (.ok p, { tree := t, lines, warnings := found, undecoded }) :=
    run_openProject_eq_ok_iff.2 ⟨found, hopens, rfl⟩
  exact run_lintResult_nil hopen hlint

/-- What is left of a lint once the report on its result is written. -/
theorem run_lint_eq {output : Option Path} {name : String} {format : Format}
    (hread : (readFormat name).run start = (.ok format, start))
    (hresult : (lintResult env targets choice).run start = (.ok r, s))
    (hwrite : (output.forM fun file => writeReport env file r).run s = (.ok (), s')) :
    (lint env targets choice name output).run start = (do
      if format = .json then throw (.reported (document r) r.exitCode)
      lintText r output : Run Unit).run s' := by
  rw [lint_eq, run_bind_ok hread, run_bind_ok hresult]
  cases output with
  | none =>
    cases hwrite
    rfl
  | some file =>
    have hfile : (writeReport env file r).run s = (.ok (), s') := hwrite
    simp only
    rw [run_bind_ok hfile]

theorem run_lint_json {output : Option Path}
    (hresult : (lintResult env targets choice).run start = (.ok r, s))
    (hwrite : (output.forM fun file => writeReport env file r).run s = (.ok (), s')) :
    (lint env targets choice "json" output).run start =
      (.error (.reported (document r) r.exitCode), s') := by
  rw [run_lint_eq run_readFormat_json hresult hwrite]
  rfl

theorem run_checkFile_json
    (hresult : (checkResult env file choice).run { tree := t } = (.ok r, s)) :
    (checkFile env file choice "json").run { tree := t } =
      (.error (.reported (document r) r.exitCode), s) := by
  rw [checkFile_eq, run_bind_ok run_readFormat_json, run_bind_ok hresult]
  rfl

theorem tree_of_lint {format : String} (hformat : format ∈ ["text", "json"])
    (hresult : (lintResult env targets choice).run { tree := t } = (.ok r, s))
    (hwrite : (writeReport env file r).run s = (.ok (), s')) :
    ((lint env targets choice format (some file)).run { tree := t }).2.tree = s'.tree := by
  obtain ⟨format, hread⟩ := run_readFormat (s := { tree := t }) hformat
  have hwrite : ((some file).forM fun file => writeReport env file r).run s = (.ok (), s') := hwrite
  rw [run_lint_eq hread hresult hwrite]
  cases format with
  | json => rfl
  | text => exact (keepsFiles_lintText r (some file)).tree s'

end Run

theorem perform_of_error {t : FileTree} {request : Request} {ending : Ending} {undecoded : Bool}
    (h : (Run.ofRequest env request).run { tree := t, undecoded } = (.error ending, s)) :
    perform env t request undecoded = ⟨ending, s⟩ := by
  rw [perform, h]

theorem session_perform (t : FileTree) (request : Request) :
    (perform env t request).session = ((Run.ofRequest env request).run { tree := t }).2 := by
  rw [perform]
  cases (Run.ofRequest env request).run { tree := t } with
  | mk ending s => cases ending <;> rfl

/-- A command shows the report of its result and nothing else. A file that it writes holds the same
text without the line end, whatever the command shows. -/
theorem reports_exact {env : Environment} {t : FileTree} :
    (∀ r : LintResult, r.IsReport (Run.document r)) ∧
    (∀ {words targets choice output r s s'},
      Request.parse words = .ok (.lint targets choice "json" output) →
      (Run.lintResult env targets choice).run { tree := t } = (.ok r, s) →
      (output.forM fun file => Run.writeReport env file r).run s = (.ok (), s') →
      (run env t words).ending = .reported (Run.document r) r.exitCode) ∧
    (∀ {words file choice r s},
      Request.parse words = .ok (.checkFile file choice "json") →
      (Run.checkResult env file choice).run { tree := t } = (.ok r, s) →
      (run env t words).ending = .reported (Run.document r) r.exitCode) ∧
    (∀ {words targets choice format word r s s'}, t.Sound → t.entry? env.cwd = some .directory →
      Request.parse words = .ok (.lint targets choice format (some (.parse word))) →
      format ∈ ["text", "json"] →
      (Run.lintResult env targets choice).run { tree := t } = (.ok r, s) →
      (Run.writeReport env (.parse word) r).run s = (.ok (), s') →
      ∃ bytes text, (run env t words).session.tree.read env.cwd (.parse word) = .ok bytes ∧
        Text.Utf8.decode? bytes = some text ∧
        Run.document r = String.ofList text ++ "\n") := by
  refine ⟨LintResult.isReport_document, ?_, ?_, ?_⟩
  · intro words targets choice output r s s' hwords hresult hwrite
    have hrun : (Run.ofRequest env (.lint targets choice "json" output)).run { tree := t } =
        (.error (.reported (Run.document r) r.exitCode), s') := Run.run_lint_json hresult hwrite
    simp only [Command.run, hwords, perform_of_error hrun]
  · intro words file choice r s hwords hresult
    have hrun : (Run.ofRequest env (.checkFile file choice "json")).run { tree := t } =
        (.error (.reported (Run.document r) r.exitCode), s) := Run.run_checkFile_json hresult
    simp only [Command.run, hwords, perform_of_error hrun]
  · intro words targets choice format word r s s' h hcwd hwords hformat hresult hwrite
    have htree : s.tree = t := by
      have hkeeps : ((Run.lintResult env targets choice).run { tree := t }).2.tree = t :=
        (Run.keepsFiles_lintResult targets choice).tree { tree := t }
      rwa [hresult] at hkeeps
    have hread := Run.read_of_writeReport (by rwa [htree]) (by rwa [htree])
      (Path.isPlain_parse word) hwrite
    refine ⟨_, r.toJson.pretty.toList, ?_, Text.Utf8.decode?_encode _, ?_⟩
    · simp only [Command.run, hwords]
      rw [session_perform, Run.ofRequest, Run.tree_of_lint hformat hresult hwrite]
      exact hread
    · rw [String.ofList_toList]
      rfl

/-- The words of a run over the project that also writes a report. -/
def reportWords : List String :=
  ["lint", "--dir", "/proj", "--format", "json", "--output", "/out.json"]

theorem checkResult_inside : ∃ r s, (Run.checkResult linkedEnv (.parse "/proj/a.ts")
    ⟨none, (some "/proj").map Path.parse⟩).run { tree := linkedTree } = (.ok r, s) := by
  have hsound : linkedTree.Sound := by decide
  have hparse : Path.parse "/proj/a.ts" = .absolute ["proj", "a.ts"] := by decide
  have hlocate : linkedTree.locate linkedEnv.cwd (.parse "/proj/a.ts") =
      .ok ⟨["proj", "b.ts"], some (.file requireBytes)⟩ := by
    rw [hparse]
    exact locate_inside
  have hfile : linkedTree.isFile linkedEnv.cwd (.parse "/proj/a.ts") = .ok true :=
    FileTree.isFile_eq_true_iff.2 ⟨_, FileTree.read_eq_ok_iff.2 ⟨_, hlocate⟩⟩
  have hlook : (Run.look fun t => t.isFile linkedEnv.cwd (.parse "/proj/a.ts")).run
      { tree := linkedTree } = (.ok true, { tree := linkedTree }) := Run.run_look hfile
  have hresolve : (Run.resolve linkedEnv (.parse "/proj/a.ts")).run { tree := linkedTree } =
      (.ok (.absolute ["proj", "b.ts"]), { tree := linkedTree }) := by
    refine Run.run_resolve (by rw [hparse]; rfl) ?_
    exact FileTree.resolve_of_locate hsound (Path.isPlain_parse _) hlocate
  obtain ⟨r, warnings, hcheck⟩ : ∃ r warnings,
      sampleProject.check linkedTree (.absolute ["proj", "b.ts"]) = .ok (r, warnings) := by
    obtain ⟨id, -, hcheck⟩ := Project.check_absolute (p := sampleProject) hsound
      (FileTree.entry?_of_locate hlocate) (by decide)
    exact ⟨_, _, hcheck⟩
  refine ⟨r, { tree := linkedTree, warnings := [] ++ warnings }, ?_⟩
  rw [Run.checkResult, Run.run_bind_ok hlook]
  simp only [Bool.not_true, Bool.false_eq_true, if_false]
  rw [Run.run_bind_ok open_linkedTree, Run.run_bind_ok hresolve, Run.run_result_ok hcheck]

theorem reports_linkedProject :
    ∃ r r' bytes text, r.IsReport (Run.document r) ∧
      (run linkedEnv linkedTree reportWords).ending =
        .reported (Run.document r) r.exitCode ∧
      (run linkedEnv linkedTree (checkWords "/proj/a.ts")).ending =
        .reported (Run.document r') r'.exitCode ∧
      (run linkedEnv linkedTree reportWords).session.tree.read [] (.parse "/out.json") =
        .ok bytes ∧
      Text.Utf8.decode? bytes = some text ∧
      Run.document r = String.ofList text ++ "\n" := by
  have hsound : linkedTree.Sound := by decide +kernel
  have hwords : Request.parse reportWords = .ok (.lint [] ⟨none, (some "/proj").map Path.parse⟩
      "json" (some (.parse "/out.json"))) := by
    decide +kernel
  have hroot : Location.IsReal sampleProject.root := by decide
  obtain ⟨outcomes, hgive⟩ :=
    Project.exists_filesGive_filesIn hsound (Project.isPlain_rootPath hroot)
  obtain ⟨r, warnings, hrun⟩ : ∃ r warnings, sampleProject.lint linkedTree [] = .ok (r, warnings) :=
    ⟨_, _, Project.lint_eq_ok_iff.2 ⟨_, _, rfl, hgive, rfl⟩⟩
  have hresult := Run.run_lintResult_nil open_linkedTree hrun
  have hparse : Path.parse "/out.json" = .absolute ([] ++ ["out.json"]) := by decide +kernel
  have hlocate : linkedTree.locate [] (.parse "/out.json") = .ok ⟨["out.json"], none⟩ := by
    rw [hparse]
    exact FileTree.locate_missing hsound rfl (by decide +kernel) (by decide +kernel)
      (by decide +kernel) (by decide +kernel) []
  have hmade : linkedTree.makeDirectories (FileTree.maxLevels - 9) []
      (Path.parse "/out.json").parent = (linkedTree, .ok ()) := by
    rw [hparse]
    rfl
  have hwrite : ∃ tree, (Run.writeReport linkedEnv (.parse "/out.json") r).run
      { tree := linkedTree, warnings := [] ++ warnings } =
        (.ok (), { tree, warnings := [] ++ warnings }) :=
    ⟨_, Run.run_writeReport_eq_ok_iff.2
      ⟨_, _, hmade, FileTree.write_eq_ok_iff.2 ⟨_, hlocate, by simp, rfl⟩, rfl⟩⟩
  obtain ⟨tree, hwrite⟩ := hwrite
  have hcheckWords : Request.parse (checkWords "/proj/a.ts") =
      .ok (.checkFile (.parse "/proj/a.ts") ⟨none, (some "/proj").map Path.parse⟩ "json") := by
    decide +kernel
  obtain ⟨r', s', hchecked⟩ := checkResult_inside
  obtain ⟨hreport, hlint, hcheck, hfile⟩ := @reports_exact linkedEnv linkedTree
  obtain ⟨bytes, text, hread, hdecode, hsame⟩ :=
    hfile hsound rfl hwords (by decide) hresult hwrite
  exact ⟨r, r', bytes, text, hreport r, hlint hwords hresult hwrite,
    hcheck hcheckWords hchecked, hread, hdecode, hsame⟩

end Command

end LineLint
