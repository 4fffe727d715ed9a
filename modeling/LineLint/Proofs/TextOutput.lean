import LineLint.Proofs.ShownViolations

/-!
# The text of a run

As text a run shows its violations file by file, under the names of the files. If a name holds a
tag, the run leaves the tag out or ends there. Main statement: `Command.shows_result_iff`.
-/

namespace LineLint

open Markup (HoldsTag)

namespace Command

variable {env : Environment} {t : FileTree} {start s s' : Session} {r : LintResult}
  {output : Option Path} {undecoded : Bool}

/-- What a lint shows below the violations of its result. -/
def closing (r : LintResult) (output : Option Path) : Except Markup.MarkupError (List String) :=
  if r.violations.isEmpty then
    Screen.success s!"{r.filesScanned} file(s) passed all golden rules."
  else do
    let summary ← Screen.lintSummary r
    match output with
    | none => return summary
    | some file => return summary ++ (← Screen.info s!"Report written to {file}")

/-- A command shows the violations of a result file by file under the names of the files. -/
structure ShowsResult (r : LintResult) (output : Option Path) (outcome : Outcome) : Prop where
  ending : outcome.ending = .finished r.exitCode
  lines : ∃ last, closing r output = .ok last ∧ outcome.session.lines =
    Screen.banner ++ r.byFile.flatMap Screen.shownGroup ++ last

theorem byFile_of_isEmpty (h : r.violations.isEmpty = true) : r.byFile = [] := by
  rw [List.isEmpty_iff] at h
  rw [LintResult.byFile, h]
  rfl

theorem exitCode_of_isEmpty (h : r.violations.isEmpty = true) : r.exitCode = 0 := by
  rw [List.isEmpty_iff] at h
  rw [LintResult.exitCode.eq_def, h]
  cases r.failOn.threshold? <;> rfl

namespace Run

/-- A lint that can show everything ends with the code of its result. -/
theorem run_lintText {shown last : List String} (hshown : Screen.violations r = .ok shown)
    (hlast : closing r output = .ok last) (hencodes : (shown ++ last).all s.encodes = true) :
    (lintText r output).run s = (.error (.finished r.exitCode),
      { s with lines := s.lines ++ (Screen.banner ++ shown ++ last) }) := by
  rw [List.all_append, Bool.and_eq_true] at hencodes
  -- without violations their list is empty, and the code of the result is zero
  by_cases hempty : r.violations.isEmpty = true
  · rw [closing, if_pos hempty] at hlast
    rw [Screen.violations, byFile_of_isEmpty hempty] at hshown
    cases hshown
    rw [lintText, run_bind_ok run_banner, if_pos hempty,
      run_bind_ok (run_display_after _ hlast hencodes.2), exitCode_of_isEmpty hempty]
    simp only [List.append_assoc]
    rfl
  · rw [closing, if_neg hempty] at hlast
    rw [lintText, run_bind_ok run_banner, if_neg hempty,
      run_bind_ok (run_display_after _ hshown hencodes.1)]
    obtain ⟨summary, hsummary, hlast⟩ := bind_eq_ok_iff.1 hlast
    cases output with
    | none =>
      cases hlast
      rw [run_bind_ok (run_display_after _ hsummary hencodes.2)]
      simp only [List.append_assoc]
      rfl
    | some file =>
      obtain ⟨info, hinfo, hlast⟩ := bind_eq_ok_iff.1 hlast
      cases hlast
      rw [List.all_append, Bool.and_eq_true] at hencodes
      rw [run_bind_ok (run_display_after _ hsummary hencodes.2.1)]
      simp only
      rw [run_bind_ok (run_display_after _ hinfo hencodes.2.2)]
      simp only [List.append_assoc]
      rfl

/-- A name that cannot be shown ends a lint. -/
theorem run_lintText_error {e : Markup.MarkupError} (hne : r.violations ≠ [])
    (hshown : Screen.violations r = .error e) : (lintText r output).run s =
      (.error (.crashed (.markup e)), { s with lines := s.lines ++ Screen.banner }) := by
  rw [lintText, run_bind_ok run_banner, if_neg (by simpa using hne),
    run_bind_error (run_display_error hshown)]

/-- A run has a result if its targets stand, and over the whole project always. -/
theorem exists_lintResult {targets : List Path} {choice : ProjectChoice} {p : Project}
    (h : t.Sound) (henv : env.IsPlain) (htargets : ∀ target ∈ targets, target.IsPlain)
    (hstand : ∀ target ∈ targets, Stands env t target) (hroot : Location.IsReal p.root)
    (hopen : (openProject env choice).run { tree := t } = (.ok p, s)) :
    ∃ r s', (lintResult env targets choice).run { tree := t } = (.ok r, s') := by
  obtain ⟨found, hfound, hplaces⟩ := exists_resolveTargets (s := { tree := t }) hstand
  obtain ⟨-, hplain⟩ := yields_resolveTargets h henv htargets _ _ _ rfl hfound
  have hrun : ∃ run, p.lint t found = .ok run := by
    by_cases hnil : found = []
    · obtain ⟨outcomes, hgive⟩ :=
        Project.exists_filesGive_filesIn (p := p) h (Project.isPlain_rootPath hroot)
      exact ⟨_, Project.lint_eq_ok_iff.2 ⟨_, outcomes, by rw [hnil]; rfl, hgive, rfl⟩⟩
    · refine (Project.lint_ok_iff h hroot hplain hnil).2 fun target htarget => ?_
      obtain ⟨location, rfl, hexists⟩ := hplaces target htarget
      have hlocate : t.locate [] (p.rootPath.join (.absolute location)) =
          t.locate env.cwd (.absolute location) := rfl
      obtain ⟨place, hplace⟩ := FileTree.locate_of_exists hexists
      rw [hlocate, hplace]
      exact ⟨by simp, by simp⟩
  obtain ⟨⟨r, warnings⟩, hrun⟩ := hrun
  refine ⟨r, { s with warnings := s.warnings ++ warnings }, ?_⟩
  rw [lintResult, run_bind_ok hfound, run_bind_ok hopen]
  exact run_result_ok (by rw [(opened hopen).1]; exact hrun)

/-- A lint as text shows its result once the report is written. -/
theorem run_lint_text {targets : List Path} {choice : ProjectChoice}
    (hresult : (lintResult env targets choice).run start = (.ok r, s))
    (hwrite : (output.forM fun file => writeReport env file r).run s = (.ok (), s')) :
    (lint env targets choice "text" output).run start = (lintText r output).run s' := by
  have hread : (readFormat "text").run start = (.ok .text, start) := rfl
  rw [run_lint_eq hread hresult hwrite]
  rfl

/-- Writing a report changes only the files. -/
theorem eq_of_writeReport
    (hwrite : (output.forM fun file => writeReport env file r).run s = (.ok (), s')) :
    ∃ tree, s' = { s with tree } := by
  cases output with
  | none =>
    cases hwrite
    exact ⟨s.tree, rfl⟩
  | some file =>
    obtain ⟨_, tree, -, -, rfl⟩ := run_writeReport_eq_ok_iff.1 hwrite
    exact ⟨tree, rfl⟩

end Run

theorem run_eq_of_lintText {words : List String} {targets : List Path} {choice : ProjectChoice}
    {ending : Ending} {last : Session}
    (hwords : Request.parse words = .ok (.lint targets choice "text" output))
    (hresult : (Run.lintResult env targets choice).run { tree := t, undecoded } = (.ok r, s))
    (hwrite : (output.forM fun file => Run.writeReport env file r).run s = (.ok (), s'))
    (htext : (Run.lintText r output).run s' = (.error ending, last)) :
    run env t words undecoded = ⟨ending, last⟩ := by
  have hlint := Run.run_lint_text hresult hwrite
  rw [htext] at hlint
  simp only [Command.run, hwords]
  exact perform_of_error hlint

theorem exists_closing (hinfo : ∀ file ∈ output,
    ∃ lines, Screen.info s!"Report written to {file}" = .ok lines) :
    ∃ last, closing r output = .ok last := by
  rw [closing]
  split
  · exact Screen.success_eq_ok r.filesScanned
  · obtain ⟨summary, hsummary⟩ := Screen.lintSummary_eq_ok r
    rw [hsummary]
    cases output with
    | none => exact ⟨summary, rfl⟩
    | some file =>
      obtain ⟨info, hinfo⟩ := hinfo file rfl
      exact ⟨summary ++ info, by simp only [hinfo]; rfl⟩

/-- A run has a result if its targets stand, and over a whole project always. As text the violations
of a result are shown file by file, each file with its name, if and only if no name of a file holds
a tag. -/
theorem shows_result_iff {env : Environment} {t : FileTree} {config : Option Path}
    {directory : Option String} (h : t.Sound) (henv : env.IsPlain) :
    (∀ {targets : List String} {p s},
      (∀ target ∈ targets, Run.Stands env t (.parse target)) →
      (Run.openProject env ⟨config, directory.map Path.parse⟩).run { tree := t } = (.ok p, s) →
      ∃ r s', (Run.lintResult env (targets.map Path.parse) ⟨config, directory.map Path.parse⟩).run
        { tree := t } = (.ok r, s')) ∧
    (∀ {words : List String} {targets : List String} {output r s s'}, Request.parse words =
        .ok (.lint (targets.map Path.parse) ⟨config, directory.map Path.parse⟩ "text" output) →
      (Run.lintResult env (targets.map Path.parse) ⟨config, directory.map Path.parse⟩).run
        { tree := t } = (.ok r, s) →
      (output.forM fun file => Run.writeReport env file r).run s = (.ok (), s') →
      (∀ file ∈ output, ∃ lines, Screen.info s!"Report written to {file}" = .ok lines) →
      (∀ group ∈ r.byFile, Screen.IsShortName group.1) → Screen.FitsScreen r →
      (ShowsResult r output (run env t words) ↔
        ∀ group ∈ r.byFile, ¬HoldsTag group.1.toList)) := by
  constructor
  · intro targets p s hstand hopen
    have hroot := isReal_root_of_open h henv.cwd hopen
    refine Run.exists_lintResult h henv ?_ ?_ hroot hopen
    · exact List.forall_mem_map.2 fun target _ => Path.isPlain_parse target
    · exact List.forall_mem_map.2 hstand
  · intro words targets output r s s' hwords hresult hwrite hinfo hnames hfits
    obtain ⟨⟨_, rfl⟩, hreported⟩ := Run.yields_lintResult h henv _ _ _ rfl hresult
    obtain ⟨tree, rfl⟩ := Run.eq_of_writeReport hwrite
    have hshow := Screen.isShowable_of_byFile hfits hreported hnames
    obtain ⟨last, hlast⟩ := exists_closing hinfo
    have hrun {ending : Ending} {session : Session}
        (htext : (Run.lintText r output).run _ = (.error ending, session)) :
        run env t words = ⟨ending, session⟩ := run_eq_of_lintText hwords hresult hwrite htext
    -- what stands above and below the violations is the same in every case
    rw [← Screen.violations_eq_ok_iff hshow]
    cases hshown : Screen.violations r with
    | ok shown =>
      rw [hrun (Run.run_lintText hshown hlast (Session.all_encodes rfl _)), List.nil_append]
      constructor
      · rintro ⟨-, last', hlast', hsame⟩
        cases hlast.symm.trans hlast'
        exact congrArg _ (List.append_cancel_left (List.append_cancel_right hsame))
      · intro hsame
        cases hsame
        exact ⟨rfl, last, hlast, rfl⟩
    | error e =>
      have hne : r.violations ≠ [] := by
        intro hnil
        rw [Screen.violations, byFile_of_isEmpty (by rw [hnil]; rfl)] at hshown
        cases hshown
      rw [hrun (Run.run_lintText_error hne hshown)]
      constructor
      · intro hshows
        cases hshows.ending
      · intro hsame
        cases hsame

/-! ## Names in brackets -/

namespace Run

variable {location : Location} {bytes : List UInt8} {word : String} (h : t.Sound)
  (hentry : t.entry? location = some (.file bytes))
  (hsize : (Path.absolute location).toString.utf8ByteSize < FileTree.maxPathBytes)
  (hcwd : env.cwd = [])

include h hentry hsize hcwd

/-- A file stands at its own place. -/
theorem stands_file : t.resolve env.cwd (.absolute location) = .ok location ∧
    t.exists? env.cwd (.absolute location) = .ok true := by
  have hlocate := FileTree.locate_absolute h hentry (by simp) hsize []
  have hplain : (Path.absolute location).IsPlain := (h.isReal_of_entry?_eq hentry).plainNames
  rw [hcwd]
  refine ⟨FileTree.resolve_of_locate h hplain hlocate, ?_⟩
  rw [FileTree.exists?, FileTree.find?, hlocate]
  rfl

variable (hword : Path.parse word = .absolute location)

include hword

theorem run_resolveTargets_file :
    (resolveTargets env [.parse word]).run { tree := t } =
      (.ok [.absolute location], { tree := t }) := by
  obtain ⟨hlocation, hexists⟩ := stands_file h hentry hsize hcwd
  have hresolve : (resolve env (.absolute location)).run { tree := t } =
      (.ok (.absolute location), { tree := t }) := run_resolve rfl hlocation
  have hall : (([.absolute location] : List Path).filterM fun p =>
      return !(← look fun t => t.exists? env.cwd p)).run { tree := t } =
        (.ok [], { tree := t }) := by
    refine run_filterM_nil fun p hp => ?_
    rw [List.mem_singleton.1 hp, run_bind_ok (run_look hexists)]
    rfl
  have hmapped : ([Path.absolute location].mapM (resolve env)).run { tree := t } =
      (.ok [.absolute location], { tree := t }) := by
    rw [List.mapM_cons, run_bind_ok hresolve]
    rfl
  rw [resolveTargets, hword, run_bind_ok hmapped, run_bind_ok hall]
  rfl

/-- A run over one file finds what the rules find in it. -/
theorem run_lintResult_file {choice : ProjectChoice} {p : Project} {id : String}
    (hopen : (openProject env choice).run { tree := t } = (.ok p, { tree := t }))
    (hid : p.fileId t (.absolute location) = .ok id) :
    (lintResult env [.parse word] choice).run { tree := t } =
      (.ok (p.resultOf [.linted (p.settings.lintText id (Project.decodeSource bytes))]),
        { tree := t }) := by
  obtain ⟨id', hid', hcheck⟩ := Project.check_absolute (p := p) h hentry hsize
  cases hid.symm.trans hid'
  rw [lintResult, run_bind_ok (run_resolveTargets_file h hentry hsize hcwd hword),
    run_bind_ok hopen, run_result_ok hcheck]
  rfl

end Run

/-- A project of files with brackets in their names. -/
def bracketTree : FileTree :=
  ⟨[(#["proj"], .directory), (#["proj", "[0].ts"], .file requireBytes),
    (#["proj", "[id].ts"], .file requireBytes), (#["proj", "a["], .directory),
    (#["proj", "a[", "b].ts"], .file requireBytes)]⟩

/-- The words of a run over a file of the project. -/
def bracketWords (word : String) : List String := ["lint", word, "--dir", "/proj"]

/-- The result of such a run. -/
def bracketResult (file : String) : LintResult := sampleProject.resultOf
  [.linted (sampleProject.settings.lintText file (Project.decodeSource requireBytes))]

theorem sound_bracketTree : bracketTree.Sound := by
  decide

theorem open_bracketTree :
    (Run.openProject linkedEnv ⟨none, (some "/proj").map Path.parse⟩).run { tree := bracketTree } =
      (.ok sampleProject, { tree := bracketTree }) :=
  Run.open_default sound_bracketTree (by decide)
    (Settings.configIn_eq_none sound_bracketTree (by decide) (by decide))
    (Settings.configIn_eq_none sound_bracketTree (by decide) (by decide))

theorem lintResult_bracketTree (names : List String) {word id : String}
    (hentry : bracketTree.entry? ("proj" :: names) = some (.file requireBytes))
    (hsize : (Path.absolute ("proj" :: names)).toString.utf8ByteSize < FileTree.maxPathBytes)
    (hword : Path.parse word = .absolute ("proj" :: names))
    (hid : (Path.mk .relative names).toString = id) :
    (Run.lintResult linkedEnv ([word].map Path.parse) ⟨none, (some "/proj").map Path.parse⟩).run
      { tree := bracketTree } = (.ok (bracketResult id), { tree := bracketTree }) := by
  have hid : sampleProject.fileId bracketTree (.absolute ("proj" :: names)) = .ok id := by
    have hlocate := FileTree.locate_absolute sound_bracketTree hentry (by simp) hsize []
    have hplain : (Path.absolute ("proj" :: names)).IsPlain :=
      (sound_bracketTree.isReal_of_entry?_eq hentry).plainNames
    rw [← hid]
    exact Project.fileId_of_inside (FileTree.resolve_of_locate sound_bracketTree hplain hlocate)
  exact Run.run_lintResult_file sound_bracketTree hentry hsize rfl hword open_bracketTree hid

theorem parse_bracketWords {word : String} (h : word ∈ ["/proj/[0].ts", "/proj/[id].ts",
    "/proj/a[/b].ts"]) : Request.parse (bracketWords word) =
      .ok (.lint ([word].map Path.parse) ⟨none, (some "/proj").map Path.parse⟩ "text" none) := by
  simp only [List.mem_cons, List.not_mem_nil, or_false] at h
  rcases h with rfl | rfl | rfl <;> decide +kernel

/-- A name in brackets is shown as it is unless it holds a tag. -/
theorem shows_bracketTree : (∃ r s, (Run.lintResult linkedEnv (["/proj/[0].ts"].map Path.parse)
      ⟨none, (some "/proj").map Path.parse⟩).run { tree := bracketTree } = (.ok r, s)) ∧
    ShowsResult (bracketResult "[0].ts") none
      (run linkedEnv bracketTree (bracketWords "/proj/[0].ts")) ∧
    ¬ShowsResult (bracketResult "[id].ts") none
      (run linkedEnv bracketTree (bracketWords "/proj/[id].ts")) := by
  have hword : Path.parse "/proj/[0].ts" = .absolute ["proj", "[0].ts"] := by decide +kernel
  have hword' : Path.parse "/proj/[id].ts" = .absolute ["proj", "[id].ts"] := by decide +kernel
  have hentry : bracketTree.entry? ["proj", "[0].ts"] = some (.file requireBytes) := by
    decide +kernel
  obtain ⟨hlocation, hexists⟩ := @Run.stands_file linkedEnv bracketTree _ _ sound_bracketTree hentry
    (by decide +kernel) rfl
  have hstands : Run.Stands linkedEnv bracketTree (.parse "/proj/[0].ts") :=
    ⟨_, _, by rw [hword]; rfl, hlocation, hexists⟩
  obtain ⟨hall, hshows⟩ := @shows_result_iff linkedEnv bracketTree none (some "/proj")
    sound_bracketTree (by decide +kernel)
  refine ⟨hall (by simpa using hstands) open_bracketTree, ?_, ?_⟩
  · have hresult := lintResult_bracketTree ["[0].ts"] hentry (by decide +kernel) hword rfl
    refine (hshows (parse_bracketWords (by simp)) hresult rfl (by simp) ?_ ?_).2 ?_
    · decide +kernel
    · decide +kernel
    · decide +kernel
  · have hresult :=
      lintResult_bracketTree ["[id].ts"] (by decide +kernel) (by decide +kernel) hword' rfl
    refine mt (hshows (parse_bracketWords (by simp)) hresult rfl (by simp) ?_ ?_).1 ?_
    · decide +kernel
    · decide +kernel
    · decide +kernel

/-- A name that closes a style that is not open ends the run, short as it is. -/
theorem tagged_name_crashes :
    (bracketResult "a[/b].ts").byFile.map (·.1) = ["a[/b].ts"] ∧
    Screen.IsShortName "a[/b].ts" ∧ Screen.FitsScreen (bracketResult "a[/b].ts") ∧
    (∃ s, (Run.lintResult linkedEnv (["/proj/a[/b].ts"].map Path.parse)
      ⟨none, (some "/proj").map Path.parse⟩).run { tree := bracketTree } =
        (.ok (bracketResult "a[/b].ts"), s)) ∧
    (run linkedEnv bracketTree (bracketWords "/proj/a[/b].ts")).ending =
      .crashed (.markup .nothingToClose) := by
  have hresult := lintResult_bracketTree ["a[", "b].ts"] (by decide +kernel) (by decide +kernel)
    (show Path.parse "/proj/a[/b].ts" = _ by decide +kernel) rfl
  have hshown : Screen.violations (bracketResult "a[/b].ts") = .error .nothingToClose := by
    decide +kernel
  refine ⟨by decide +kernel, by decide +kernel, by decide +kernel, ⟨_, hresult⟩, ?_⟩
  rw [run_eq_of_lintText (parse_bracketWords (by simp)) hresult rfl
    (Run.run_lintText_error (by decide +kernel) hshown)]

end Command

end LineLint
