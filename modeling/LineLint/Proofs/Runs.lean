import LineLint.Proofs.Discovery
import LineLint.Proofs.Results
import LineLint.Proofs.Samples

/-!
# Runs over several targets

A run expands its targets to files and goes through the files one by one, so it is the runs over
its targets one after the other. A target that is no path makes a run fail, and so does one whose
path is too long: the run looks whether it is a directory before it tries to read it. Main
statements: `Project.lint_eq_joined_checks`, and `Project.runs_compose`, which collects what holds
of all runs over a project.
-/

namespace LineLint.Project

variable {p : Project} {t : FileTree} {path target : Path} {paths before after : List Path}
  {outcomes : List FileOutcome} {run : LintResult × List Warning}

/-! ## One file -/

theorem fileId_of_locate (h : t.Sound) (hplain : path.IsPlain) {place : Place}
    (hlocate : t.locate [] path = .ok place) :
    p.fileId t path =
      .ok (((Path.absolute place.location).relativeTo? p.rootPath).getD path).toString := by
  rw [fileId, FileTree.resolve_of_locate h hplain hlocate]

theorem lintFile_of_read (h : t.Sound) (hplain : path.IsPlain) {bytes : List UInt8}
    (hread : t.read [] path = .ok bytes) :
    ∃ id, p.fileId t path = .ok id ∧
      p.lintFile t path = .ok (.linted (p.settings.lintText id (decodeSource bytes))) := by
  obtain ⟨location, hlocate⟩ := FileTree.read_eq_ok_iff.1 hread
  have hid := fileId_of_locate (p := p) h hplain hlocate
  refine ⟨_, hid, ?_⟩
  rw [lintFile, hread, hid]
  rfl

theorem lintFile_of_error {e : AccessError} (hread : t.read [] path = .error e)
    (he : e ≠ .badName) : p.lintFile t path = .ok (.unreadable path) := by
  rw [lintFile, hread]
  cases e with
  | badName => exact absurd rfl he
  | _ => rfl

/-- A file that comes to something has been read and linted, or it cannot be read. -/
theorem lintFile_cases {outcome : FileOutcome} (hlint : p.lintFile t path = .ok outcome) :
    (∃ bytes id, t.read [] path = .ok bytes ∧ p.fileId t path = .ok id ∧
      outcome = .linted (p.settings.lintText id (decodeSource bytes))) ∨
    (∃ e, t.read [] path = .error e) ∧ outcome = .unreadable path := by
  rw [lintFile] at hlint
  split at hlint
  · rename_i bytes hread
    obtain ⟨id, hid, hlinted⟩ := bind_eq_ok_iff.1 hlint
    cases hlinted
    exact .inl ⟨bytes, id, hread, hid, rfl⟩
  · cases hlint
  · rename_i e _ hread
    cases hlint
    exact .inr ⟨⟨e, hread⟩, rfl⟩

/-- A file comes to something unless its path is none. -/
theorem lintFile_eq_error_iff (h : t.Sound) (hplain : path.IsPlain) {e : AccessError} :
    p.lintFile t path = .error e ↔
      e = .badName ∧ ∃ name ∈ path.parts, Char.ofNat 0 ∈ name.toList := by
  have hbadName : t.read [] path = .error .badName ↔
      ∃ name ∈ path.parts, Char.ofNat 0 ∈ name.toList :=
    FileTree.read_eq_badName_iff.trans FileTree.locate_eq_badName_iff
  rw [← hbadName]
  constructor
  · intro hlint
    cases hread : t.read [] path with
    | ok bytes =>
      obtain ⟨id, -, hok⟩ := lintFile_of_read (p := p) h hplain hread
      cases hlint.symm.trans hok
    | error cause =>
      by_cases hbad : cause = .badName
      · rw [hbad] at hread ⊢
        rw [lintFile, hread] at hlint
        cases hlint
        exact ⟨rfl, rfl⟩
      · cases hlint.symm.trans (lintFile_of_error hread hbad)
  · rintro ⟨rfl, hread⟩
    rw [lintFile, hread]

/-! ## Some files -/

/-- Files come to outcomes, each to its own. -/
def FilesGive (p : Project) (t : FileTree) (files : List Path) (outcomes : List FileOutcome) :
    Prop :=
  List.Forall₂ (fun path outcome => p.lintFile t path = .ok outcome) files outcomes

theorem lintFiles_eq_ok_iff :
    p.lintFiles t paths = .ok outcomes ↔ p.FilesGive t paths outcomes := by
  induction paths generalizing outcomes with
  | nil => rw [lintFiles, FilesGive, List.forall₂_nil_left_iff, Except.ok.injEq, eq_comm]
  | cons path rest ih =>
    rw [lintFiles, FilesGive, List.forall₂_cons_left_iff]
    simp only [← FilesGive.eq_def, ← ih]
    cases hpath : p.lintFile t path with
    | error e => simp
    | ok outcome =>
      cases hrest : p.lintFiles t rest with
      | error e => simp
      | ok others => simp [eq_comm]

/-- Some targets come to outcomes, which are those of the files for which they stand. -/
def TargetsGive (p : Project) (t : FileTree) (targets : List Path)
    (outcomes : List (List FileOutcome)) : Prop :=
  List.Forall₂ (fun target outcomes => ∃ files, p.expand t target = .ok files ∧
    p.FilesGive t files outcomes) targets outcomes

theorem filesGive_flatten {files : List (List Path)} :
    p.FilesGive t files.flatten outcomes ↔
      ∃ groups, List.Forall₂ (p.FilesGive t) files groups ∧ outcomes = groups.flatten := by
  constructor
  · intro h
    induction files generalizing outcomes with
    | nil => exact ⟨[], .nil, List.forall₂_nil_left_iff.1 h⟩
    | cons first rest ih =>
      obtain ⟨xs, ys, hxs, hys, rfl⟩ := forall₂_append_left_iff.1 h
      obtain ⟨groups, hgroups, rfl⟩ := ih hys
      exact ⟨xs :: groups, .cons hxs hgroups, rfl⟩
  · rintro ⟨groups, hgroups, rfl⟩
    exact List.rel_flatten hgroups

theorem targetsGive_iff {groups : List (List FileOutcome)} :
    p.TargetsGive t paths groups ↔
      ∃ files, paths.mapM (p.expand t) = .ok files ∧ List.Forall₂ (p.FilesGive t) files groups := by
  simp only [mapM_eq_ok_iff]
  constructor
  · intro h
    induction h with
    | nil => exact ⟨[], .nil, .nil⟩
    | cons h _ ih =>
      obtain ⟨files, hexpand, hfiles⟩ := h
      obtain ⟨rest, hrest, hgroups⟩ := ih
      exact ⟨files :: rest, .cons hexpand hrest, .cons hfiles hgroups⟩
  · rintro ⟨files, hexpand, hgroups⟩
    induction hexpand generalizing groups with
    | nil =>
      cases hgroups
      exact .nil
    | cons hfirst _ ih =>
      cases hgroups with
      | cons hfiles hgroups => exact .cons ⟨_, hfirst, hfiles⟩ (ih hgroups)

/-! ## Runs -/

/-- What a run reports of some outcomes. -/
def reportOf (p : Project) (outcomes : List FileOutcome) : LintResult × List Warning :=
  (p.resultOf outcomes, outcomes.filterMap (·.warning?))

/-- What some runs report one after the other. -/
def joined (p : Project) (runs : List (LintResult × List Warning)) :
    LintResult × List Warning :=
  ({ violations := runs.flatMap (·.1.violations)
     filesScanned := (runs.map (·.1.filesScanned)).foldr (· + ·) 0
     timedRules := p.settings.activeRules.map (·.name)
     failOn := p.settings.failOn }, runs.flatMap (·.2))

theorem joined_map_reportOf (groups : List (List FileOutcome)) :
    p.joined (groups.map p.reportOf) = p.reportOf groups.flatten := by
  have hviolations : (groups.map p.reportOf).flatMap (·.1.violations) =
      groups.flatten.flatMap (·.violations) := by
    rw [List.flatMap_map, ← List.flatMap_id, List.flatMap_assoc]
    rfl
  have hscanned : ((groups.map p.reportOf).map (·.1.filesScanned)).foldr (· + ·) (0 : ℤ) =
      (groups.flatten.countP (·.scanned) : ℕ) := by
    clear hviolations
    induction groups with
    | nil => rfl
    | cons group rest ih =>
      rw [List.map_cons, List.map_cons, List.foldr_cons, List.flatten_cons, List.countP_append, ih,
        Int.natCast_add]
      rfl
  have hwarnings : (groups.map p.reportOf).flatMap (·.2) =
      groups.flatten.filterMap (·.warning?) := by
    rw [List.filterMap_flatten, List.flatMap_map, List.flatMap_def]
    rfl
  rw [joined, hviolations, hscanned, hwarnings]
  rfl

theorem lint_eq_ok_iff :
    p.lint t paths = .ok run ↔ ∃ files outcomes, p.targets t paths = .ok files ∧
      p.FilesGive t files outcomes ∧ run = p.reportOf outcomes := by
  simp only [← lintFiles_eq_ok_iff]
  rw [lint]
  cases hfiles : p.targets t paths with
  | error e => simp [bind, Except.bind, Except.mapError]
  | ok files =>
    cases hlint : p.lintFiles t files with
    | error e => simp [bind, Except.bind, Except.mapError, hlint]
    | ok outcomes =>
      simp [bind, Except.bind, Except.mapError, hlint, pure, Except.pure, reportOf, eq_comm]

theorem lint_eq_ok_iff_of_ne_nil (hne : paths ≠ []) :
    p.lint t paths = .ok run ↔
      ∃ groups, p.TargetsGive t paths groups ∧ run = p.reportOf groups.flatten := by
  have htargets : p.targets t paths = (paths.mapM (p.expand t)).map List.flatten := by
    cases paths with
    | nil => exact absurd rfl hne
    | cons path rest => rfl
  simp only [lint_eq_ok_iff, htargets, targetsGive_iff]
  constructor
  · rintro ⟨_, outcomes, hfiles, hgive, rfl⟩
    obtain ⟨files, hexpand, rfl⟩ := map_eq_ok_iff.1 hfiles
    obtain ⟨groups, hgroups, rfl⟩ := filesGive_flatten.1 hgive
    exact ⟨groups, ⟨files, hexpand, hgroups⟩, rfl⟩
  · rintro ⟨groups, ⟨files, hexpand, hgroups⟩, rfl⟩
    refine ⟨files.flatten, groups.flatten, ?_, filesGive_flatten.2 ⟨groups, hgroups, rfl⟩, rfl⟩
    rw [hexpand]
    rfl

theorem check_eq_ok_iff :
    p.check t target = .ok run ↔ ∃ files outcomes, p.expand t target = .ok files ∧
      p.FilesGive t files outcomes ∧ run = p.reportOf outcomes := by
  rw [check, lint_eq_ok_iff_of_ne_nil (by simp)]
  constructor
  · rintro ⟨groups, hgroups, rfl⟩
    cases hgroups with
    | cons hfirst hrest =>
      cases hrest
      obtain ⟨files, hexpand, hgive⟩ := hfirst
      exact ⟨files, _, hexpand, hgive, by simp⟩
  · rintro ⟨files, outcomes, hexpand, hgive, rfl⟩
    exact ⟨[outcomes], .cons ⟨files, hexpand, hgive⟩ .nil, by simp⟩

/-- A run over some targets is the runs over each of them, one after the other. -/
theorem lint_eq_joined_checks (hne : paths ≠ []) :
    p.lint t paths = .ok run ↔
      ∃ runs, paths.mapM (p.check t) = .ok runs ∧ run = p.joined runs := by
  rw [lint_eq_ok_iff_of_ne_nil hne]
  simp only [mapM_eq_ok_iff]
  constructor
  · rintro ⟨groups, hgroups, rfl⟩
    refine ⟨groups.map p.reportOf, ?_, (joined_map_reportOf groups).symm⟩
    rw [List.forall₂_map_right_iff]
    exact hgroups.imp fun _ _ ⟨files, hexpand, hgive⟩ =>
      check_eq_ok_iff.2 ⟨files, _, hexpand, hgive, rfl⟩
  · rintro ⟨runs, hruns, rfl⟩
    -- a check is known by its report, and behind each report stands one group of outcomes
    obtain ⟨groups, hgroups, rfl⟩ : ∃ groups, p.TargetsGive t paths groups ∧
        runs = groups.map p.reportOf := by
      clear hne
      induction hruns with
      | nil => exact ⟨[], .nil, rfl⟩
      | cons hrun _ ih =>
        obtain ⟨files, outcomes, hexpand, hgive, rfl⟩ := check_eq_ok_iff.1 hrun
        obtain ⟨groups, hgroups, rfl⟩ := ih
        exact ⟨outcomes :: groups, .cons ⟨files, hexpand, hgive⟩ hgroups, rfl⟩
    exact ⟨groups, hgroups, joined_map_reportOf groups⟩

theorem lint_append {first second : List Path} (hfirst : first ≠ []) (hsecond : second ≠ []) :
    p.lint t (first ++ second) = .ok run ↔
      ∃ before after, p.lint t first = .ok before ∧ p.lint t second = .ok after ∧
        run = p.joined [before, after] := by
  have hne : first ++ second ≠ [] := by simp [hfirst]
  have htwo (xs ys : List (List FileOutcome)) : p.reportOf (xs ++ ys).flatten =
      p.joined [p.reportOf xs.flatten, p.reportOf ys.flatten] := by
    simpa using (joined_map_reportOf (p := p) [xs.flatten, ys.flatten]).symm
  simp only [lint_eq_ok_iff_of_ne_nil hne, lint_eq_ok_iff_of_ne_nil hfirst,
    lint_eq_ok_iff_of_ne_nil hsecond]
  constructor
  · rintro ⟨groups, hgroups, rfl⟩
    obtain ⟨xs, ys, hxs, hys, rfl⟩ := forall₂_append_left_iff.1 hgroups
    exact ⟨_, _, ⟨xs, hxs, rfl⟩, ⟨ys, hys, rfl⟩, htwo xs ys⟩
  · rintro ⟨_, _, ⟨xs, hxs, rfl⟩, ⟨ys, hys, rfl⟩, rfl⟩
    exact ⟨xs ++ ys, List.rel_append hxs hys, (htwo xs ys).symm⟩

/-! ## Targets -/

theorem expand_of_isDirectory (hdir : t.isDirectory [] (p.rootPath.join target) = .ok true) :
    p.expand t target = .ok (p.filesIn t (p.rootPath.join target)) := by
  simp [expand, hdir, bind, Except.bind, pure, Except.pure]

theorem expand_of_not_isDirectory (hdir : t.isDirectory [] (p.rootPath.join target) = .ok false) :
    p.expand t target = .ok [p.rootPath.join target] := by
  simp [expand, hdir, bind, Except.bind, pure, Except.pure]

/-- Only a path that is too long cannot be expanded. -/
theorem expand_eq_error_iff {e : AccessError} :
    p.expand t target = .error e ↔
      e = .nameTooLong ∧ t.locate [] (p.rootPath.join target) = .error .nameTooLong := by
  rw [← FileTree.isDirectory_eq_error_iff]
  cases hdir : t.isDirectory [] (p.rootPath.join target) with
  | error e => simp [expand, hdir, bind, Except.bind]
  | ok found =>
    cases found with
    | true => simp [expand_of_isDirectory hdir]
    | false => simp [expand_of_not_isDirectory hdir]

/-- A target stands for the files in it if it is a directory, and else for itself. -/
theorem expand_eq_ok_iff {files : List Path} : p.expand t target = .ok files ↔
    t.isDirectory [] (p.rootPath.join target) = .ok true ∧
        files = p.filesIn t (p.rootPath.join target) ∨
      t.isDirectory [] (p.rootPath.join target) = .ok false ∧
        files = [p.rootPath.join target] := by
  cases hdir : t.isDirectory [] (p.rootPath.join target) with
  | error e => simp [expand, hdir, bind, Except.bind]
  | ok found =>
    cases found with
    | true => simp [expand_of_isDirectory hdir, eq_comm]
    | false => simp [expand_of_not_isDirectory hdir, eq_comm]

/-- A target that cannot be read makes a run warn, and nothing else. -/
theorem check_of_unreadable {e : AccessError}
    (hread : t.read [] (p.rootPath.join target) = .error e) (hdir : e ≠ .isDirectory)
    (hbad : e ≠ .badName) (hsize : t.locate [] (p.rootPath.join target) ≠ .error .nameTooLong) :
    p.check t target = .ok ((p.joined []).1, [.unreadable (p.rootPath.join target)]) := by
  have hexpand : p.expand t target = .ok [p.rootPath.join target] := by
    refine expand_of_not_isDirectory (FileTree.isDirectory_eq_false hsize fun hfound => ?_)
    obtain ⟨here, hlocate⟩ := FileTree.isDirectory_eq_true_iff.1 hfound
    rw [FileTree.read, hlocate] at hread
    cases hread
    exact absurd rfl hdir
  have hgive : p.FilesGive t [p.rootPath.join target] [.unreadable (p.rootPath.join target)] :=
    .cons (lintFile_of_error hread hbad) .nil
  exact check_eq_ok_iff.2 ⟨_, _, hexpand, hgive, rfl⟩

theorem lint_insert_unreadable
    (hcheck : p.check t target = .ok ((p.joined []).1, [.unreadable (p.rootPath.join target)]))
    (hne : before ++ after ≠ []) :
    p.lint t (before ++ target :: after) = .ok run ↔
      ∃ earlier later, before.mapM (p.check t) = .ok earlier ∧
        after.mapM (p.check t) = .ok later ∧
        p.lint t (before ++ after) = .ok (p.joined (earlier ++ later)) ∧
        run = ((p.joined (earlier ++ later)).1, earlier.flatMap (·.2) ++
          .unreadable (p.rootPath.join target) :: later.flatMap (·.2)) := by
  have hmore : before ++ target :: after ≠ [] := by simp
  simp only [lint_eq_joined_checks hne, lint_eq_joined_checks hmore, mapM_eq_ok_iff]
  constructor
  · rintro ⟨runs, hruns, rfl⟩
    obtain ⟨earlier, rest, hearlier, hrest, rfl⟩ := forall₂_append_left_iff.1 hruns
    obtain ⟨one, later, hone, hlater, rfl⟩ := List.forall₂_cons_left_iff.1 hrest
    cases hcheck.symm.trans hone
    exact ⟨earlier, later, hearlier, hlater, ⟨_, List.rel_append hearlier hlater, rfl⟩,
      by simp [joined]⟩
  · rintro ⟨earlier, later, hearlier, hlater, -, rfl⟩
    exact ⟨_, List.rel_append hearlier (.cons hcheck hlater), by simp [joined]⟩

/-! ## The files of a project -/

theorem open?_eq_ok_iff {cwd : Location} {settings : Settings} {root : Path} :
    Project.open? t cwd settings root = .ok p ↔
      t.resolve cwd root = .ok p.root ∧ settings = p.settings := by
  rw [Project.open?, bind_eq_ok_iff]
  constructor
  · rintro ⟨location, hresolve, hopened⟩
    cases hopened
    exact ⟨hresolve, rfl⟩
  · rintro ⟨hresolve, rfl⟩
    exact ⟨_, hresolve, rfl⟩

/-- The location of a project consists of names. -/
theorem isReal_root (h : t.Sound) {cwd : Location} {settings : Settings} {root : Path}
    (hcwd : Location.IsReal cwd) (hroot : root.IsPlain)
    (hopen : Project.open? t cwd settings root = .ok p) : Location.IsReal p.root :=
  FileTree.isReal_of_resolve h hcwd hroot (open?_eq_ok_iff.1 hopen).1

theorem open?_of_locate (h : t.Sound) {cwd : Location} {settings : Settings} {root : Path}
    {place : Place} (hroot : root.IsPlain) (hlocate : t.locate cwd root = .ok place) :
    Project.open? t cwd settings root = .ok ⟨settings, place.location⟩ := by
  rw [Project.open?, FileTree.resolve_of_locate h hroot hlocate]
  rfl

theorem isPlain_rootPath (hroot : Location.IsReal p.root) : p.rootPath.IsPlain :=
  hroot.plainNames

theorem isPlain_join (hroot : Location.IsReal p.root) (htarget : target.IsPlain) :
    (p.rootPath.join target).IsPlain := by
  rw [Path.join]
  split
  · exact htarget
  · exact hroot.plainNames.append htarget

theorem join_of_mem_files (hpath : path ∈ p.files t) : p.rootPath.join path = path := by
  have habsolute : path.isAbsolute = true := by
    rw [Path.isAbsolute, FileTree.root_of_mem_filesBelow hpath]
    rfl
  rw [Path.join, if_pos habsolute]

/-- Whatever is found below a place can be gone through. -/
theorem exists_filesGive_filesIn (h : t.Sound) {top : Path} (htop : top.IsPlain) :
    ∃ outcomes, p.FilesGive t (p.filesIn t top) outcomes := by
  have hgive : ∀ files : List Path, files ⊆ p.filesIn t top →
      ∃ outcomes, p.FilesGive t files outcomes := by
    intro files hfiles
    induction files with
    | nil => exact ⟨[], .nil⟩
    | cons path rest ih =>
      obtain ⟨outcomes, houtcomes⟩ := ih (List.subset_of_cons_subset hfiles)
      have hpath := hfiles List.mem_cons_self
      cases hlint : p.lintFile t path with
      | ok outcome => exact ⟨outcome :: outcomes, .cons hlint houtcomes⟩
      | error e =>
        have hplain := FileTree.isPlain_of_mem_filesBelow h htop hpath
        obtain ⟨-, name, hname, hnull⟩ := (lintFile_eq_error_iff h hplain).1 hlint
        exact absurd hnull (FileTree.no_null_of_mem_filesBelow h hpath name hname)
  exact hgive _ (List.Subset.refl _)

/-- A run over a whole project always has a result. -/
theorem exists_lint (h : t.Sound) (hroot : Location.IsReal p.root) :
    ∃ r warnings, p.lint t [] = .ok (r, warnings) := by
  obtain ⟨outcomes, hgive⟩ := exists_filesGive_filesIn (p := p) h (isPlain_rootPath hroot)
  exact ⟨_, _, lint_eq_ok_iff.2 ⟨_, outcomes, rfl, hgive, rfl⟩⟩

theorem lint_nil_eq_check_root (hdir : t.isDirectory [] p.rootPath = .ok true) :
    p.lint t [] = p.check t p.rootPath := by
  have hjoin : p.rootPath.join p.rootPath = p.rootPath := rfl
  have hexpand : p.expand t p.rootPath = .ok (p.filesIn t (p.rootPath.join p.rootPath)) :=
    expand_of_isDirectory (by rwa [hjoin])
  simp [check, lint, targets, hexpand, hjoin, files, bind, Except.bind, pure, Except.pure]

theorem check_of_mem_files (h : t.Sound) (hpath : path ∈ p.files t)
    (hsize : t.locate [] path ≠ .error .nameTooLong) {outcome : FileOutcome}
    (houtcome : p.lintFile t path = .ok outcome) :
    p.check t path = .ok (p.reportOf [outcome]) := by
  have hjoin := join_of_mem_files hpath
  have hexpand : p.expand t path = .ok [p.rootPath.join path] := by
    refine expand_of_not_isDirectory ?_
    rw [hjoin]
    exact FileTree.isDirectory_eq_false hsize (FileTree.isDirectory_of_mem_filesBelow h hpath)
  rw [hjoin] at hexpand
  exact check_eq_ok_iff.2 ⟨_, _, hexpand, .cons houtcome .nil, rfl⟩

/-- The run over the whole project is the checks of its files, one after the other. -/
theorem lint_nil_eq_joined_checks (h : t.Sound) (hroot : Location.IsReal p.root) :
    ∃ run, p.lint t [] = .ok run ∧
      ((∀ path ∈ p.files t, t.locate [] path ≠ .error .nameTooLong) →
        ∃ runs, (p.files t).mapM (p.check t) = .ok runs ∧ run = p.joined runs) := by
  obtain ⟨outcomes, hgive⟩ := exists_filesGive_filesIn (p := p) h (isPlain_rootPath hroot)
  refine ⟨p.reportOf outcomes, lint_eq_ok_iff.2 ⟨_, _, rfl, hgive, rfl⟩, fun hsize => ?_⟩
  refine ⟨(outcomes.map fun outcome => [outcome]).map p.reportOf, ?_, ?_⟩
  · rw [mapM_eq_ok_iff, List.map_map, List.forall₂_map_right_iff]
    have hfiles : ∀ path ∈ p.files t, path ∈ p.files t ∧ t.locate [] path ≠ .error .nameTooLong :=
      fun path hpath => ⟨hpath, hsize path hpath⟩
    exact ((List.forall₂_and_left _ _).2 ⟨hfiles, hgive⟩).imp fun _ _ ⟨⟨hpath, hshort⟩, hone⟩ =>
      check_of_mem_files h hpath hshort hone
  · rw [joined_map_reportOf, ← List.flatMap_def, List.flatMap_singleton']

/-! ## When a run fails -/

theorem files_of_expand (h : t.Sound) (hroot : Location.IsReal p.root) (hplain : target.IsPlain)
    {files : List Path} (hexpand : p.expand t target = .ok files) :
    (∃ outcomes, p.FilesGive t files outcomes) ↔
      t.locate [] (p.rootPath.join target) ≠ .error .badName := by
  have hjoin := isPlain_join hroot hplain
  -- a directory's files can all be gone through, so only a target that is a file can fail
  rcases expand_eq_ok_iff.1 hexpand with ⟨hdir, rfl⟩ | ⟨hdir, rfl⟩
  · obtain ⟨here, hlocate⟩ := FileTree.isDirectory_eq_true_iff.1 hdir
    simp [hlocate, exists_filesGive_filesIn h hjoin]
  · rw [ne_eq, FileTree.locate_eq_badName_iff]
    constructor
    · rintro ⟨outcomes, hgive⟩ hnull
      have herror := (lintFile_eq_error_iff (p := p) h hjoin).2 ⟨rfl, hnull⟩
      obtain ⟨_, _, hone, -⟩ := List.forall₂_cons_left_iff.1 hgive
      cases hone.symm.trans herror
    · intro hnull
      cases hlint : p.lintFile t (p.rootPath.join target) with
      | ok outcome => exact ⟨[outcome], .cons hlint .nil⟩
      | error e => exact absurd ((lintFile_eq_error_iff h hjoin).1 hlint).2 hnull

/-- A run goes through if and only if each of its targets is a path and none is too long. -/
theorem lint_ok_iff (h : t.Sound) (hroot : Location.IsReal p.root)
    (hplain : ∀ target ∈ paths, target.IsPlain) (hne : paths ≠ []) :
    (∃ run, p.lint t paths = .ok run) ↔
      ∀ target ∈ paths, t.locate [] (p.rootPath.join target) ≠ .error .nameTooLong ∧
        t.locate [] (p.rootPath.join target) ≠ .error .badName := by
  have hgive : (∃ run, p.lint t paths = .ok run) ↔ ∃ groups, p.TargetsGive t paths groups := by
    simp only [lint_eq_ok_iff_of_ne_nil hne]
    exact ⟨fun ⟨_, groups, hgroups, _⟩ => ⟨groups, hgroups⟩,
      fun ⟨groups, hgroups⟩ => ⟨_, groups, hgroups, rfl⟩⟩
  rw [hgive]
  clear hgive hne
  induction paths with
  | nil => exact ⟨fun _ _ hmem => absurd hmem List.not_mem_nil, fun _ => ⟨[], .nil⟩⟩
  | cons target rest ih =>
    have hrest := ih fun other hother => hplain other (List.mem_cons_of_mem _ hother)
    rw [List.forall_mem_cons]
    have hfirst := hplain target List.mem_cons_self
    constructor
    · rintro ⟨_, hgive⟩
      obtain ⟨outcomes, groups, ⟨files, hexpand, hfiles⟩, hgroups, -⟩ :=
        List.forall₂_cons_left_iff.1 hgive
      refine ⟨⟨fun hsize => ?_, ?_⟩, hrest.1 ⟨groups, hgroups⟩⟩
      · cases hexpand.symm.trans (expand_eq_error_iff.2 ⟨rfl, hsize⟩)
      · exact (files_of_expand h hroot hfirst hexpand).1 ⟨outcomes, hfiles⟩
    · rintro ⟨⟨hsize, hbad⟩, hothers⟩
      obtain ⟨groups, hgroups⟩ := hrest.2 hothers
      cases hexpand : p.expand t target with
      | error e => exact absurd (expand_eq_error_iff.1 hexpand).2 hsize
      | ok files =>
        obtain ⟨outcomes, hfiles⟩ := (files_of_expand h hroot hfirst hexpand).2 hbad
        exact ⟨outcomes :: groups, .cons ⟨files, hexpand, hfiles⟩ hgroups⟩

/-- A target that is too long ends a run before anything has been read. -/
theorem lint_of_too_long (hmem : target ∈ paths)
    (hsize : t.locate [] (p.rootPath.join target) = .error .nameTooLong) :
    p.lint t paths = .error { cause := .nameTooLong } := by
  -- whichever target fails first, it fails with the same cause
  have hfails : paths.mapM (p.expand t) = .error .nameTooLong := by
    cases hexpand : paths.mapM (p.expand t) with
    | error e =>
      obtain ⟨other, -, hother⟩ := exists_mapM_eq_error hexpand
      rw [(expand_eq_error_iff.1 hother).1]
    | ok files =>
      obtain ⟨_, -, hok⟩ := exists_of_forall₂ (mapM_eq_ok_iff.1 hexpand) hmem
      cases hok.symm.trans (expand_eq_error_iff.2 ⟨rfl, hsize⟩)
  cases paths with
  | nil => cases hmem
  | cons first rest => simp [lint, targets, hfails, bind, Except.bind, Except.mapError]

/-! ## Runs compose -/

theorem exitCode_eq_one_iff (r : LintResult) :
    r.exitCode = 1 ↔ ∃ v ∈ r.violations, ∃ threshold ∈ r.failOn.threshold?,
      threshold ≤ v.severity.rank := by
  rw [LintResult.exitCode]
  cases r.failOn.threshold? <;> simp

theorem failOn_of_check (hcheck : p.check t target = .ok run) :
    run.1.failOn = p.settings.failOn := by
  obtain ⟨_, _, -, -, rfl⟩ := check_eq_ok_iff.1 hcheck
  rfl

theorem exitCode_joined {runs : List (LintResult × List Warning)}
    (hruns : ∀ one ∈ runs, one.1.failOn = p.settings.failOn) :
    (p.joined runs).1.exitCode = 1 ↔ ∃ one ∈ runs, one.1.exitCode = 1 := by
  simp only [exitCode_eq_one_iff, joined, List.mem_flatMap]
  constructor
  · rintro ⟨v, ⟨one, hone, hv⟩, hreaches⟩
    exact ⟨one, hone, v, hv, by rwa [hruns one hone]⟩
  · rintro ⟨one, hone, v, hv, hreaches⟩
    exact ⟨v, ⟨one, hone, hv⟩, by rwa [hruns one hone] at hreaches⟩

/-- The path of a target is too long to be looked at, or leads to a name that is. -/
def TooLong (p : Project) (t : FileTree) (target : Path) : Prop :=
  t.locate [] (p.rootPath.join target) = .error .nameTooLong

/-- How the runs over a project are made up of the runs over its parts. -/
structure RunsCompose (p : Project) (t : FileTree) : Prop where
  /-- The run over everything is the run over the root. -/
  whole : ∃ run, p.lint t [] = .ok run ∧ p.lint t [p.rootPath] = .ok run
  /-- It is also the checks of all files one after the other, if these can be made. -/
  by_file : ∀ runs, (p.files t).mapM (p.check t) = .ok runs →
    p.lint t [] = .ok (p.joined runs) ∧
      ((p.joined runs).1.exitCode = 1 ↔ ∃ one ∈ runs, one.1.exitCode = 1)
  /-- They can if and only if no file has a path that is too long. -/
  by_file_iff : (∃ runs, (p.files t).mapM (p.check t) = .ok runs) ↔
    ∀ path ∈ p.files t, ¬p.TooLong t path
  /-- A run over two lists of targets is the two runs. -/
  append : ∀ first second, first ≠ [] → second ≠ [] → ∀ run,
    p.lint t (first ++ second) = .ok run ↔
      ∃ before after, p.lint t first = .ok before ∧ p.lint t second = .ok after ∧
        run = p.joined [before, after]
  /-- A target that cannot be read, but is not too long, gives a warning and nothing else. -/
  unreadable : ∀ target e, t.read [] (p.rootPath.join target) = .error e → e ≠ .isDirectory →
    e ≠ .badName → ¬p.TooLong t target →
    p.lint t [target] = .ok ((p.joined []).1, [.unreadable (p.rootPath.join target)]) ∧
      ∀ before after, before ++ after ≠ [] → ∀ run,
        p.lint t (before ++ target :: after) = .ok run ↔
          ∃ earlier later, before.mapM (p.check t) = .ok earlier ∧
            after.mapM (p.check t) = .ok later ∧
            p.lint t (before ++ after) = .ok (p.joined (earlier ++ later)) ∧
            run = ((p.joined (earlier ++ later)).1, earlier.flatMap (·.2) ++
              .unreadable (p.rootPath.join target) :: later.flatMap (·.2))
  /-- A target that is too long ends the run before anything is read. -/
  too_long : ∀ targets, ∀ target ∈ targets, p.TooLong t target →
    p.lint t targets = .error { cause := .nameTooLong }
  /-- Nothing else does, apart from a target that is no path. -/
  goes_through : ∀ targets, targets ≠ [] → (∀ target ∈ targets, target.IsPlain ∧
      ∀ name ∈ target.parts, Char.ofNat 0 ∉ name.toList) →
    ((∃ run, p.lint t targets = .ok run) ↔ ∀ target ∈ targets, ¬p.TooLong t target)

theorem not_null_of_join (hroot : Location.IsReal p.root)
    (hnull : ∀ name ∈ target.parts, Char.ofNat 0 ∉ name.toList) :
    t.locate [] (p.rootPath.join target) ≠ .error .badName := by
  rw [ne_eq, FileTree.locate_eq_badName_iff]
  rintro ⟨name, hname, hbad⟩
  rw [Path.join] at hname
  split at hname
  · exact hnull name hname hbad
  · rcases List.mem_append.1 hname with hname | hname
    · exact (hroot name hname).no_null hbad
    · exact hnull name hname hbad

/-- Over every tree and from every root that is a directory, runs compose. -/
theorem runs_compose {t : FileTree} {cwd : Location} {settings : Settings} {root : Path}
    {p : Project} (h : t.Sound) (hcwd : Location.IsReal cwd) (hroot : root.IsPlain)
    (hopen : Project.open? t cwd settings root = .ok p)
    (hdir : t.isDirectory [] p.rootPath = .ok true) : p.RunsCompose t := by
  have hreal : Location.IsReal p.root := isReal_root h hcwd hroot hopen
  have hlong : ∀ path ∈ p.files t, p.TooLong t path ↔ t.locate [] path = .error .nameTooLong := by
    intro path hpath
    rw [TooLong, join_of_mem_files hpath]
  obtain ⟨run, hrun, hfiles⟩ := lint_nil_eq_joined_checks h hreal
  have hmapM : ∀ runs, (p.files t).mapM (p.check t) = .ok runs →
      ∀ path ∈ p.files t, t.locate [] path ≠ .error .nameTooLong := by
    intro runs hruns path hpath hsize
    obtain ⟨one, -, hone⟩ := exists_of_forall₂ (mapM_eq_ok_iff.1 hruns) hpath
    cases hone.symm.trans (lint_of_too_long (List.mem_singleton_self path)
      ((join_of_mem_files hpath).symm ▸ hsize))
  refine ⟨⟨run, hrun, ?_⟩, fun runs hruns => ⟨?_, ?_⟩, ⟨?_, fun hsize => ?_⟩, ?_, ?_, ?_, ?_⟩
  · exact (lint_nil_eq_check_root hdir).symm.trans hrun
  · obtain ⟨runs', hruns', rfl⟩ := hfiles (hmapM runs hruns)
    cases hruns.symm.trans hruns'
    exact hrun
  · refine exitCode_joined fun one hone => ?_
    obtain ⟨path, -, hcheck⟩ := exists_of_forall₂ (mapM_eq_ok_iff.1 hruns).flip hone
    exact failOn_of_check hcheck
  · rintro ⟨runs, hruns⟩ path hpath hsize
    exact hmapM runs hruns path hpath ((hlong path hpath).1 hsize)
  · obtain ⟨runs, hruns, -⟩ := hfiles fun path hpath hsize' =>
      hsize path hpath ((hlong path hpath).2 hsize')
    exact ⟨runs, hruns⟩
  · intro first second hfirst hsecond run
    exact lint_append hfirst hsecond
  · intro target e hread hdir hbad hsize
    have hcheck := check_of_unreadable hread hdir hbad hsize
    exact ⟨hcheck, fun before after hne run => lint_insert_unreadable hcheck hne⟩
  · intro targets target hmem hsize
    exact lint_of_too_long hmem hsize
  · intro targets hne hplain
    rw [lint_ok_iff h hreal (fun target hmem => (hplain target hmem).1) hne]
    refine forall₂_congr fun target hmem => ?_
    exact and_iff_left (not_null_of_join hreal (hplain target hmem).2)

/-- A project with one file, in which something is found, and a link that leads nowhere. -/
def smallTree : FileTree :=
  ⟨[(#["proj"], .directory), (#["proj", "b.ts"], .file requireBytes),
    (#["proj", "gone.ts"], .link "nowhere.ts")]⟩

theorem runs_compose_small : sampleProject.RunsCompose smallTree := by
  have hroot : smallTree.locate [] (.absolute ["proj"]) = .ok ⟨["proj"], some .directory⟩ :=
    FileTree.locate_absolute (by decide) (by decide) (by simp) (by decide) []
  have hopen : Project.open? smallTree [] {} (.absolute ["proj"]) = .ok sampleProject :=
    open?_of_locate (by decide) (by decide) hroot
  have hdir : smallTree.isDirectory [] sampleProject.rootPath = .ok true :=
    FileTree.isDirectory_eq_true_iff.2 ⟨_, hroot⟩
  exact runs_compose (by decide) (by decide) (by decide) hopen hdir

theorem locate_longName :
    smallTree.locate [] (sampleProject.rootPath.join ⟨.relative, [letters 256]⟩) =
      .error .nameTooLong := by
  have hnull : (["proj", letters 256].any (·.toList.contains (Char.ofNat 0))) = false := by
    rw [List.any_cons, List.any_cons, toList_letters]
    decide +kernel
  have hpath : ¬FileTree.maxPathBytes ≤
      (Path.mk .slash ["proj", letters 256]).toString.utf8ByteSize := by
    decide +kernel
  have hname : FileTree.maxNameBytes < (letters 256).utf8ByteSize := by decide +kernel
  have hstep : letters 256 ≠ ".." ∧ letters 256 ≠ "" ∧ letters 256 ≠ "." := by decide +kernel
  have hdir : smallTree.entry? ["proj"] = some .directory := by decide
  change smallTree.locate [] (.absolute ["proj", letters 256]) = _
  rw [FileTree.locate, FileTree.walk, Path.absolute, hnull, if_neg (by simp), if_neg hpath]
  simp [FileTree.start, Path.isAbsolute, FileTree.walkFrom, FileTree.slashStep, FileTree.dotStep,
    hdir, hstep, hname]

/-- A file whose name is too long cannot be read, and a run does not pass it over. -/
theorem lint_longName_fails :
    smallTree.read [] (sampleProject.rootPath.join ⟨.relative, [letters 256]⟩) =
        .error .nameTooLong ∧
      (∃ run, sampleProject.lint smallTree [⟨.relative, ["b.ts"]⟩] = .ok run) ∧
      sampleProject.lint smallTree [⟨.relative, [letters 256]⟩, ⟨.relative, ["b.ts"]⟩] =
        .error { cause := .nameTooLong } := by
  refine ⟨?_, ?_, lint_of_too_long List.mem_cons_self locate_longName⟩
  · rw [FileTree.read, locate_longName]
    rfl
  · have hlocate : smallTree.locate [] (sampleProject.rootPath.join ⟨.relative, ["b.ts"]⟩) =
        .ok ⟨["proj", "b.ts"], some (.file requireBytes)⟩ :=
      FileTree.locate_absolute (by decide) (by decide) (by simp) (by decide) []
    refine (lint_ok_iff (by decide) (by decide) (by decide) (by simp)).2 fun target hmem => ?_
    rw [List.mem_singleton.1 hmem, hlocate]
    exact ⟨by simp, by simp⟩

end LineLint.Project
