import LineLint.Proofs.Listing
import LineLint.Proofs.RunOrder

/-!
# Runs over one directory

Below a directory that a run over the whole project enters, a run over that directory alone finds
the same files. They stand next to each other among all files, since files are in the order of their
components, so what is said of them is one piece of what the run over the whole project says. Main
statement: `Project.lint_directory`.
-/

namespace LineLint

/-! ## Pieces of a sorted list -/

section

variable {α : Type} {R : α → α → Prop} {P : α → Bool}

/-- What lies between two elements with a property has it as well. -/
def Convex (R : α → α → Prop) (P : α → Bool) : Prop :=
  ∀ a b c, R a b → R b c → P a = true → P c = true → P b = true

theorem Convex.isPrefix_filter (hconvex : Convex R P) {a : α} {l : List α} (ha : P a = true)
    (hsorted : (a :: l).Pairwise R) : l.filter P <+: l := by
  induction l with
  | nil => exact List.prefix_rfl
  | cons b rest ih =>
    rw [List.pairwise_cons] at hsorted
    obtain ⟨hafter, hrest⟩ := hsorted
    by_cases hb : P b = true
    · rw [List.filter_cons_of_pos hb, List.prefix_cons_inj]
      refine ih (List.pairwise_cons.2 ⟨fun c hc => hafter c (List.mem_cons_of_mem b hc), ?_⟩)
      exact (List.pairwise_cons.1 hrest).2
    · -- after the first element without the property there is none with it
      have hnone : rest.filter P = [] := by
        rw [List.filter_eq_nil_iff]
        intro c hc hPc
        exact hb (hconvex a b c (hafter b List.mem_cons_self) ((List.pairwise_cons.1 hrest).1 c hc)
          ha hPc)
      rw [List.filter_cons_of_neg hb, hnone]
      exact List.nil_prefix

/-- In a sorted list the elements with such a property stand next to each other. -/
theorem Convex.isInfix_filter (hconvex : Convex R P) {l : List α} (hsorted : l.Pairwise R) :
    l.filter P <:+: l := by
  induction l with
  | nil => exact List.infix_rfl
  | cons a rest ih =>
    by_cases ha : P a = true
    · rw [List.filter_cons_of_pos ha]
      exact ((List.prefix_cons_inj a).2 (hconvex.isPrefix_filter ha hsorted)).isInfix
    · rw [List.filter_cons_of_neg ha]
      exact List.infix_cons (ih (List.pairwise_cons.1 hsorted).2)

end

/-- Between two paths below a directory there are only paths below it. -/
theorem isPrefix_of_between {front first middle last : List String} (hfirst : front <+: first)
    (hlast : front <+: last) (hlt : first < middle) (hlt' : middle < last) : front <+: middle := by
  induction front generalizing first middle last with
  | nil => exact List.nil_prefix
  | cons name front ih =>
    obtain ⟨first, rfl⟩ : ∃ rest, first = name :: rest := by
      obtain ⟨rest, rfl⟩ := hfirst
      exact ⟨front ++ rest, rfl⟩
    obtain ⟨last, rfl⟩ : ∃ rest, last = name :: rest := by
      obtain ⟨rest, rfl⟩ := hlast
      exact ⟨front ++ rest, rfl⟩
    cases middle with
    | nil => cases hlt
    | cons other middle =>
      rw [List.cons_lt_cons_iff] at hlt hlt'
      have hle : name ≤ other := hlt.elim le_of_lt fun h => h.1.le
      have hge : other ≤ name := hlt'.elim le_of_lt fun h => h.1.le
      obtain rfl := le_antisymm hle hge
      rw [List.prefix_cons_inj] at hfirst hlast ⊢
      refine ih hfirst hlast ?_ ?_
      · exact (hlt.resolve_left (lt_irrefl _)).2
      · exact (hlt'.resolve_left (lt_irrefl _)).2

namespace Project

variable {p : Project} {t : FileTree} {dirs : List String} {target path : Path}

/-! ## The files below a directory -/

/-- Whether a path goes on from a location. -/
def isBelow (location : Location) (path : Path) : Bool := location.isPrefixOf path.parts

theorem isBelow_iff {location : Location} : isBelow location path = true ↔
    location <+: path.parts :=
  List.isPrefixOf_iff_prefix

theorem convex_isBelow (location : Location) :
    Convex (fun first second : Path => first.parts < second.parts) (isBelow location) := by
  intro first middle last hlt hlt' hfirst hlast
  rw [isBelow_iff] at hfirst hlast ⊢
  exact isPrefix_of_between hfirst hlast hlt hlt'

section

variable (h : t.Sound) (hdir : t.entry? (p.root ++ dirs) = some .directory)
  (hentered : ∀ dir ∈ dirs, .text dir ∉ p.settings.excludeDirs)
  (hsize : (Path.absolute (p.root ++ dirs)).toString.utf8ByteSize < FileTree.maxPathBytes)

include h hdir hsize

theorem locate_root_of_below :
    t.locate [] p.rootPath = .ok ⟨p.root, some .directory⟩ := by
  have hroot : t.entry? p.root = some .directory := by
    by_cases hdirs : dirs = []
    · rwa [hdirs, List.append_nil] at hdir
    · exact FileTree.entry?_of_append h.toWellFormed hdirs hdir
  exact FileTree.locate_absolute h hroot (by simp) (Path.size_lt_of_append hsize) []

include hentered

theorem mem_filesIn_below : path ∈ p.filesIn t (.absolute (p.root ++ dirs)) ↔
    path ∈ p.files t ∧ p.root ++ dirs <+: path.parts := by
  have hhere := FileTree.locate_absolute h hdir (by simp) hsize []
  have hroot : t.locate [] p.rootPath = .ok ⟨p.root, some .directory⟩ :=
    locate_root_of_below h hdir hsize
  rw [files, filesIn, filesIn, FileTree.mem_filesBelow, FileTree.mem_filesBelow]
  constructor
  · rintro ⟨here, names, entry, hlocate, hrow, rfl, hfound⟩
    cases hhere.symm.trans hlocate
    have hparts : (p.root ++ dirs) ++ names = p.root ++ (dirs ++ names) := List.append_assoc _ _ _
    rw [hparts] at hrow
    refine ⟨⟨p.root, dirs ++ names, entry, hroot, hrow, ?_, ?_⟩, List.prefix_append _ _⟩
    · simp [Path.absolute, rootPath]
    · refine ⟨by simp [hfound.ne_nil], fun name hname => ?_, fun name hname => ?_, ?_, ?_⟩
      · rw [List.dropLast_append_of_ne_nil hfound.ne_nil] at hname
        rcases List.mem_append.1 hname with hname | hname
        · exact (enters_iff _ _).2 (hentered name hname)
        · exact hfound.entered name hname
      · rw [List.getLast?_append_of_ne_nil _ hfound.ne_nil] at hname
        exact hfound.wanted_last name hname
      · simpa [Path.absolute, rootPath] using hfound.not_directory
      · simpa [Path.absolute, rootPath] using hfound.opened
  · rintro ⟨⟨here, names, entry, hlocate, hrow, rfl, hfound⟩, hfront⟩
    cases hroot.symm.trans hlocate
    have hbelow : dirs <+: names := (List.prefix_append_right_inj _).1 hfront
    obtain ⟨rest, rfl⟩ := hbelow
    have hparts : p.root ++ (dirs ++ rest) = (p.root ++ dirs) ++ rest :=
      (List.append_assoc _ _ _).symm
    -- the directory itself is not listed
    have hrest : rest ≠ [] := by
      rintro rfl
      rw [List.append_nil] at hrow
      cases hdir.symm.trans (FileTree.entry?_of_mem h.toWellFormed hrow)
      cases hfound.not_directory
    rw [hparts] at hrow
    refine ⟨p.root ++ dirs, rest, entry, hhere, hrow, ?_, hrest, fun name hname => ?_,
      fun name hname => ?_, ?_, ?_⟩
    · simp [Path.absolute, rootPath]
    · refine hfound.entered name ?_
      rw [List.dropLast_append_of_ne_nil hrest]
      exact List.mem_append_right _ hname
    · refine hfound.wanted_last name ?_
      rwa [List.getLast?_append_of_ne_nil _ hrest]
    · simpa [Path.absolute, rootPath] using hfound.not_directory
    · simpa [Path.absolute, rootPath] using hfound.opened

theorem filesIn_below : p.filesIn t (.absolute (p.root ++ dirs)) =
    (p.files t).filter (isBelow (p.root ++ dirs)) := by
  have hirrefl : Std.Irrefl fun first second : Path => first.parts < second.parts :=
    ⟨fun first => lt_irrefl first.parts⟩
  have hantisymm : Std.Antisymm fun first second : Path => first.parts < second.parts :=
    ⟨fun first second hlt hgt => absurd hgt (lt_asymm hlt)⟩
  have hall : (p.files t).Pairwise fun first second => first.parts < second.parts :=
    FileTree.filesBelow_pairwise h.toWellFormed
  refine (FileTree.filesBelow_pairwise h.toWellFormed).eq_of_mem_iff (hall.filter _) fun path => ?_
  rw [List.mem_filter, isBelow_iff]
  exact mem_filesIn_below h hdir hentered hsize

/-- The files below a directory stand next to each other among all files. -/
theorem exists_files_eq_append : ∃ first last, p.files t =
    first ++ p.filesIn t (.absolute (p.root ++ dirs)) ++ last := by
  have hall : (p.files t).Pairwise fun first second => first.parts < second.parts :=
    FileTree.filesBelow_pairwise h.toWellFormed
  rw [filesIn_below h hdir hentered hsize]
  obtain ⟨first, last, heq⟩ := (convex_isBelow (p.root ++ dirs)).isInfix_filter hall
  exact ⟨first, last, heq.symm⟩

end

/-! ## Runs -/

/-- A run over a directory is the run over the files below it. -/
theorem lint_of_isDirectory (hplain : (p.rootPath.join target).IsPlain) (h : t.Sound)
    (hdir : t.isDirectory [] (p.rootPath.join target) = .ok true) :
    ∃ run, p.lint t [target] = .ok run ∧
      run.1.violations = (p.filesIn t (p.rootPath.join target)).flatMap (p.violationsAt t) := by
  obtain ⟨outcomes, hgive⟩ := exists_filesGive_filesIn (p := p) h hplain
  have hcheck : p.check t target = .ok (p.reportOf outcomes) :=
    check_eq_ok_iff.2 ⟨_, outcomes, expand_of_isDirectory hdir, hgive, rfl⟩
  exact ⟨_, hcheck, violations_of_filesGive hgive⟩

/-- A run over a directory below the root that a run over the whole project enters has a result if
and only if the path of the directory is not too long. What it says is then one piece of what the
run over the whole project says: what that says of the files with paths below the directory. -/
theorem lint_directory (h : t.Sound) (hdir : t.entry? (p.root ++ dirs) = some .directory)
    (hentered : ∀ dir ∈ dirs, .text dir ∉ p.settings.excludeDirs)
    (htarget : p.rootPath.join target = .absolute (p.root ++ dirs)) :
    ((∃ run, p.lint t [target] = .ok run) ↔
      (Path.absolute (p.root ++ dirs)).toString.utf8ByteSize < FileTree.maxPathBytes) ∧
    ∀ run, p.lint t [target] = .ok run → ∃ whole first within last,
      p.lint t [] = .ok whole ∧ p.files t = first ++ within ++ last ∧
      (∀ path ∈ p.files t, path ∈ within ↔ p.root ++ dirs <+: path.parts) ∧
      run.1.violations = within.flatMap (p.violationsAt t) ∧
      whole.1.violations = first.flatMap (p.violationsAt t) ++ run.1.violations ++
        last.flatMap (p.violationsAt t) := by
  have hreal : Location.IsReal (p.root ++ dirs) := h.isReal_of_entry?_eq hdir
  have hplain : (p.rootPath.join target).IsPlain := by
    rw [htarget]
    exact hreal.plainNames
  have hlong : ¬(Path.absolute (p.root ++ dirs)).toString.utf8ByteSize < FileTree.maxPathBytes →
      p.lint t [target] = .error { cause := .nameTooLong } := by
    intro hsize
    refine lint_of_too_long (List.mem_singleton_self target) ?_
    rw [htarget]
    exact FileTree.locate_of_long hreal (Nat.not_lt.1 hsize) []
  have hshort : (Path.absolute (p.root ++ dirs)).toString.utf8ByteSize < FileTree.maxPathBytes →
      ∃ run, p.lint t [target] = .ok run ∧ run.1.violations =
        (p.filesIn t (.absolute (p.root ++ dirs))).flatMap (p.violationsAt t) := by
    intro hsize
    rw [← htarget]
    refine lint_of_isDirectory hplain h (FileTree.isDirectory_eq_true_iff.2 ⟨p.root ++ dirs, ?_⟩)
    rw [htarget]
    exact FileTree.locate_absolute h hdir (by simp) hsize []
  refine ⟨⟨?_, fun hsize => (hshort hsize).imp fun _ hrun => hrun.1⟩, ?_⟩
  · rintro ⟨run, hrun⟩
    by_contra hsize
    cases hrun.symm.trans (hlong hsize)
  · intro run hrun
    have hsize : (Path.absolute (p.root ++ dirs)).toString.utf8ByteSize <
        FileTree.maxPathBytes := by
      by_contra hsize
      cases hrun.symm.trans (hlong hsize)
    obtain ⟨run', hrun', hviolations⟩ := hshort hsize
    cases hrun.symm.trans hrun'
    obtain ⟨first, last, hfiles⟩ := exists_files_eq_append h hdir hentered hsize
    have hroot : Location.IsReal p.root :=
      fun name hname => hreal name (List.mem_append_left _ hname)
    obtain ⟨r, warnings, hwhole⟩ := exists_lint (p := p) h hroot
    refine ⟨(r, warnings), first, _, last, hwhole, hfiles, fun path hpath => ?_, hviolations, ?_⟩
    · rw [mem_filesIn_below h hdir hentered hsize]
      exact and_iff_right hpath
    · rw [hviolations, ← List.flatMap_append, ← List.flatMap_append, ← hfiles]
      exact violations_of_lint hwhole

theorem lint_directory_nested :
    nestedTree.Sound ∧ nestedTree.entry? (sampleProject.root ++ ["a"]) = some .directory ∧
      ∃ run whole first within last,
        sampleProject.lint nestedTree [⟨.relative, ["a"]⟩] = .ok run ∧
        sampleProject.lint nestedTree [] = .ok whole ∧
        sampleProject.files nestedTree = first ++ within ++ last ∧
        (∀ path ∈ sampleProject.files nestedTree,
          path ∈ within ↔ sampleProject.root ++ ["a"] <+: path.parts) ∧
        requireCall "a/x.ts" ∈ run.1.violations ∧ requireCall "a-b/x.ts" ∈ whole.1.violations ∧
        whole.1.violations = first.flatMap (sampleProject.violationsAt nestedTree) ++
          run.1.violations ++ last.flatMap (sampleProject.violationsAt nestedTree) := by
  have hsound : nestedTree.Sound := by decide
  have hdir : nestedTree.entry? (sampleProject.root ++ ["a"]) = some .directory := by decide
  have htarget : sampleProject.rootPath.join ⟨.relative, ["a"]⟩ =
      .absolute (sampleProject.root ++ ["a"]) := rfl
  obtain ⟨hresult, hpiece⟩ := lint_directory hsound hdir (by decide) htarget
  obtain ⟨run, hrun⟩ := hresult.2 (by decide)
  obtain ⟨whole, first, within, last, hwhole, hfiles, hwithin, hpart, hviolations⟩ :=
    hpiece run hrun
  have hentry : nestedTree.entry? (sampleProject.root ++ (["a"] ++ ["x.ts"])) =
      some (.file requireBytes) := by decide
  have hpath := mem_files_of_entry hsound hentry (by decide) (by decide) (by decide)
  have hfound : requireCall "a/x.ts" ∈ run.1.violations := by
    rw [hpart]
    refine List.mem_flatMap.2 ⟨_, (hwithin _ hpath).2 (by decide), ?_⟩
    rw [violationsAt_of_entry hsound hentry (by decide)]
    exact Settings.requireCall_mem_lintText rfl _
  exact ⟨hsound, hdir, run, whole, first, within, last, hrun, hwhole, hfiles, hwithin, hfound,
    requireCall_mem_nestedTree hwhole _ (by decide), hviolations⟩

/-! ## Directories that are too deep -/

/-- So many directories, one in another, each with a name as long as a name can be. -/
def deepTree (n : ℕ) : FileTree :=
  ⟨(List.range (n + 1)).map fun depth =>
    (("proj" :: List.replicate depth deepName).toArray, .directory)⟩

theorem mem_deepTree {n : ℕ} {row : Location × Entry} (hrow : row ∈ (deepTree n).toList) :
    ∃ depth ≤ n, row = ("proj" :: List.replicate depth deepName, .directory) := by
  simp only [FileTree.toList, deepTree, List.map_map, List.mem_map, List.mem_range,
    Nat.lt_succ_iff, Function.comp_def] at hrow
  obtain ⟨depth, hdepth, rfl⟩ := hrow
  exact ⟨depth, hdepth, rfl⟩

theorem entry?_deepTree {n depth : ℕ} (hdepth : depth ≤ n) :
    FileTree.entry? (deepTree n) ("proj" :: List.replicate depth deepName) = some .directory := by
  have hkeys : ((deepTree n).entries.map Prod.fst).Nodup := by
    rw [deepTree, List.map_map]
    refine List.nodup_range.map fun first second hsame => ?_
    simpa using congrArg Array.size hsame
  refine FileTree.lookup_of_mem hkeys (List.mem_map.2 ⟨depth, ?_, rfl⟩)
  exact List.mem_range.2 (Nat.lt_succ_of_le hdepth)

theorem sound_deepTree (n : ℕ) : (deepTree n).Sound := by
  have hdeep : IsName deepName ∧ deepName.utf8ByteSize ≤ FileTree.maxNameBytes :=
    fits_letters (by decide) (by decide)
  refine ⟨⟨?_, ?_, ?_⟩, ?_, ?_⟩
  · have hlocations : (deepTree n).toList.map Prod.fst =
        (List.range (n + 1)).map fun depth => "proj" :: List.replicate depth deepName := by
      simp [FileTree.toList, deepTree, Function.comp_def]
    rw [hlocations]
    refine List.nodup_range.map fun first second hsame => ?_
    simpa using congrArg List.length hsame
  · intro row hrow
    obtain ⟨depth, -, rfl⟩ := mem_deepTree hrow
    simp
  · intro row hrow
    obtain ⟨depth, hdepth, rfl⟩ := mem_deepTree hrow
    cases depth with
    | zero => rfl
    | succ depth =>
      have hparent : ("proj" :: List.replicate (depth + 1) deepName).dropLast =
          "proj" :: List.replicate depth deepName := by
        rw [List.replicate_succ', ← List.cons_append, List.dropLast_concat]
      rw [hparent]
      exact entry?_deepTree (Nat.le_of_succ_le hdepth)
  · intro row hrow name hname
    obtain ⟨depth, -, rfl⟩ := mem_deepTree hrow
    rcases List.mem_cons.1 hname with rfl | hname
    · decide
    · rw [List.eq_of_mem_replicate hname]
      exact hdeep
  · intro row hrow target hlink
    obtain ⟨depth, -, rfl⟩ := mem_deepTree hrow
    cases hlink

/-- A directory whose path is too long is passed over by the run over the whole project, and a run
over it alone fails. -/
theorem lint_deep_fails :
    (deepTree 16).Sound ∧
      FileTree.entry? (deepTree 16) (sampleProject.root ++ List.replicate 16 deepName) =
        some .directory ∧
      (∀ dir ∈ List.replicate 16 deepName, .text dir ∉ sampleProject.settings.excludeDirs) ∧
      (∃ whole, sampleProject.lint (deepTree 16) [] = .ok whole) ∧
      sampleProject.lint (deepTree 16) [⟨.relative, List.replicate 16 deepName⟩] =
        .error { cause := .nameTooLong } := by
  have hdir : FileTree.entry? (deepTree 16) (sampleProject.root ++ List.replicate 16 deepName) =
      some .directory := entry?_deepTree (Nat.le_refl 16)
  have hreal := (sound_deepTree 16).isReal_of_entry?_eq hdir
  have hroot : Location.IsReal sampleProject.root := by decide
  obtain ⟨r, warnings, hwhole⟩ := exists_lint (p := sampleProject) (sound_deepTree 16) hroot
  refine ⟨sound_deepTree 16, hdir, fun dir hmem => ?_, ⟨_, hwhole⟩, ?_⟩
  · rw [List.eq_of_mem_replicate hmem]
    decide +kernel
  · have hlong : FileTree.maxPathBytes ≤ (Path.absolute
        (sampleProject.root ++ List.replicate 16 deepName)).toString.utf8ByteSize := by
      decide +kernel
    exact lint_of_too_long (List.mem_singleton_self _) (FileTree.locate_of_long hreal hlong [])

end Project

end LineLint
