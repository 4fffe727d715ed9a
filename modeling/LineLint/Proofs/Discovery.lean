import LineLint.FileTree.Files
import LineLint.Proofs.Resolution
import Mathlib.Data.List.Lex
import Mathlib.Data.Option.Basic
import Mathlib.Data.String.Basic

/-!
# Files that are found below a directory

The files below a path have their entries below the directory where the path leads, and their own
paths lead to these entries. Main statements: `FileTree.mem_filesBelow` and
`FileTree.isDirectory_of_mem_filesBelow`, what is found is never a directory, though its path can
be too long to tell.
-/

namespace LineLint

/-- Paths are ordered as the lists of their components. -/
theorem Path.le_iff {p q : Path} : p.le q = true ↔ p.parts ≤ q.parts := by
  have hchar : (fun c d : Char => decide (c.toNat < d.toNat)) = fun c d => decide (c < d) := by
    funext c d
    rfl
  have hstring : (fun a b : String => a.toList.lex b.toList fun c d => decide (c.toNat < d.toNat)) =
      fun a b => decide (a < b) := by
    funext a b
    rw [hchar, Bool.eq_iff_iff, List.lex_eq_true_iff_lt, decide_eq_true_iff,
      String.lt_iff_toList_lt]
  rw [le, hstring, Bool.not_eq_true', ← Bool.not_eq_true, List.lex_eq_true_iff_lt, not_lt]

namespace FileTree

variable {t : FileTree} {cwd here : Location} {top path : Path} {enters wanted : String → Bool}

/-! ## Looking at a path -/

theorem isDirectory_eq (t : FileTree) (cwd : Location) (p : Path) :
    t.isDirectory cwd p = match t.locate cwd p with
      | .ok place => .ok (place.entry == some .directory)
      | .error .nameTooLong => .error .nameTooLong
      | .error _ => .ok false := by
  rw [isDirectory, find?]
  cases t.locate cwd p with
  | error e => cases e <;> rfl
  | ok place =>
    obtain ⟨location, entry⟩ := place
    cases entry with
    | none => rfl
    | some entry => cases entry <;> rfl

theorem isDirectory_eq_error_iff {e : AccessError} :
    t.isDirectory cwd path = .error e ↔
      e = .nameTooLong ∧ t.locate cwd path = .error .nameTooLong := by
  rw [isDirectory_eq]
  constructor
  · intro h
    split at h
    · cases h
    · rename_i hlocate
      cases h
      exact ⟨rfl, hlocate⟩
    · cases h
  · rintro ⟨rfl, hlocate⟩
    rw [hlocate]

theorem isDirectory_eq_true_iff :
    t.isDirectory cwd path = .ok true ↔
      ∃ here, t.locate cwd path = .ok ⟨here, some .directory⟩ := by
  rw [isDirectory_eq]
  constructor
  · intro h
    split at h
    · rename_i place hlocate
      obtain ⟨location, entry⟩ := place
      have hentry : entry = some .directory := by simpa using h
      exact ⟨location, by rw [hlocate, hentry]⟩
    · cases h
    · cases h
  · rintro ⟨here, hlocate⟩
    rw [hlocate]
    rfl

/-- No directory is seen at a path that is not too long and does not lead to one. -/
theorem isDirectory_eq_false (hsize : t.locate cwd path ≠ .error .nameTooLong)
    (hdir : t.isDirectory cwd path ≠ .ok true) : t.isDirectory cwd path = .ok false := by
  cases hfound : t.isDirectory cwd path with
  | error e => exact absurd (isDirectory_eq_error_iff.1 hfound).2 hsize
  | ok found =>
    cases found with
    | false => rfl
    | true => exact absurd hfound hdir

theorem read_eq_ok_iff {bytes : List UInt8} :
    t.read cwd path = .ok bytes ↔
      ∃ location, t.locate cwd path = .ok ⟨location, some (.file bytes)⟩ := by
  rw [read]
  cases t.locate cwd path with
  | error e =>
    constructor
    · intro h
      cases h
    · rintro ⟨_, h⟩
      cases h
  | ok place =>
    obtain ⟨location, entry⟩ := place
    constructor
    · intro h
      rcases entry with _ | (_ | bytes | _) <;> cases h
      exact ⟨location, rfl⟩
    · rintro ⟨_, h⟩
      cases h
      rfl

/-- Something stands at the end of a path that exists. -/
theorem locate_of_exists (h : t.exists? cwd path = .ok true) :
    ∃ place, t.locate cwd path = .ok place := by
  rw [exists?, find?] at h
  cases hfound : t.locate cwd path with
  | ok place => exact ⟨place, rfl⟩
  | error e =>
    rw [hfound] at h
    cases e <;> cases h

/-- What is a file can be read, and nothing else can. -/
theorem isFile_eq_true_iff :
    t.isFile cwd path = .ok true ↔ ∃ bytes, t.read cwd path = .ok bytes := by
  rw [isFile, find?, read]
  cases t.locate cwd path with
  | error e =>
    refine iff_of_false (fun h => ?_) (fun ⟨_, h⟩ => by cases h)
    cases e <;> cases h
  | ok place =>
    obtain ⟨location, entry⟩ := place
    rcases entry with _ | (_ | bytes | _) <;> simp [bind, Except.bind, pure, Except.pure, throw,
      throwThe, MonadExceptOf.throw]

theorem isFile_eq_error_iff {e : AccessError} : t.isFile cwd path = .error e ↔
    e = .nameTooLong ∧ t.locate cwd path = .error .nameTooLong := by
  rw [isFile, find?]
  cases t.locate cwd path with
  | error fault => cases fault <;> simp [bind, Except.bind, pure, Except.pure, eq_comm]
  | ok place =>
    obtain ⟨location, entry⟩ := place
    rcases entry with _ | (_ | bytes | _) <;> simp [bind, Except.bind, pure, Except.pure]

theorem isFile_eq_false_iff : t.isFile cwd path = .ok false ↔
    (∀ bytes, t.read cwd path ≠ .ok bytes) ∧ t.locate cwd path ≠ .error .nameTooLong := by
  rw [← not_exists, ← isFile_eq_true_iff]
  cases hfile : t.isFile cwd path with
  | error e => simp [(isFile_eq_error_iff.1 hfile).2]
  | ok found =>
    have hlocate : t.locate cwd path ≠ .error .nameTooLong := by
      intro hlocate
      cases hfile.symm.trans (isFile_eq_error_iff.2 ⟨rfl, hlocate⟩)
    cases found <;> simp [hlocate]

theorem read_eq_badName_iff :
    t.read cwd path = .error .badName ↔ t.locate cwd path = .error .badName := by
  rw [read]
  cases t.locate cwd path with
  | error e => simp [bind, Except.bind]
  | ok place =>
    obtain ⟨location, entry⟩ := place
    rcases entry with _ | (_ | bytes | _) <;> simp [bind, Except.bind, pure, Except.pure, throw,
      throwThe, MonadExceptOf.throw]

/-- Only the names of the path itself can be bad. -/
theorem walkFrom_ne_badName {purpose : Purpose} {links : Nat} {steps : List String} :
    t.walkFrom purpose links here steps ≠ .error .badName := by
  fun_induction walkFrom t purpose links here steps <;> simp_all

theorem locate_eq_badName_iff :
    t.locate cwd path = .error .badName ↔ ∃ name ∈ path.parts, Char.ofNat 0 ∈ name.toList := by
  constructor
  · intro h
    rw [locate, walk] at h
    split at h
    · rename_i hnull
      simpa using hnull
    · split at h
      · cases h
      · exact absurd h walkFrom_ne_badName
  · rintro ⟨name, hname, hnull⟩
    exact locate_of_null hname hnull

/-! ## What is found -/

theorem namesBelow?_eq_some_iff {location names : List String} :
    namesBelow? here location = some names ↔ names ≠ [] ∧ location = here ++ names := by
  rw [namesBelow?]
  constructor
  · intro h
    split_ifs at h with hbelow
    simp only [Bool.and_eq_true, List.isPrefixOf_iff_prefix, decide_eq_true_eq] at hbelow
    obtain ⟨⟨rest, rfl⟩, hlength⟩ := hbelow
    simp only [List.drop_left, Option.some.injEq] at h
    subst h
    refine ⟨?_, rfl⟩
    rintro rfl
    simp at hlength
  · rintro ⟨hne, rfl⟩
    have hlength := List.length_pos_iff.2 hne
    simp [hlength]

/-- An entry is found by the names that lead down to it: it may be looked for there, it is wanted,
it is not known to be a directory, and the directory that holds it can be opened. -/
structure Found (t : FileTree) (cwd : Location) (top : Path) (enters wanted : String → Bool)
    (names : List String) (entry : Entry) : Prop where
  ne_nil : names ≠ []
  entered : ∀ name ∈ names.dropLast, enters name = true
  wanted_last : ∀ name ∈ names.getLast?, wanted name = true
  not_directory : t.leadsToDirectory cwd { top with parts := top.parts ++ names } entry = false
  opened : (Path.mk top.root (top.parts ++ names)).parent.toString.utf8ByteSize < maxPathBytes

theorem pathBelow?_eq_some_iff {location : Location} {entry : Entry} :
    t.pathBelow? cwd here top enters wanted (location, entry) = some path ↔
      ∃ names, location = here ++ names ∧ path = { top with parts := top.parts ++ names } ∧
        t.Found cwd top enters wanted names entry := by
  simp only [pathBelow?, Option.bind_eq_bind, Option.bind_eq_some_iff, namesBelow?_eq_some_iff,
    Option.guard_eq_some', Bool.and_eq_true, List.all_eq_true, Bool.not_eq_true',
    decide_eq_true_eq, Option.pure_def, Option.some.injEq]
  constructor
  · rintro ⟨names, ⟨hne, hlocation⟩, name, hlast, _, ⟨⟨⟨hentered, hwanted⟩, hnot⟩, hopened⟩, hpath⟩
    refine ⟨names, hlocation, hpath.symm, hne, hentered, ?_, hnot, hopened⟩
    rintro _ hname
    cases hlast.symm.trans hname
    exact hwanted
  · rintro ⟨names, hlocation, hpath, hne, hentered, hwanted, hnot, hopened⟩
    have hlast := List.getLast?_eq_some_getLast hne
    exact ⟨names, ⟨hne, hlocation⟩, _, hlast, (),
      ⟨⟨⟨hentered, hwanted _ hlast⟩, hnot⟩, hopened⟩, hpath.symm⟩

/-- The files below a path, if that leads to a directory. -/
theorem mem_filesBelow :
    path ∈ t.filesBelow cwd top enters wanted ↔
      ∃ here names entry, t.locate cwd top = .ok ⟨here, some .directory⟩ ∧
        (here ++ names, entry) ∈ t.toList ∧ path = { top with parts := top.parts ++ names } ∧
        t.Found cwd top enters wanted names entry := by
  rw [filesBelow]
  split
  · rename_i here hlocate
    rw [List.mem_mergeSort, List.mem_filterMap]
    constructor
    · rintro ⟨⟨location, entry⟩, hrow, hpath⟩
      obtain ⟨names, rfl, hpath, hfound⟩ := pathBelow?_eq_some_iff.1 hpath
      exact ⟨here, names, entry, hlocate, hrow, hpath, hfound⟩
    · rintro ⟨here', names, entry, hlocate', hrow, hpath, hfound⟩
      cases hlocate.symm.trans hlocate'
      exact ⟨_, hrow, pathBelow?_eq_some_iff.2 ⟨names, rfl, hpath, hfound⟩⟩
  · rename_i hlocate
    constructor
    · intro h
      cases h
    · rintro ⟨here, _, _, hlocate', -⟩
      exact absurd hlocate' (hlocate here)

/-! ## Where the found paths lead -/

theorem locate_of_found (h : t.Sound) {names : List String} {entry : Entry}
    (hlocate : t.locate cwd top = .ok ⟨here, some .directory⟩)
    (hrow : (here ++ names, entry) ∈ t.toList) (hlink : ∀ target, entry ≠ .link target)
    (hpath : path = { top with parts := top.parts ++ names })
    (hsize : path.toString.utf8ByteSize < maxPathBytes) :
    t.locate cwd path = .ok ⟨here ++ names, some entry⟩ := by
  obtain ⟨hnull, -, hhere, n, hn, hleads⟩ := locate_eq_ok_iff.1 hlocate
  have hentry := entry?_of_mem h.toWellFormed hrow
  subst hpath
  refine locate_eq_ok_iff.2 ⟨?_, hsize, hentry.symm, n, hn, ?_⟩
  · intro name hname
    rcases List.mem_append.1 hname with hname | hname
    · exact hnull name hname
    · exact (h.isReal_below hrow name hname).no_null
  · exact hleads.append hhere.symm (leads_entry h hentry hlink)

theorem isPlain_of_mem_filesBelow (h : t.Sound) (htop : top.IsPlain)
    (hpath : path ∈ t.filesBelow cwd top enters wanted) : path.IsPlain := by
  obtain ⟨here, names, entry, -, hrow, rfl, -⟩ := mem_filesBelow.1 hpath
  exact htop.append (h.isReal_below hrow).plainNames

theorem no_null_of_mem_filesBelow (h : t.Sound)
    (hpath : path ∈ t.filesBelow cwd top enters wanted) :
    ∀ name ∈ path.parts, Char.ofNat 0 ∉ name.toList := by
  obtain ⟨here, names, entry, hlocate, hrow, rfl, -⟩ := mem_filesBelow.1 hpath
  intro name hname
  rcases List.mem_append.1 hname with hname | hname
  · exact (locate_eq_ok_iff.1 hlocate).1 name hname
  · exact (h.isReal_below hrow name hname).no_null

/-- What is found is not a directory, though its path may be too long to tell. -/
theorem isDirectory_of_mem_filesBelow (h : t.Sound)
    (hpath : path ∈ t.filesBelow cwd top enters wanted) : t.isDirectory cwd path ≠ .ok true := by
  obtain ⟨here, names, entry, hlocate, hrow, hat, hfound⟩ := mem_filesBelow.1 hpath
  intro hdir
  -- only for a link did discovery look where it leads
  cases entry with
  | directory => exact absurd hfound.not_directory (by simp [leadsToDirectory])
  | file bytes =>
    obtain ⟨there, hthere⟩ := isDirectory_eq_true_iff.1 hdir
    have hsize := (locate_eq_ok_iff.1 hthere).2.1
    have hfile := locate_of_found h hlocate hrow (by simp) hat hsize
    cases hthere.symm.trans hfile
  | link target =>
    have hnot := hfound.not_directory
    rw [leadsToDirectory, ← hat, hdir] at hnot
    cases hnot

/-! ## The order of what is found -/

theorem pathBelow?_inj {location location' : Location} {entry entry' : Entry}
    (hpath : t.pathBelow? cwd here top enters wanted (location, entry) = some path)
    (hpath' : t.pathBelow? cwd here top enters wanted (location', entry') = some path) :
    location = location' := by
  obtain ⟨names, rfl, rfl, -⟩ := pathBelow?_eq_some_iff.1 hpath
  obtain ⟨names', rfl, heq, -⟩ := pathBelow?_eq_some_iff.1 hpath'
  simp only [Path.mk.injEq, true_and, List.append_cancel_left_eq] at heq
  rw [heq]

theorem nodup_filesBelow (h : t.WellFormed) : (t.filesBelow cwd top enters wanted).Nodup := by
  rw [filesBelow]
  split
  · rename_i here _
    rw [(List.mergeSort_perm _ _).nodup_iff]
    refine List.Pairwise.filterMap _ (S := (· ≠ ·)) ?_ (List.pairwise_map.1 h.nodup)
    rintro ⟨location, entry⟩ ⟨location', entry'⟩ hne path hpath path' hpath' rfl
    exact hne (pathBelow?_inj hpath hpath')
  · exact .nil

theorem root_of_mem_filesBelow (hpath : path ∈ t.filesBelow cwd top enters wanted) :
    path.root = top.root := by
  obtain ⟨here, names, entry, -, -, rfl, -⟩ := mem_filesBelow.1 hpath
  rfl

/-- The files are listed by their components, and none twice. -/
theorem filesBelow_pairwise (h : t.WellFormed) :
    (t.filesBelow cwd top enters wanted).Pairwise fun p q => p.parts < q.parts := by
  have hsorted : (t.filesBelow cwd top enters wanted).Pairwise fun p q => p.le q = true := by
    rw [filesBelow]
    split
    · refine List.pairwise_mergeSort (fun p q r => ?_) (fun p q => ?_) _
      · simpa only [Path.le_iff] using le_trans
      · simpa only [Bool.or_eq_true, Path.le_iff] using le_total p.parts q.parts
    · exact .nil
  -- the order does not see how a path begins, but all of these begin alike
  have hroots : ∀ p ∈ t.filesBelow cwd top enters wanted, ∀ q ∈ t.filesBelow cwd top enters wanted,
      p.le q = true → p ≠ q → p.parts < q.parts := by
    intro p hp q hq hle hne
    refine lt_of_le_of_ne (Path.le_iff.1 hle) fun hparts => hne ?_
    have hroot := (root_of_mem_filesBelow hp).trans (root_of_mem_filesBelow hq).symm
    obtain ⟨root, parts⟩ := p
    obtain ⟨root', parts'⟩ := q
    cases hroot
    cases hparts
    rfl
  refine (hsorted.and (nodup_filesBelow h)).imp_of_mem fun hp hq hpq => ?_
  exact hroots _ hp _ hq hpq.1 hpq.2

end FileTree

end LineLint
