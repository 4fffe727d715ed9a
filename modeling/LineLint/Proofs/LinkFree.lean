import LineLint.Proofs.RunOrder
import LineLint.Proofs.Writing

/-!
# Trees without links

Without links a path leads where its names say, whatever else is in the tree: a name goes down and
two dots go up. Main statements: `FileTree.resolve_eq`, `FileTree.location_of_locate`, and
`FileTree.find?_absolute`, what is found at a location is what stands there.
-/

namespace LineLint.FileTree

variable {t : FileTree} {cwd here there location : Location} {names more steps : List String}
  {name : String} {entry : Entry} {p : Path} {place : Place} {links n : ℕ} {purpose : Purpose}

/-! ## Going down and up -/

theorem descend_nil : descend here [] = here := rfl

theorem descend_up : descend here (".." :: names) = descend here.dropLast names := rfl

theorem descend_name (hname : name ≠ "..") :
    descend here (name :: names) = descend (here ++ [name]) names := by
  simp [descend, hname]

theorem descend_append : descend here (names ++ more) = descend (descend here names) more :=
  List.foldl_append

theorem descend_of_isReal (hreal : Location.IsReal names) : descend here names = here ++ names := by
  induction names generalizing here with
  | nil => exact (List.append_nil here).symm
  | cons name names ih =>
    rw [descend_name (hreal name List.mem_cons_self).ne_up, List.append_cons here name names]
    exact ih fun other hother => hreal other (List.mem_cons_of_mem _ hother)

theorem isReal_descend (hhere : Location.IsReal here) (hplain : PlainNames names)
    (hnull : ∀ name ∈ names, Char.ofNat 0 ∉ name.toList) :
    Location.IsReal (descend here names) := by
  intro name hname
  rcases mem_of_mem_descend hname with hmem | ⟨hmem, hup⟩
  · exact hhere name hmem
  · obtain ⟨hempty, hdot, hslash⟩ := hplain name hmem
    exact ⟨hempty, hdot, hup, hslash, hnull name hmem⟩

/-- The location that a path leads to if no link is on its way. -/
def placeOf (cwd : Location) (p : Path) : Location := descend (start cwd p) p.parts

theorem placeOf_absolute (hreal : Location.IsReal location) :
    placeOf cwd (.absolute location) = location :=
  descend_of_isReal hreal

/-! ## Links -/

theorem LinkFree.ne_link (hfree : t.LinkFree) (location : Location) (target : String) :
    t.entry? location ≠ some (.link target) := by
  intro hlink
  by_cases hne : location = []
  · rw [hne] at hlink
    cases hlink
  · cases hfree _ (mem_of_entry?_eq hne hlink)

theorem LinkFree.loopFree (h : t.Sound) (hfree : t.LinkFree) : t.LoopFree :=
  (loopFree_iff h).2 fun _ _ hlink => absurd hlink (hfree.ne_link _ _)

theorem LinkFree.insert (hfree : t.LinkFree) (hentry : entry.target? = none) :
    (t.insert location entry).LinkFree := by
  intro row hrow
  rcases mem_toList_insert hrow with rfl | hrow
  · exact hentry
  · exact hfree row hrow

/-! ## Walks -/

theorem Leads.eq_descend (hfree : t.LinkFree) (h : t.Leads here steps n there)
    (hplain : PlainNames steps) : there = descend here steps := by
  induction h with
  | done => rfl
  | up _ ih => exact ih hplain.tail
  | stay hstep =>
    obtain ⟨hempty, hdot, -⟩ := hplain _ List.mem_cons_self
    exact absurd hstep (not_or.2 ⟨hempty, hdot⟩)
  | enter hname _ _ ih =>
    rw [descend_name hname.ne_up]
    exact ih hplain.tail
  | reach hname => rw [descend_name hname.ne_up, descend_nil]
  | follow _ hlink => exact absurd hlink (hfree.ne_link _ _)

/-- A path that can be walked leads to its place. -/
theorem location_of_locate (hfree : t.LinkFree) (hp : p.IsPlain)
    (hlocate : t.locate cwd p = .ok place) :
    place = ⟨placeOf cwd p, t.entry? (placeOf cwd p)⟩ := by
  obtain ⟨-, -, hentry, n, -, hleads⟩ := locate_eq_ok_iff.1 hlocate
  have hlocation : place.location = placeOf cwd p := hleads.eq_descend hfree hp
  rw [← hlocation, ← hentry]

/-- What a walk is for matters only at a link. -/
theorem walkFrom_entry_eq (hfree : t.LinkFree) :
    t.walkFrom .entry links here steps = t.walkFrom .target links here steps := by
  fun_induction walkFrom t .target links here steps with
  | case1 => rw [walkFrom]
  | case2 links here name rest hup ih => rw [walkFrom, if_pos hup, ih]
  | case3 links here name rest hup hstay ih => rw [walkFrom, if_neg hup, if_pos hstay, ih]
  | case4 links here name rest hup hstay hsize =>
    rw [walkFrom, if_neg hup, if_neg hstay, if_pos hsize]
  | case8 links here name rest hup hstay hsize place hdir ih =>
    rw [walkFrom, if_neg hup, if_neg hstay, if_neg hsize, ← ih]
    simp only [place] at hdir
    simp only [hdir, place]
  | case5 links here name rest hup hstay hsize place hentry
  | case7 links here name rest hup hstay hsize place hentry
  | case9 links here name rest hup hstay hsize place bytes hentry
  | case11 links here name rest hup hstay hsize place bytes hentry =>
    rw [walkFrom, if_neg hup, if_neg hstay, if_neg hsize]
    simp only [place] at hentry
    simp_all [place]
  | _ => simp_all [hfree.ne_link]

theorem walk_entry_eq (hfree : t.LinkFree) : t.walk .entry cwd p = t.locate cwd p := by
  rw [locate, walk, walk, walkFrom_entry_eq hfree]

/-- A name that is too long is looked at as soon as the walk comes to it. -/
theorem walkFrom_of_long (hname : IsName name) (hlong : maxNameBytes < name.utf8ByteSize) :
    t.walkFrom purpose links here (name :: names) = .error .nameTooLong := by
  simp [walkFrom, slashStep, dotStep, hname.ne_up, hname.ne_empty, hname.ne_dot, hlong]

/-- Names that a directory can hold are never too long. -/
theorem walkFrom_ne_nameTooLong (hfree : t.LinkFree)
    (hfits : ∀ name ∈ steps, name.utf8ByteSize ≤ maxNameBytes) :
    t.walkFrom purpose links here steps ≠ .error .nameTooLong := by
  fun_induction walkFrom t purpose links here steps with
  | case2 _ _ _ _ _ ih | case3 _ _ _ _ _ _ ih | case8 _ _ _ _ _ _ _ _ _ ih =>
    exact ih fun other hother => hfits other (List.mem_cons_of_mem _ hother)
  | case4 links here name rest hup hstay hsize =>
    exact absurd hsize (Nat.not_lt.2 (hfits name List.mem_cons_self))
  | case13 _ _ _ _ _ _ _ _ hlink | case14 _ _ _ _ _ _ _ _ hlink =>
    exact absurd hlink (hfree.ne_link _ _)
  | _ => simp

/-! ## Resolving -/

theorem resolveFrom_eq (hfree : t.LinkFree) (depth : ℕ) (opened : List Location) :
    t.resolveFrom depth opened here names =
      if names.any (·.toList.contains (Char.ofNat 0)) then .error .badName
      else .ok (.complete (descend here names)) := by
  induction names generalizing here with
  | nil => simp [resolveFrom, descend_nil]
  | cons name names ih =>
    rw [resolveFrom, List.any_cons]
    by_cases hup : name = ".."
    · have hnone : "..".toList.contains (Char.ofNat 0) = false := by decide
      rw [hup, if_pos BEq.rfl, ih, hnone, Bool.false_or, descend_up]
    · rw [if_neg (by simpa using hup), descend_name hup]
      by_cases hnull : name.toList.contains (Char.ofNat 0) = true
      · rw [if_pos hnull, hnull, Bool.true_or, if_pos rfl]
      · rw [if_neg hnull, Bool.eq_false_of_not_eq_true hnull, Bool.false_or]
        simp only
        split
        · rename_i hlink
          exact absurd hlink (hfree.ne_link _ _)
        · exact ih

/-- A path is resolved to its place, which may be missing. -/
theorem resolve_eq (hfree : t.LinkFree) (hnull : ∀ name ∈ p.parts, Char.ofNat 0 ∉ name.toList) :
    t.resolve cwd p = .ok (placeOf cwd p) := by
  have hnone : ¬(p.parts.any fun name => name.toList.contains (Char.ofNat 0)) = true := by
    simpa using hnull
  rw [resolve, resolveFrom_eq hfree, if_neg hnone]
  rfl

theorem resolve_congr {t' : FileTree} (hfree : t.LinkFree) (hfree' : t'.LinkFree) (cwd : Location)
    (p : Path) : t.resolve cwd p = t'.resolve cwd p := by
  rw [resolve, resolve, resolveFrom_eq hfree, resolveFrom_eq hfree']
  cases p.parts.any fun name => name.toList.contains (Char.ofNat 0) <;> rfl

/-- Only a path that holds the null character is not resolved. -/
theorem placeOf_of_resolve (hfree : t.LinkFree) (hresolve : t.resolve cwd p = .ok location) :
    location = placeOf cwd p := by
  by_cases hnull : ∀ name ∈ p.parts, Char.ofNat 0 ∉ name.toList
  · exact Except.ok.inj (hresolve.symm.trans (resolve_eq hfree hnull))
  · have hany : (p.parts.any fun name => name.toList.contains (Char.ofNat 0)) = true := by
      simpa using hnull
    rw [resolve, resolveFrom_eq hfree, if_pos hany] at hresolve
    cases hresolve

/-! ## What stands at a location -/

/-- Whether an entry is a file. -/
def isFileEntry : Entry → Bool
  | .file _ => true
  | _ => false

theorem any_isFileEntry {found : Option Entry} :
    found.any isFileEntry = true ↔ ∃ bytes, found = some (.file bytes) := by
  cases found with
  | none => simp
  | some entry => cases entry <;> simp [isFileEntry]

/-- A path that could lead somewhere: its names are names, and none is too long. -/
structure Fits (location : Location) : Prop where
  real : Location.IsReal location
  sizes : ∀ name ∈ location, name.utf8ByteSize ≤ maxNameBytes

instance (location : Location) : Decidable (Fits location) :=
  decidable_of_iff (Location.IsReal location ∧ ∀ name ∈ location, name.utf8ByteSize ≤ maxNameBytes)
    ⟨fun ⟨hreal, hsizes⟩ => ⟨hreal, hsizes⟩, fun h => ⟨h.real, h.sizes⟩⟩

theorem Fits.of_entry (h : t.Sound) (hentry : t.entry? location = some entry) : Fits location :=
  ⟨h.isReal_of_entry?_eq hentry, fun name hname => (h.name_of_entry?_eq hentry name hname).2⟩

theorem Fits.append (hlocation : Fits location) (hnames : Fits names) : Fits (location ++ names) :=
  ⟨fun name hname => (List.mem_append.1 hname).elim (hlocation.real name) (hnames.real name),
    fun name hname => (List.mem_append.1 hname).elim (hlocation.sizes name) (hnames.sizes name)⟩

theorem Fits.of_isPrefix (hlocation : Fits location) (hfront : here <+: location) : Fits here :=
  ⟨fun name hname => hlocation.real name (hfront.subset hname),
    fun name hname => hlocation.sizes name (hfront.subset hname)⟩

section

variable (h : t.Sound) (hfree : t.LinkFree) (hfits : Fits location) (cwd : Location)

include h hfree hfits

/-- At a location that could be there what is found is what stands there. -/
theorem find?_absolute : t.find? cwd (.absolute location) =
    if maxPathBytes ≤ (Path.absolute location).toString.utf8ByteSize then .error .nameTooLong
    else .ok ((t.entry? location).map fun entry => ⟨location, some entry⟩) := by
  split
  · rename_i hsize
    rw [find?, locate_of_long hfits.real hsize]
  · rename_i hsize
    cases hentry : t.entry? location with
    | some entry =>
      have hlink : ∀ target, entry ≠ .link target := by
        rintro target rfl
        exact hfree.ne_link _ _ hentry
      rw [find?, locate_absolute h hentry hlink (Nat.not_le.1 hsize) cwd]
      rfl
    | none =>
      cases hlocate : t.locate cwd (.absolute location) with
      | ok place =>
        have hplain : (Path.absolute location).IsPlain := hfits.real.plainNames
        have hplace := location_of_locate hfree hplain hlocate
        rw [placeOf_absolute hfits.real, hentry] at hplace
        rw [find?, hlocate, hplace]
        rfl
      | error e =>
        have hshort : e ≠ .nameTooLong := by
          rintro rfl
          rw [locate, walk, if_neg (any_null_eq_false hfits.real), if_neg hsize] at hlocate
          exact walkFrom_ne_nameTooLong hfree hfits.sizes hlocate
        rw [find?, hlocate]
        cases e with
        | nameTooLong => exact absurd rfl hshort
        | _ => rfl

theorem isFile_absolute : t.isFile cwd (.absolute location) =
    if maxPathBytes ≤ (Path.absolute location).toString.utf8ByteSize then .error .nameTooLong
    else .ok ((t.entry? location).any isFileEntry) := by
  rw [isFile, find?_absolute h hfree hfits]
  split
  · rfl
  · cases t.entry? location with
    | none => rfl
    | some entry => cases entry <;> rfl

theorem exists?_absolute : t.exists? cwd (.absolute location) =
    if maxPathBytes ≤ (Path.absolute location).toString.utf8ByteSize then .error .nameTooLong
    else .ok (t.entry? location).isSome := by
  rw [exists?, find?_absolute h hfree hfits]
  split
  · rfl
  · cases t.entry? location <;> rfl

end

theorem read_absolute (h : t.Sound) {bytes : List UInt8}
    (hentry : t.entry? location = some (.file bytes)) (cwd : Location) :
    t.read cwd (.absolute location) =
      if maxPathBytes ≤ (Path.absolute location).toString.utf8ByteSize then .error .nameTooLong
      else .ok bytes := by
  split
  · rename_i hsize
    rw [read, locate_of_long (h.isReal_of_entry?_eq hentry) hsize]
    rfl
  · rename_i hsize
    exact read_eq_ok_iff.2 ⟨location, locate_absolute h hentry (by simp) (Nat.not_le.1 hsize) cwd⟩

end LineLint.FileTree
