import LineLint.Proofs.Writing

/-!
# Making directories

A directory is made only where nothing is, and in a directory. So whatever else is in the tree
stays, even when directories higher up had to be made first or when making them fails halfway. Main
statement: `FileTree.grows_of_makeDirectories`.
-/

namespace LineLint.FileTree

variable {t t' t'' : FileTree} {cwd here location : Location} {p : Path}

/-- A sound tree that holds all entries of another one. -/
structure Grows (t t' : FileTree) : Prop where
  sound : t'.Sound
  keeps : ∀ location entry, t.entry? location = some entry → t'.entry? location = some entry

theorem Grows.refl (h : t.Sound) : t.Grows t := ⟨h, fun _ _ hentry => hentry⟩

theorem Grows.trans (h : t.Grows t') (h' : t'.Grows t'') : t.Grows t'' :=
  ⟨h'.sound, fun location entry hentry => h'.keeps location entry (h.keeps location entry hentry)⟩

/-! ## One directory -/

/-- A walk to an entry that is missing has not passed over a link at its end. -/
theorem walkFrom_target_of_missing {links : ℕ} {steps : List String}
    (h : t.walkFrom .entry links here steps = .ok ⟨location, none⟩) :
    t.walkFrom .target links here steps = .ok ⟨location, none⟩ := by
  fun_induction walkFrom t .entry links here steps with
  | case1 links here =>
    rw [walkFrom]
    exact h
  | case2 links here name rest hup ih =>
    rw [walkFrom, if_pos hup]
    exact ih h
  | case3 links here name rest hup hstay ih =>
    rw [walkFrom, if_neg hup, if_pos hstay]
    exact ih h
  | case5 links here name rest hup hstay hsize place hnone hlast =>
    rw [walkFrom, if_neg hup, if_neg hstay, if_neg hsize]
    simp only [place] at hnone
    simp only [hnone, hlast, if_true]
    exact h
  | case8 links here name rest hup hstay hsize place hdir ih =>
    rw [walkFrom, if_neg hup, if_neg hstay, if_neg hsize]
    simp only [place] at hdir
    simp only [hdir]
    exact ih h
  | case14 here name rest hup hstay hsize place target hlink hlast links path ih =>
    rw [walkFrom, if_neg hup, if_neg hstay, if_neg hsize]
    simp only [place] at hlink
    simp only [hlink]
    rw [if_neg (by simp)]
    exact ih h
  | _ => simp at h

theorem locate_of_missing {cwd : Location} (h : t.walk .entry cwd p = .ok ⟨location, none⟩) :
    t.locate cwd p = .ok ⟨location, none⟩ := by
  rw [locate]
  unfold walk at h ⊢
  split at h
  · cases h
  rename_i hnull
  split at h
  · cases h
  rename_i hsize
  rw [if_neg hnull, if_neg hsize]
  exact walkFrom_target_of_missing h

/-- A directory is made where nothing stands yet. -/
theorem makeDirectory_eq_ok_iff : t.makeDirectory cwd p = .ok (t', location) ↔
    t.walk .entry cwd p = .ok ⟨location, none⟩ ∧ t' = t.insert location .directory := by
  rw [makeDirectory, bind_eq_ok_iff]
  constructor
  · rintro ⟨⟨there, entry⟩, hwalk, hmade⟩
    cases entry with
    | some entry => cases hmade
    | none =>
      cases hmade
      exact ⟨hwalk, rfl⟩
  · rintro ⟨hwalk, rfl⟩
    exact ⟨_, hwalk, rfl⟩

theorem grows_of_makeDirectory (h : t.Sound) (hcwd : t.entry? cwd = some .directory)
    (hp : p.IsPlain) (hmake : t.makeDirectory cwd p = .ok (t', location)) :
    t.Grows t' ∧ t'.entry? location = some .directory := by
  obtain ⟨hwalk, rfl⟩ := makeDirectory_eq_ok_iff.1 hmake
  have hlocate := locate_of_missing hwalk
  have hreal : Location.IsReal location :=
    isReal_of_resolve h (h.isReal_of_entry?_eq hcwd) hp (resolve_of_locate h hp hlocate)
  have hmissing : t.entry? location = none := entry?_of_locate hlocate
  obtain ⟨above, name, rfl, habove, hname, -⟩ :=
    reached_of_locate h.toWellFormed hcwd hlocate (by simp [hmissing])
  have hne : above ++ [name] ≠ [] := by simp
  refine ⟨⟨?_, fun other entry hother => ?_⟩, ?_⟩
  · exact h.insert_entry habove (hreal name (by simp)) hname.size (fun _ => rfl) (by simp)
  · rw [entry?_insert hne, if_neg]
    · exact hother
    · rintro rfl
      rw [hmissing] at hother
      cases hother
  · rw [entry?_insert hne, if_pos rfl]

theorem locate_of_find? {place : Place} (hfind : t.find? cwd p = .ok (some place)) :
    t.locate cwd p = .ok place := by
  rw [find?] at hfind
  cases hlocate : t.locate cwd p with
  | error e =>
    rw [hlocate] at hfind
    cases e <;> cases hfind
  | ok found =>
    rw [hlocate] at hfind
    split at hfind
    · rename_i heq
      cases heq
      split at hfind <;> cases hfind
      rfl
    all_goals cases hfind

/-- A directory that is settled on is already there. -/
theorem settle_eq_ok_iff {e : AccessError} : t.settle cwd p e = .ok (t', location) ↔
    t' = t ∧ t.locate cwd p = .ok ⟨location, some .directory⟩ := by
  constructor
  · intro hsettle
    obtain ⟨place?, hfind, hsettle⟩ := bind_eq_ok_iff.1 hsettle
    match place? with
    | some ⟨there, some .directory⟩ =>
      cases hsettle
      exact ⟨rfl, locate_of_find? hfind⟩
    | some ⟨there, some (.file bytes)⟩ | some ⟨there, some (.link target)⟩ | some ⟨there, none⟩
    | none => cases hsettle
  · rintro ⟨rfl, hlocate⟩
    rw [settle, find?, hlocate]
    rfl

/-- A directory is made, or it is there and nothing changes. -/
theorem ensureDirectory_cases (hensure : t.ensureDirectory cwd p = .ok (t', location)) :
    t.makeDirectory cwd p = .ok (t', location) ∨
      t' = t ∧ t.locate cwd p = .ok ⟨location, some .directory⟩ := by
  rw [ensureDirectory] at hensure
  cases hmake : t.makeDirectory cwd p with
  | ok made =>
    rw [hmake] at hensure
    exact .inl hensure
  | error e =>
    rw [hmake] at hensure
    exact .inr (settle_eq_ok_iff.1 hensure)

theorem grows_of_ensureDirectory (h : t.Sound) (hcwd : t.entry? cwd = some .directory)
    (hp : p.IsPlain) (hensure : t.ensureDirectory cwd p = .ok (t', location)) :
    t.Grows t' ∧ t'.entry? location = some .directory := by
  rcases ensureDirectory_cases hensure with hmake | ⟨rfl, hlocate⟩
  · exact grows_of_makeDirectory h hcwd hp hmake
  · exact ⟨.refl h, entry?_of_locate hlocate⟩

/-! ## Many directories -/

theorem isPlain_reverse {root : PathRoot} {names : List String} (h : PlainNames names) :
    (Path.mk root names.reverse).IsPlain :=
  fun name hname => h name (List.mem_reverse.1 hname)

/-- The tree grows whether or not the last directory can be made, and if it is made it is there. -/
theorem grows_of_makeDirectoriesUp {root : PathRoot} {names : List String} {room : ℕ}
    (h : t.Sound) (hcwd : t.entry? cwd = some .directory) (hnames : PlainNames names) :
    t.Grows (makeDirectoriesUp cwd root t room names).1 ∧
      ∀ location, (makeDirectoriesUp cwd root t room names).2 = .ok location →
        FileTree.entry? (makeDirectoriesUp cwd root t room names).1 location =
          some .directory := by
  fun_induction makeDirectoriesUp cwd root t room names with
  | case1 =>
    refine ⟨.refl h, fun location hlocation => ?_⟩
    cases hlocation
    exact entry?_start hcwd _
  | case2 room name above p t₁ here hfirst =>
    obtain ⟨hgrows, hdir⟩ := grows_of_makeDirectory h hcwd (isPlain_reverse hnames) hfirst
    exact ⟨hgrows, fun location hlocation => by cases hlocation; exact hdir⟩
  | case3 => exact ⟨.refl h, by simp⟩
  | case4 name above p hfirst room t₁ e habove ih =>
    rw [habove] at ih
    exact ⟨(ih hnames.tail).1, by simp⟩
  | case5 name above p hfirst room t₁ here₁ habove t₂ here₂ hlast ih =>
    rw [habove] at ih
    obtain ⟨hgrows, hdir⟩ := ih hnames.tail
    have hname : (Path.mk .relative [name]).IsPlain :=
      fun other hother => hnames other (List.mem_singleton.1 hother ▸ List.mem_cons_self)
    obtain ⟨hgrows', hdir'⟩ :=
      grows_of_ensureDirectory hgrows.sound (hdir here₁ rfl) hname hlast
    exact ⟨hgrows.trans hgrows', fun location hlocation => by cases hlocation; exact hdir'⟩
  | case6 name above p hfirst room t₁ here habove e hlast ih =>
    rw [habove] at ih
    exact ⟨(ih hnames.tail).1, by simp⟩
  | case7 room name above p e hother hfirst t₁ here hsettle =>
    obtain ⟨rfl, hlocate⟩ := settle_eq_ok_iff.1 hsettle
    have hdir := entry?_of_locate hlocate
    exact ⟨.refl h, fun location hlocation => by cases hlocation; exact hdir⟩
  | case8 => exact ⟨.refl h, by simp⟩

/-- Making the directories of a path leaves all that was there where it was, whatever comes of
it. -/
theorem grows_of_makeDirectories (h : t.Sound) (hcwd : t.entry? cwd = some .directory)
    (hp : p.IsPlain) (levels : ℕ) : t.Grows (t.makeDirectories levels cwd p).1 := by
  have hnames : PlainNames p.parts.reverse := fun name hname => hp name (List.mem_reverse.1 hname)
  exact (grows_of_makeDirectoriesUp h hcwd hnames).1

end LineLint.FileTree
