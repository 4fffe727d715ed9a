import LineLint.Proofs.Frames
import LineLint.Proofs.LineBreaks
import LineLint.Proofs.Runs
import LineLint.Proofs.Utf8

/-!
# Writing a file and linting it

A file is written where its path leads, which is no directory and no link, so a path that led there
before leads there afterwards. Main statements: `FileTree.locate_of_write`, and
`Project.check_of_write`, a run over a file that a text has been written to finds in it what the
rules say of the text.
-/

namespace LineLint

namespace FileTree

variable {t t' : FileTree} {cwd here there location other above : Location} {entry : Entry}
  {name : String} {bytes : List UInt8} {steps : List String} {links n : ℕ} {path : Path}

/-! ## Putting an entry in -/

theorem lookup_map_replace {κ β : Type} [BEq κ] [LawfulBEq κ] (rows : List (κ × β)) (key k : κ)
    (value : β) : (rows.map fun row => if row.1 == key then (key, value) else row).lookup k =
      if k == key then (rows.lookup key).map fun _ => value else rows.lookup k := by
  induction rows with
  | nil => simp
  | cons row rest ih =>
    obtain ⟨key', value'⟩ := row
    rw [List.map_cons]
    by_cases hrow : key' = key
    · subst hrow
      rw [if_pos BEq.rfl, List.lookup_cons, ih, List.lookup_cons, List.lookup_cons, BEq.rfl]
      cases k == key' <;> rfl
    · have hrow' : (key == key') = false := beq_eq_false_iff_ne.2 (Ne.symm hrow)
      rw [if_neg (by simpa using hrow), List.lookup_cons, ih, List.lookup_cons, List.lookup_cons,
        hrow']
      by_cases hk : k = key'
      · subst hk
        rw [BEq.rfl, beq_eq_false_iff_ne.2 hrow]
        rfl
      · rw [beq_eq_false_iff_ne.2 hk]

theorem entry?_insert (hne : location ≠ []) : FileTree.entry? (t.insert location entry) other =
    if other = location then some entry else t.entry? other := by
  by_cases hother : other = []
  · subst hother
    rw [if_neg (Ne.symm hne), entry?_nil, entry?_nil]
  have hkey : (other.toArray == location.toArray) = decide (other = location) := by
    rw [Bool.eq_iff_iff, beq_iff_eq, decide_eq_true_iff]
    exact ⟨List.toArray_inj, congrArg _⟩
  simp only [ entry?, insert, List.isEmpty_iff, hother, if_false]
  split
  · rename_i hsome
    obtain ⟨old, hold⟩ := Option.isSome_iff_exists.1 hsome
    rw [lookup_map_replace, hkey, hold]
    by_cases heq : other = location <;> simp [heq]
  · rename_i hnone
    have hmissing : t.entries.lookup location.toArray = none :=
      Option.not_isSome_iff_eq_none.1 hnone
    rw [List.lookup_append, List.lookup_cons, hkey]
    by_cases heq : other = location
    · simp [heq, hmissing]
    · simp [heq]

theorem mem_toList_insert {row : Location × Entry} (h : row ∈ (t.insert location entry).toList) :
    row = (location, entry) ∨ row ∈ t.toList := by
  rw [toList, insert] at h
  obtain ⟨⟨key, e⟩, hmem, rfl⟩ := List.mem_map.1 h
  split at hmem
  · obtain ⟨⟨key', e'⟩, hold, hrow⟩ := List.mem_map.1 hmem
    split at hrow
    · cases hrow
      exact .inl rfl
    · cases hrow
      exact .inr (List.mem_map.2 ⟨_, hold, rfl⟩)
  · rcases List.mem_append.1 hmem with hold | hnew
    · exact .inr (List.mem_map.2 ⟨_, hold, rfl⟩)
    · cases List.mem_singleton.1 hnew
      exact .inl rfl

theorem nodup_insert (h : (t.toList.map Prod.fst).Nodup) :
    ((t.insert location entry).toList.map Prod.fst).Nodup := by
  rw [insert]
  split
  · have hkeys : ∀ row : Array String × Entry,
        (if row.1 == location.toArray then (location.toArray, entry) else row).1 = row.1 := by
      intro row
      split
      · rename_i heq
        exact (beq_iff_eq.1 heq).symm
      · rfl
    simp only [toList, List.map_map, Function.comp_def, hkeys] at h ⊢
    exact h
  · rename_i hnone
    have hfresh : ∀ e, (location.toArray, e) ∉ t.entries := by
      intro e hmem
      refine hnone (List.lookup_isSome_iff.2 ⟨_, hmem, by simp⟩)
    have hfresh' : location ∉ t.toList.map Prod.fst := by
      intro hmem
      obtain ⟨⟨key, e⟩, hrow, rfl⟩ : ∃ row ∈ t.entries, row.1.toList = location := by
        simpa [toList] using hmem
      exact hfresh e (by simpa using hrow)
    have hkeys : (toList ⟨t.entries ++ [(location.toArray, entry)]⟩).map Prod.fst =
        t.toList.map Prod.fst ++ [location] := by
      simp [toList]
    rw [hkeys, ← List.concat_eq_append]
    exact h.concat hfresh'

/-- An entry other than a link can be put into a directory if it does not end another one. -/
theorem Sound.insert_entry (h : t.Sound) (hdir : t.entry? above = some .directory)
    (hname : IsName name) (hsize : name.utf8ByteSize ≤ maxNameBytes)
    (hkeep : t.entry? (above ++ [name]) = some .directory → entry = .directory)
    (hlink : ∀ target, entry ≠ .link target) : (t.insert (above ++ [name]) entry).Sound := by
  have hne : above ++ [name] ≠ [] := by simp
  refine ⟨⟨nodup_insert h.nodup, fun row hrow => ?_, fun row hrow => ?_⟩, fun row hrow => ?_,
    fun row hrow target htarget => ?_⟩
  · rcases mem_toList_insert hrow with rfl | hrow
    · exact hne
    · exact h.ne_top row hrow
  · rw [FileTree.entry?_insert hne]
    rcases mem_toList_insert hrow with rfl | hrow
    · rw [List.dropLast_concat, if_neg (by simp), hdir]
    · have hparent := h.parent row hrow
      split
      · rename_i heq
        rw [hkeep (heq ▸ hparent)]
      · exact hparent
  · rcases mem_toList_insert hrow with rfl | hrow
    · intro other hother
      rcases List.mem_append.1 hother with hother | hother
      · exact h.name_of_entry?_eq hdir other hother
      · rw [List.mem_singleton.1 hother]
        exact ⟨hname, hsize⟩
    · exact h.names row hrow
  · rcases mem_toList_insert hrow with rfl | hrow
    · exact absurd htarget (hlink target)
    · exact h.targets row hrow target htarget

/-- A file can be put where a directory holds no directory of that name. -/
theorem Sound.insert (h : t.Sound) (hdir : t.entry? above = some .directory) (hname : IsName name)
    (hsize : name.utf8ByteSize ≤ maxNameBytes)
    (hnot : t.entry? (above ++ [name]) ≠ some .directory) :
    (t.insert (above ++ [name]) (.file bytes)).Sound :=
  h.insert_entry hdir hname hsize (fun hentry => absurd hentry hnot) (by simp)

/-! ## Where a file is written -/

theorem entry?_start (hcwd : t.entry? cwd = some .directory) (p : Path) :
    t.entry? (start cwd p) = some .directory := by
  rw [start]
  split
  · rfl
  · exact hcwd

/-- Steps from a directory end at one, or at a name in one that stands for no link. -/
theorem Leads.reached (hleads : t.Leads here steps n there) (h : t.WellFormed)
    (hhere : t.entry? here = some .directory) :
    t.entry? there = some .directory ∨ ∃ above name, there = above ++ [name] ∧
      t.entry? above = some .directory ∧ IsStep name ∧
      ∀ target, t.entry? there ≠ some (.link target) := by
  induction hleads with
  | done => exact .inl hhere
  | @up here _ _ _ _ ih =>
    refine ih ?_
    rcases List.eq_nil_or_concat' here with rfl | ⟨above, name, rfl⟩
    · rfl
    · rw [List.dropLast_concat]
      exact entry?_of_append h (by simp) hhere
  | stay _ _ ih => exact ih hhere
  | enter _ hdir _ ih => exact ih hdir
  | reach hname _ hlink => exact .inr ⟨_, _, rfl, hhere, hname, hlink⟩
  | follow _ _ _ ih => exact ih (entry?_start hhere _)

/-- Putting a file where no directory and no link stands changes neither. -/
theorem SameFrame.insert (hne : location ≠ []) (hdir : t.entry? location ≠ some .directory)
    (hlink : ∀ target, t.entry? location ≠ some (.link target)) :
    t.SameFrame (t.insert location (.file bytes)) := by
  constructor
  · intro other
    rw [FileTree.entry?_insert hne]
    by_cases hother : other = location
    · simp [hother, hdir]
    · rw [if_neg hother]
  · intro other target
    rw [FileTree.entry?_insert hne]
    by_cases hother : other = location
    · simp [hother, hlink]
    · rw [if_neg hother]

theorem write_eq_ok_iff : t.write cwd path bytes = .ok t' ↔ ∃ place,
    t.locate cwd path = .ok place ∧ place.entry ≠ some .directory ∧
      t' = t.insert place.location (.file bytes) := by
  have hwalk : ∀ place, t.locate cwd path = .ok place ↔ t.walk .writing cwd path = .ok place :=
    fun place => locate_eq_ok_iff.trans (walk_eq_ok_iff (by decide)).symm
  simp only [hwalk, write]
  cases t.walk .writing cwd path with
  | error e => simp [bind, Except.bind]
  | ok place =>
    obtain ⟨location, _ | (_ | _ | _)⟩ := place <;>
      simp [bind, Except.bind, pure, Except.pure, throw, throwThe, MonadExceptOf.throw, eq_comm]

/-- What is no directory, or is missing, stands at a name in a directory and is no link. -/
theorem reached_of_locate (h : t.WellFormed) (hcwd : t.entry? cwd = some .directory)
    {place : Place} (hlocate : t.locate cwd path = .ok place)
    (hdir : t.entry? place.location ≠ some .directory) :
    ∃ above name, place.location = above ++ [name] ∧ t.entry? above = some .directory ∧
      IsStep name ∧ ∀ target, t.entry? place.location ≠ some (.link target) := by
  obtain ⟨-, -, -, n, -, hleads⟩ := locate_eq_ok_iff.1 hlocate
  exact (hleads.reached h (entry?_start hcwd path)).resolve_left hdir

/-- Writing changes what stands where the path leads, and nothing else. -/
theorem frame_of_write (h : t.WellFormed) (hcwd : t.entry? cwd = some .directory)
    (hwrite : t.write cwd path bytes = .ok t') : t.SameFrame t' ∧ ∃ place,
      t.locate cwd path = .ok place ∧ ∀ other, FileTree.entry? t' other =
        if other = place.location then some (.file bytes) else t.entry? other := by
  obtain ⟨place, hlocate, hdir, rfl⟩ := write_eq_ok_iff.1 hwrite
  rw [← entry?_of_locate hlocate] at hdir
  obtain ⟨above, name, hplace, -, -, hlink⟩ := reached_of_locate h hcwd hlocate hdir
  have hne : place.location ≠ [] := by simp [hplace]
  exact ⟨.insert hne hdir hlink, place, hlocate, fun other => FileTree.entry?_insert hne⟩

/-- What is written to a file stands where its path leads, in a tree that is still sound. -/
theorem locate_of_write (h : t.Sound) (hcwd : t.entry? cwd = some .directory)
    (hpath : path.IsPlain) (hwrite : t.write cwd path bytes = .ok t') :
    t'.Sound ∧ ∃ location, t'.locate cwd path = .ok ⟨location, some (.file bytes)⟩ := by
  obtain ⟨hframe, place, hlocate, hentry⟩ := frame_of_write h.toWellFormed hcwd hwrite
  refine ⟨?_, place.location, ?_⟩
  · obtain ⟨place', hlocate', hdir, rfl⟩ := write_eq_ok_iff.1 hwrite
    cases hlocate.symm.trans hlocate'
    rw [← entry?_of_locate hlocate] at hdir
    have hreal : Location.IsReal place.location :=
      isReal_of_resolve h (h.isReal_of_entry?_eq hcwd) hpath (resolve_of_locate h hpath hlocate)
    obtain ⟨above, name, hplace, habove, hname, -⟩ :=
      reached_of_locate h.toWellFormed hcwd hlocate hdir
    rw [hplace] at hreal hdir ⊢
    exact h.insert habove (hreal name (by simp)) hname.size hdir
  · rw [hframe.locate_eq hlocate, hentry, if_pos rfl]

end FileTree

/-! ## Linting what was written -/

/-- The text of a file is the text that it was written with, but for its returns. -/
theorem Project.decodeSource_encode {text : List Char} (h : Text.PairedReturns text) :
    decodeSource (Text.Utf8.encode text) = String.ofList (Text.dropReturns text) := by
  rw [decodeSource, Text.Utf8.decodeLenient_encode, Text.unifyBreaks_eq_dropReturns h]

/-- A run over a file finds in it what the rules say of the text that was written to it, although
the file is read without the returns of the text. -/
theorem Project.check_of_write {t t' : FileTree} {cwd : Location} {settings : Settings}
    {root path : Path} {p : Project} {text : String} (h : t.Sound) (hcwd : Location.IsReal cwd)
    (hroot : root.IsPlain) (hopen : Project.open? t cwd settings root = .ok p)
    (hpath : path.IsPlain)
    (hwrite : t.write [] (p.rootPath.join path) (Text.Utf8.encode text.toList) = .ok t')
    (hlibraries : ∀ library ∈ ChosenName.texts settings.schemaLibraries,
      '\r' ∉ library.toList ∧ '\n' ∉ library.toList)
    (hpaired : Text.PairedReturns text.toList)
    (hcommand : ∀ id, p.fileId t' (p.rootPath.join path) = .ok id →
      settings.classifier.isManifest id = true →
      Text.contains (Rules.BunFlags.openCommand ++ ['\r', '\n']) text.toList = false) :
    ∃ id r, p.fileId t' (p.rootPath.join path) = .ok id ∧ p.check t' path = .ok (r, []) ∧
      r.violations = settings.lintText id text ∧ r.filesScanned = 1 := by
  have hplain := isPlain_join (isReal_root h hcwd hroot hopen) hpath
  obtain ⟨-, rfl⟩ := open?_eq_ok_iff.1 hopen
  obtain ⟨hsound, location, hlocate⟩ := FileTree.locate_of_write h rfl hplain hwrite
  obtain ⟨id, hid, hlint⟩ := lintFile_of_read (p := p) hsound hplain
    (FileTree.read_eq_ok_iff.2 ⟨location, hlocate⟩)
  have hexpand : p.expand t' path = .ok [p.rootPath.join path] := by
    refine expand_of_not_isDirectory ?_
    rw [FileTree.isDirectory_eq, hlocate]
    rfl
  refine ⟨id, _, hid, check_eq_ok_iff.2 ⟨_, _, hexpand, .cons hlint .nil, rfl⟩, ?_, rfl⟩
  change p.settings.lintText id _ ++ [] = _
  rw [List.append_nil, decodeSource_encode hpaired,
    Settings.lintText_dropReturns _ hpaired hlibraries (hcommand id hid), String.ofList_toList]

/-- Two lines that end in a return and a line feed. -/
def returnText : String := "const x = require('x');\r\nBun.sql;\r\n"

theorem Project.check_written_small :
    ∃ t' id r, smallTree.write [] (sampleProject.rootPath.join ⟨.relative, ["b.ts"]⟩)
        (Text.Utf8.encode returnText.toList) = .ok t' ∧
      sampleProject.check t' ⟨.relative, ["b.ts"]⟩ = .ok (r, []) ∧
      r.violations = sampleProject.settings.lintText id returnText ∧ r.filesScanned = 1 := by
  have hroot : smallTree.locate [] (.absolute ["proj"]) = .ok ⟨["proj"], some .directory⟩ :=
    FileTree.locate_absolute (by decide) (by decide) (by simp) (by decide) []
  have hopen : Project.open? smallTree [] {} (.absolute ["proj"]) = .ok sampleProject :=
    open?_of_locate (by decide) (by decide) hroot
  have hlocate : smallTree.locate [] (sampleProject.rootPath.join ⟨.relative, ["b.ts"]⟩) =
      .ok ⟨["proj", "b.ts"], some (.file requireBytes)⟩ :=
    FileTree.locate_absolute (by decide) (by decide) (by simp) (by decide) []
  have hwrite : smallTree.write [] (sampleProject.rootPath.join ⟨.relative, ["b.ts"]⟩)
      (Text.Utf8.encode returnText.toList) =
        .ok (smallTree.insert ["proj", "b.ts"] (.file (Text.Utf8.encode returnText.toList))) :=
    FileTree.write_eq_ok_iff.2 ⟨_, hlocate, by simp, rfl⟩
  obtain ⟨id, r, -, hcheck, hviolations, hscanned⟩ := check_of_write (by decide) (by decide)
    (by decide) hopen (by decide) hwrite (by decide) (by decide +kernel)
    (fun _ _ _ => by decide +kernel)
  exact ⟨_, id, r, hwrite, hcheck, hviolations, hscanned⟩

end LineLint
