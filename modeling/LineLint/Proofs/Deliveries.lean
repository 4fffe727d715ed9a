import LineLint.Proofs.Directories
import LineLint.Proofs.LinkFree
import LineLint.Proofs.Listing
import Mathlib.Data.Set.Insert

/-!
# What writing changes

A delivery makes a directory together with those above it and writes files into it. Main statements:
`FileTree.updated_of_deliver`, it changes nothing but these, however far it comes, and
`FileTree.deliver_again`, a delivery that has succeeded changes nothing when it is made again.
-/

namespace LineLint

/-- Files that are to be written with their bytes into one directory. -/
structure Delivery where
  /-- How many directories can be made for it, one in another. -/
  levels : ℕ
  directory : Path
  files : List (Path × List UInt8)

/-- A delivery of files that lie in its directory, each at a place of its own. -/
structure Delivery.Proper (cwd : Location) (d : Delivery) : Prop where
  directory : d.directory.IsPlain
  files : ∀ row ∈ d.files, row.1.IsPlain
  places : (d.files.map fun row => FileTree.placeOf cwd row.1).Nodup
  parents : ∀ row ∈ d.files, row.1.parent = d.directory
  nonempty : d.files ≠ []

namespace FileTree

variable {t t' t'' : FileTree} {cwd here location : Location} {p file : Path}
  {files directories more others : Set Location} {bytes : List UInt8} {d : Delivery}
  {rows : List (Path × List UInt8)}

/-! ## Deliveries -/

/-- The tree after some files have been written, up to the first that cannot be. -/
def writeAll (t : FileTree) (cwd : Location) :
    List (Path × List UInt8) → FileTree × Except AccessError Unit
  | [] => (t, .ok ())
  | (file, bytes) :: rest =>
    match t.write cwd file bytes with
    | .ok t => t.writeAll cwd rest
    | .error e => (t, .error e)

/-- The tree after a delivery, as far as it comes. -/
def deliver (t : FileTree) (cwd : Location) (d : Delivery) : FileTree × Except AccessError Unit :=
  match t.makeDirectories d.levels cwd d.directory with
  | (t, .ok ()) => t.writeAll cwd d.files
  | (t, .error e) => (t, .error e)

/-- The directories on the way to where a path leads. -/
def waysTo (cwd : Location) (p : Path) : Set Location :=
  {location | ∃ names, names <+: p.parts ∧ location = descend (start cwd p) names}

/-- Where the files of a delivery are written. -/
def places (cwd : Location) (rows : List (Path × List UInt8)) : Set Location :=
  {location | ∃ row ∈ rows, location = placeOf cwd row.1}

/-! ## Trees that differ in some places -/

/-- A sound tree without links that has other files at some places, where no directory was, and
more directories at others, where nothing was. -/
structure Updated (files directories : Set Location) (t t' : FileTree) : Prop where
  sound : t'.Sound
  linkFree : t'.LinkFree
  entry : ∀ location, t'.entry? location = t.entry? location ∨
    (location ∈ files ∧ t.entry? location ≠ some .directory ∧
      ∃ bytes, t'.entry? location = some (.file bytes)) ∨
    (location ∈ directories ∧ t.entry? location = none ∧
      t'.entry? location = some .directory)

theorem Updated.refl (h : t.Sound) (hfree : t.LinkFree) : Updated files directories t t :=
  ⟨h, hfree, fun _ => .inl rfl⟩

theorem Updated.mono (hupdated : Updated files directories t t') (hfiles : files ⊆ more)
    (hdirectories : directories ⊆ others) : Updated more others t t' := by
  refine ⟨hupdated.sound, hupdated.linkFree, fun location => ?_⟩
  rcases hupdated.entry location with hsame | ⟨hmem, hfile⟩ | ⟨hmem, hdir⟩
  · exact .inl hsame
  · exact .inr (.inl ⟨hfiles hmem, hfile⟩)
  · exact .inr (.inr ⟨hdirectories hmem, hdir⟩)

theorem Updated.directory (hupdated : Updated files directories t t')
    (hdir : t.entry? location = some .directory) : t'.entry? location = some .directory := by
  rcases hupdated.entry location with hsame | ⟨-, hnot, -⟩ | ⟨-, hnone, -⟩
  · exact hsame.trans hdir
  · exact absurd hdir hnot
  · cases hdir.symm.trans hnone

theorem Updated.trans (hfirst : Updated files directories t t')
    (hsecond : Updated files directories t' t'') : Updated files directories t t'' := by
  refine ⟨hsecond.sound, hsecond.linkFree, fun location => ?_⟩
  rcases hsecond.entry location with hsame | ⟨hmem, hnot, hfile⟩ | ⟨hmem, hnone, hdir⟩
  · rw [hsame]
    exact hfirst.entry location
  · exact .inr (.inl ⟨hmem, fun hdir => hnot (hfirst.directory hdir), hfile⟩)
  · rcases hfirst.entry location with hsame | ⟨-, -, bytes, hfile⟩ | ⟨-, -, hdir'⟩
    · exact .inr (.inr ⟨hmem, hsame ▸ hnone, hdir⟩)
    · cases hnone.symm.trans hfile
    · cases hnone.symm.trans hdir'

/-- Elsewhere there are the same files as before. -/
theorem Updated.file_iff (hupdated : Updated files directories t t') (hplace : location ∉ files) :
    t'.entry? location = some (.file bytes) ↔ t.entry? location = some (.file bytes) := by
  rcases hupdated.entry location with hsame | ⟨hmem, -⟩ | ⟨-, hnone, hdir⟩
  · rw [hsame]
  · exact absurd hmem hplace
  · simp [hnone, hdir]

theorem Updated.leads {there : Location} {steps : List String} {n : ℕ}
    (hupdated : Updated files directories t t') (hfree : t.LinkFree)
    (hleads : t.Leads here steps n there) (hsame : t'.entry? there = t.entry? there) :
    t'.Leads here steps n there := by
  induction hleads with
  | done => exact .done
  | up _ ih => exact .up (ih hsame)
  | stay hstep _ ih => exact .stay hstep (ih hsame)
  | enter hname hdir _ ih => exact .enter hname (hupdated.directory hdir) (ih hsame)
  | reach hname hdir hlink => exact .reach hname (hsame ▸ hdir) (hsame ▸ hlink)
  | follow _ hlink => exact absurd hlink (hfree.ne_link _ _)

/-- A path leads where it led if the same stands there. -/
theorem Updated.locate {place : Place} (hupdated : Updated files directories t t')
    (hfree : t.LinkFree) (hlocate : t.locate cwd p = .ok place)
    (hsame : t'.entry? place.location = t.entry? place.location) : t'.locate cwd p = .ok place := by
  obtain ⟨hnull, hsize, hentry, n, hn, hleads⟩ := locate_eq_ok_iff.1 hlocate
  exact locate_eq_ok_iff.2 ⟨hnull, hsize, hentry.trans hsame.symm, n, hn,
    hupdated.leads hfree hleads hsame⟩

/-! ## One file -/

theorem placeOf_concat {root : PathRoot} {parts : List String} {name : String}
    (hname : name ≠ "..") :
    placeOf cwd ⟨root, parts ++ [name]⟩ = placeOf cwd ⟨root, parts⟩ ++ [name] := by
  rw [placeOf, placeOf, start, start, descend_append, descend_name hname, descend_nil]
  rfl

theorem mem_waysTo (p : Path) : placeOf cwd p ∈ waysTo cwd p := ⟨p.parts, List.prefix_rfl, rfl⟩

theorem waysTo_subset {root : PathRoot} {above names : List String} (hfront : above <+: names) :
    waysTo cwd ⟨root, above⟩ ⊆ waysTo cwd ⟨root, names⟩ :=
  fun _ ⟨way, hway, hlocation⟩ => ⟨way, hway.trans hfront, hlocation⟩

section

variable (h : t.Sound) (hfree : t.LinkFree) (hcwd : t.entry? cwd = some .directory)

include h hfree hcwd

/-- A file that is written stands at its place, and nothing else has changed. -/
theorem updated_of_write (hfile : file.IsPlain) (hwrite : t.write cwd file bytes = .ok t') :
    Updated {placeOf cwd file} ∅ t t' ∧
      t'.locate cwd file = .ok ⟨placeOf cwd file, some (.file bytes)⟩ := by
  obtain ⟨hsound, location, hlocate'⟩ := locate_of_write h hcwd hfile hwrite
  obtain ⟨place, hlocate, hnot, rfl⟩ := write_eq_ok_iff.1 hwrite
  have hplace := location_of_locate hfree hfile hlocate
  have hlinks : (t.insert place.location (.file bytes)).LinkFree := hfree.insert rfl
  have hplace' := location_of_locate hlinks hfile hlocate'
  rw [hplace] at hnot hlinks hsound hlocate' ⊢
  have hne : placeOf cwd file ≠ [] := by
    intro hnil
    rw [hnil] at hnot
    exact hnot rfl
  refine ⟨⟨hsound, hlinks, fun other => ?_⟩, ?_⟩
  · rw [entry?_insert hne]
    split
    · rename_i heq
      exact .inr (.inl ⟨heq, heq ▸ hnot, bytes, rfl⟩)
    · exact .inl rfl
  · rw [hlocate', hplace', hplace, entry?_insert hne, if_pos rfl]

/-! ## One directory -/

theorem updated_of_makeDirectory (hp : p.IsPlain)
    (hmake : t.makeDirectory cwd p = .ok (t', location)) :
    Updated ∅ {placeOf cwd p} t t' ∧ location = placeOf cwd p := by
  have hgrows := (grows_of_makeDirectory h hcwd hp hmake).1
  obtain ⟨hwalk, rfl⟩ := makeDirectory_eq_ok_iff.1 hmake
  rw [walk_entry_eq hfree] at hwalk
  obtain ⟨rfl, hentry⟩ := Place.mk.inj (location_of_locate hfree hp hwalk)
  have hne : placeOf cwd p ≠ [] := by
    intro hnil
    rw [hnil] at hentry
    cases hentry
  refine ⟨⟨hgrows.sound, hfree.insert rfl, fun other => ?_⟩, rfl⟩
  rw [entry?_insert hne]
  split
  · rename_i heq
    exact .inr (.inr ⟨heq, heq ▸ hentry.symm, rfl⟩)
  · exact .inl rfl

theorem updated_of_ensureDirectory (hp : p.IsPlain)
    (hensure : t.ensureDirectory cwd p = .ok (t', location)) :
    Updated ∅ {placeOf cwd p} t t' ∧ location = placeOf cwd p := by
  rcases ensureDirectory_cases hensure with hmake | ⟨rfl, hlocate⟩
  · exact updated_of_makeDirectory h hfree hcwd hp hmake
  · exact ⟨.refl h hfree, congrArg Place.location (location_of_locate hfree hp hlocate)⟩

/-! ## Many directories -/

/-- Directories are made on the way of a path only, be it to its end or not. -/
theorem updated_of_makeDirectoriesUp {root : PathRoot} {names : List String} {room : ℕ}
    (hnames : PlainNames names) :
    Updated ∅ (waysTo cwd ⟨root, names.reverse⟩) t (makeDirectoriesUp cwd root t room names).1 ∧
      ∀ location, (makeDirectoriesUp cwd root t room names).2 = .ok location →
        location = placeOf cwd ⟨root, names.reverse⟩ := by
  fun_induction makeDirectoriesUp cwd root t room names with
  | case1 =>
    refine ⟨.refl h hfree, fun location hlocation => ?_⟩
    cases hlocation
    rfl
  | case2 room name above p t₁ here hfirst =>
    obtain ⟨hupdated, hhere⟩ :=
      updated_of_makeDirectory h hfree hcwd (isPlain_reverse hnames) hfirst
    refine ⟨hupdated.mono subset_rfl (Set.singleton_subset_iff.2 (mem_waysTo p)), ?_⟩
    intro location hlocation
    cases hlocation
    exact hhere
  | case3 => exact ⟨.refl h hfree, by simp⟩
  | case4 name above p hfirst room t₁ e habove ih =>
    rw [habove] at ih
    have hfront : above.reverse <+: (name :: above).reverse := by simp
    exact ⟨(ih hnames.tail).1.mono subset_rfl (waysTo_subset hfront), by simp⟩
  | case5 name above p hfirst room t₁ here₁ habove t₂ here₂ hlast ih =>
    have hup : ∀ location, (makeDirectoriesUp cwd root t room above).2 = .ok location →
        entry? (makeDirectoriesUp cwd root t room above).1 location = some .directory :=
      (grows_of_makeDirectoriesUp h hcwd hnames.tail).2
    rw [habove] at ih hup
    obtain ⟨hupdated, hhere⟩ := ih hnames.tail
    have hfront : above.reverse <+: (name :: above).reverse := by simp
    have hname : (Path.mk .relative [name]).IsPlain :=
      fun other hother => hnames other (List.mem_singleton.1 hother ▸ List.mem_cons_self)
    obtain ⟨hupdated', hhere'⟩ :=
      updated_of_ensureDirectory hupdated.sound hupdated.linkFree (hup here₁ rfl) hname hlast
    -- one name further down from the directory above is the directory itself
    have hplace : placeOf here₁ ⟨.relative, [name]⟩ = placeOf cwd p := by
      rw [hhere here₁ rfl]
      simp only [placeOf, p, List.reverse_cons]
      rw [descend_append]
      rfl
    rw [hplace] at hupdated' hhere'
    refine ⟨(hupdated.mono subset_rfl (waysTo_subset hfront)).trans
      (hupdated'.mono subset_rfl (Set.singleton_subset_iff.2 (mem_waysTo p))), ?_⟩
    intro location hlocation
    cases hlocation
    exact hhere'
  | case6 name above p hfirst room t₁ here habove e hlast ih =>
    rw [habove] at ih
    have hfront : above.reverse <+: (name :: above).reverse := by simp
    exact ⟨(ih hnames.tail).1.mono subset_rfl (waysTo_subset hfront), by simp⟩
  | case7 room name above p e hother hfirst t₁ here hsettle =>
    obtain ⟨rfl, hlocate⟩ := settle_eq_ok_iff.1 hsettle
    refine ⟨.refl h hfree, fun location hlocation => ?_⟩
    cases hlocation
    exact congrArg Place.location (location_of_locate hfree (isPlain_reverse hnames) hlocate)
  | case8 => exact ⟨.refl h hfree, by simp⟩

theorem updated_of_makeDirectories (hp : p.IsPlain) (levels : ℕ) :
    Updated ∅ (waysTo cwd p) t (t.makeDirectories levels cwd p).1 := by
  have hnames : PlainNames p.parts.reverse := fun name hname => hp name (List.mem_reverse.1 hname)
  have hupdated : Updated ∅ (waysTo cwd ⟨p.root, p.parts.reverse.reverse⟩) t
      (t.makeDirectories levels cwd p).1 := (updated_of_makeDirectoriesUp h hfree hcwd hnames).1
  rwa [List.reverse_reverse] at hupdated

/-! ## Whole deliveries -/

theorem updated_of_writeAll (hrows : ∀ row ∈ rows, row.1.IsPlain) :
    Updated (places cwd rows) ∅ t (t.writeAll cwd rows).1 := by
  induction rows generalizing t with
  | nil => exact .refl h hfree
  | cons row rest ih =>
    obtain ⟨file, bytes⟩ := row
    rw [List.forall_mem_cons] at hrows
    have hrest : places cwd rest ⊆ places cwd ((file, bytes) :: rest) :=
      fun _ ⟨row, hrow, hplace⟩ => ⟨row, List.mem_cons_of_mem _ hrow, hplace⟩
    rw [writeAll]
    cases hwrite : t.write cwd file bytes with
    | error e => exact .refl h hfree
    | ok t₁ =>
      obtain ⟨hupdated, -⟩ := updated_of_write h hfree hcwd hrows.1 hwrite
      have hfirst : {placeOf cwd file} ⊆ places cwd ((file, bytes) :: rest) :=
        Set.singleton_subset_iff.2 ⟨_, List.mem_cons_self, rfl⟩
      exact (hupdated.mono hfirst subset_rfl).trans
        ((ih hupdated.sound hupdated.linkFree (hupdated.directory hcwd) hrows.2).mono hrest
          subset_rfl)

/-- A delivery changes its files and the missing directories on the way to them, and nothing else,
whether or not it succeeds. -/
theorem updated_of_deliver (hproper : d.Proper cwd) :
    Updated (places cwd d.files) (waysTo cwd d.directory) t (t.deliver cwd d).1 := by
  have hmade := updated_of_makeDirectories h hfree hcwd hproper.directory d.levels
  rw [deliver]
  split
  · rename_i t₁ hmake
    rw [hmake] at hmade
    have hwritten :=
      updated_of_writeAll hmade.sound hmade.linkFree (hmade.directory hcwd) hproper.files
    exact (hmade.mono (Set.empty_subset _) subset_rfl).trans
      (hwritten.mono subset_rfl (Set.empty_subset _))
  · rename_i t₁ e hmake
    rw [hmake] at hmade
    exact hmade.mono (Set.empty_subset _) subset_rfl

end

/-! ## Deliveries that are made again -/

/-- A directory that is there is not made. -/
theorem makeDirectories_of_locate (hfree : t.LinkFree)
    (hlocate : t.locate cwd p = .ok ⟨location, some .directory⟩)
    (levels : ℕ) : t.makeDirectories levels cwd p = (t, .ok ()) := by
  have hmake : t.makeDirectory cwd p = .error .alreadyExists := by
    rw [makeDirectory, walk_entry_eq hfree, hlocate]
    rfl
  have hsettle : t.settle cwd p .alreadyExists = .ok (t, location) :=
    settle_eq_ok_iff.2 ⟨rfl, hlocate⟩
  obtain ⟨root, parts⟩ := p
  rw [makeDirectories]
  cases hparts : parts.reverse with
  | nil =>
    rw [makeDirectoriesUp.eq_def]
    rfl
  | cons name above =>
    have hreverse : (name :: above).reverse = parts := by rw [← hparts, List.reverse_reverse]
    rw [makeDirectoriesUp.eq_def]
    simp only [hreverse, hmake, hsettle]
    rfl

/-- A tree does not change if an entry is put where it already stands. -/
theorem insert_eq_self {entry : Entry} (h : t.Sound) (hne : location ≠ [])
    (hentry : t.entry? location = some entry) : t.insert location entry = t := by
  have hrow : ∀ row ∈ t.entries, row.1 = location.toArray → row.2 = entry := by
    intro row hrow hkey
    have hmem : (location, row.2) ∈ t.toList := List.mem_map.2 ⟨row, hrow, by simp [hkey]⟩
    exact Option.some.inj ((entry?_of_mem h.toWellFormed hmem).symm.trans hentry)
  have hlookup : t.entries.lookup location.toArray = some entry := by
    simpa [ entry?, hne] using hentry
  rw [insert, hlookup]
  simp only [Option.isSome_some, if_true]
  have hsame : (t.entries.map fun row =>
      if row.1 == location.toArray then (location.toArray, entry) else row) = t.entries := by
    refine (List.map_congr_left fun row hmem => ?_).trans (List.map_id _)
    split
    · rename_i hkey
      have hkey : row.1 = location.toArray := by simpa using hkey
      rw [← hkey, ← hrow row hmem hkey, id_eq]
    · rfl
  rw [hsame]

theorem write_of_locate (h : t.Sound)
    (hlocate : t.locate cwd file = .ok ⟨location, some (.file bytes)⟩) :
    t.write cwd file bytes = .ok t := by
  have hne : location ≠ [] := by
    rintro rfl
    cases (entry?_of_locate hlocate)
  refine write_eq_ok_iff.2 ⟨_, hlocate, by simp, ?_⟩
  exact (insert_eq_self h hne (entry?_of_locate hlocate)).symm

theorem writeAll_of_locate (h : t.Sound)
    (hrows : ∀ row ∈ rows, ∃ location, t.locate cwd row.1 = .ok ⟨location, some (.file row.2)⟩) :
    t.writeAll cwd rows = (t, .ok ()) := by
  induction rows with
  | nil => rfl
  | cons row rest ih =>
    obtain ⟨file, bytes⟩ := row
    rw [List.forall_mem_cons] at hrows
    obtain ⟨⟨location, hlocate⟩, hrest⟩ := hrows
    rw [writeAll, write_of_locate h hlocate]
    exact ih hrest

/-- Above a place that steps lead to there is always a directory. -/
theorem Leads.above_directory {steps : List String} {n : ℕ} {there : Location}
    (hleads : t.Leads here steps n there) (h : t.WellFormed)
    (hhere : t.entry? here = some .directory) : t.entry? there.dropLast = some .directory := by
  rcases hleads.reached h hhere with hdir | ⟨above, name, rfl, habove, -⟩
  · rcases List.eq_nil_or_concat' there with rfl | ⟨above, name, rfl⟩
    · rfl
    · rw [List.dropLast_concat]
      exact entry?_of_append h (by simp) hdir
  · rwa [List.dropLast_concat]

section

variable (h : t.Sound) (hfree : t.LinkFree) (hcwd : t.entry? cwd = some .directory)

include h hfree hcwd

/-- The directory of a file is there, and the file stands in it under its own name. -/
theorem locate_parent (hfile : file.IsPlain)
    (hlocate : t.locate cwd file = .ok ⟨location, some (.file bytes)⟩) :
    t.locate cwd file.parent = .ok ⟨placeOf cwd file.parent, some .directory⟩ ∧
      placeOf cwd file = placeOf cwd file.parent ++ [file.name] := by
  obtain ⟨hnull, hsize, hentry, n, hn, hleads⟩ := locate_eq_ok_iff.1 hlocate
  have hstart := entry?_start hcwd file
  obtain ⟨root, parts⟩ := file
  rcases List.eq_nil_or_concat' parts with rfl | ⟨above, name, rfl⟩
  · cases hleads
    cases hentry.trans hstart
  have hparent : (Path.mk root (above ++ [name])).parent = ⟨root, above⟩ := by
    rw [Path.parent, List.dropLast_concat]
  have hname : (Path.mk root (above ++ [name])).name = name := by
    rw [Path.name, List.getLast?_concat, Option.getD_some]
  have habove : (Path.mk root above).IsPlain := fun other hother => hfile other
    (List.mem_append_left _ hother)
  obtain ⟨mid, k, l, rfl, hfirst, hlast⟩ := hleads.split
  have hmid : mid = placeOf cwd ⟨root, above⟩ := hfirst.eq_descend hfree habove
  rw [hparent, hname]
  -- the last step goes down by the name, since going up would end at a directory
  cases hlast with
  | up hdone =>
    cases hdone
    cases hentry.trans (hfirst.above_directory h.toWellFormed hstart)
  | stay hstep =>
    obtain ⟨hempty, hdot, -⟩ := hfile name (List.mem_append_right _ (List.mem_singleton_self name))
    exact absurd hstep (not_or.2 ⟨hempty, hdot⟩)
  | enter _ hdir hdone =>
    cases hdone
    cases hentry.trans hdir
  | follow _ hlink => exact absurd hlink (hfree.ne_link _ _)
  | reach hstep =>
    have hdir : t.entry? mid = some .directory :=
      entry?_of_append h.toWellFormed (by simp) hentry.symm
    refine ⟨locate_eq_ok_iff.2 ⟨fun other hother => hnull other (List.mem_append_left _ hother),
      Path.size_lt_of_append hsize, ?_, k, by omega, ?_⟩, ?_⟩
    · rw [← hmid, hdir]
    · rw [← hmid]
      exact hfirst
    · rw [placeOf, start, descend_append, descend_name hstep.ne_up, descend_nil]
      rfl

/-- All files of a delivery that succeeds are there, if no two of them have one place. -/
theorem locate_of_writeAll (hrows : ∀ row ∈ rows, row.1.IsPlain)
    (hplaces : (rows.map fun row => placeOf cwd row.1).Nodup)
    (hwrite : t.writeAll cwd rows = (t', .ok ())) : ∀ row ∈ rows,
      t'.locate cwd row.1 = .ok ⟨placeOf cwd row.1, some (.file row.2)⟩ := by
  induction rows generalizing t with
  | nil => simp
  | cons row rest ih =>
    obtain ⟨file, bytes⟩ := row
    rw [List.forall_mem_cons] at hrows
    rw [List.map_cons, List.nodup_cons] at hplaces
    rw [writeAll] at hwrite
    cases hfirst : t.write cwd file bytes with
    | error e =>
      rw [hfirst] at hwrite
      cases hwrite
    | ok t₁ =>
      rw [hfirst] at hwrite
      obtain ⟨hupdated, hlocate⟩ := updated_of_write h hfree hcwd hrows.1 hfirst
      have hothers := updated_of_writeAll hupdated.sound hupdated.linkFree
        (hupdated.directory hcwd) hrows.2
      have hwrite : t₁.writeAll cwd rest = (t', .ok ()) := hwrite
      rw [hwrite] at hothers
      rw [List.forall_mem_cons]
      refine ⟨hothers.locate hupdated.linkFree hlocate ?_,
        ih hupdated.sound hupdated.linkFree (hupdated.directory hcwd) hrows.2 hplaces.2 hwrite⟩
      have hfile := entry?_of_locate hlocate
      refine ((hothers.file_iff ?_).2 hfile).trans hfile.symm
      rintro ⟨other, hother, hplace⟩
      exact hplaces.1 (List.mem_map.2 ⟨other, hother, hplace.symm⟩)

/-- All files of a delivery that has succeeded are there, and so is their directory. -/
theorem locate_of_deliver (hproper : d.Proper cwd)
    (hdeliver : t.deliver cwd d = (t', .ok ())) :
    t'.Sound ∧ t'.LinkFree ∧ t'.entry? cwd = some .directory ∧ ∀ row ∈ d.files,
      t'.locate cwd row.1 = .ok ⟨placeOf cwd row.1, some (.file row.2)⟩ := by
  have hmade := updated_of_makeDirectories h hfree hcwd hproper.directory d.levels
  have hupdated := updated_of_deliver h hfree hcwd hproper
  rw [hdeliver] at hupdated
  refine ⟨hupdated.sound, hupdated.linkFree, hupdated.directory hcwd, ?_⟩
  rw [deliver] at hdeliver
  split at hdeliver
  · rename_i t₁ hmake
    rw [hmake] at hmade
    exact locate_of_writeAll hmade.sound hmade.linkFree (hmade.directory hcwd) hproper.files
      hproper.places hdeliver
  · cases hdeliver

/-- A delivery that has succeeded succeeds again and changes nothing. -/
theorem deliver_again (hproper : d.Proper cwd) (hdeliver : t.deliver cwd d = (t', .ok ())) :
    t'.deliver cwd d = (t', .ok ()) := by
  obtain ⟨hsound, hlinks, hcwd', hlocate⟩ := locate_of_deliver h hfree hcwd hproper hdeliver
  obtain ⟨row, hrow⟩ := List.exists_mem_of_ne_nil _ hproper.nonempty
  obtain ⟨hdir, -⟩ := locate_parent hsound hlinks hcwd' (hproper.files row hrow) (hlocate row hrow)
  rw [hproper.parents row hrow] at hdir
  rw [deliver, makeDirectories_of_locate hlinks hdir]
  exact writeAll_of_locate hsound fun row hrow => ⟨_, hlocate row hrow⟩

end

/-! ## Deliveries that succeed -/

/-- New files can be written into a directory that is there. -/
theorem exists_writeAll {directory : Location} (items : List (String × List UInt8))
    (h : t.Sound) (hfree : t.LinkFree) (hcwd : t.entry? cwd = some .directory)
    (hdir : t.entry? directory = some .directory) (hnodup : (items.map Prod.fst).Nodup)
    (hnew : ∀ item ∈ items, t.entry? (directory ++ [item.1]) = none ∧ Fits [item.1] ∧
      (Path.absolute (directory ++ [item.1])).toString.utf8ByteSize < maxPathBytes) :
    ∃ t', t.writeAll cwd
      (items.map fun item => (.absolute (directory ++ [item.1]), item.2)) = (t', .ok ()) := by
  induction items generalizing t with
  | nil => exact ⟨t, rfl⟩
  | cons item rest ih =>
    rw [List.map_cons, List.nodup_cons] at hnodup
    rw [List.forall_mem_cons] at hnew
    obtain ⟨⟨hnone, hfits, hsize⟩, hrest⟩ := hnew
    have hname : IsName item.1 := hfits.real _ (List.mem_singleton_self _)
    have hlocate := locate_missing h hdir hnone hname
      (hfits.sizes _ (List.mem_singleton_self _)) hsize cwd
    obtain ⟨t₁, hwrite⟩ : ∃ t₁, t.write cwd (.absolute (directory ++ [item.1])) item.2 = .ok t₁ :=
      ⟨_, write_eq_ok_iff.2 ⟨_, hlocate, by simp, rfl⟩⟩
    have hreal : Location.IsReal (directory ++ [item.1]) :=
      (h.isReal_of_entry?_eq hdir).concat hname
    have hplain : (Path.absolute (directory ++ [item.1])).IsPlain := hreal.plainNames
    obtain ⟨hupdated, -⟩ := updated_of_write h hfree hcwd hplain hwrite
    rw [placeOf_absolute hreal] at hupdated
    rw [List.map_cons, writeAll, hwrite]
    refine ih hupdated.sound hupdated.linkFree (hupdated.directory hcwd) (hupdated.directory hdir)
      hnodup.2 fun other hother => ?_
    obtain ⟨hnone', hfits', hsize'⟩ := hrest other hother
    refine ⟨?_, hfits', hsize'⟩
    -- the other names are still missing
    have hne : item.1 ≠ other.1 := fun heq => hnodup.1 (heq ▸ List.mem_map_of_mem hother)
    rcases hupdated.entry (directory ++ [other.1]) with hsame | ⟨hmem, -⟩ | ⟨hmem, -⟩
    · exact hsame.trans hnone'
    · have heq := List.append_cancel_left (Set.mem_singleton_iff.1 hmem)
      exact absurd (List.singleton_inj.1 heq).symm hne
    · exact absurd hmem (Set.notMem_empty _)

/-- A directory that is missing from one that is there is made. -/
theorem makeDirectories_of_missing {above : Location} {name : String} (h : t.Sound)
    (hfree : t.LinkFree) (hdir : t.entry? above = some .directory)
    (hnone : t.entry? (above ++ [name]) = none) (hfits : Fits [name])
    (hsize : (Path.absolute (above ++ [name])).toString.utf8ByteSize < maxPathBytes) (levels : ℕ) :
    t.makeDirectories levels cwd (.absolute (above ++ [name])) =
      (t.insert (above ++ [name]) .directory, .ok ()) := by
  have hlocate := locate_missing h hdir hnone (hfits.real name (List.mem_singleton_self _))
    (hfits.sizes name (List.mem_singleton_self _)) hsize cwd
  have hmake : t.makeDirectory cwd (.absolute (above ++ [name])) =
      .ok (t.insert (above ++ [name]) .directory, above ++ [name]) := by
    rw [makeDirectory, walk_entry_eq hfree, hlocate]
    rfl
  have hreverse : (above ++ [name]).reverse = name :: above.reverse := by simp
  have hback : (name :: above.reverse).reverse = above ++ [name] := by simp
  rw [makeDirectories, Path.absolute, hreverse, makeDirectoriesUp.eq_def]
  simp only [hback]
  rw [show t.makeDirectory cwd ⟨.slash, above ++ [name]⟩ = _ from hmake]
  rfl

/-- A delivery of new files into a directory that is there succeeds. -/
theorem exists_deliver (directory : Location) (items : List (String × List UInt8))
    (h : t.Sound) (hfree : t.LinkFree) (hcwd : t.entry? cwd = some .directory)
    (hdir : t.entry? directory = some .directory)
    (hopen : (Path.absolute directory).toString.utf8ByteSize < maxPathBytes)
    (hdirectory : d.directory = .absolute directory)
    (hfiles : d.files = items.map fun item => (.absolute (directory ++ [item.1]), item.2))
    (hnodup : (items.map Prod.fst).Nodup)
    (hnew : ∀ item ∈ items, t.entry? (directory ++ [item.1]) = none ∧ Fits [item.1] ∧
      (Path.absolute (directory ++ [item.1])).toString.utf8ByteSize < maxPathBytes) :
    ∃ t', t.deliver cwd d = (t', .ok ()) := by
  have hlocate := locate_absolute h hdir (by simp) hopen cwd
  rw [deliver, hdirectory, makeDirectories_of_locate hfree hlocate, hfiles]
  exact exists_writeAll items h hfree hcwd hdir hnodup hnew

end FileTree

end LineLint
