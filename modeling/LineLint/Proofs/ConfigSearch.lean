import LineLint.Proofs.ConfigLoading
import LineLint.Proofs.LinkFree

/-!
# The nearest configuration file

The search for a configuration file goes up from a directory and takes the first of the four names
that leads to a file. What else is in the tree does not matter: a file that is further up, or has a
later name, can be made or changed as long as no nearer name leads to it. Main statement:
`Settings.search_nearest`.
-/

namespace LineLint.Settings

variable {t t' : FileTree} {cwd directory place other there : Location} {search source : Path}
  {before after : List Location} {bytes : List UInt8} {room n : ℕ}

/-! ## Where the search looks -/

theorem nodup_configNames : configNames.Nodup := by decide

/-- The search looks at no place twice. -/
theorem nodup_candidates (directory : Location) : (candidates directory).Nodup := by
  rw [candidates, List.inits_eq_tails, List.reverse_reverse, List.flatMap_map]
  generalize directory.reverse = names
  induction names with
  | nil =>
    simpa using nodup_configNames.map fun first second hsame => by simpa using hsame
  | cons name above ih =>
    rw [List.tails, List.flatMap_cons, List.nodup_append]
    refine ⟨nodup_configNames.map fun first second hsame => ?_, ih, ?_⟩
    · simpa using hsame
    · -- the places above are shorter
      intro first hfirst second hsecond hsame
      obtain ⟨last, -, rfl⟩ := List.mem_map.1 hfirst
      obtain ⟨up, hup, hsecond⟩ := List.mem_flatMap.1 hsecond
      obtain ⟨last', -, rfl⟩ := List.mem_map.1 hsecond
      have hlength := ((List.mem_tails _ _).1 hup).length_le
      have hequal := congrArg List.length hsame
      simp only [List.length_append, List.length_reverse, List.length_cons,
        List.length_nil] at hequal
      omega

/-- The place is a file, or a link that can be followed to one. -/
def HoldsFile (t : FileTree) (place : Location) : Prop :=
  ∃ there bytes, t.locate [] (.absolute place) = .ok ⟨there, some (.file bytes)⟩

/-- The place is too long to be looked at, or is a link to such a place. -/
def TooLong (t : FileTree) (place : Location) : Prop :=
  t.locate [] (.absolute place) = .error .nameTooLong

/-- Two places lead to the same. -/
def Coincide (t : FileTree) (place other : Location) : Prop :=
  ∃ found, t.locate [] (.absolute place) = .ok found ∧ t.locate [] (.absolute other) = .ok found

def IsLink (t : FileTree) (place : Location) : Prop :=
  ∃ target, t.entry? place = some (.link target)

/-- Among the places where a search looks this one is the first that holds a file. -/
structure IsNearest (t : FileTree) (directory : Location) (before : List Location)
    (place : Location) (after : List Location) : Prop where
  order : candidates directory = before ++ place :: after
  holds : HoldsFile t place
  none_before : ∀ other ∈ before, ¬HoldsFile t other

theorem holdsFile_iff : HoldsFile t place ↔ t.isFile [] (.absolute place) = .ok true := by
  simp only [FileTree.isFile_eq_true_iff, FileTree.read_eq_ok_iff]
  exact exists_comm

theorem isFile_eq_false_iff :
    t.isFile [] (.absolute place) = .ok false ↔ ¬HoldsFile t place ∧ ¬TooLong t place := by
  rw [FileTree.isFile_eq_false_iff, holdsFile_iff, FileTree.isFile_eq_true_iff, not_exists]
  rfl

/-- The search for a configuration file finds the nearest one. -/
structure FindsNearest (t : FileTree) (directory : Location) : Prop where
  /-- It finds the first place that holds a file, if it can look at the places before. -/
  found : ∀ before place after, IsNearest t directory before place after →
    (∀ other ∈ before, ¬TooLong t other) → findConfig t directory = .ok (some (.absolute place))
  /-- Whatever it finds is the first place that holds a file. -/
  nearest : ∀ source, findConfig t directory = .ok (some source) →
    ∃ before place after, source = .absolute place ∧ IsNearest t directory before place after
  /-- It finds nothing exactly if there is no file and it can look at all places. -/
  nothing : findConfig t directory = .ok none ↔
    ∀ place ∈ candidates directory, ¬HoldsFile t place ∧ ¬TooLong t place
  /-- A place that is no link holds a file exactly if it is one, so directories are passed over. -/
  plain : ∀ place ∈ candidates directory, ¬IsLink t place → ¬TooLong t place →
    (HoldsFile t place ↔ ∃ bytes, t.entry? place = some (.file bytes))

theorem findConfig_of_isNearest (h : IsNearest t directory before place after)
    (hshort : ∀ other ∈ before, ¬TooLong t other) :
    findConfig t directory = .ok (some (.absolute place)) := by
  rw [findConfig_eq_firstFile, firstFile_eq_some_iff]
  refine ⟨before, place, after, h.order, rfl, holdsFile_iff.1 h.holds, fun other hother => ?_⟩
  exact isFile_eq_false_iff.2 ⟨h.none_before other hother, hshort other hother⟩

theorem exists_isNearest (hfind : findConfig t directory = .ok (some source)) :
    ∃ before place after, source = .absolute place ∧
      IsNearest t directory before place after := by
  rw [findConfig_eq_firstFile] at hfind
  obtain ⟨before, place, after, horder, hsource, hfile, hbefore⟩ := firstFile_eq_some_iff.1 hfind
  refine ⟨before, place, after, hsource, horder, holdsFile_iff.2 hfile, fun other hother => ?_⟩
  exact (isFile_eq_false_iff.1 (hbefore other hother)).1

theorem findConfig_eq_none_iff : findConfig t directory = .ok none ↔
    ∀ place ∈ candidates directory, ¬HoldsFile t place ∧ ¬TooLong t place := by
  rw [findConfig_eq_firstFile, firstFile_eq_none_iff]
  exact forall₂_congr fun _ _ => isFile_eq_false_iff

/-! ## Places without links -/

section

variable (h : t.Sound) (hdirect : t.IsDirect directory) (hreal : Location.IsReal directory)

include h hdirect hreal

/-- A place that is no link leads to itself. -/
theorem location_of_candidate (hplace : place ∈ candidates directory) (hlink : ¬IsLink t place)
    {found : Place} (hlocate : t.locate [] (.absolute place) = .ok found) :
    found.location = place := by
  have hnames : ∀ name ∈ configNames, IsName name := by decide
  obtain ⟨above, habove, name, hname, rfl⟩ := mem_candidates.1 hplace
  have hplain : Location.IsReal (above ++ [name]) :=
    Location.IsReal.concat (fun other hother => hreal other (habove.subset hother))
      (hnames name hname)
  have hself : t.resolve [] (.absolute (above ++ [name])) = .ok (above ++ [name]) :=
    ((hdirect.of_prefix habove).concat (not_exists.1 hlink)).resolve_eq hplain []
  have hfound : t.resolve [] (.absolute (above ++ [name])) = .ok found.location :=
    FileTree.resolve_of_locate h hplain.plainNames hlocate
  exact Except.ok.inj (hfound.symm.trans hself)

theorem holdsFile_iff_entry (hplace : place ∈ candidates directory) (hlink : ¬IsLink t place)
    (hshort : ¬TooLong t place) :
    HoldsFile t place ↔ ∃ bytes, t.entry? place = some (.file bytes) := by
  constructor
  · rintro ⟨there, bytes, hlocate⟩
    have hthere : there = place := location_of_candidate h hdirect hreal hplace hlink hlocate
    have hentry : t.entry? there = some (.file bytes) := FileTree.entry?_of_locate hlocate
    exact ⟨bytes, hthere ▸ hentry⟩
  · rintro ⟨bytes, hentry⟩
    refine ⟨place, bytes, FileTree.locate_absolute h hentry (by simp) ?_ []⟩
    by_contra hsize
    exact hshort (FileTree.locate_of_long (h.isReal_of_entry?_eq hentry) (Nat.not_lt.1 hsize) [])

/-- Places without links do not lead to the same. -/
theorem not_coincide (horder : candidates directory = before ++ place :: after)
    {near later : Location} (hnear : near ∈ before ++ [place]) (hlater : later ∈ after)
    (hlink : ¬IsLink t near) (hlink' : ¬IsLink t later) : ¬Coincide t near later := by
  rintro ⟨found, hfound, hfound'⟩
  have hsplit : candidates directory = (before ++ [place]) ++ after := by
    rw [horder, List.append_cons]
  have hmem : near ∈ candidates directory := hsplit ▸ List.mem_append_left after hnear
  have hmem' : later ∈ candidates directory := hsplit ▸ List.mem_append_right _ hlater
  have hsame : near = later :=
    (location_of_candidate h hdirect hreal hmem hlink hfound).symm.trans
      (location_of_candidate h hdirect hreal hmem' hlink' hfound')
  have hnodup := nodup_candidates directory
  rw [hsplit] at hnodup
  exact (List.nodup_append.1 hnodup).2.2 near hnear later hlater hsame

end

/-! ## What comes of the search -/

/-- Without a named file settings come from the nearest one, whatever other files there are. -/
structure LoadsNearest (t : FileTree) (cwd : Location) (search : Path) (directory : Location) :
    Prop where
  /-- They are those in the nearest file, in every tree with the same directories and links that
  keeps this file and puts no file at a place before. -/
  content : ∀ {before place after there bytes}, IsNearest t directory before place after →
    (∀ other ∈ before, ¬TooLong t other) →
    t.locate [] (.absolute place) = .ok ⟨there, some (.file bytes)⟩ →
    ∀ t', t.SameFrame t' → t'.entry? there = some (.file bytes) →
      (∀ other ∈ before, ¬HoldsFile t' other) →
      ∀ room, load room t' cwd none search =
        (ofConfig room (.absolute place) bytes).map (·, [])
  /-- They stay the same when a file is made or changed at a place behind, unless a link makes this
  place and one that is not behind lead to the same. -/
  written : ∀ {before place after}, IsNearest t directory before place after →
    (∀ other ∈ before, ¬TooLong t other) →
    ∀ later ∈ after, (∀ near ∈ before ++ [place], IsLink t near ∨ IsLink t later →
      ¬Coincide t near later) →
    ∀ bytes t', t.write [] (.absolute later) bytes = .ok t' →
      ∀ room, load room t' cwd none search = load room t cwd none search
  /-- They are the defaults if nothing is found. -/
  defaults : findConfig t directory = .ok none →
    ∀ room, load room t cwd none search = .ok ({}, [])

/-- A named file is not searched for. -/
structure IgnoresSearch (t : FileTree) (cwd : Location) : Prop where
  /-- It does not matter from where a search would start. -/
  same : ∀ room config search other,
    load room t cwd (some config) search = load room t cwd (some config) other
  /-- Settings come from the file that is named, or are the defaults with a warning if there is no
  such file. -/
  settled : ∀ config : Path, (∀ name ∈ config.parts, Char.ofNat 0 ∉ name.toList) →
    ∃ location, t.resolve cwd config = .ok location ∧
      (∀ there bytes, t.locate [] (.absolute location) = .ok ⟨there, some (.file bytes)⟩ →
        ∀ room search, load room t cwd (some config) search =
          (ofConfig room (.absolute location) bytes).map (·, [])) ∧
      (¬HoldsFile t location → ¬TooLong t location →
        ∀ room search, load room t cwd (some config) search =
          .ok ({}, [.configMissing (.absolute location)]))

section

variable (hresolves : t.Resolves (FileTree.start cwd search) search.parts n directory)

include hresolves

theorem load_of_isNearest (hnearest : IsNearest t directory before place after)
    (hshort : ∀ other ∈ before, ¬TooLong t other)
    (hlocate : t.locate [] (.absolute place) = .ok ⟨there, some (.file bytes)⟩)
    (hframe : t.SameFrame t') (hkeep : t'.entry? there = some (.file bytes))
    (hbefore : ∀ other ∈ before, ¬HoldsFile t' other) :
    load room t' cwd none search = (ofConfig room (.absolute place) bytes).map (·, []) := by
  have hresolve : t'.resolve cwd search = .ok directory :=
    FileTree.resolve_of_resolves (hresolves.congr hframe)
  have hlocate' : t'.locate [] (.absolute place) = .ok ⟨there, some (.file bytes)⟩ := by
    rw [hframe.locate_eq hlocate, hkeep]
  have hnearest' : IsNearest t' directory before place after :=
    ⟨hnearest.order, ⟨there, bytes, hlocate'⟩, hbefore⟩
  have hfind : findConfig t' directory = .ok (some (.absolute place)) :=
    findConfig_of_isNearest hnearest' fun other hother =>
      mt hframe.tooLong_iff.2 (hshort other hother)
  exact load_of_chosen (.nearest hresolve hfind) (FileTree.read_eq_ok_iff.2 ⟨there, hlocate'⟩)

theorem load_of_write (h : t.Sound) (hdirect : t.IsDirect directory)
    (hreal : Location.IsReal directory) (hnearest : IsNearest t directory before place after)
    (hshort : ∀ other ∈ before, ¬TooLong t other) {later : Location} (hlater : later ∈ after)
    (hapart : ∀ near ∈ before ++ [place], IsLink t near ∨ IsLink t later → ¬Coincide t near later)
    (hwrite : t.write [] (.absolute later) bytes = .ok t') :
    load room t' cwd none search = load room t cwd none search := by
  have hnot : ∀ near ∈ before ++ [place], ¬Coincide t near later := by
    intro near hnear
    by_cases hlink : IsLink t near ∨ IsLink t later
    · exact hapart near hnear hlink
    · rw [not_or] at hlink
      exact not_coincide h hdirect hreal hnearest.order hnear hlater hlink.1 hlink.2
  obtain ⟨hframe, found, hfound, hentry⟩ := FileTree.frame_of_write h.toWellFormed rfl hwrite
  -- what does not lead to the place that is written leads to what it led to
  have hkeep : ∀ near ∈ before ++ [place], ∀ {there entry},
      t.locate [] (.absolute near) = .ok ⟨there, entry⟩ → t'.entry? there = entry := by
    intro near hnear there entry hlocate
    rw [hentry, if_neg, FileTree.entry?_of_locate hlocate]
    rintro rfl
    have hsame : (⟨found.location, entry⟩ : Place) = found :=
      FileTree.place_of_location hlocate hfound rfl
    exact hnot near hnear ⟨found, hsame ▸ hlocate, hfound⟩
  obtain ⟨there, content, hlocate⟩ := hnearest.holds
  have hplace : t'.entry? there = some (.file content) := hkeep place (by simp) hlocate
  have hbefore : ∀ other ∈ before, ¬HoldsFile t' other := by
    rintro other hother ⟨there, content, hlocate'⟩
    have hback := hframe.symm.locate_eq hlocate'
    have hfile : t'.entry? there = some (.file content) := FileTree.entry?_of_locate hlocate'
    rw [hkeep other (List.mem_append_left _ hother) hback] at hfile
    exact hnearest.none_before other hother ⟨there, content, by rw [hback, hfile]⟩
  rw [load_of_isNearest hresolves hnearest hshort hlocate hframe hplace hbefore,
    load_of_isNearest hresolves hnearest hshort hlocate (.refl t)
      (FileTree.entry?_of_locate hlocate) hnearest.none_before]

end

theorem ignoresSearch (h : t.Sound) (hloop : t.LoopFree) (cwd : Location) :
    IgnoresSearch t cwd := by
  refine ⟨fun _ _ _ _ => rfl, fun config hnull => ?_⟩
  obtain ⟨location, hresolve⟩ := hloop.exists_resolve h hnull cwd
  refine ⟨location, hresolve, ?_, ?_⟩
  · intro there bytes hlocate room search
    have hfile := holdsFile_iff.1 ⟨there, bytes, hlocate⟩
    exact load_of_chosen (.named hresolve hfile) (FileTree.read_eq_ok_iff.2 ⟨there, hlocate⟩)
  · intro hnone hshort room search
    exact load_of_missing hresolve (isFile_eq_false_iff.2 ⟨hnone, hshort⟩)

/-- In a tree without loops of links the search from any path finds the nearest configuration file,
and what is loaded depends on this file only. -/
theorem search_nearest (h : t.Sound) (hloop : t.LoopFree)
    (hcwd : t.entry? cwd = some .directory) (hsearch : search.IsPlain)
    (hnull : ∀ name ∈ search.parts, Char.ofNat 0 ∉ name.toList) :
    ∃ directory, t.resolve cwd search = .ok directory ∧ FindsNearest t directory ∧
      LoadsNearest t cwd search directory ∧ IgnoresSearch t cwd := by
  obtain ⟨n, directory, hresolves⟩ := hloop.exists_resolves h hnull (FileTree.start cwd search)
  have hresolve : t.resolve cwd search = .ok directory := FileTree.resolve_of_resolves hresolves
  have hdirect : t.IsDirect directory := hresolves.isDirect
    (FileTree.isDirect_start (FileTree.isDirect_of_directory h.toWellFormed hcwd) search)
  have hreal : Location.IsReal directory :=
    FileTree.isReal_of_resolve h (h.isReal_of_entry?_eq hcwd) hsearch hresolve
  refine ⟨directory, hresolve, ⟨?_, ?_, findConfig_eq_none_iff, ?_⟩, ⟨?_, ?_, ?_⟩,
    ignoresSearch h hloop cwd⟩
  · intro before place after hnearest hshort
    exact findConfig_of_isNearest hnearest hshort
  · intro source hfind
    exact exists_isNearest hfind
  · intro place hplace hlink hshort
    exact holdsFile_iff_entry h hdirect hreal hplace hlink hshort
  · intro before place after there bytes hnearest hshort hlocate t' hframe hkeep hbefore room
    exact load_of_isNearest hresolves hnearest hshort hlocate hframe hkeep hbefore
  · intro before place after hnearest hshort later hlater hapart bytes t' hwrite room
    exact load_of_write hresolves h hdirect hreal hnearest hshort hlater hapart hwrite
  · intro hnone room
    simp only [load, hresolve, hnone, access, loadFrom, bind, Except.bind, Except.mapError]
    rfl

/-! ## Nearer names of other things -/

/-- Above a search from a missing directory stands a directory with the first of the four names,
next to a file with the second one, and further up a file with the first one. -/
def shadowedTree : FileTree :=
  ⟨[(#["goldenlint.yaml"], .file [0x61]), (#["proj"], .directory),
    (#["proj", "goldenlint.yaml"], .directory), (#["proj", "goldenlint.yml"], .file [])]⟩

theorem isNearest_shadowedTree : ∃ before after,
    IsNearest shadowedTree ["proj", "missing"] before ["proj", "goldenlint.yml"] after ∧
      (∀ other ∈ before, ¬TooLong shadowedTree other) ∧ ["goldenlint.yaml"] ∈ after := by
  have hsound : shadowedTree.Sound := by decide
  have hfree : shadowedTree.LinkFree := by decide
  have hentry : shadowedTree.entry? ["proj", "goldenlint.yml"] = some (.file []) := by decide
  have hbefore : ∀ other ∈ (candidates ["proj", "missing"]).take 5,
      FileTree.Fits other ∧
        ¬FileTree.maxPathBytes ≤ (Path.absolute other).toString.utf8ByteSize ∧
        (shadowedTree.entry? other).any FileTree.isFileEntry = false := by decide +kernel
  have hfalse : ∀ other ∈ (candidates ["proj", "missing"]).take 5,
      ¬HoldsFile shadowedTree other ∧ ¬TooLong shadowedTree other := by
    intro other hother
    obtain ⟨hfits, hsize, hnone⟩ := hbefore other hother
    rw [← isFile_eq_false_iff, FileTree.isFile_absolute hsound hfree hfits, if_neg hsize, hnone]
  refine ⟨(candidates ["proj", "missing"]).take 5, (candidates ["proj", "missing"]).drop 6,
    ⟨by decide, ⟨_, _, FileTree.locate_absolute hsound hentry (by simp) (by decide) []⟩, ?_⟩, ?_,
    by decide⟩
  · exact fun other hother => (hfalse other hother).1
  · exact fun other hother => (hfalse other hother).2

theorem search_nearest_shadowed : shadowedTree.Sound ∧ shadowedTree.LoopFree ∧
    ∃ directory, shadowedTree.resolve [] (.absolute ["proj", "missing"]) = .ok directory ∧
      findConfig shadowedTree directory = .ok (some (.absolute ["proj", "goldenlint.yml"])) ∧
      ∀ bytes t', shadowedTree.write [] (.absolute ["goldenlint.yaml"]) bytes = .ok t' →
        ∀ room, load room t' [] none (.absolute ["proj", "missing"]) =
          load room shadowedTree [] none (.absolute ["proj", "missing"]) := by
  have hsound : shadowedTree.Sound := by decide
  have hfree : shadowedTree.LinkFree := by decide
  have hloop := FileTree.LinkFree.loopFree hsound hfree
  have hsearch : (Path.absolute ["proj", "missing"]).IsPlain := by decide
  obtain ⟨directory, hresolve, hfinds, hloads, -⟩ :=
    search_nearest hsound hloop FileTree.entry?_nil hsearch (by decide)
  obtain rfl : directory = ["proj", "missing"] :=
    (FileTree.placeOf_of_resolve hfree hresolve).trans (FileTree.placeOf_absolute (by decide))
  obtain ⟨before, after, hnearest, hshort, hlater⟩ := isNearest_shadowedTree
  refine ⟨hsound, hloop, _, hresolve, hfinds.found _ _ _ hnearest hshort, fun bytes t' hwrite => ?_⟩
  refine hloads.written hnearest hshort _ hlater (fun near _ hlink => ?_) bytes t' hwrite
  rcases hlink with ⟨target, hlink⟩ | ⟨target, hlink⟩
  · exact absurd hlink (hfree.ne_link _ _)
  · exact absurd hlink (hfree.ne_link _ _)

/-! ## A nearer name that is a link -/

/-- The extensions in the settings that have been loaded. -/
def extensionsOf (loaded : Except LoadError (Settings × List Warning)) : Option (List ChosenName) :=
  loaded.toOption.map (·.1.extensions)

/-- The configuration file of a project is a link to the one above. -/
def sharedTree (text : String) : FileTree :=
  ⟨[(#["goldenlint.yaml"], .file (Text.Utf8.encode text.toList)), (#["proj"], .directory),
    (#["proj", "goldenlint.yaml"], .link "/goldenlint.yaml")]⟩

section

variable {text : String} (h : (sharedTree text).Sound)

include h

theorem locate_sharedTree : (sharedTree text).locate [] (.absolute ["proj", "goldenlint.yaml"]) =
    .ok ⟨["goldenlint.yaml"], some (.file (Text.Utf8.encode text.toList))⟩ :=
  FileTree.locate_link h ["proj"] "/goldenlint.yaml" rfl (by decide) rfl (by simp) (by decide) []

theorem isNearest_sharedTree : IsNearest (sharedTree text) ["proj"] [] ["proj", "goldenlint.yaml"]
    ((candidates ["proj"]).drop 1) :=
  ⟨by decide, ⟨_, _, locate_sharedTree h⟩, by simp⟩

theorem loopFree_sharedTree : (sharedTree text).LoopFree := by
  have hrows : ∀ row ∈ (sharedTree text).toList,
      row.2.target? = none ∨ row.1 = ["proj"] ++ ["goldenlint.yaml"] := by
    simp [sharedTree, FileTree.toList, Entry.target?]
  have htarget : Path.parse "/goldenlint.yaml" = .absolute ["goldenlint.yaml"] := by decide
  have hfile : FileTree.entry? (sharedTree text) ["goldenlint.yaml"] =
      some (.file (Text.Utf8.encode text.toList)) := rfl
  refine (FileTree.loopFree_iff h).2 fun place target hlink => ?_
  have hne : place ≠ [] := by
    rintro rfl
    cases hlink
  obtain rfl := (hrows _ (FileTree.mem_of_entry?_eq hne hlink)).resolve_left
    (by simp [Entry.target?])
  refine ⟨0, ["proj"], "goldenlint.yaml", "/goldenlint.yaml", ["goldenlint.yaml"], rfl, rfl, ?_⟩
  rw [htarget]
  exact .enter (by decide) (by decide) (fun target hlink => by cases hfile.symm.trans hlink) .done

theorem load_sharedTree : load room (sharedTree text) [] none (.absolute ["proj"]) =
    (ofConfig room (.absolute ["proj", "goldenlint.yaml"])
      (Text.Utf8.encode text.toList)).map (·, []) := by
  have hdir : FileTree.entry? (sharedTree text) ["proj"] = some .directory := rfl
  have hresolve : (sharedTree text).resolve [] (.absolute ["proj"]) = .ok ["proj"] :=
    FileTree.resolve_of_locate h (by decide)
      (FileTree.locate_absolute h hdir (by simp) (by decide) [])
  have hfind := findConfig_of_isNearest (isNearest_sharedTree h) (by simp)
  exact load_of_chosen (.nearest hresolve hfind)
    (FileTree.read_eq_ok_iff.2 ⟨_, locate_sharedTree h⟩)

end

/-- When the nearest configuration file is a link to one further up, what is loaded changes with
that one. -/
theorem search_shared_changes :
    (sharedTree "extensions: [.ts]\n").Sound ∧ (sharedTree "extensions: [.ts]\n").LoopFree ∧
      IsNearest (sharedTree "extensions: [.ts]\n") ["proj"] [] ["proj", "goldenlint.yaml"]
        ((candidates ["proj"]).drop 1) ∧
      ["goldenlint.yaml"] ∈ (candidates ["proj"]).drop 1 ∧
      (sharedTree "extensions: [.ts]\n").write [] (.absolute ["goldenlint.yaml"])
          (Text.Utf8.encode "extensions: [.js]\n".toList) =
        .ok (sharedTree "extensions: [.js]\n") ∧
      extensionsOf (load Yaml.Document.wholeRoom (sharedTree "extensions: [.ts]\n") [] none
        (.absolute ["proj"])) = some [.text ".ts"] ∧
      extensionsOf (load Yaml.Document.wholeRoom (sharedTree "extensions: [.js]\n") [] none
        (.absolute ["proj"])) = some [.text ".js"] := by
  have hsound : (sharedTree "extensions: [.ts]\n").Sound := by decide +kernel
  have hsound' : (sharedTree "extensions: [.js]\n").Sound := by decide +kernel
  have hentry : FileTree.entry? (sharedTree "extensions: [.ts]\n") ["goldenlint.yaml"] =
      some (.file (Text.Utf8.encode "extensions: [.ts]\n".toList)) := rfl
  have hlocate := FileTree.locate_absolute hsound hentry (by simp) (by decide) []
  refine ⟨hsound, loopFree_sharedTree hsound, isNearest_sharedTree hsound, by decide,
    FileTree.write_eq_ok_iff.2 ⟨_, hlocate, by simp, rfl⟩, ?_, ?_⟩
  · rw [load_sharedTree hsound]
    decide +kernel
  · rw [load_sharedTree hsound']
    decide +kernel

end LineLint.Settings
