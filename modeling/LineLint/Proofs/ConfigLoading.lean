import LineLint.Proofs.Discovery
import LineLint.Settings.Config

/-!
# What comes of a configuration file

A configuration file that has been chosen can be read, and loading it gives settings or a fault that
names the file, unless its bytes are no text, its document has a scalar without a value, or a key of
it is no text. Main statements: `Settings.Chosen.exists_read` and `Settings.load_reported_iff`.
-/

namespace LineLint.Settings

variable {t : FileTree} {cwd : Location} {config : Option Path} {search source : Path}
  {bytes : List UInt8} {room : Nat} {e : LoadError}

/-! ## The search for a file -/

/-- The first of some places that is a file. -/
def firstFile (t : FileTree) : List Location → Except AccessError (Option Path)
  | [] => .ok none
  | place :: rest =>
    match t.isFile [] (.absolute place) with
    | .ok true => .ok (some (.absolute place))
    | .ok false => firstFile t rest
    | .error e => .error e

theorem firstFile_append (before after : List Location) :
    firstFile t (before ++ after) = match firstFile t before with
      | .ok none => firstFile t after
      | found => found := by
  induction before with
  | nil => rfl
  | cons place rest ih =>
    rw [List.cons_append, firstFile, firstFile]
    cases t.isFile [] (.absolute place) with
    | error e => rfl
    | ok isFile =>
      cases isFile with
      | true => rfl
      | false => exact ih

theorem firstFile_eq_none_iff {places : List Location} : firstFile t places = .ok none ↔
    ∀ place ∈ places, t.isFile [] (.absolute place) = .ok false := by
  induction places with
  | nil => simp [firstFile]
  | cons place rest ih =>
    rw [firstFile, List.forall_mem_cons, ← ih]
    cases t.isFile [] (.absolute place) with
    | error e => simp
    | ok isFile => cases isFile <;> simp

theorem firstFile_eq_some_iff {places : List Location} : firstFile t places = .ok (some source) ↔
    ∃ before place after, places = before ++ place :: after ∧ source = .absolute place ∧
      t.isFile [] (.absolute place) = .ok true ∧
      ∀ other ∈ before, t.isFile [] (.absolute other) = .ok false := by
  constructor
  · intro h
    induction places with
    | nil => cases h
    | cons place rest ih =>
      rw [firstFile] at h
      split at h
      · rename_i hfile
        cases h
        exact ⟨[], place, rest, rfl, rfl, hfile, by simp⟩
      · rename_i hfile
        obtain ⟨before, found, after, rfl, hsource, hfound, hbefore⟩ := ih h
        exact ⟨place :: before, found, after, rfl, hsource, hfound,
          List.forall_mem_cons.2 ⟨hfile, hbefore⟩⟩
      · cases h
  · rintro ⟨before, place, after, rfl, rfl, hfile, hbefore⟩
    rw [firstFile_append, firstFile_eq_none_iff.2 hbefore]
    simp only [firstFile, hfile]

theorem firstFile_congr {t' : FileTree} {places : List Location}
    (hfiles : ∀ place ∈ places, t.isFile [] (.absolute place) = t'.isFile [] (.absolute place)) :
    firstFile t places = firstFile t' places := by
  induction places with
  | nil => rfl
  | cons place rest ih =>
    rw [List.forall_mem_cons] at hfiles
    rw [firstFile, firstFile, hfiles.1, ih hfiles.2]

/-- Where the search from a directory looks, in its order: in the directory and in those above it,
and in each of them at the four names. -/
def candidates (directory : Location) : List Location :=
  directory.inits.reverse.flatMap fun above => configNames.map fun name => above ++ [name]

theorem mem_candidates {directory place : Location} : place ∈ candidates directory ↔
    ∃ above, above <+: directory ∧ ∃ name ∈ configNames, place = above ++ [name] := by
  simp [candidates, eq_comm]

theorem configIn_eq_firstFile (t : FileTree) (directory : Location) :
    configIn t directory = firstFile t (configNames.map fun name => directory ++ [name]) := by
  rw [configIn]
  generalize configNames = names
  induction names with
  | nil => rfl
  | cons name rest ih =>
    rw [List.foldlM_cons, List.map_cons, firstFile]
    cases hfile : t.isFile [] (.absolute (directory ++ [name])) with
    | error e => simp [hfile, bind, Except.bind]
    | ok isFile =>
      cases isFile with
      | false => simpa [hfile, bind, Except.bind, pure, Except.pure] using ih
      | true =>
        -- once a file is found it is kept
        simp only [hfile, bind, Except.bind, pure, Except.pure, Option.isSome_none,
          Bool.false_eq_true, if_false, if_true]
        clear ih
        induction rest with
        | nil => rfl
        | cons other rest ih => exact ih

theorem searchUp_eq_firstFile (t : FileTree) (names : List String) :
    searchUp t names = firstFile t (names.tails.flatMap fun up =>
      configNames.map fun name => up.reverse ++ [name]) := by
  induction names with
  | nil => simp [searchUp, configIn_eq_firstFile]
  | cons name above ih =>
    rw [searchUp, List.tails, List.flatMap_cons, firstFile_append, ← configIn_eq_firstFile, ← ih]
    cases configIn t (name :: above).reverse with
    | error e => rfl
    | ok found => cases found <;> rfl

/-- The search takes the first file among the places where it looks. -/
theorem findConfig_eq_firstFile (t : FileTree) (directory : Location) :
    findConfig t directory = firstFile t (candidates directory) := by
  rw [findConfig, searchUp_eq_firstFile, candidates, List.inits_eq_tails, List.reverse_reverse,
    List.flatMap_map]

/-- The nearest file is one of the places where the search looks. -/
theorem exists_of_findConfig {directory : Location}
    (h : findConfig t directory = .ok (some source)) :
    ∃ place ∈ candidates directory, source = .absolute place ∧ t.isFile [] source = .ok true := by
  rw [findConfig_eq_firstFile] at h
  obtain ⟨before, place, after, hplaces, rfl, hfile, -⟩ := firstFile_eq_some_iff.1 h
  exact ⟨place, by simp [hplaces], rfl, hfile⟩

theorem configIn_eq_none (h : t.Sound) {directory : Location}
    (hdir : t.entry? directory = some .directory)
    (habsent : ∀ name ∈ configNames, t.entry? (directory ++ [name]) = none ∧
      (Path.absolute (directory ++ [name])).toString.utf8ByteSize < FileTree.maxPathBytes) :
    configIn t directory = .ok none := by
  have hnames : ∀ name ∈ configNames, IsName name ∧
      name.utf8ByteSize ≤ FileTree.maxNameBytes := by decide
  rw [configIn_eq_firstFile, firstFile_eq_none_iff, List.forall_mem_map]
  intro name hname
  obtain ⟨hnone, hsize⟩ := habsent name hname
  rw [FileTree.isFile, FileTree.find?, FileTree.locate_missing h hdir hnone (hnames name hname).1
    (hnames name hname).2 hsize]
  rfl

/-! ## The file that is chosen -/

/-- The configuration file that a user names, or else the nearest one to a directory. -/
inductive Chosen (t : FileTree) (cwd : Location) (search : Path) : Option Path → Path → Prop
  | named {config : Path} {location : Location} (hresolve : t.resolve cwd config = .ok location)
      (hfile : t.isFile [] (.absolute location) = .ok true) :
      Chosen t cwd search (some config) (.absolute location)
  | nearest {directory : Location} {source : Path} (hresolve : t.resolve cwd search = .ok directory)
      (hfind : findConfig t directory = .ok (some source)) : Chosen t cwd search none source

theorem Chosen.isFile (h : Chosen t cwd search config source) : t.isFile [] source = .ok true := by
  cases h with
  | named hresolve hfile => exact hfile
  | nearest hresolve hfind =>
    obtain ⟨_, -, -, hfile⟩ := exists_of_findConfig hfind
    exact hfile

/-- A configuration file that has been chosen can be read. -/
theorem Chosen.exists_read (h : Chosen t cwd search config source) :
    ∃ bytes, t.read [] source = .ok bytes :=
  FileTree.isFile_eq_true_iff.1 h.isFile

/-- Loading a configuration is reading the settings in the file that is chosen. -/
theorem load_of_chosen (h : Chosen t cwd search config source)
    (hread : t.read [] source = .ok bytes) :
    load room t cwd config search = (ofConfig room source bytes).map (·, []) := by
  cases h with
  | named hresolve hfile =>
    simp only [load, access, hresolve, hfile, loadFrom, hread, bind, Except.bind, Except.mapError,
      if_true]
    cases ofConfig room _ bytes <;> rfl
  | nearest hresolve hfind =>
    simp only [load, access, hresolve, hfind, loadFrom, hread, bind, Except.bind, Except.mapError]
    cases ofConfig room source bytes <;> rfl

/-- A named file that is missing is passed over with a warning. -/
theorem load_of_missing {path search : Path} {location : Location}
    (hresolve : t.resolve cwd path = .ok location)
    (hfile : t.isFile [] (.absolute location) = .ok false) :
    load room t cwd (some path) search = .ok ({}, [.configMissing (.absolute location)]) := by
  simp only [load, access, hresolve, hfile, bind, Except.bind, Except.mapError]
  rfl

/-- A named file that cannot be looked at is not passed over. -/
theorem load_of_unmeasurable {path search : Path} {location : Location} {e : AccessError}
    (hresolve : t.resolve cwd path = .ok location)
    (hfile : t.isFile [] (.absolute location) = .error e) :
    load room t cwd (some path) search = .error (.access e) := by
  simp only [load, access, hresolve, hfile, bind, Except.bind, Except.mapError]

/-! ## The content of the file -/

/-- A fault in the content of a configuration file that no message is made of. -/
inductive Escapes (room : Nat) (bytes : List UInt8) : LoadError → Prop
  | encoding (hdecode : Text.Utf8.decode? bytes = none) : Escapes room bytes .undecodable
  | scalar {text : List Char} {fault : Yaml.Fault} (hdecode : Text.Utf8.decode? bytes = some text)
      (hread : Yaml.read room (Text.unifyBreaks text) = .error fault)
      (hfault : ∀ c, fault ≠ .malformed c) : Escapes room bytes (.scalar fault)
  | key {text : List Char} {content : Yaml.Content} {entries : List (Value × Value)}
      {entry : Value × Value} (hdecode : Text.Utf8.decode? bytes = some text)
      (hread : Yaml.read room (Text.unifyBreaks text) = .ok content)
      (hmap : content.value = .map entries) (hmem : entry ∈ entries)
      (hkey : isFieldName entry.1 = false) : Escapes room bytes .keyNotText

theorem Escapes.ne_config (h : Escapes room bytes e) (source : Path) (fault : ConfigFault) :
    e ≠ .config source fault := by
  cases h <;> simp

theorem ofConfig_of_unread (h : readContent room source bytes = .error e) :
    ofConfig room source bytes = .error e := by
  rw [ofConfig, h]
  rfl

section

variable {text : List Char} (hdecode : Text.Utf8.decode? bytes = some text)

include hdecode

theorem readContent_of_fault {fault : Yaml.Fault}
    (hread : Yaml.read room (Text.unifyBreaks text) = .error fault)
    (hfault : ∀ c, fault ≠ .malformed c) :
    readContent room source bytes = .error (.scalar fault) := by
  simp only [readContent, hdecode, hread]
  cases fault with
  | malformed c => exact absurd rfl (hfault c)
  | _ => rfl

theorem readContent_of_malformed {c : Yaml.Complaint}
    (hread : Yaml.read room (Text.unifyBreaks text) = .error (.malformed c)) :
    readContent room source bytes =
      .error (.config source (.malformed (c.message (Text.unifyBreaks text)))) := by
  simp only [readContent, hdecode, hread]
  rfl

section

variable {content : Yaml.Content}
  (hread : Yaml.read room (Text.unifyBreaks text) = .ok content)

include hread

theorem readContent_of_read : readContent room source bytes = .ok content := by
  simp only [readContent, hdecode, hread]
  rfl

theorem ofConfig_of_not_map (hblank : content.value.isBlank = false)
    (hmap : ∀ entries, content.value ≠ .map entries) :
    ofConfig room source bytes = .error (.config source .notMapping) := by
  rw [ofConfig, readContent_of_read hdecode hread]
  simp only [bind, Except.bind, hblank]
  cases hvalue : content.value with
  | map entries => exact absurd hvalue (hmap entries)
  | _ => rfl

theorem ofConfig_of_key {entries : List (Value × Value)} {entry : Value × Value}
    (hmap : content.value = .map entries) (hmem : entry ∈ entries)
    (hkey : isFieldName entry.1 = false) : ofConfig room source bytes = .error .keyNotText := by
  have hblank : content.value.isBlank = false := by
    rw [hmap, Value.isBlank, List.isEmpty_eq_false_iff]
    exact List.ne_nil_of_mem hmem
  have hall : (entries.all fun entry => isFieldName entry.1) = false := by
    rw [List.all_eq_false]
    exact ⟨entry, hmem, by simp [hkey]⟩
  rw [ofConfig, readContent_of_read hdecode hread]
  simp only [bind, Except.bind, hblank]
  simp [hmap, hall]
  rfl

/-- A document gives settings or a fault that names the file, unless a key is no text. -/
theorem ofConfig_of_read :
    (∃ s, ofConfig room source bytes = .ok s) ∨
      (∃ fault, ofConfig room source bytes = .error (.config source fault)) ∨
      Escapes room bytes .keyNotText := by
  rw [ofConfig, readContent_of_read hdecode hread]
  simp only [bind, Except.bind]
  cases hvalue : (if content.value.isBlank then Value.map [] else content.value) with
  | map entries =>
    cases hall : entries.all fun entry => isFieldName entry.1 with
    | true =>
      simp only [hall, Bool.not_true, Bool.false_eq_true, if_false]
      cases validate entries with
      | ok s => exact .inl ⟨s, rfl⟩
      | error errors => exact .inr (.inl ⟨_, rfl⟩)
    | false =>
      obtain ⟨entry, hmem, hkey⟩ := List.all_eq_false.1 hall
      have hmap : content.value = .map entries := by
        split at hvalue
        · cases hvalue
          cases hmem
        · exact hvalue
      exact .inr (.inr (.key hdecode hread hmap hmem (by simpa using hkey)))
  | _ => exact .inr (.inl ⟨.notMapping, rfl⟩)

end

end

theorem ofConfig_of_escapes (h : Escapes room bytes e) : ofConfig room source bytes = .error e := by
  cases h with
  | encoding hdecode =>
    refine ofConfig_of_unread ?_
    rw [readContent, hdecode]
    rfl
  | scalar hdecode hread hfault =>
    exact ofConfig_of_unread (readContent_of_fault hdecode hread hfault)
  | key hdecode hread hmap hmem hkey => exact ofConfig_of_key hdecode hread hmap hmem hkey

/-- Nothing else can go wrong with a configuration file. -/
theorem ofConfig_cases (room : Nat) (source : Path) (bytes : List UInt8) :
    (∃ s, ofConfig room source bytes = .ok s) ∨
      (∃ fault, ofConfig room source bytes = .error (.config source fault)) ∨
      ∃ e, Escapes room bytes e := by
  cases hdecode : Text.Utf8.decode? bytes with
  | none => exact .inr (.inr ⟨_, .encoding hdecode⟩)
  | some text =>
    cases hread : Yaml.read room (Text.unifyBreaks text) with
    | error fault =>
      by_cases hfault : ∃ c, fault = .malformed c
      · obtain ⟨c, rfl⟩ := hfault
        exact .inr (.inl ⟨_, ofConfig_of_unread (readContent_of_malformed hdecode hread)⟩)
      · exact .inr (.inr ⟨_, .scalar hdecode hread fun c hc => hfault ⟨c, hc⟩⟩)
    | ok content =>
      refine (ofConfig_of_read hdecode hread).imp id fun h => ?_
      exact h.imp id fun hescapes => ⟨_, hescapes⟩

section

variable (h : Chosen t cwd search config source) (hread : t.read [] source = .ok bytes)

include h hread

theorem load_of_escapes (hescapes : Escapes room bytes e) :
    load room t cwd config search = .error e := by
  rw [load_of_chosen h hread, ofConfig_of_escapes hescapes]
  rfl

/-- Settings come of a chosen file, or a fault that names it, unless some other fault escapes. -/
theorem load_reported_iff (room : Nat) :
    ((∃ s, load room t cwd config search = .ok (s, [])) ∨
      ∃ fault, load room t cwd config search = .error (.config source fault)) ↔
      ∀ e, ¬Escapes room bytes e := by
  constructor
  · intro hload e hescapes
    have herror := load_of_escapes h hread hescapes
    rcases hload with ⟨s, hs⟩ | ⟨fault, hfault⟩
    · cases hs.symm.trans herror
    · have heq := Except.error.inj (hfault.symm.trans herror)
      exact hescapes.ne_config source fault heq.symm
  · intro hnone
    rw [load_of_chosen h hread]
    rcases ofConfig_cases room source bytes with ⟨s, hs⟩ | ⟨fault, hfault⟩ | ⟨e, hescapes⟩
    · exact .inl ⟨s, by rw [hs]; rfl⟩
    · exact .inr ⟨fault, by rw [hfault]; rfl⟩
    · exact absurd hescapes (hnone e)

/-- A fault in a configuration file names the file that was chosen. -/
theorem source_of_load {other : Path} {fault : ConfigFault}
    (hload : load room t cwd config search = .error (.config other fault)) : other = source := by
  rw [load_of_chosen h hread] at hload
  rcases ofConfig_cases room source bytes with ⟨s, hs⟩ | ⟨found, hfound⟩ | ⟨e, hescapes⟩
  · rw [hs] at hload
    cases hload
  · rw [hfound] at hload
    cases hload
    rfl
  · rw [ofConfig_of_escapes hescapes] at hload
    cases hload
    exact absurd rfl (hescapes.ne_config other fault)

end

end LineLint.Settings
