import LineLint.Proofs.FieldLookup

/-!
# Fields of a document

What is wrong with a field, and what it stands for if nothing is: its default if it is absent, and
otherwise what is read from it. Main statements: `Settings.mem_readNames`,
`Settings.readNames_gives_iff` and the like for a field that is read as a whole and for the
switches.
-/

namespace LineLint.Settings

/-! ## Fields -/

/-- The fields that hold names. -/
inductive NameField where
  | extensions
  | excludeDirs
  | serverPathMarkers
  | manifestNames
  | schemaLibraries
  deriving DecidableEq

namespace NameField

/-- These fields in the order of their declaration. -/
def all : List NameField :=
  [extensions, excludeDirs, serverPathMarkers, manifestNames, schemaLibraries]

def key : NameField → String
  | extensions => "extensions"
  | excludeDirs => "exclude_dirs"
  | serverPathMarkers => "server_path_markers"
  | manifestNames => "manifest_names"
  | schemaLibraries => "schema_libraries"

/-- The names that some settings have in a field. -/
def of : NameField → Settings → List ChosenName
  | extensions, s => s.extensions
  | excludeDirs, s => s.excludeDirs
  | serverPathMarkers, s => s.serverPathMarkers
  | manifestNames, s => s.manifestNames
  | schemaLibraries, s => s.schemaLibraries

end NameField

/-- The switches of the rules. -/
inductive Toggle where
  | bunFlags
  | configuration
  | deprecation
  deriving DecidableEq

namespace Toggle

/-- The switches in the order of their declaration. -/
def all : List Toggle := [bunFlags, configuration, deprecation]

def key : Toggle → String
  | bunFlags => "bun_optimizations"
  | configuration => "configuration_management"
  | deprecation => "stay_updated"

/-- How a switch is set. -/
def of : Toggle → RuleToggles → Bool
  | bunFlags, r => r.bunFlags
  | configuration, r => r.configuration
  | deprecation, r => r.deprecation

end Toggle

/-- The fields of a document. -/
inductive Field where
  | names (f : NameField)
  | failOn
  | rules
  deriving DecidableEq

namespace Field

/-- All fields in the order of their declaration. -/
def all : List Field := NameField.all.map names ++ [failOn, rules]

def key : Field → String
  | names f => f.key
  | failOn => "fail_on"
  | rules => "rules"

end Field

/-- The keys of the fields, as they are declared. -/
def fieldKeys : List String := Field.all.map Field.key

/-- The keys of the switches, as they are declared. -/
def toggleKeys : List String := Toggle.all.map Toggle.key

/-- Settings are what they are in each field. -/
theorem ext_of_fields {s s' : Settings} (hnames : ∀ f : NameField, f.of s = f.of s')
    (hfailOn : s.failOn = s'.failOn) (hrules : s.rules = s'.rules) : s = s' := by
  cases s
  cases s'
  rw [Settings.mk.injEq]
  exact ⟨hnames .extensions, hnames .excludeDirs, hnames .serverPathMarkers,
    hnames .manifestNames, hnames .schemaLibraries, hfailOn, hrules⟩

/-! ## What is said of a document -/

/-- What is wrong with a field of a document. -/
inductive Offends (entries : List (Value × Value)) : Field → FieldError → Prop
  | notList {f : NameField} {value : Value} (hvalue : field? entries f.key = some value)
      (hitems : items? value = none) : Offends entries (.names f) ⟨[.field f.key], .notList⟩
  | item {f : NameField} {value : Value} {items : List Value} {index : Nat} {item : Value}
      {fault : FieldFault} (hvalue : field? entries f.key = some value)
      (hitems : items? value = some items) (hitem : items[index]? = some item)
      (hread : readName item = .error fault) :
      Offends entries (.names f) ⟨[.field f.key, .index index], fault⟩
  | failOn {value : Value} {fault : FieldFault} (hvalue : field? entries "fail_on" = some value)
      (hread : readChoice value = .error fault) :
      Offends entries .failOn ⟨[.field "fail_on"], fault⟩
  | notRules {value : Value} (hvalue : field? entries "rules" = some value)
      (hmap : ∀ toggles, value ≠ .map toggles) :
      Offends entries .rules ⟨[.field "rules"], .notRules⟩
  | toggle {toggles : List (Value × Value)} {t : Toggle} {value : Value} {fault : FieldFault}
      (hrules : field? entries "rules" = some (.map toggles))
      (hvalue : field? toggles t.key = some value) (hread : readBool value = .error fault) :
      Offends entries .rules ⟨[.field "rules", .field t.key], fault⟩

/-- What is found under a key is read as `a`. If nothing is found, `a` is what holds then. -/
def Stands {α : Type} (entries : List (Value × Value)) (key : String) (fallback : α)
    (reads : Value → α → Prop) (a : α) : Prop := match field? entries key with
  | none => a = fallback
  | some value => reads value a

theorem stands_of_none {α : Type} {entries : List (Value × Value)} {key : String}
    {fallback a : α} {reads : Value → α → Prop} (h : field? entries key = none) :
    Stands entries key fallback reads a ↔ a = fallback := by
  unfold Stands
  rw [h]

theorem stands_of_some {α : Type} {entries : List (Value × Value)} {key : String}
    {fallback a : α} {reads : Value → α → Prop} {value : Value}
    (h : field? entries key = some value) :
    Stands entries key fallback reads a ↔ reads value a := by
  unfold Stands
  rw [h]

/-- The items of a value are these names. -/
def IsNames (value : Value) (names : List ChosenName) : Prop :=
  ∃ items, items? value = some items ∧ items.map readName = names.map .ok

/-- A value is a mapping in which the switches are set like this. -/
def IsToggles (value : Value) (rules : RuleToggles) : Prop :=
  ∃ toggles, value = .map toggles ∧
    ∀ t : Toggle, Stands toggles t.key (t.of {}) (readBool · = .ok ·) (t.of rules)

/-- A document describes settings. -/
structure Describes (entries : List (Value × Value)) (s : Settings) : Prop where
  names : ∀ f : NameField, Stands entries f.key (f.of {}) IsNames (f.of s)
  failOn : Stands entries "fail_on" ({} : Settings).failOn (readChoice · = .ok ·) s.failOn
  rules : Stands entries "rules" {} IsToggles s.rules

/-! ## Readings -/

section

variable {α : Type} {entries toggles : List (Value × Value)} {key : String} {fallback : α}
  {e : FieldError}

/-- A reading that finds no errors has this value. -/
def Reading.Gives (r : Reading α) (a : α) : Prop := r.errors = [] ∧ r.value = a

/-- A field that is read as a whole. -/
def readOne (read : Value → Except FieldFault α) (loc : List FieldStep)
    (entries : List (Value × Value)) (key : String) (fallback : α) : Reading α :=
  match field? entries key with
  | none => ⟨fallback, []⟩
  | some value => match read value with
    | .ok a => ⟨a, []⟩
    | .error fault => ⟨fallback, [⟨loc, fault⟩]⟩

theorem readFailOn_eq (fallback : FailOn) :
    readFailOn entries key fallback = readOne readChoice [.field key] entries key fallback := by
  unfold readFailOn readOne
  cases field? entries key with
  | none => rfl
  | some value => cases hread : readChoice value <;> simp only [hread]

theorem readToggle_eq (outer : String) (fallback : Bool) :
    readToggle outer entries key fallback =
      readOne readBool [.field outer, .field key] entries key fallback := by
  unfold readToggle readOne
  cases field? entries key with
  | none => rfl
  | some value => cases hread : readBool value <;> simp only [hread]

/-! ### Fields that are read as a whole -/

section

variable {read : Value → Except FieldFault α} {loc : List FieldStep}

theorem readOne_gives_iff {a : α} :
    (readOne read loc entries key fallback).Gives a ↔
      Stands entries key fallback (read · = .ok ·) a := by
  unfold readOne Reading.Gives
  cases hvalue : field? entries key with
  | none => simp [stands_of_none hvalue, eq_comm]
  | some value =>
    rw [stands_of_some hvalue]
    cases hread : read value <;> simp [hread]

theorem mem_readOne :
    e ∈ (readOne read loc entries key fallback).errors ↔
      ∃ value fault, field? entries key = some value ∧ read value = .error fault ∧
        e = ⟨loc, fault⟩ := by
  unfold readOne
  cases field? entries key with
  | none => simp
  | some value => cases hread : read value <;> simp [hread]

theorem pairwise_readOne (R : FieldError → FieldError → Prop) :
    (readOne read loc entries key fallback).errors.Pairwise R := by
  unfold readOne
  split
  · exact List.Pairwise.nil
  · split
    · exact List.Pairwise.nil
    · exact List.pairwise_singleton _ _

end

/-! ### Lists of names -/

/-- What is wrong with the items of a field. -/
def itemErrors (key : String) (read : List (Except FieldFault ChosenName)) : List FieldError :=
  read.zipIdx.filterMap fun
    | (.error fault, index) => some ⟨[.field key, .index index], fault⟩
    | (.ok _, _) => none

theorem mem_itemErrors {read : List (Except FieldFault ChosenName)} :
    e ∈ itemErrors key read ↔ ∃ index fault, read[index]? = some (.error fault) ∧
      e = ⟨[.field key, .index index], fault⟩ := by
  unfold itemErrors
  rw [List.mem_filterMap]
  constructor
  · intro he
    obtain ⟨⟨found, index⟩, hmem, he⟩ := he
    cases found with
    | ok name => cases he
    | error fault =>
      cases he
      exact ⟨index, fault, List.mem_zipIdx_iff_getElem?.1 hmem, rfl⟩
  · intro he
    obtain ⟨index, fault, hindex, rfl⟩ := he
    exact ⟨(.error fault, index), List.mem_zipIdx_iff_getElem?.2 hindex, rfl⟩

theorem map_ok_filterMap_toOption {read : List (Except FieldFault ChosenName)}
    (hok : ∀ found ∈ read, ∃ name, found = .ok name) :
    read = (read.filterMap (·.toOption)).map .ok := by
  induction read with
  | nil => rfl
  | cons found rest ih =>
    obtain ⟨⟨name, rfl⟩, hrest⟩ := List.forall_mem_cons.1 hok
    have hname : (Except.ok name : Except FieldFault ChosenName).toOption = some name := rfl
    rw [List.filterMap_cons_some hname, List.map_cons, ← ih hrest]

/-- The items have these names and no errors if and only if each is read as its name. -/
theorem itemErrors_eq_nil_iff {read : List (Except FieldFault ChosenName)}
    {names : List ChosenName} :
    itemErrors key read = [] ∧ read.filterMap (·.toOption) = names ↔ read = names.map .ok := by
  constructor
  · intro ⟨hnone, hnames⟩
    subst hnames
    refine map_ok_filterMap_toOption fun found hfound => ?_
    cases found with
    | ok name => exact ⟨name, rfl⟩
    | error fault =>
      obtain ⟨index, hindex⟩ := List.mem_iff_getElem?.1 hfound
      have hmem : ⟨[.field key, .index index], fault⟩ ∈ itemErrors key read :=
        mem_itemErrors.2 ⟨index, fault, hindex, rfl⟩
      rw [hnone] at hmem
      cases hmem
  · intro hread
    subst hread
    constructor
    · rw [List.eq_nil_iff_forall_not_mem]
      intro e he
      obtain ⟨index, fault, hindex, -⟩ := mem_itemErrors.1 he
      simp at hindex
    · rw [List.filterMap_map]
      exact List.filterMap_some

/-- What can stand under a key that asks for a list. -/
theorem items_cases (entries : List (Value × Value)) (key : String) :
    field? entries key = none ∨
    (∃ value, field? entries key = some value ∧ items? value = none) ∨
    ∃ value items, field? entries key = some value ∧ items? value = some items := by
  cases hvalue : field? entries key with
  | none => exact .inl rfl
  | some value =>
    cases hitems : items? value with
    | none => exact .inr (.inl ⟨value, rfl, hitems⟩)
    | some items => exact .inr (.inr ⟨value, items, rfl, hitems⟩)

section

variable {value : Value} {items : List Value} {fallback names : List ChosenName}

theorem readNames_of_none (hvalue : field? entries key = none) :
    readNames entries key fallback = ⟨fallback, []⟩ := by
  unfold readNames
  rw [hvalue]

theorem readNames_of_not_list (hvalue : field? entries key = some value)
    (hitems : items? value = none) :
    readNames entries key fallback = ⟨fallback, [⟨[.field key], .notList⟩]⟩ := by
  simp only [readNames, hvalue, hitems]

theorem readNames_of_items (hvalue : field? entries key = some value)
    (hitems : items? value = some items) :
    readNames entries key fallback =
      ⟨(items.map readName).filterMap (·.toOption), itemErrors key (items.map readName)⟩ := by
  simp only [readNames, hvalue, hitems]
  rfl

theorem readNames_gives_iff :
    (readNames entries key fallback).Gives names ↔ Stands entries key fallback IsNames names := by
  obtain hnone | ⟨value, hvalue, hitems⟩ | ⟨value, items, hvalue, hitems⟩ :=
    items_cases entries key
  · rw [readNames_of_none hnone, stands_of_none hnone]
    simp [Reading.Gives, eq_comm]
  · rw [readNames_of_not_list hvalue hitems, stands_of_some hvalue]
    simp [Reading.Gives, IsNames, hitems]
  · rw [readNames_of_items hvalue hitems, stands_of_some hvalue, Reading.Gives,
      itemErrors_eq_nil_iff]
    simp [IsNames, hitems]

theorem mem_readNames {f : NameField} :
    e ∈ (readNames entries f.key fallback).errors ↔ Offends entries (.names f) e := by
  constructor
  · intro he
    obtain hnone | ⟨value, hvalue, hitems⟩ | ⟨value, items, hvalue, hitems⟩ :=
      items_cases entries f.key
    · rw [readNames_of_none hnone] at he
      cases he
    · rw [readNames_of_not_list hvalue hitems, List.mem_singleton] at he
      subst he
      exact .notList hvalue hitems
    · rw [readNames_of_items hvalue hitems] at he
      obtain ⟨index, fault, hindex, rfl⟩ := mem_itemErrors.1 he
      rw [List.getElem?_map, Option.map_eq_some_iff] at hindex
      obtain ⟨item, hitem, hread⟩ := hindex
      exact .item hvalue hitems hitem hread
  · intro hoffends
    cases hoffends with
    | notList hvalue hitems =>
      rw [readNames_of_not_list hvalue hitems]
      exact List.mem_singleton_self _
    | item hvalue hitems hitem hread =>
      rw [readNames_of_items hvalue hitems]
      refine mem_itemErrors.2 ⟨_, _, ?_, rfl⟩
      rw [List.getElem?_map, hitem, Option.map_some, hread]

end

/-! ### Switches -/

/-- What is wrong with a switch. -/
def toggleErrors (toggles : List (Value × Value)) (t : Toggle) : List FieldError :=
  (readToggle "rules" toggles t.key (t.of {})).errors

/-- What can stand where the switches are. -/
theorem rules_cases (entries : List (Value × Value)) :
    field? entries "rules" = none ∨
    (∃ value, field? entries "rules" = some value ∧ ∀ toggles, value ≠ .map toggles) ∨
    ∃ toggles, field? entries "rules" = some (.map toggles) := by
  cases hrules : field? entries "rules" with
  | none => exact .inl rfl
  | some value =>
    by_cases hmap : ∃ toggles, value = .map toggles
    · obtain ⟨toggles, rfl⟩ := hmap
      exact .inr (.inr ⟨toggles, rfl⟩)
    · exact .inr (.inl ⟨value, rfl, fun toggles heq => hmap ⟨toggles, heq⟩⟩)

theorem readToggles_of_none (hrules : field? entries "rules" = none) :
    readToggles entries "rules" {} = ⟨{}, []⟩ := by
  unfold readToggles
  rw [hrules]

theorem readToggles_of_not_map {value : Value} (hrules : field? entries "rules" = some value)
    (hmap : ∀ toggles, value ≠ .map toggles) :
    readToggles entries "rules" {} = ⟨{}, [⟨[.field "rules"], .notRules⟩]⟩ := by
  unfold readToggles
  rw [hrules]
  cases value with
  | map toggles => exact absurd rfl (hmap toggles)
  | _ => rfl

theorem readToggles_of_map (hrules : field? entries "rules" = some (.map toggles)) :
    readToggles entries "rules" {} =
      ⟨⟨(readToggle "rules" toggles "bun_optimizations" true).value,
        (readToggle "rules" toggles "configuration_management" true).value,
        (readToggle "rules" toggles "stay_updated" true).value⟩,
        Toggle.all.flatMap (toggleErrors toggles)⟩ := by
  simp only [readToggles, hrules, Toggle.all, List.flatMap_cons, List.flatMap_nil,
    List.append_nil, List.append_assoc]
  rfl

theorem Toggle.mem_all (t : Toggle) : t ∈ Toggle.all := by
  cases t <;> decide

theorem gives_iff_of_map {rules : RuleToggles}
    (hrules : field? entries "rules" = some (.map toggles)) :
    (readToggles entries "rules" {}).Gives rules ↔
      ∀ t : Toggle, (readToggle "rules" toggles t.key (t.of {})).Gives (t.of rules) := by
  rw [readToggles_of_map hrules]
  unfold Reading.Gives
  rw [List.flatMap_eq_nil_iff]
  constructor
  · intro ⟨hnone, hvalue⟩ t
    subst hvalue
    refine ⟨hnone t t.mem_all, ?_⟩
    cases t <;> rfl
  · intro hall
    refine ⟨fun t _ => (hall t).1, ?_⟩
    cases rules
    rw [RuleToggles.mk.injEq]
    exact ⟨(hall .bunFlags).2, (hall .configuration).2, (hall .deprecation).2⟩

theorem readToggles_gives_iff {rules : RuleToggles} :
    (readToggles entries "rules" {}).Gives rules ↔ Stands entries "rules" {} IsToggles rules := by
  obtain hnone | ⟨value, hrules, hmap⟩ | ⟨toggles, hrules⟩ := rules_cases entries
  · rw [readToggles_of_none hnone, stands_of_none hnone]
    simp [Reading.Gives, eq_comm]
  · rw [readToggles_of_not_map hrules hmap, stands_of_some hrules]
    simp [Reading.Gives, IsToggles, hmap]
  · rw [gives_iff_of_map hrules, stands_of_some hrules]
    simp only [readToggle_eq, readOne_gives_iff]
    simp [IsToggles]

theorem mem_readToggles :
    e ∈ (readToggles entries "rules" {}).errors ↔ Offends entries .rules e := by
  constructor
  · intro he
    obtain hnone | ⟨value, hrules, hmap⟩ | ⟨toggles, hrules⟩ := rules_cases entries
    · rw [readToggles_of_none hnone] at he
      cases he
    · rw [readToggles_of_not_map hrules hmap, List.mem_singleton] at he
      subst he
      exact .notRules hrules hmap
    · rw [readToggles_of_map hrules, List.mem_flatMap] at he
      obtain ⟨t, -, he⟩ := he
      rw [toggleErrors, readToggle_eq] at he
      obtain ⟨value, fault, hvalue, hread, rfl⟩ := mem_readOne.1 he
      exact .toggle hrules hvalue hread
  · intro hoffends
    cases hoffends with
    | notRules hrules hmap =>
      rw [readToggles_of_not_map hrules hmap]
      exact List.mem_singleton_self _
    | @toggle toggles t _ _ hrules hvalue hread =>
      rw [readToggles_of_map hrules, List.mem_flatMap]
      refine ⟨t, t.mem_all, ?_⟩
      rw [toggleErrors, readToggle_eq]
      exact mem_readOne.2 ⟨_, _, hvalue, hread, rfl⟩

end

end LineLint.Settings
