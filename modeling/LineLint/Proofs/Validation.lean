import LineLint.Proofs.FieldReadings
import LineLint.Proofs.Findings

/-!
# What validation tells

Validation reports each thing in a document that is not as it should be, in the order in which the
fields are declared. If there is none, each absent field has its default and each present one what
it is read as. Nothing else about the document matters, and settings written down as a document are
read back as they are. Main statement: `Settings.validation_exact`.
-/

namespace LineLint.Settings

/-! ## Field by field -/

section

variable {entries others : List (Value × Value)} {s : Settings} {f : Field} {e : FieldError}

/-- What is wrong with a field, as validation finds it. -/
def fieldErrors (entries : List (Value × Value)) : Field → List FieldError
  | .names f => (readNames entries f.key (f.of {})).errors
  | .failOn => (readFailOn entries "fail_on" ({} : Settings).failOn).errors
  | .rules => (readToggles entries "rules" {}).errors

/-- All that is wrong with a document, as validation finds it. -/
def errorsIn (entries : List (Value × Value)) : List FieldError :=
  Field.all.flatMap (fieldErrors entries)

/-- What a document is read as, field by field. -/
def valuesIn (entries : List (Value × Value)) : Settings where
  extensions := (readNames entries "extensions" (NameField.extensions.of {})).value
  excludeDirs := (readNames entries "exclude_dirs" (NameField.excludeDirs.of {})).value
  serverPathMarkers :=
    (readNames entries "server_path_markers" (NameField.serverPathMarkers.of {})).value
  manifestNames := (readNames entries "manifest_names" (NameField.manifestNames.of {})).value
  schemaLibraries := (readNames entries "schema_libraries" (NameField.schemaLibraries.of {})).value
  failOn := (readFailOn entries "fail_on" ({} : Settings).failOn).value
  rules := (readToggles entries "rules" {}).value

theorem of_valuesIn (f : NameField) :
    f.of (valuesIn entries) = (readNames entries f.key (f.of {})).value := by
  cases f <;> rfl

theorem validate_eq : validate entries =
    if (errorsIn entries).isEmpty then .ok (valuesIn entries) else .error (errorsIn entries) := by
  have herrors : errorsIn entries =
      fieldErrors entries (.names .extensions) ++ fieldErrors entries (.names .excludeDirs) ++
      fieldErrors entries (.names .serverPathMarkers) ++
      fieldErrors entries (.names .manifestNames) ++
      fieldErrors entries (.names .schemaLibraries) ++ fieldErrors entries .failOn ++
      fieldErrors entries .rules := by
    simp [errorsIn, Field.all, NameField.all]
  rw [herrors]
  rfl

theorem validate_eq_ok_iff :
    validate entries = .ok s ↔ errorsIn entries = [] ∧ valuesIn entries = s := by
  rw [validate_eq]
  by_cases hnone : errorsIn entries = []
  · simp [hnone]
  · simp [hnone]

theorem Field.mem_all (f : Field) : f ∈ Field.all := by
  cases f with
  | names f => cases f <;> decide
  | failOn => decide
  | rules => decide

theorem errorsIn_eq_nil_iff : errorsIn entries = [] ↔ ∀ f, fieldErrors entries f = [] := by
  rw [errorsIn, List.flatMap_eq_nil_iff]
  constructor
  · intro hall f
    exact hall f f.mem_all
  · intro hall f _
    exact hall f

/-- The settings that a document gives are those that it describes. -/
theorem validate_eq_ok_iff_describes : validate entries = .ok s ↔ Describes entries s := by
  have hgives : Describes entries s ↔
      (∀ f : NameField, (readNames entries f.key (f.of {})).Gives (f.of s)) ∧
      (readFailOn entries "fail_on" ({} : Settings).failOn).Gives s.failOn ∧
      (readToggles entries "rules" {}).Gives s.rules := by
    simp only [readNames_gives_iff, readFailOn_eq, readOne_gives_iff, readToggles_gives_iff]
    exact ⟨fun h => ⟨h.names, h.failOn, h.rules⟩, fun h => ⟨h.1, h.2.1, h.2.2⟩⟩
  rw [hgives, validate_eq_ok_iff, errorsIn_eq_nil_iff]
  constructor
  · rintro ⟨hnone, rfl⟩
    exact ⟨fun f => ⟨hnone (.names f), (of_valuesIn f).symm⟩, ⟨hnone .failOn, rfl⟩,
      ⟨hnone .rules, rfl⟩⟩
  · intro ⟨hnames, hfailOn, hrules⟩
    constructor
    · intro f
      cases f with
      | names f => exact (hnames f).1
      | failOn => exact hfailOn.1
      | rules => exact hrules.1
    · exact ext_of_fields (fun f => (of_valuesIn f).trans (hnames f).2) hfailOn.2 hrules.2

/-! ## Errors -/

theorem mem_fieldErrors : e ∈ fieldErrors entries f ↔ Offends entries f e := by
  cases f with
  | names f => exact mem_readNames
  | rules => exact mem_readToggles
  | failOn =>
    rw [fieldErrors, readFailOn_eq, mem_readOne]
    constructor
    · rintro ⟨value, fault, hvalue, hread, rfl⟩
      exact .failOn hvalue hread
    · intro hoffends
      cases hoffends with
      | failOn hvalue hread => exact ⟨_, _, hvalue, hread, rfl⟩

theorem mem_errorsIn : e ∈ errorsIn entries ↔ ∃ f, Offends entries f e := by
  rw [errorsIn, List.mem_flatMap]
  constructor
  · rintro ⟨f, -, he⟩
    exact ⟨f, mem_fieldErrors.1 he⟩
  · rintro ⟨f, hoffends⟩
    exact ⟨f, f.mem_all, mem_fieldErrors.2 hoffends⟩

/-! ## Places -/

/-- The place of an error: that of its field among all, and that of its item or switch. -/
def place (e : FieldError) : Nat ×ₗ Nat := match e.loc with
  | .field key :: .index index :: _ => toLex (fieldKeys.idxOf key, index)
  | .field key :: .field toggle :: _ => toLex (fieldKeys.idxOf key, toggleKeys.idxOf toggle)
  | .field key :: _ => toLex (fieldKeys.idxOf key, 0)
  | _ => toLex (fieldKeys.length, 0)

theorem Offends.fst_place (h : Offends entries f e) :
    (ofLex (place e)).1 = fieldKeys.idxOf f.key := by
  cases h <;> rfl

theorem pairwise_itemErrors {key : String} {read : List (Except FieldFault ChosenName)} :
    (itemErrors key read).Pairwise fun e e' => place e < place e' := by
  refine (Rule.zipIdx_pairwise read).filterMap _ ?_
  intro (found, index) (found', index') hlt e he e' he'
  cases found with
  | ok name => cases he
  | error fault =>
    cases found' with
    | ok name => cases he'
    | error fault' =>
      cases he
      cases he'
      exact Prod.Lex.toLex_lt_toLex.2 (.inr ⟨rfl, hlt⟩)

theorem pairwise_toggleErrors {toggles : List (Value × Value)} :
    (Toggle.all.flatMap (toggleErrors toggles)).Pairwise fun e e' => place e < place e' := by
  have htoggles : Toggle.all.Pairwise fun t t' =>
      toggleKeys.idxOf t.key < toggleKeys.idxOf t'.key := by decide
  refine List.pairwise_flatMap.2 ⟨?_, htoggles.imp ?_⟩
  · intro t _
    rw [toggleErrors, readToggle_eq]
    exact pairwise_readOne _
  · intro t t' hlt e he e' he'
    rw [toggleErrors, readToggle_eq, mem_readOne] at he he'
    obtain ⟨_, _, _, _, rfl⟩ := he
    obtain ⟨_, _, _, _, rfl⟩ := he'
    exact Prod.Lex.toLex_lt_toLex.2 (.inr ⟨rfl, hlt⟩)

theorem pairwise_fieldErrors (f : Field) :
    (fieldErrors entries f).Pairwise fun e e' => place e < place e' := by
  cases f with
  | names f =>
    rw [fieldErrors]
    obtain hnone | ⟨value, hvalue, hitems⟩ | ⟨value, items, hvalue, hitems⟩ :=
      items_cases entries f.key
    · rw [readNames_of_none hnone]
      exact List.Pairwise.nil
    · rw [readNames_of_not_list hvalue hitems]
      exact List.pairwise_singleton _ _
    · rw [readNames_of_items hvalue hitems]
      exact pairwise_itemErrors
  | failOn =>
    rw [fieldErrors, readFailOn_eq]
    exact pairwise_readOne _
  | rules =>
    rw [fieldErrors]
    obtain hnone | ⟨value, hrules, hmap⟩ | ⟨toggles, hrules⟩ := rules_cases entries
    · rw [readToggles_of_none hnone]
      exact List.Pairwise.nil
    · rw [readToggles_of_not_map hrules hmap]
      exact List.pairwise_singleton _ _
    · rw [readToggles_of_map hrules]
      exact pairwise_toggleErrors

/-- Errors stand in the order of their places, and no two have the same place. -/
theorem pairwise_errorsIn : (errorsIn entries).Pairwise fun e e' => place e < place e' := by
  have hfields : Field.all.Pairwise fun f g =>
      fieldKeys.idxOf f.key < fieldKeys.idxOf g.key := by decide
  -- Within a field the second component of the place grows, from field to field the first.
  refine List.pairwise_flatMap.2 ⟨fun f _ => pairwise_fieldErrors f, hfields.imp ?_⟩
  intro f g hlt e he e' he'
  rw [← (mem_fieldErrors.1 he).fst_place, ← (mem_fieldErrors.1 he').fst_place] at hlt
  exact Prod.Lex.toLex_lt_toLex.2 (.inl hlt)

/-! ## Rewordings -/

/-- Validation looks at nothing but the fields. -/
theorem validate_congr (hnames : ∀ f : NameField, field? entries f.key = field? others f.key)
    (hfailOn : field? entries "fail_on" = field? others "fail_on")
    (hrules : readToggles entries "rules" {} = readToggles others "rules" {}) :
    validate entries = validate others := by
  have hread : ∀ f : NameField,
      readNames entries f.key (f.of {}) = readNames others f.key (f.of {}) := by
    intro f
    unfold readNames
    rw [hnames f]
  have hchoice : readFailOn entries "fail_on" ({} : Settings).failOn =
      readFailOn others "fail_on" ({} : Settings).failOn := by
    unfold readFailOn
    rw [hfailOn]
  have herrors : errorsIn entries = errorsIn others := by
    unfold errorsIn
    congr 1
    funext f
    cases f with
    | names f => rw [fieldErrors, fieldErrors, hread]
    | failOn => rw [fieldErrors, fieldErrors, hchoice]
    | rules => rw [fieldErrors, fieldErrors, hrules]
  have hvalues : valuesIn entries = valuesIn others := by
    refine ext_of_fields (fun f => ?_) (congrArg Reading.value hchoice)
      (congrArg Reading.value hrules)
    rw [of_valuesIn, of_valuesIn, hread]
  rw [validate_eq, validate_eq, herrors, hvalues]

theorem validate_of_rewording (h : Rewording fieldKeys entries others) :
    validate others = validate entries := by
  have hfield : ∀ f : Field, field? others f.key = field? entries f.key := fun f =>
    (h.field?_eq (List.mem_map_of_mem f.mem_all)).symm
  refine validate_congr (fun f => hfield (.names f)) (hfield .failOn) ?_
  unfold readToggles
  rw [show field? others "rules" = field? entries "rules" from hfield .rules]

theorem readToggles_of_rewording {toggles toggles' : List (Value × Value)}
    (hrules : field? entries "rules" = some (.map toggles))
    (hothers : field? others "rules" = some (.map toggles'))
    (h : Rewording toggleKeys toggles toggles') :
    readToggles others "rules" {} = readToggles entries "rules" {} := by
  have hread : ∀ t : Toggle, readToggle "rules" toggles' t.key true =
      readToggle "rules" toggles t.key true := by
    intro t
    unfold readToggle
    rw [h.field?_eq (List.mem_map_of_mem t.mem_all)]
  have hbunFlags := hread .bunFlags
  have hconfiguration := hread .configuration
  have hdeprecation := hread .deprecation
  simp only [Toggle.key] at hbunFlags hconfiguration hdeprecation
  unfold readToggles
  simp only [hrules, hothers, hbunFlags, hconfiguration, hdeprecation]

theorem validate_of_rewording_rules {before after toggles toggles' : List (Value × Value)}
    (h : Rewording toggleKeys toggles toggles') :
    validate (before ++ (.text "rules", .map toggles') :: after) =
      validate (before ++ (.text "rules", .map toggles) :: after) := by
  have hother : ∀ key ≠ "rules", field? (before ++ (.text "rules", .map toggles') :: after) key =
      field? (before ++ (.text "rules", .map toggles) :: after) key := by
    intro key hkey
    simp only [field?_middle, if_neg hkey.symm]
  refine validate_congr (fun f => hother _ ?_) (hother _ (by decide)) ?_
  · cases f <;> decide
  · cases hafter : field? after "rules" with
    | none =>
      have hrules : ∀ toggles, field? (before ++ (.text "rules", .map toggles) :: after) "rules" =
          some (.map toggles) := by
        intro toggles
        simp [field?_middle, hafter]
      exact readToggles_of_rewording (hrules toggles) (hrules toggles') h
    | some value =>
      -- A later entry for the rules is the one that counts.
      unfold readToggles
      simp only [field?_middle, hafter, Option.some_or]

/-! ## Settings as documents -/

/-- A name as a value. -/
def ofName : ChosenName → Value
  | .text s => .text s
  | .broken codes => .brokenText codes

/-- Settings written down as a document, field by field. -/
def toEntries (s : Settings) : List (Value × Value) :=
  NameField.all.map (fun f => (.text f.key, .list ((f.of s).map ofName))) ++
    [(.text "fail_on", .text s.failOn.name),
      (.text "rules", .map (Toggle.all.map fun t => (.text t.key, .bool (t.of s.rules))))]

theorem map_readName_ofName (names : List ChosenName) :
    (names.map ofName).map readName = names.map .ok := by
  rw [List.map_map]
  refine List.map_congr_left fun name _ => ?_
  cases name <;> rfl

theorem describes_toEntries (s : Settings) : Describes s.toEntries s where
  names f := by
    have hvalue : field? s.toEntries f.key = some (.list ((f.of s).map ofName)) := by
      cases f <;> rfl
    rw [stands_of_some hvalue]
    exact ⟨_, rfl, map_readName_ofName _⟩
  failOn := by
    have hvalue : field? s.toEntries "fail_on" = some (.text s.failOn.name) := rfl
    rw [stands_of_some hvalue]
    cases s.failOn <;> rfl
  rules := by
    have hvalue : field? s.toEntries "rules" =
        some (.map (Toggle.all.map fun t => (.text t.key, .bool (t.of s.rules)))) := rfl
    rw [stands_of_some hvalue]
    refine ⟨_, rfl, fun t => ?_⟩
    have htoggle : field? (Toggle.all.map fun t => (.text t.key, .bool (t.of s.rules))) t.key =
        some (.bool (t.of s.rules)) := by
      cases t <;> rfl
    rw [stands_of_some htoggle]
    rfl

end

/-! ## All that matters -/

/-- What validation makes of a document. -/
structure Validates (entries : List (Value × Value)) : Prop where
  /-- There are settings if there are no errors. Otherwise each is told, in the order of places. -/
  errors : ∃ errors : List FieldError, (∀ e, e ∈ errors ↔ ∃ f, Offends entries f e) ∧
    (errors.Pairwise fun e e' => place e < place e') ∧
    ((∃ s, validate entries = .ok s) ↔ errors = []) ∧
    (errors ≠ [] → validate entries = .error errors)
  /-- The settings are those that the document describes. -/
  settings : ∀ s, validate entries = .ok s ↔ Describes entries s
  /-- The order of fields does not matter, nor what other fields there are. -/
  reworded : ∀ others, Rewording fieldKeys entries others → validate others = validate entries
  /-- The same holds of the switches. -/
  rulesReworded : ∀ before toggles toggles' after, Rewording toggleKeys toggles toggles' →
    entries = before ++ (.text "rules", .map toggles) :: after →
    validate (before ++ (.text "rules", .map toggles') :: after) = validate entries

/-- Validation tells all that is wrong, in order, and otherwise what is described. Settings that are
written down are validated as they are. -/
theorem validation_exact :
    (∀ entries, Validates entries) ∧ ∀ s : Settings, validate s.toEntries = .ok s := by
  refine ⟨fun entries => ?_, fun s => validate_eq_ok_iff_describes.2 (describes_toEntries s)⟩
  refine ⟨⟨errorsIn entries, fun e => mem_errorsIn, pairwise_errorsIn, ?_, ?_⟩,
    fun s => validate_eq_ok_iff_describes, fun others => validate_of_rewording, ?_⟩
  · simp only [validate_eq_ok_iff, exists_and_left, exists_eq', and_true]
  · intro herrors
    rw [validate_eq, List.isEmpty_eq_false_iff.2 herrors]
    rfl
  · intro before toggles toggles' after hrewording hentries
    rw [hentries]
    exact validate_of_rewording_rules hrewording

/-- A document with a bad switch and, in a field that is declared earlier, a bad item. -/
def faultyEntries : List (Value × Value) :=
  [(.text "rules", .map [(.text "stay_updated", .text "maybe")]),
    (.text "extensions", .list [.text ".ts", .int 3])]

/-- Its errors stand in the order of the fields, whichever field is written first. -/
theorem validation_exact_faulty :
    validate faultyEntries = .error [⟨[.field "extensions", .index 1], .notText⟩,
      ⟨[.field "rules", .field "stay_updated"], .unreadableBool⟩] ∧
    validate faultyEntries.reverse = validate faultyEntries := by
  constructor
  · rfl
  · have hdistinct : DistinctNames faultyEntries := by
      unfold DistinctNames
      decide
    exact (validation_exact.1 faultyEntries).reworded _
      (.permuted hdistinct faultyEntries.reverse_perm.symm)

end LineLint.Settings
