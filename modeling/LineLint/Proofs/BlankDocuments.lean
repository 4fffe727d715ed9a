import LineLint.Proofs.ConfigFaults

/-!
# Documents that are no mapping

A configuration document that is no mapping is rejected, unless its value counts as nothing: such a
value stands for the defaults, be it null or something that was written down. Main statement:
`Settings.load_of_document`.
-/

namespace LineLint

/-- The values that count as nothing. -/
inductive Value.CountsAsNothing : Value → Prop
  | null : CountsAsNothing .null
  | no : CountsAsNothing (.bool false)
  | zero : CountsAsNothing (.int 0)
  | floatZero {x : Float} (hx : (x == 0) = true) : CountsAsNothing (.float x)
  | text : CountsAsNothing (.text "")
  | bytes : CountsAsNothing (.bytes [])
  | list : CountsAsNothing (.list [])
  | map : CountsAsNothing (.map [])
  | set : CountsAsNothing (.set [])

theorem Value.isBlank_iff {v : Value} : v.isBlank = true ↔ v.CountsAsNothing := by
  constructor
  · intro hblank
    cases v with
    | null => exact .null
    | bool b =>
      cases b with
      | false => exact .no
      | true => cases hblank
    | int n =>
      obtain rfl : n = 0 := by simpa [isBlank] using hblank
      exact .zero
    | float x => exact .floatZero hblank
    | text s =>
      obtain rfl : s = "" := by simpa [isBlank] using hblank
      exact .text
    | bytes b =>
      obtain rfl : b = [] := by simpa [isBlank] using hblank
      exact .bytes
    | list items =>
      obtain rfl : items = [] := by simpa [isBlank] using hblank
      exact .list
    | map entries =>
      obtain rfl : entries = [] := by simpa [isBlank] using hblank
      exact .map
    | set items =>
      obtain rfl : items = [] := by simpa [isBlank] using hblank
      exact .set
    | nan => cases hblank
    | brokenText codes => cases hblank
    | date year month day => cases hblank
    | moment t => cases hblank
    | pair first second => cases hblank
  · intro hnothing
    cases hnothing with
    | floatZero hx => exact hx
    | _ => rfl

namespace Settings

variable {t : FileTree} {cwd : Location} {config : Option Path} {search source : Path}
  {bytes : List UInt8} {room : Nat} {value : Value} {text : List Char} {content : Yaml.Content}

/-! ## What becomes of a value -/

theorem ofConfig_of_blank (hdecode : Text.Utf8.decode? bytes = some text)
    (hread : Yaml.read room (Text.unifyBreaks text) = .ok content)
    (hblank : content.value.isBlank = true) : ofConfig room source bytes = .ok {} := by
  rw [ofConfig, readContent_of_read hdecode hread]
  simp only [bind, Except.bind, hblank, if_true]
  rfl

/-- A mapping is never said to be none. -/
theorem ofConfig_of_map {entries : List (Value × Value)}
    (hdecode : Text.Utf8.decode? bytes = some text)
    (hread : Yaml.read room (Text.unifyBreaks text) = .ok content)
    (hmap : content.value = .map entries) (other : Path) :
    ofConfig room source bytes ≠ .error (.config other .notMapping) := by
  have hkept : (if content.value.isBlank then .map [] else content.value) = .map entries := by
    rw [hmap]
    cases entries <;> rfl
  rw [ofConfig, readContent_of_read hdecode hread]
  simp only [bind, Except.bind, hkept]
  by_cases hkeys : (entries.all fun entry => isFieldName entry.1) = true
  · simp only [hkeys, Bool.not_true, Bool.false_eq_true, if_false]
    cases validate entries with
    | ok s => simp [pure, Except.pure]
    | error errors => simp [throw, throwThe, MonadExceptOf.throw]
  · simp [hkeys, throw, throwThe, MonadExceptOf.throw]

/-- The configuration file that is chosen holds a document with this value. -/
structure HasDocument (room : Nat) (t : FileTree) (cwd : Location) (config : Option Path)
    (search source : Path) (value : Value) : Prop where
  chosen : Chosen t cwd search config source
  parsed : ∃ bytes text content, t.read [] source = .ok bytes ∧
    Text.Utf8.decode? bytes = some text ∧
    Yaml.read room (Text.unifyBreaks text) = .ok content ∧ content.value = value

/-- Loading comes to what the content of the chosen file comes to. -/
theorem HasDocument.exists_content (h : HasDocument room t cwd config search source value) :
    ∃ bytes text content, Text.Utf8.decode? bytes = some text ∧
      Yaml.read room (Text.unifyBreaks text) = .ok content ∧ content.value = value ∧
      load room t cwd config search = (ofConfig room source bytes).map (·, []) := by
  obtain ⟨bytes, text, content, hbytes, hdecode, hread, hvalue⟩ := h.parsed
  exact ⟨bytes, text, content, hdecode, hread, hvalue, load_of_chosen h.chosen hbytes⟩

theorem load_of_nothing (h : HasDocument room t cwd config search source value)
    (hnothing : value.CountsAsNothing) : load room t cwd config search = .ok ({}, []) := by
  obtain ⟨bytes, text, content, hdecode, hread, rfl, hload⟩ := h.exists_content
  rw [hload, ofConfig_of_blank hdecode hread (Value.isBlank_iff.2 hnothing)]
  rfl

theorem load_of_something (h : HasDocument room t cwd config search source value)
    (hmap : ∀ entries, value ≠ .map entries) (hsomething : ¬value.CountsAsNothing) :
    load room t cwd config search = .error (.config source .notMapping) := by
  obtain ⟨bytes, text, content, hdecode, hread, rfl, hload⟩ := h.exists_content
  have hblank : content.value.isBlank = false := by
    rw [← Bool.not_eq_true, Value.isBlank_iff]
    exact hsomething
  rw [hload, ofConfig_of_not_map hdecode hread hblank hmap]
  rfl

theorem load_of_map {entries : List (Value × Value)}
    (h : HasDocument room t cwd config search source (.map entries)) :
    load room t cwd config search ≠ .error (.config source .notMapping) := by
  obtain ⟨bytes, text, content, hdecode, hread, hvalue, hload⟩ := h.exists_content
  have hother : ofConfig room source bytes ≠ .error (.config source .notMapping) :=
    ofConfig_of_map hdecode hread hvalue source
  rw [hload]
  cases hconfig : ofConfig room source bytes with
  | ok s => simp [Except.map]
  | error e =>
    intro herror
    cases herror
    exact hother hconfig

/-- A document is rejected for what it is if and only if it is no mapping and its value is not one
that counts as nothing. A value that counts as nothing gives the defaults. -/
theorem load_of_document (h : HasDocument room t cwd config search source value) :
    (load room t cwd config search = .error (.config source .notMapping) ↔
      (∀ entries, value ≠ .map entries) ∧ ¬value.CountsAsNothing) ∧
    (value.CountsAsNothing → load room t cwd config search = .ok ({}, [])) ∧
    ConfigFault.notMapping.message = "top-level YAML value must be a mapping" := by
  refine ⟨⟨?_, ?_⟩, load_of_nothing h, rfl⟩
  · intro hload
    constructor
    · intro entries hvalue
      subst hvalue
      exact load_of_map h hload
    · intro hnothing
      cases (load_of_nothing h hnothing).symm.trans hload
  · intro hvalue
    exact load_of_something h hvalue.1 hvalue.2

/-! ## Two documents -/

/-- What can be seen of the value of a text is seen of a document with that text. -/
theorem exists_document (test : Value → Bool) (h : (Command.configuredTree bytes).Sound)
    (hdecode : Text.Utf8.decode? bytes = some text)
    (htest : (Yaml.read Command.Run.configRoom (Text.unifyBreaks text)).toOption.any
      (fun content => test content.value) = true) :
    ∃ value, test value = true ∧ HasDocument Command.Run.configRoom (Command.configuredTree bytes)
      ["proj"] none (.absolute ["proj"]) (.absolute ["proj", "goldenlint.yaml"]) value := by
  cases hread : Yaml.read Command.Run.configRoom (Text.unifyBreaks text) with
  | error fault =>
    rw [hread] at htest
    cases htest
  | ok content =>
    rw [hread, Except.toOption, Option.any_some] at htest
    exact ⟨content.value, htest, Command.chosen_configuredTree h, bytes, text, content,
      Command.read_configuredTree h, hdecode, hread, rfl⟩

/-- Whether a value is the list of one text. -/
def isListOf (item : String) : Value → Bool
  | .list [.text s] => s == item
  | _ => false

theorem eq_of_isListOf {item : String} (h : isListOf item value = true) :
    value = .list [.text item] := by
  unfold isListOf at h
  split at h
  · rw [eq_of_beq h]
  · cases h

/-- A list with an item is rejected. -/
theorem load_of_document_item :
    HasDocument Command.Run.configRoom (Command.configuredTree [0x2d, 0x20, 0x61]) ["proj"] none
      (.absolute ["proj"]) (.absolute ["proj", "goldenlint.yaml"]) (.list [.text "a"]) ∧
    load Command.Run.configRoom (Command.configuredTree [0x2d, 0x20, 0x61]) ["proj"] none
      (.absolute ["proj"]) =
        .error (.config (.absolute ["proj", "goldenlint.yaml"]) .notMapping) := by
  have hsound : (Command.configuredTree [0x2d, 0x20, 0x61]).Sound := by decide +kernel
  have hdecode : Text.Utf8.decode? [0x2d, 0x20, 0x61] = some "- a".toList := by decide +kernel
  obtain ⟨value, hitem, hdocument⟩ :=
    exists_document (isListOf "a") hsound hdecode (by decide +kernel)
  obtain rfl := eq_of_isListOf hitem
  refine ⟨hdocument, (load_of_document hdocument).1.2 ⟨?_, ?_⟩⟩
  · intro entries hmap
    cases hmap
  · intro hnothing
    cases hnothing

/-- Whether a value is a list without items. -/
def isEmptyList : Value → Bool
  | .list items => items.isEmpty
  | _ => false

theorem eq_of_isEmptyList (h : isEmptyList value = true) : value = .list [] := by
  unfold isEmptyList at h
  split at h
  · rw [List.isEmpty_iff.1 h]
  · cases h

/-- A list without items stands for the defaults. -/
theorem load_of_empty_list :
    HasDocument Command.Run.configRoom (Command.configuredTree [0x5b, 0x5d]) ["proj"] none
      (.absolute ["proj"]) (.absolute ["proj", "goldenlint.yaml"]) (.list []) ∧
    load Command.Run.configRoom (Command.configuredTree [0x5b, 0x5d]) ["proj"] none
      (.absolute ["proj"]) = .ok ({}, []) := by
  have hsound : (Command.configuredTree [0x5b, 0x5d]).Sound := by decide +kernel
  have hdecode : Text.Utf8.decode? [0x5b, 0x5d] = some "[]".toList := by decide +kernel
  obtain ⟨value, hnone, hdocument⟩ :=
    exists_document isEmptyList hsound hdecode (by decide +kernel)
  obtain rfl := eq_of_isEmptyList hnone
  exact ⟨hdocument, load_of_nothing hdocument .list⟩

end Settings

end LineLint
