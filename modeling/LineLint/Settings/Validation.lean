import LineLint.Settings.Basic
import LineLint.Text.Utf8
import LineLint.Value

/-! # Settings from values

`Settings.validate` reads the fields of a document. It is lenient about booleans, which may be
written as numbers or words, and strict about everything else. It reports every fault, in the order
in which the fields are declared, however the document orders them. Unknown fields are ignored. -/

namespace LineLint

/-- One step on the way to a faulty value. -/
inductive FieldStep where
  | field (name : String)
  | index (n : Nat)
  deriving DecidableEq, Repr

/-- The step as a message shows it. -/
def FieldStep.toString : FieldStep → String
  | field name => name
  | index n => s!"{n}"

/-- What is wrong with a value. -/
inductive FieldFault where
  | notList
  | notText
  | badEncoding
  | notChoice
  | notRules
  | unreadableBool
  | notBool
  deriving DecidableEq, Repr

namespace FieldFault

/-- The short name of a fault. -/
def kind : FieldFault → String
  | notList => "list_type"
  | notText => "string_type"
  | badEncoding => "string_unicode"
  | notChoice => "literal_error"
  | notRules => "model_type"
  | unreadableBool => "bool_parsing"
  | notBool => "bool_type"

def message : FieldFault → String
  | notList => "Input should be a valid list"
  | notText => "Input should be a valid string"
  | badEncoding =>
    "Input should be a valid string, unable to parse raw data as a unicode string"
  | notChoice => "Input should be 'warning', 'error' or 'never'"
  | notRules => "Input should be a valid dictionary or instance of RulesConfig"
  | unreadableBool => "Input should be a valid boolean, unable to interpret input"
  | notBool => "Input should be a valid boolean"

end FieldFault

/-- A fault and where it is. -/
structure FieldError where
  loc : List FieldStep
  fault : FieldFault
  deriving DecidableEq, Repr

namespace Settings

/-- What one part of a document yields: a value, and the faults found in it. The value counts only
if there are none. -/
structure Reading (α : Type) where
  value : α
  errors : List FieldError := []

/-- The name that a scalar is: a text, or bytes that encode one. -/
def readName : Value → Except FieldFault ChosenName
  | .text s => .ok s
  | .brokenText codes => .ok (.broken codes)
  | .bytes b => match Text.Utf8.decode? b with
    | some s => .ok (String.ofList s)
    | none => .error .badEncoding
  | _ => .error .notText

/-- The words that mean true. -/
def trueWords : List String := ["1", "on", "t", "true", "y", "yes"]

/-- The words that mean false. -/
def falseWords : List String := ["0", "off", "f", "false", "n", "no"]

/-- A boolean written as a word, in any ASCII case. -/
def readBoolWord (s : String) : Except FieldFault Bool :=
  let word := String.ofList (s.toList.map Char.toLower)
  if trueWords.contains word then .ok true
  else if falseWords.contains word then .ok false
  else .error .unreadableBool

/-- The bound of the whole floating-point numbers that are taken for numbers, 2⁶³. -/
def wordBound : Float := 9223372036854775808

/-- A boolean, or a number or word that means one. -/
def readBool : Value → Except FieldFault Bool
  | .bool b => .ok b
  | .int n =>
    if n == 0 then .ok false
    else if n == 1 then .ok true
    else if -9223372036854775808 ≤ n && n < 9223372036854775808 then .error .unreadableBool
    else .error .notBool
  | .float x =>
    if x == 0 then .ok false
    else if x == 1 then .ok true
    else if x.floor == x && -wordBound < x && x < wordBound then .error .unreadableBool
    else .error .notBool
  | .text s => readBoolWord s
  | .bytes b => match Text.Utf8.decode? b with
    | some s => readBoolWord (String.ofList s)
    | none => .error .unreadableBool
  | .brokenText _ => .error .badEncoding
  | _ => .error .notBool

/-- The items of a value that may stand for a list. -/
def items? : Value → Option (List Value)
  | .list items => some items
  | .set items => some items
  | _ => none

/-- The value of a named field; the last one counts if the name is repeated. -/
def field? (entries : List (Value × Value)) (name : String) : Option Value :=
  (entries.reverse.find? fun entry => match entry.1 with
    | .text s => s == name
    | _ => false).map (·.2)

/-- A field that is a list of names. -/
def readNames (entries : List (Value × Value)) (name : String) (fallback : List ChosenName) :
    Reading (List ChosenName) :=
  match field? entries name with
  | none => ⟨fallback, []⟩
  | some value => match items? value with
    | none => ⟨fallback, [⟨[.field name], .notList⟩]⟩
    | some items =>
      let read := items.map readName
      ⟨read.filterMap (·.toOption), read.zipIdx.filterMap fun
        | (.error fault, index) => some ⟨[.field name, .index index], fault⟩
        | (.ok _, _) => none⟩

/-- One of the choices for when a run fails. -/
def readChoice : Value → Except FieldFault FailOn
  | .text s => match FailOn.ofName? s with
    | some failOn => .ok failOn
    | none => .error .notChoice
  | .brokenText _ => .error .badEncoding
  | _ => .error .notChoice

/-- The field that says when a run fails. -/
def readFailOn (entries : List (Value × Value)) (name : String) (fallback : FailOn) :
    Reading FailOn :=
  match field? entries name with
  | none => ⟨fallback, []⟩
  | some value => match readChoice value with
    | .ok failOn => ⟨failOn, []⟩
    | .error fault => ⟨fallback, [⟨[.field name], fault⟩]⟩

/-- One switch of the field `outer`. -/
def readToggle (outer : String) (entries : List (Value × Value)) (name : String)
    (fallback : Bool) : Reading Bool :=
  match field? entries name with
  | none => ⟨fallback, []⟩
  | some value => match readBool value with
    | .ok b => ⟨b, []⟩
    | .error fault => ⟨fallback, [⟨[.field outer, .field name], fault⟩]⟩

/-- The field that says which rules run. -/
def readToggles (entries : List (Value × Value)) (name : String) (fallback : RuleToggles) :
    Reading RuleToggles :=
  match field? entries name with
  | none => ⟨fallback, []⟩
  | some (.map toggles) =>
    let bunFlags := readToggle name toggles "bun_optimizations" fallback.bunFlags
    let configuration :=
      readToggle name toggles "configuration_management" fallback.configuration
    let deprecation := readToggle name toggles "stay_updated" fallback.deprecation
    ⟨⟨bunFlags.value, configuration.value, deprecation.value⟩,
      bunFlags.errors ++ configuration.errors ++ deprecation.errors⟩
  | some _ => ⟨fallback, [⟨[.field name], .notRules⟩]⟩

/-- The settings that a document describes, or all that is wrong with it. -/
def validate (entries : List (Value × Value)) : Except (List FieldError) Settings :=
  let defaults : Settings := {}
  let extensions := readNames entries "extensions" defaults.extensions
  let excludeDirs := readNames entries "exclude_dirs" defaults.excludeDirs
  let markers := readNames entries "server_path_markers" defaults.serverPathMarkers
  let manifests := readNames entries "manifest_names" defaults.manifestNames
  let libraries := readNames entries "schema_libraries" defaults.schemaLibraries
  let failOn := readFailOn entries "fail_on" defaults.failOn
  let rules := readToggles entries "rules" defaults.rules
  let errors := extensions.errors ++ excludeDirs.errors ++ markers.errors ++ manifests.errors ++
    libraries.errors ++ failOn.errors ++ rules.errors
  if errors.isEmpty then
    .ok ⟨extensions.value, excludeDirs.value, markers.value, manifests.value, libraries.value,
      failOn.value, rules.value⟩
  else .error errors

end Settings

end LineLint
