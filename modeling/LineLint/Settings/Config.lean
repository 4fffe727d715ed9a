import LineLint.FileTree
import LineLint.Lint.Warning
import LineLint.Settings.Validation
import LineLint.Yaml.Document
import LineLint.Yaml.Literal

/-! # Configuration files

Settings come from the file that a user names, or from the nearest configuration file: the search
goes from a directory upwards, and in each directory through four names in a fixed order. A named
file that is missing gives the defaults and a warning; no file at all gives the defaults. -/

namespace LineLint

/-- Why the content of a configuration file is no configuration. -/
inductive ConfigFault where
  /-- The text is not a YAML document. -/
  | malformed (message : String)
  /-- The document is neither blank nor a mapping. -/
  | notMapping
  /-- The mapping does not describe settings. -/
  | invalid (errors : List FieldError) (message : String)
  deriving DecidableEq, Repr

/-- What is said of a fault. -/
def ConfigFault.message : ConfigFault → String
  | malformed message => message
  | notMapping => "top-level YAML value must be a mapping"
  | invalid _ message => message

/-- Why there are no settings. -/
inductive LoadError where
  | access (e : AccessError)
  /-- The bytes of the file are not text. -/
  | undecodable
  /-- A scalar of the document has no value. -/
  | scalar (f : Yaml.Fault)
  /-- A key of the document is not a text. -/
  | keyNotText
  | config (source : Path) (fault : ConfigFault)
  deriving DecidableEq, Repr

/-- How the message about a configuration file starts. -/
def LoadError.configPreamble (source : Path) : String :=
  s!"Invalid goldenlint configuration in {source}:"

/-- The message about a configuration file. -/
def LoadError.configMessage (source : Path) (fault : ConfigFault) : String :=
  s!"{configPreamble source} {fault.message}"

namespace FieldError

/-- The part of a document that an error is about. -/
def spot? (e : FieldError) (c : Yaml.Content) : Option Yaml.Spot :=
  e.loc.foldlM (fun spot => fun
    | .field name => c.field? name spot
    | .index n => c.item? n spot) (.place c.root)

/-- Where an error is, what is wrong, and what stands there instead. -/
def describe (e : FieldError) (c : Yaml.Content) : String :=
  let loc := ".".intercalate (e.loc.map FieldStep.toString)
  let spot := (e.spot? c).getD (.place c.root)
  let found := String.ofList (c.literal spot)
  let kind := c.kind spot
  s!"{loc}\n  {e.fault.message} [type={e.fault.kind}, input_value={found}, input_type={kind}]"

end FieldError

namespace Settings

/-- The names of configuration files; earlier ones come first. -/
def configNames : List String :=
  ["goldenlint.yaml", "goldenlint.yml", ".goldenlint.yaml", ".goldenlint.yml"]

/-- The configuration file of a directory. -/
def configIn (t : FileTree) (directory : Location) : Except AccessError (Option Path) :=
  configNames.foldlM (fun found name => do
    if found.isSome then return found
    let candidate := Path.absolute (directory ++ [name])
    if ← t.isFile [] candidate then return some candidate else return none) none

/-- The nearest configuration file at or above a directory, whose names come in reverse. -/
def searchUp (t : FileTree) : List String → Except AccessError (Option Path)
  | [] => configIn t []
  | name :: above => do
    match ← configIn t (name :: above).reverse with
    | some found => return some found
    | none => searchUp t above

/-- The nearest configuration file at or above a directory. -/
def findConfig (t : FileTree) (directory : Location) : Except AccessError (Option Path) :=
  searchUp t directory.reverse

/-- The content of a configuration file, read in some room. -/
def readContent (room : Nat) (source : Path) (bytes : List UInt8) :
    Except LoadError Yaml.Content := do
  let some text := Text.Utf8.decode? bytes | throw .undecodable
  let text := Text.unifyBreaks text
  match Yaml.read room text with
  | .ok content => return content
  | .error (.malformed c) => throw (.config source (.malformed (c.message text)))
  | .error fault => throw (.scalar fault)

/-- Whether a value can be the name of a field. -/
def isFieldName : Value → Bool
  | .text _ | .brokenText _ => true
  | _ => false

/-- The message about all errors. -/
def describeErrors (c : Yaml.Content) (errors : List FieldError) : String :=
  "\n".intercalate (s!"Errors: {errors.length}" :: errors.map (·.describe c))

/-- The settings in a configuration file. -/
def ofConfig (room : Nat) (source : Path) (bytes : List UInt8) : Except LoadError Settings := do
  let content ← readContent room source bytes
  let value := content.value
  let .map entries := if value.isBlank then .map [] else value
    | throw (.config source .notMapping)
  if !(entries.all fun entry => isFieldName entry.1) then throw .keyNotText
  match validate entries with
  | .ok s => return s
  | .error errors => throw (.config source (.invalid errors (describeErrors content errors)))

/-- What was found out about an access to files. -/
def access {α : Type} (found : Except AccessError α) : Except LoadError α :=
  found.mapError .access

/-- The settings in the file at a place, or the defaults if there is no file. -/
def loadFrom (room : Nat) (t : FileTree) (source : Option Path) : Except LoadError Settings := do
  match source with
  | none => return {}
  | some source => ofConfig room source (← access (t.read [] source))

/-- The settings of a named configuration file, or else of the nearest one to a directory. `room`
is what there is for the nesting of its content. -/
def load (room : Nat) (t : FileTree) (cwd : Location) (config : Option Path) (search : Path) :
    Except LoadError (Settings × List Warning) := do
  match config with
  | some config =>
    let source := Path.absolute (← access (t.resolve cwd config))
    if ← access (t.isFile [] source) then return (← loadFrom room t (some source), [])
    else return ({}, [.configMissing source])
  | none =>
    let directory ← access (t.resolve cwd search)
    return (← loadFrom room t (← access (findConfig t directory)), [])

end Settings

end LineLint
