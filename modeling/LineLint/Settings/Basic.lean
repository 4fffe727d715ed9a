import LineLint.Classifier
import LineLint.Rules.Configuration
import LineLint.Violation

/-! # Settings

What a user can choose: which files are looked at, how they are classified, which rules run, and
which violations make a run fail. -/

namespace LineLint

/-- The least severity that makes a run fail. -/
inductive FailOn where
  | warning
  | error
  | never
  deriving DecidableEq, Repr

namespace FailOn

def all : List FailOn := [.warning, .error, .never]

def name : FailOn → String
  | .warning => "warning"
  | .error => "error"
  | .never => "never"

def ofName? (name : String) : Option FailOn := all.find? (·.name == name)

/-- The least rank that makes a run fail, if any does. -/
def threshold? : FailOn → Option Nat
  | .warning => some Severity.warning.rank
  | .error => some Severity.error.rank
  | .never => none

end FailOn

/-- A name that a user has chosen. -/
inductive ChosenName where
  | text (s : String)
  /-- What has been written is no text: some of its codes are halves of surrogate pairs. Nothing
  has such a name. -/
  | broken (codes : List Nat)
  deriving DecidableEq, Repr

namespace ChosenName

instance : Coe String ChosenName := ⟨.text⟩

/-- The text of a name, if it is one. -/
def text? : ChosenName → Option String
  | text s => some s
  | broken _ => none

/-- The texts among some names. -/
def texts (names : List ChosenName) : List String := names.filterMap text?

end ChosenName

/-- Which rules run. -/
structure RuleToggles where
  bunFlags : Bool := true
  configuration : Bool := true
  deprecation : Bool := true
  deriving DecidableEq, Repr

/-- The choices of a user, with what holds in their absence. -/
structure Settings where
  extensions : List ChosenName := [".ts", ".tsx", ".js", ".jsx", ".mjs", ".cjs"]
  excludeDirs : List ChosenName := ["node_modules", ".git", "dist", "build"]
  serverPathMarkers : List ChosenName := ["server"]
  manifestNames : List ChosenName := ["package.json"]
  schemaLibraries : List ChosenName := Rules.Configuration.defaultLibraries.map .text
  failOn : FailOn := .warning
  rules : RuleToggles := {}
  deriving DecidableEq, Repr

namespace Settings

def classifier (s : Settings) : Classifier :=
  ⟨ChosenName.texts s.serverPathMarkers, ChosenName.texts s.manifestNames⟩

/-- Whether a file with this name is looked at: it is a manifest or has a chosen extension. -/
def wants (s : Settings) (name : String) : Bool :=
  s.manifestNames.contains (.text name) || s.extensions.contains (.text (Path.suffixOf name))

/-- Whether directories with this name are looked into. -/
def enters (s : Settings) (name : String) : Bool := !s.excludeDirs.contains (.text name)

end Settings

end LineLint
