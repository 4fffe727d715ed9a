import LineLint.Rules.BunFlags
import LineLint.Rules.Configuration
import LineLint.Rules.Deprecation
import LineLint.Settings.Basic

/-! # The rules that settings choose

The rules stand in a fixed order, each with the key of its switch in the settings. -/

namespace LineLint

/-- A rule with its key and whether it runs. -/
structure CatalogueEntry where
  key : String
  rule : Rule
  enabled : Bool

namespace Settings

/-- All rules, set up for some settings. -/
def catalogue (s : Settings) : List CatalogueEntry := [
  ⟨"bun_optimizations", Rules.bunFlags s.classifier, s.rules.bunFlags⟩,
  ⟨"configuration_management", Rules.configuration (ChosenName.texts s.schemaLibraries),
    s.rules.configuration⟩,
  ⟨"stay_updated", Rules.deprecation s.classifier, s.rules.deprecation⟩]

/-- The rules that run. -/
def activeRules (s : Settings) : List Rule :=
  (s.catalogue.filter (·.enabled)).map (·.rule)

/-- What the rules say of a text. -/
def lintText (s : Settings) (file content : String) : List Violation :=
  s.activeRules.flatMap (·.validate file content)

end Settings

/-- A rule was given something other than a file name and a text. -/
inductive TextError where
  | notText
  deriving DecidableEq, Repr

def TextError.message : TextError → String
  | notText => "validate() expects str file and str content"

/-- What a rule says of a file whose name or text may be missing. -/
def Rule.validate? (r : Rule) : Option String → Option String → Except TextError (List Violation)
  | some file, some content => .ok (r.validate file content)
  | _, _ => .error .notText

/-- What the rules say of a file whose name or text may be missing. Without a rule nobody looks. -/
def Settings.lintText? (s : Settings) (file content : Option String) :
    Except TextError (List Violation) := do
  return (← s.activeRules.mapM fun rule => rule.validate? file content).flatten

end LineLint
