/-! # Violations

What a rule reports: where, how severe, in which words, and what to do about it. -/

namespace LineLint

/-- How much a violation matters. -/
inductive Severity where
  | warning
  | error
  deriving DecidableEq, Repr

namespace Severity

/-- All severities, in the order in which they are counted. -/
def all : List Severity := [.warning, .error]

/-- A greater rank is more severe. -/
def rank : Severity → Nat
  | .warning => 0
  | .error => 1

def name : Severity → String
  | .warning => "warning"
  | .error => "error"

def ofName? (name : String) : Option Severity := all.find? (·.name == name)

end Severity

/-- One finding of one rule in one file. A finding without a line is about the whole file. -/
structure Violation where
  rule : String
  file : String
  message : String
  severity : Severity := .warning
  line : Option Int := none
  suggestion : Option String := none
  deriving DecidableEq, Repr

end LineLint
