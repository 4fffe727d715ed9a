import LineLint.Tally
import LineLint.Text.Search
import LineLint.Violation

/-! # Triage

Each violation gets a priority, an effort and a category, from its rule, its severity and its
message. A summary holds the triaged violations in their order; all its numbers are views. -/

namespace LineLint

inductive Priority where
  | critical
  | high
  | medium
  | low
  deriving DecidableEq, Repr

namespace Priority

def all : List Priority := [.critical, .high, .medium, .low]

def name : Priority → String
  | .critical => "critical"
  | .high => "high"
  | .medium => "medium"
  | .low => "low"

/-- The name as it stands at the start of a line. -/
def title : Priority → String
  | .critical => "Critical"
  | .high => "High"
  | .medium => "Medium"
  | .low => "Low"

end Priority

inductive Effort where
  | quick
  | moderate
  | complex
  deriving DecidableEq, Repr

namespace Effort

def all : List Effort := [.quick, .moderate, .complex]

def name : Effort → String
  | .quick => "quick"
  | .moderate => "moderate"
  | .complex => "complex"

/-- The name as it stands at the start of a line. -/
def title : Effort → String
  | .quick => "Quick"
  | .moderate => "Moderate"
  | .complex => "Complex"

end Effort

inductive Category where
  | security
  | performance
  | maintainability
  | compatibility
  | monitoring
  deriving DecidableEq, Repr

namespace Category

def all : List Category := [.security, .performance, .maintainability, .compatibility, .monitoring]

def name : Category → String
  | .security => "security"
  | .performance => "performance"
  | .maintainability => "maintainability"
  | .compatibility => "compatibility"
  | .monitoring => "monitoring"

/-- The name as it stands in a heading. -/
def heading : Category → String
  | .security => "SECURITY"
  | .performance => "PERFORMANCE"
  | .maintainability => "MAINTAINABILITY"
  | .compatibility => "COMPATIBILITY"
  | .monitoring => "MONITORING"

def ofName? (name : String) : Option Category := all.find? (·.name == name)

end Category

/-- A violation with its place in the work ahead. -/
structure TriagedViolation where
  violation : Violation
  priority : Priority
  effort : Effort
  category : Category
  deriving DecidableEq, Repr

namespace Triage

/-- The rules whose violations concern security. -/
def securityRules : List String := ["Configuration Management"]

/-- The rules whose warnings come before those of others. -/
def mediumPriorityRules : List String := ["Bun Optimizations"]

/-- What a message holds if the fix is quick. -/
def quickFixes : List String :=
  ["require(", "process.cwd()", "__dirname", "module.exports", "--smol", "--sql-preconnect"]

/-- The categories of the rules that are known without being told. -/
def defaultCategories : List (String × Category) := [
  ("Configuration Management", .security),
  ("Bun Optimizations", .performance),
  ("Stay Updated", .compatibility)]

def priority (v : Violation) : Priority :=
  match v.severity with
  | .error => if securityRules.contains v.rule then .critical else .high
  | .warning => if mediumPriorityRules.contains v.rule then .medium else .low

def effort (v : Violation) : Effort :=
  if Text.containsAny quickFixes v.message.toList then .quick
  else if securityRules.contains v.rule then .complex
  else .moderate

/-- The category that a caller gives a rule, else the known one, else maintainability. -/
def category (overrides : List (String × Category)) (v : Violation) : Category :=
  ((overrides.lookup v.rule).or (defaultCategories.lookup v.rule)).getD .maintainability

def triage (overrides : List (String × Category)) (v : Violation) : TriagedViolation :=
  ⟨v, priority v, effort v, category overrides v⟩

end Triage

/-- Triaged violations in their order. -/
structure TriageSummary where
  items : List TriagedViolation := []
  deriving DecidableEq, Repr

namespace TriageSummary

/-- The summary of some violations. -/
def ofViolations (overrides : List (String × Category)) (vs : List Violation) : TriageSummary :=
  ⟨vs.map (Triage.triage overrides)⟩

def total (s : TriageSummary) : Nat := s.items.length

/-- The number of violations of a severity. -/
def ofSeverity (s : TriageSummary) (severity : Severity) : Nat :=
  s.items.countP (·.violation.severity == severity)

def byRule (s : TriageSummary) : List (String × Nat) := tally (·.violation.rule) s.items

def byCategory (s : TriageSummary) : List (String × Nat) := tally (·.category.name) s.items

def byEffort (s : TriageSummary) : List (String × Nat) := tally (·.effort.name) s.items

def critical (s : TriageSummary) : List TriagedViolation :=
  s.items.filter (·.priority == .critical)

def quickWins (s : TriageSummary) : List TriagedViolation := s.items.filter (·.effort == .quick)

/-- The greater count comes first, and of equal counts the lesser name. -/
def rankLe (a b : String × Nat) : Bool :=
  b.2 < a.2 || (a.2 == b.2 && decide (a.1 ≤ b.1))

/-- All rules with their counts, the most frequent first. -/
def rankedRules (s : TriageSummary) : List (String × Nat) := s.byRule.mergeSort rankLe

/-- The first `limit` entries of a list, or all but the last ones for a negative limit. -/
def cutAt {α : Type} (limit : Int) (items : List α) : List α :=
  if limit < 0 then items.take (items.length - limit.natAbs) else items.take limit.toNat

/-- The most frequent rules. -/
def topRules (s : TriageSummary) (limit : Int) : List (String × Nat) := cutAt limit s.rankedRules

/-- The categories with their counts, by name. -/
def sortedCategories (s : TriageSummary) : List (String × Nat) :=
  s.byCategory.mergeSort fun a b => decide (a.1 ≤ b.1)

end TriageSummary

end LineLint
