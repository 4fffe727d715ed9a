import LineLint.Json.Printer
import LineLint.Settings.Basic
import LineLint.Tally

/-! # The result of a run

The violations of a run in the order in which they were found, with the views on them that reports
need. -/

namespace LineLint

/-- What a run found. -/
structure LintResult where
  violations : List Violation := []
  filesScanned : Int := 0
  /-- The names of the rules that ran, in order. -/
  timedRules : List String := []
  failOn : FailOn := .warning
  deriving DecidableEq, Repr

namespace LintResult

/-- The number of violations of a severity. -/
def count (r : LintResult) (severity : Severity) : Nat :=
  r.violations.countP (·.severity == severity)

def hasErrors (r : LintResult) : Bool := r.violations.any (·.severity == .error)

def hasWarnings (r : LintResult) : Bool := r.violations.any (·.severity == .warning)

/-- The violations of each file, in the order in which the files are first seen. -/
def byFile (r : LintResult) : List (String × List Violation) := groupBy (·.file) r.violations

/-- One if a violation is severe enough for the run to fail, else zero. -/
def exitCode (r : LintResult) : Nat :=
  match r.failOn.threshold? with
  | none => 0
  | some threshold => if r.violations.any (threshold ≤ ·.severity.rank) then 1 else 0

end LintResult

/-- The record of a violation. -/
def Violation.toJson (v : Violation) : Json := .object [
  ("rule", .string v.rule),
  ("file", .string v.file),
  ("message", .string v.message),
  ("severity", .string v.severity.name),
  ("line", .ofInt? v.line),
  ("suggestion", .ofString? v.suggestion)]

namespace LintResult

/-- The counts of a result. -/
def summaryJson (r : LintResult) : Json := .object [
  ("total", .int r.violations.length),
  ("warning", .int (r.count .warning)),
  ("error", .int (r.count .error))]

/-- The report of a result. -/
def toJson (r : LintResult) : Json := .object [
  ("files_scanned", .int r.filesScanned),
  ("violations", .array (r.violations.map Violation.toJson)),
  ("summary", r.summaryJson)]

end LintResult

end LineLint
