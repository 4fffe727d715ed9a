import LineLint.Report.Sections
import LineLint.Report.Summary

/-! # Reports

The five documents that a triage can leave behind, in the order in which they are written. -/

namespace LineLint

/-- A kind of report. -/
inductive Report where
  | summary
  | critical
  | quickWins
  | detailed
  | actionPlan
  deriving DecidableEq, Repr

namespace Report

def all : List Report := [.summary, .critical, .quickWins, .detailed, .actionPlan]

/-- The short name of a report. -/
def key : Report → String
  | .summary => "summary"
  | .critical => "critical"
  | .quickWins => "quick_wins"
  | .detailed => "detailed"
  | .actionPlan => "action_plan"

/-- The name of the file that holds a report. -/
def fileName : Report → String
  | .summary => "violations-executive-summary.md"
  | .critical => "violations-critical.md"
  | .quickWins => "violations-quick-wins.md"
  | .detailed => "violations-detailed.md"
  | .actionPlan => "violations-action-plan.md"

def ofKey? (key : String) : Option Report := all.find? (·.key == key)

/-- The lines of a report on a summary. -/
def lines (s : TriageSummary) (generated : String) : Report → List String
  | .summary => summaryLines s generated
  | .critical => criticalLines s generated
  | .quickWins => quickWinsLines s generated
  | .detailed => detailedLines s generated
  | .actionPlan => actionPlanLines s generated

/-- The text of a report on a summary. -/
def render (s : TriageSummary) (generated : String) (r : Report) : String :=
  text (r.lines s generated)

end Report

end LineLint
