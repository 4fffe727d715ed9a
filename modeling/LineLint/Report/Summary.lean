import LineLint.Report.Layout

/-! # The executive summary -/

namespace LineLint.Report

/-- More violations than this make a performance problem a medium risk. -/
def performanceRiskThreshold : Int := 5

/-- More critical violations than this stop work on features. -/
def criticalBlockThreshold : Nat := 10

/-- How much a number of violations of a category weighs. -/
def riskLevel (category : String) (count : Int) : String :=
  if category == Category.security.name && 0 < count then "High"
  else if category == Category.performance.name && performanceRiskThreshold < count then "Medium"
  else "Low"

/-- The state of a project, and what to do about it. -/
structure Assessment where
  verdict : String
  action : String
  deriving DecidableEq, Repr

/-- The assessment depends on the number of critical violations alone. -/
def assess (s : TriageSummary) : Assessment :=
  let critical := s.critical.length
  if criticalBlockThreshold < critical then
    ⟨"CRITICAL", "Stop new feature work until the critical issues are resolved."⟩
  else if 0 < critical then
    ⟨"ATTENTION NEEDED", "Prioritise the critical fixes in the current sprint."⟩
  else ⟨"HEALTHY", "Address the remaining warnings in the next maintenance cycle."⟩

/-- A row of the table of rules. -/
def ruleRow (row : String × Nat) : String := s!"| {cell row.1} | {row.2} |"

/-- A row of the table of categories. -/
def categoryRow (row : String × Nat) : String :=
  s!"| {row.1} | {row.2} | {riskLevel row.1 row.2} |"

/-- The lines of the executive summary. -/
def summaryLines (s : TriageSummary) (generated : String) : List String :=
  head "Violations Executive Summary" generated "Total Violations" s.total ++
  ["## Overview", "", "| Metric | Count |", "|--------|-------|",
    s!"| Critical Issues | {s.critical.length} |",
    s!"| Errors | {s.ofSeverity .error} |",
    s!"| Warnings | {s.ofSeverity .warning} |",
    s!"| Quick Wins | {s.quickWins.length} |",
    "", "## Top Rules", "", "| Rule | Violations |", "|------|------------|"] ++
  (s.topRules 5).map ruleRow ++
  ["", "## Impact Assessment", "", "| Category | Violations | Risk Level |",
    "|----------|------------|------------|"] ++
  s.sortedCategories.map categoryRow ++
  ["", s!"## Overall Assessment: {(assess s).verdict}", "",
    s!"**Recommended Action**: {(assess s).action}", ""]

end LineLint.Report
