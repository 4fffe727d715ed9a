import LineLint.Report.Layout

/-! # Reports that list violations

The critical violations, the quick wins, all violations by category, and the plan. -/

namespace LineLint.Report

/-- The lines of the report on critical violations. -/
def criticalLines (s : TriageSummary) (generated : String) : List String :=
  head "Critical Issues Report" generated "Critical Issues" s.critical.length ++
  ["## Immediate Action Required", ""] ++
  (if s.critical.isEmpty then ["No critical issues found.", ""] else []) ++
  (numbered s.critical).flatMap fun (index, item) => itemBlock [.category, .effort] index item

/-- The lines of the report on quick wins. -/
def quickWinsLines (s : TriageSummary) (generated : String) : List String :=
  head "Quick Wins Report" generated "Quick Wins" s.quickWins.length ++
  ["## Low-Effort Fixes", ""] ++
  (if s.quickWins.isEmpty then ["No quick wins available.", ""] else []) ++
  (numbered s.quickWins).flatMap fun (index, item) => itemBlock [.category, .priority] index item

/-- The lines of one violation in its category. -/
def detailLines (index : Nat) (item : TriagedViolation) : List String :=
  let v := item.violation
  [s!"#### {index}. {v.rule} ({v.severity.name})", "", s!"**File**: `{place v}`",
    s!"**Priority**: {item.priority.name}", s!"**Effort**: {item.effort.name}",
    s!"**Issue**: {v.message}", ""]

/-- The lines of one category: how many violations of each priority and effort, and all of them. -/
def categoryLines (category : Category) (items : List TriagedViolation) : List String :=
  [s!"## {category.heading} ({items.length} violations)", "", "### Priority Breakdown", ""] ++
  (Priority.all.map fun p => s!"- {p.title}: {items.countP (·.priority == p)}") ++
  ["", "### Effort Breakdown", ""] ++
  (Effort.all.map fun e => s!"- {e.title}: {items.countP (·.effort == e)}") ++
  ["", "### Violations", ""] ++
  (numbered items).flatMap fun (index, item) => detailLines index item

/-- The lines of the report on all violations. -/
def detailedLines (s : TriageSummary) (generated : String) : List String :=
  head "Detailed Violations Report" generated "Total Violations" s.total ++
  (groupBy (·.category) s.items).flatMap fun (category, items) => categoryLines category items

/-- The number of violations that are in neither of the first two phases. -/
def remaining (s : TriageSummary) : Nat :=
  s.items.countP fun item => item.priority != .critical && item.effort != .quick

/-- The lines of one step of the first phase. -/
def fixLines (index : Nat) (item : TriagedViolation) : List String :=
  let v := item.violation
  let fix := match v.suggestion with
    | some suggestion => if suggestion.isEmpty then v.message else suggestion
    | none => v.message
  [s!"{index}. **{v.rule}** - `{v.file}`", s!"   - Fix: {fix}",
    s!"   - Effort: {item.effort.name}"]

/-- The lines of the action plan. -/
def actionPlanLines (s : TriageSummary) (generated : String) : List String :=
  head "Violations Action Plan" generated "Total Violations" s.total ++
  ["## Phase 1: Critical Security & Stability", "",
    s!"**Target**: {s.critical.length} critical violations", ""] ++
  ((numbered (s.critical.take 5)).flatMap fun (index, item) => fixLines index item) ++
  ["", "## Phase 2: Quick Wins", "", s!"**Target**: {s.quickWins.length} quick fixes", "",
    "- Replace `require()` with ES module imports",
    "- Add Bun optimization flags to scripts and server entry points", "",
    "## Phase 3: Systematic Improvements", "",
    s!"**Target**: {remaining s} remaining violations", ""] ++
  ((s.topRules s.byRule.length).map fun (rule, count) => s!"- {cell rule}: {count}") ++
  [""]

end LineLint.Report
