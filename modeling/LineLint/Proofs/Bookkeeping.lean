import LineLint.Proofs.Numerals
import LineLint.Proofs.ReportLines
import LineLint.Proofs.Tallies
import LineLint.Report.Basic

/-!
# The books of a triage

A summary counts its violations by rule, category, effort and severity, the plan spreads them over
three phases, and the detailed report over the sections of their categories. All these numbers are
counted apart, and they fit together: what is in two phases is counted twice, and everything else
once. Main statement: `TriageSummary.books_balance`.
-/

namespace LineLint

section

variable {α : Type}

/-- The elements of a list that have a property, each as often as there and in the same order. -/
structure Selects [DecidableEq α] (p : α → Prop) [DecidablePred p] (items chosen : List α) :
    Prop where
  sublist : chosen.Sublist items
  count : ∀ x, chosen.count x = if p x then items.count x else 0

theorem selects_filter [DecidableEq α] (p : α → Prop) [DecidablePred p] (items : List α) :
    Selects p items (items.filter fun x => decide (p x)) where
  sublist := List.filter_sublist
  count x := by
    split
    · exact List.count_filter (by simpa)
    · rw [List.count_eq_zero, List.mem_filter]
      simp [*]

/-- Two classes and what is in neither count the elements of both twice. -/
theorem countP_classes (p q : α → Bool) (items : List α) :
    items.countP p + items.countP q + items.countP (fun x => !p x && !q x) =
      items.length + items.countP fun x => p x && q x := by
  induction items with
  | nil => rfl
  | cons x rest ih =>
    simp only [List.countP_cons, List.length_cons]
    cases p x <;> cases q x <;> simp <;> omega

end

theorem Triage.priority_eq_critical_iff {v : Violation} : Triage.priority v = .critical ↔
    v.severity = .error ∧ v.rule = "Configuration Management" := by
  rw [Triage.priority]
  cases v.severity with
  | warning =>
    dsimp only
    split <;> simp
  | error =>
    dsimp only
    split <;> simp_all [securityRules]

namespace Report

/-! ## Lines with numbers -/

/-- Whether a line of the plan says how many violations a phase is about. -/
def givesTarget (line : String) : Bool := begins "**Target**: " line

/-- Whether a line of the detailed report says how many violations there are, in all, in a category
or of a priority or effort in it. -/
def givesCount (line : String) : Bool :=
  ["**Total Violations**: ", "## ", "- "].any fun start => begins start line

/-- The numbers in the section of a category. -/
structure SectionCounts where
  category : Category
  count : ℕ
  ofPriority : Priority → ℕ
  ofEffort : Effort → ℕ

namespace SectionCounts

/-- The lines that give the numbers. -/
def lines (c : SectionCounts) : List String :=
  s!"## {c.category.heading} ({c.count} violations)" ::
    ((Priority.all.map fun p => s!"- {p.title}: {c.ofPriority p}") ++
      Effort.all.map fun e => s!"- {e.title}: {c.ofEffort e}")

/-- The numbers of the violations of a category. -/
def ofItems (items : List TriagedViolation) (category : Category) : SectionCounts where
  category
  count := items.countP (·.category == category)
  ofPriority p := items.countP fun item => item.priority == p && item.category == category
  ofEffort e := items.countP fun item => item.effort == e && item.category == category

/-- Both breakdowns of a section add up to its count. -/
structure Balances (c : SectionCounts) : Prop where
  priorities : (Priority.all.map c.ofPriority).sum = c.count
  efforts : (Effort.all.map c.ofEffort).sum = c.count

theorem balances_ofItems (items : List TriagedViolation) (category : Category) :
    (ofItems items category).Balances := by
  constructor
  · exact sum_countP_and (by decide) (fun p => by cases p <;> decide) _
  · exact sum_countP_and (by decide) (fun e => by cases e <;> decide) _

end SectionCounts

theorem filter_givesTarget_fix (index : ℕ) (item : TriagedViolation) :
    (fixLines index item).filter givesTarget = [] := by
  -- the first line begins with a digit
  obtain ⟨digit, rest, hnumeral, hdigit⟩ := toDigits_cons index
  have hstar : '*' ≠ digit := by
    rintro rfl
    exact absurd hdigit (by decide)
  simp [givesTarget, begins, fixLines, toString, hnumeral, hstar]

theorem filter_givesTarget (s : TriageSummary) (generated : String) :
    (Report.lines s generated .actionPlan).filter givesTarget = [
      s!"**Target**: {s.critical.length} critical violations",
      s!"**Target**: {s.quickWins.length} quick fixes",
      s!"**Target**: {remaining s} remaining violations"] := by
  have hfixes : ∀ fixes : List (ℕ × TriagedViolation),
      (fixes.flatMap fun fix => fixLines fix.1 fix.2).filter givesTarget = [] := by
    intro fixes
    simp only [List.filter_flatMap, filter_givesTarget_fix]
    simp
  have hrules : ∀ rows : List (String × ℕ),
      (rows.map fun row => s!"- {cell row.1}: {row.2}").filter givesTarget = [] := by
    intro rows
    simp [givesTarget, begins, toString, List.filter_map]
  rw [Report.lines, actionPlanLines]
  simp only [List.filter_append, hfixes, hrules]
  simp [givesTarget, begins, toString, head]

theorem filter_givesCount_detail (index : ℕ) (item : TriagedViolation) :
    (detailLines index item).filter givesCount = [] := by
  simp [givesCount, begins, toString, detailLines]

/-- The numbers in the section of some violations of a category. -/
theorem filter_givesCount_category (category : Category) (items : List TriagedViolation) :
    (categoryLines category items).filter givesCount = SectionCounts.lines
      ⟨category, items.length, fun p => items.countP (·.priority == p),
        fun e => items.countP (·.effort == e)⟩ := by
  simp [givesCount, begins, toString, categoryLines, List.filter_flatMap, filter_givesCount_detail,
    SectionCounts.lines, Priority.all, Effort.all, Priority.title, Effort.title]

/-- The numbers of each section of the detailed report. -/
def sectionCounts (s : TriageSummary) : List SectionCounts :=
  (s.items.map (·.category)).eraseDups.map (SectionCounts.ofItems s.items)

theorem filter_givesCount (s : TriageSummary) (generated : String) :
    (Report.lines s generated .detailed).filter givesCount =
      s!"**Total Violations**: {s.total}" :: (sectionCounts s).flatMap SectionCounts.lines := by
  have hhead : (head "Detailed Violations Report" generated "Total Violations" s.total).filter
      givesCount = [s!"**Total Violations**: {s.total}"] := by
    simp [givesCount, begins, toString, head]
  have hsection : ∀ category,
      (categoryLines category (s.items.filter (·.category == category))).filter givesCount =
        (SectionCounts.ofItems s.items category).lines := by
    intro category
    rw [filter_givesCount_category, ← List.countP_eq_length_filter]
    simp only [List.countP_filter]
    rfl
  rw [Report.lines, detailedLines, List.filter_append, hhead, groupBy, List.flatMap_map,
    List.filter_flatMap, sectionCounts, List.flatMap_map]
  simp only [hsection]
  rfl

theorem countsBy_sectionCounts (s : TriageSummary) : CountsBy (·.category) s.items
    ((sectionCounts s).map fun c => (c.category, c.count)) := by
  have htally : (sectionCounts s).map (fun c => (c.category, c.count)) =
      tally (·.category) s.items := by
    rw [sectionCounts, List.map_map, tally_eq]
    apply List.map_congr_left
    intro category _
    rw [count_map_key]
    rfl
  rw [htally]
  exact countsBy_tally _ _

end Report

namespace TriageSummary

/-- How the numbers of a summary of some violations fit together. -/
structure Balances (s : TriageSummary) (vs : List Violation) : Prop where
  /-- Each violation is kept once, in its place. -/
  kept : s.items.map (·.violation) = vs
  byRule : CountsBy (·.violation.rule) s.items s.byRule
  byCategory : CountsBy (·.category.name) s.items s.byCategory
  byEffort : CountsBy (·.effort.name) s.items s.byEffort
  bySeverity : (Severity.all.map s.ofSeverity).sum = s.total
  quickWins : Selects (·.effort = .quick) s.items s.quickWins
  critical : Selects (·.priority = .critical) s.items s.critical
  critical_iff : ∀ item ∈ s.items, item.priority = .critical ↔
    item.violation.severity = .error ∧ item.violation.rule = "Configuration Management"
  /-- These are the targets of the three phases of the plan. -/
  targets : ∀ generated, (Report.lines s generated .actionPlan).filter Report.givesTarget = [
    s!"**Target**: {s.critical.length} critical violations",
    s!"**Target**: {s.quickWins.length} quick fixes",
    s!"**Target**: {Report.remaining s} remaining violations"]
  /-- They count what is critical and quick twice. -/
  phases : s.critical.length + s.quickWins.length + Report.remaining s =
    s.total + s.items.countP fun item => item.priority = .critical ∧ item.effort = .quick
  /-- These are the numbers in the detailed report. -/
  counts : ∀ generated, (Report.lines s generated .detailed).filter Report.givesCount =
    s!"**Total Violations**: {s.total}" :: (Report.sectionCounts s).flatMap (·.lines)
  /-- Its sections count the violations of their categories, and so add up to the total. -/
  sections : CountsBy (·.category) s.items
    ((Report.sectionCounts s).map fun c => (c.category, c.count))
  breakdowns : ∀ c ∈ Report.sectionCounts s, c.Balances

theorem phases_eq (s : TriageSummary) :
    s.critical.length + s.quickWins.length + Report.remaining s =
      s.total + s.items.countP fun item => item.priority = .critical ∧ item.effort = .quick := by
  have hclasses := countP_classes (·.priority == .critical) (·.effort == .quick) s.items
  rw [List.countP_eq_length_filter, List.countP_eq_length_filter] at hclasses
  simp only [Bool.decide_and]
  exact hclasses

/-- The counts, the phases and the sections of a summary fit together. -/
theorem books_balance (overrides : List (String × Category)) (vs : List Violation) :
    (ofViolations overrides vs).Balances vs where
  kept := by
    rw [ofViolations, List.map_map]
    exact List.map_id vs
  byRule := countsBy_tally _ _
  byCategory := countsBy_tally _ _
  byEffort := countsBy_tally _ _
  bySeverity := sum_countP (by decide) fun item _ => by cases item.violation.severity <;> decide
  quickWins := selects_filter _ _
  critical := selects_filter _ _
  critical_iff := by
    rw [ofViolations, List.forall_mem_map]
    intro v _
    exact Triage.priority_eq_critical_iff
  targets := Report.filter_givesTarget _
  phases := phases_eq _
  counts := Report.filter_givesCount _
  sections := Report.countsBy_sectionCounts _
  breakdowns := by
    intro c hc
    obtain ⟨category, -, rfl⟩ := List.mem_map.1 hc
    exact Report.SectionCounts.balances_ofItems _ category

end TriageSummary

end LineLint
