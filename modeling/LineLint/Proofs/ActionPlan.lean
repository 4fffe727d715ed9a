import LineLint.Proofs.RankedRules
import LineLint.Report.Basic

/-!
# The plan

The plan promises the violations that are neither critical nor quick wins as its last phase. What
it lists there are all violations, rule by rule, so that the counts fit the promise only if nothing
is critical and nothing is a quick win. Main statement: `Report.last_phase`.
-/

namespace LineLint

namespace TriageSummary

variable {s : TriageSummary} {item : TriagedViolation} {rule : String}

/-- A violation that is left when the critical ones and the quick wins are done. -/
def Leaves (s : TriageSummary) (item : TriagedViolation) : Prop :=
  item ∉ s.critical ∧ item ∉ s.quickWins

instance (s : TriageSummary) (item : TriagedViolation) : Decidable (s.Leaves item) :=
  inferInstanceAs (Decidable (_ ∧ _))

/-- How many violations of a rule are left. -/
def leftOf (s : TriageSummary) (rule : String) : ℕ :=
  s.items.countP fun item => item.violation.rule == rule && decide (s.Leaves item)

theorem leaves_iff (hitem : item ∈ s.items) :
    s.Leaves item ↔ item.priority ≠ .critical ∧ item.effort ≠ .quick := by
  simp [Leaves, critical, quickWins, hitem]

theorem leaves_all_iff :
    (∀ item ∈ s.items, s.Leaves item) ↔ s.critical = [] ∧ s.quickWins = [] := by
  constructor
  · intro hall
    constructor
    · rw [List.eq_nil_iff_forall_not_mem]
      intro item hitem
      exact (hall item (List.mem_filter.1 hitem).1).1 hitem
    · rw [List.eq_nil_iff_forall_not_mem]
      intro item hitem
      exact (hall item (List.mem_filter.1 hitem).1).2 hitem
  · intro hnone item _
    simp [Leaves, hnone.1, hnone.2]

/-- All violations of a rule are left if none of them is critical or a quick win. -/
theorem leftOf_eq_iff : s.items.countP (·.violation.rule == rule) = s.leftOf rule ↔
    ∀ item ∈ s.critical ++ s.quickWins, item.violation.rule ≠ rule := by
  have hsplit : s.leftOf rule =
      (s.items.filter (·.violation.rule == rule)).countP (fun item => decide (s.Leaves item)) := by
    rw [List.countP_filter, leftOf]
    simp only [Bool.and_comm]
  rw [hsplit, List.countP_eq_length_filter, eq_comm, List.countP_eq_length]
  constructor
  · intro hall item hitem hrule
    have hmem : item ∈ s.items := by
      rcases List.mem_append.1 hitem with hitem | hitem
      · exact (List.mem_filter.1 hitem).1
      · exact (List.mem_filter.1 hitem).1
    have hleft := of_decide_eq_true (hall item (List.mem_filter.2 ⟨hmem, by simp [hrule]⟩))
    rcases List.mem_append.1 hitem with hitem | hitem
    · exact hleft.1 hitem
    · exact hleft.2 hitem
  · intro hnone item hitem
    have hrule : item.violation.rule = rule := by simpa using (List.mem_filter.1 hitem).2
    apply decide_eq_true
    constructor
    · intro hcritical
      exact hnone item (List.mem_append_left _ hcritical) hrule
    · intro hquick
      exact hnone item (List.mem_append_right _ hquick) hrule

end TriageSummary

namespace Report

variable {s : TriageSummary}

/-- The target of the last phase counts the violations that are left. -/
theorem remaining_eq (s : TriageSummary) :
    remaining s = s.items.countP fun item => decide (s.Leaves item) := by
  apply List.countP_congr
  intro item hitem
  rw [decide_eq_true_iff, TriageSummary.leaves_iff hitem]
  simp

theorem remaining_eq_total_iff : remaining s = s.total ↔ s.critical = [] ∧ s.quickWins = [] := by
  rw [remaining_eq, TriageSummary.total, List.countP_eq_length, ← TriageSummary.leaves_all_iff]
  simp only [decide_eq_true_iff]

/-- What the plan says of its last phase. -/
structure LastPhase (s : TriageSummary) (generated : String) (rows : List (String × ℕ)) :
    Prop where
  /-- The plan ends with its target and the rows. -/
  lines : ["## Phase 3: Systematic Improvements", "",
      s!"**Target**: {remaining s} remaining violations", ""] ++
    (rows.map fun row => s!"- {cell row.1}: {row.2}") ++ [""] <:+
      Report.lines s generated .actionPlan
  /-- The target is the number of violations that are left. -/
  target : remaining s = s.items.countP fun item => decide (s.Leaves item)
  /-- No rule has two rows. -/
  rules : (rows.map Prod.fst).Nodup
  /-- A row counts the violations of its rule, whatever they are. -/
  row : ∀ row, row ∈ rows ↔ 0 < row.2 ∧ row.2 = s.items.countP (·.violation.rule == row.1)
  /-- So the rows add up to all violations. -/
  sum : (rows.map Prod.snd).sum = s.total
  /-- They add up to the target if nothing is critical or a quick win, and not otherwise. -/
  sum_iff : (rows.map Prod.snd).sum = remaining s ↔ s.critical = [] ∧ s.quickWins = []
  /-- A row counts what is left of its rule if nothing of that rule is critical or a quick win, and
  not otherwise. -/
  row_iff : ∀ row ∈ rows, row.2 = s.leftOf row.1 ↔
    ∀ item ∈ s.critical ++ s.quickWins, item.violation.rule ≠ row.1

/-- The plan lists all violations by rule where it promises those that are left. -/
theorem last_phase (s : TriageSummary) (generated : String) :
    ∃ rows, LastPhase s generated rows := by
  have hsum := TriageSummary.sum_rankedRules (s := s)
  refine ⟨s.rankedRules, ?_, remaining_eq s, TriageSummary.nodup_rankedRules,
    fun _ => TriageSummary.mem_rankedRules, hsum, ?_, ?_⟩
  · rw [Report.lines, actionPlanLines, TriageSummary.topRules_length]
    apply List.suffix_append_self_iff.2
    apply List.suffix_append_self_iff.2
    apply List.IsSuffix.trans _ (List.suffix_append _ _)
    exact List.suffix_iff_eq_drop.2 rfl
  · rw [hsum, eq_comm]
    exact remaining_eq_total_iff
  · intro row hrow
    rw [(TriageSummary.mem_rankedRules.1 hrow).2]
    exact TriageSummary.leftOf_eq_iff

/-- Two violations of one rule, of which the first is a quick win. -/
def mixedSummary : TriageSummary := .ofViolations [] [
  { rule := "Stay Updated", file := "a.ts", message := "Deprecated pattern 'require(' found" },
  { rule := "Stay Updated", file := "a.ts", message := "Deprecated pattern 'url.parse(' found" }]

/-- One violation is left, and the plan lists two below that number. -/
theorem lists_done_violation :
    mixedSummary.leftOf "Stay Updated" = 1 ∧ remaining mixedSummary = 1 ∧
      (mixedSummary.topRules mixedSummary.byRule.length).map Prod.snd = [2] ∧
      "**Target**: 1 remaining violations" ∈ Report.lines mixedSummary "now" .actionPlan ∧
      "- Stay Updated: 2" ∈ Report.lines mixedSummary "now" .actionPlan ∧
      "- Stay Updated: 1" ∉ Report.lines mixedSummary "now" .actionPlan := by
  decide +kernel

end Report

end LineLint
