import LineLint.Proofs.RankedRules
import LineLint.Report.Basic

/-!
# Violations in another order

The executive summary counts violations, and what it lists it sorts. So it says the same of the
violations in any order, although their counts come in the order in which keys are first seen. Main
statement: `TriageSummary.summary_of_perm`.
-/

namespace LineLint.TriageSummary

variable {s t : TriageSummary} {vs ws : List Violation}

theorem items_perm (h : vs.Perm ws) (overrides : List (String × Category)) :
    (ofViolations overrides vs).items.Perm (ofViolations overrides ws).items :=
  h.map _

/-! ## Tables -/

/-- Two orders of the same rows are one if the rows are sorted in a way that leaves no choice. -/
theorem rankedRules_congr (h : s.items.Perm t.items) : s.rankedRules = t.rankedRules := by
  have hrows : s.rankedRules.Perm t.rankedRules :=
    rankedRules_perm.trans ((tally_perm h).trans rankedRules_perm.symm)
  refine hrows.eq_of_pairwise (fun a b _ _ hab hba => ?_) pairwise_rankLe pairwise_rankLe
  exact eq_of_rankLe hab hba

theorem topRules_congr (h : s.items.Perm t.items) (limit : ℤ) :
    s.topRules limit = t.topRules limit := by
  rw [topRules, topRules, rankedRules_congr h]

theorem sortedCategories_perm : s.sortedCategories.Perm s.byCategory := List.mergeSort_perm _ _

theorem nodup_sortedCategories : (s.sortedCategories.map Prod.fst).Nodup := by
  rw [(sortedCategories_perm.map Prod.fst).nodup_iff]
  exact nodup_keys_tally _ _

theorem pairwise_sortedCategories : s.sortedCategories.Pairwise fun a b => a.1 ≤ b.1 := by
  have hsorted : s.sortedCategories.Pairwise fun a b => decide (a.1 ≤ b.1) = true := by
    apply List.pairwise_mergeSort
    · intro a b c hab hbc
      rw [decide_eq_true_iff] at hab hbc ⊢
      exact hab.trans hbc
    · intro a b
      rw [Bool.or_eq_true, decide_eq_true_iff, decide_eq_true_iff]
      exact le_total a.1 b.1
  exact hsorted.imp of_decide_eq_true

/-- The number of violations of a category stands beside it. -/
theorem mem_sortedCategories {row : String × ℕ} :
    row ∈ s.sortedCategories ↔
      0 < row.2 ∧ row.2 = s.items.countP (·.category.name == row.1) := by
  rw [sortedCategories_perm.mem_iff]
  exact mem_tally

/-- Names ascend, and none comes twice. -/
theorem pairwise_names_sortedCategories (s : TriageSummary) :
    (s.sortedCategories.map Prod.fst).Pairwise fun a b =>
      Text.codes a.toList < Text.codes b.toList := by
  have hle : (s.sortedCategories.map Prod.fst).Pairwise fun a b => a ≤ b :=
    List.pairwise_map.2 pairwise_sortedCategories
  exact (hle.and nodup_sortedCategories).imp fun h => codes_lt_iff.2 (lt_of_le_of_ne h.1 h.2)

/-- The order looks at names alone, which is enough as no category has two rows. -/
theorem sortedCategories_congr (h : s.items.Perm t.items) :
    s.sortedCategories = t.sortedCategories := by
  have hrows : s.sortedCategories.Perm t.sortedCategories :=
    sortedCategories_perm.trans ((tally_perm h).trans sortedCategories_perm.symm)
  refine hrows.eq_of_pairwise ?_ pairwise_sortedCategories pairwise_sortedCategories
  intro a b ha hb hab hba
  exact List.inj_on_of_nodup_map nodup_sortedCategories ha (hrows.mem_iff.2 hb)
    (le_antisymm hab hba)

/-! ## Counts -/

theorem total_congr (h : s.items.Perm t.items) : s.total = t.total := h.length_eq

theorem ofSeverity_congr (h : s.items.Perm t.items) (severity : Severity) :
    s.ofSeverity severity = t.ofSeverity severity :=
  h.countP_eq _

theorem length_critical_congr (h : s.items.Perm t.items) :
    s.critical.length = t.critical.length :=
  (h.filter _).length_eq

theorem length_quickWins_congr (h : s.items.Perm t.items) :
    s.quickWins.length = t.quickWins.length :=
  (h.filter _).length_eq

theorem assess_congr (h : s.items.Perm t.items) : Report.assess s = Report.assess t := by
  rw [Report.assess, Report.assess, length_critical_congr h]

/-- The executive summary reads nothing but counts and sorted tables. -/
theorem summaryLines_congr (h : s.items.Perm t.items) (generated : String) :
    Report.summaryLines s generated = Report.summaryLines t generated := by
  rw [Report.summaryLines, Report.summaryLines, total_congr h, length_critical_congr h,
    length_quickWins_congr h, ofSeverity_congr h, ofSeverity_congr h, topRules_congr h,
    sortedCategories_congr h, assess_congr h]

/-- What is said of violations in the executive summary, the list of the most frequent rules and
the assessment does not depend on their order. -/
theorem summary_of_perm (h : vs.Perm ws) (overrides : List (String × Category)) :
    (∀ generated, Report.render (ofViolations overrides vs) generated .summary =
      Report.render (ofViolations overrides ws) generated .summary) ∧
    (∀ limit, (ofViolations overrides vs).topRules limit =
      (ofViolations overrides ws).topRules limit) ∧
    Report.assess (ofViolations overrides vs) = Report.assess (ofViolations overrides ws) := by
  have hitems := items_perm h overrides
  refine ⟨fun generated => ?_, topRules_congr hitems, assess_congr hitems⟩
  exact congrArg Report.text (summaryLines_congr hitems generated)

/-- Two rules with one violation each and one with two, of three categories. -/
def mixedViolations : List Violation := [
  { rule := "Stay Updated", file := "b.ts", message := "m" },
  { rule := "Bun Optimizations", file := "a.ts", message := "m" },
  { rule := "Local|Rule", file := "a.ts", message := "require(" },
  { rule := "Local|Rule", file := "c.ts", message := "m", severity := .error }]

/-- Backwards the tallies differ, and the summary does not. -/
theorem summary_backwards :
    mixedViolations.Perm mixedViolations.reverse ∧
    (ofViolations [] mixedViolations).byRule ≠ (ofViolations [] mixedViolations.reverse).byRule ∧
    Report.render (ofViolations [] mixedViolations) "now" .summary =
      Report.render (ofViolations [] mixedViolations.reverse) "now" .summary := by
  have hperm : mixedViolations.Perm mixedViolations.reverse := (List.reverse_perm _).symm
  exact ⟨hperm, by decide, (summary_of_perm hperm []).1 "now"⟩

end LineLint.TriageSummary
