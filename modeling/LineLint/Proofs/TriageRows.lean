import LineLint.Proofs.Reported
import LineLint.Report.Basic

/-!
# How violations of the rules are triaged

The messages of the rules and the patterns of the triage are written apart. Still each row of each
rule has its place in the triage, and none is critical: a project whose violations are those of the
rules is healthy, and its plan has nothing in its first phase. Main statement:
`TriageSummary.rows_and_runs`.
-/

namespace LineLint

namespace Triage

variable {s : Settings} {r : Rule} {c : Check} {v w : Violation}

/-! ## Rows -/

/-- The messages of the rules whose fix is quick. -/
def quickMessages : List String := [
  "Database client in server file without --sql-preconnect",
  "Bun script without --smol or --hot flag",
  "Deprecated pattern 'require(' found",
  "Deprecated pattern 'module.exports' found",
  "Deprecated pattern '__dirname' found"]

/-- The rules with the categories of their violations. -/
def ruleCategories : List (String × Category) := [
  ("Bun Optimizations", .performance),
  ("Configuration Management", .security),
  ("Stay Updated", .compatibility)]

/-- How the violations of the rules are triaged. -/
structure InRow (v : Violation) : Prop where
  severity : v.severity = .warning
  priority : priority v = if v.rule = "Bun Optimizations" then .medium else .low
  quick_iff : effort v = .quick ↔ v.message ∈ quickMessages
  complex_iff : effort v = .complex ↔ v.rule = "Configuration Management"
  category : (v.rule, category [] v) ∈ ruleCategories

instance (v : Violation) : Decidable (InRow v) :=
  decidable_of_iff (v.severity = .warning ∧ _ ∧ (_ ↔ _) ∧ (_ ↔ _) ∧ _)
    ⟨fun ⟨hseverity, hpriority, hquick, hcomplex, hcategory⟩ =>
      ⟨hseverity, hpriority, hquick, hcomplex, hcategory⟩,
    fun h => ⟨h.severity, h.priority, h.quick_iff, h.complex_iff, h.category⟩⟩

/-- The triage looks at the rule, the message and the severity of a violation alone. -/
theorem InRow.congr (h : InRow v) (hrule : w.rule = v.rule) (hmessage : w.message = v.message)
    (hseverity : w.severity = v.severity) : InRow w := by
  obtain ⟨rule, file, message, severity, line, suggestion⟩ := v
  obtain ⟨rule', file', message', severity', line', suggestion'⟩ := w
  cases hrule
  cases hmessage
  cases hseverity
  exact ⟨h.severity, h.priority, h.quick_iff, h.complex_iff, h.category⟩

/-- What a row of a rule says, wherever it says it. -/
def ofRow (r : Rule) (c : Check) : Violation where
  rule := r.name
  file := ""
  message := c.advice.message
  severity := r.severity

/-- The settings are in the gates of the rows alone, so the messages can be gone through. -/
theorem inRow_of_mem_map (hr : r ∈ s.allRules) : ∀ v ∈ r.checks.map (ofRow r), InRow v := by
  simp only [Settings.allRules, Settings.catalogue, List.map_cons, List.map_nil, List.mem_cons,
    List.not_mem_nil, or_false] at hr
  rcases hr with rfl | rfl | rfl
  · simp only [Rules.bunFlags, List.map_cons, List.map_nil, ofRow, Check.advice]
    decide +kernel
  · simp only [Rules.configuration, List.map_cons, List.map_nil, ofRow, Check.advice]
    decide +kernel
  · simp only [Rules.deprecation, Rules.Deprecation.replacements, List.map_cons, List.map_nil,
      List.cons_append, List.nil_append, ofRow, Check.advice]
    decide +kernel

theorem inRow_of_mem_lintText {file content : String} (hv : v ∈ s.lintText file content) :
    InRow v := by
  obtain ⟨r, hr, c, hc, htold⟩ := Settings.exists_row_of_mem_lintText hv
  have hrow := inRow_of_mem_map hr _ (List.mem_map_of_mem hc)
  have hrule : v.rule = r.name := congrArg Violation.rule htold
  have hmessage : v.message = c.advice.message := congrArg Violation.message htold
  have hseverity : v.severity = r.severity := congrArg Violation.severity htold
  exact hrow.congr hrule hmessage hseverity

end Triage

/-! ## Summaries -/

namespace TriageSummary

variable {s : TriageSummary}

/-- Nothing in a summary is critical, and its plan covers it in the two other phases. -/
structure IsHealthy (s : TriageSummary) : Prop where
  critical : s.critical = []
  errors : s.ofSeverity .error = 0
  verdict : (Report.assess s).verdict = "HEALTHY"
  phases : s.quickWins.length + Report.remaining s = s.total
  targets : ∀ generated,
    s!"**Target**: {s.quickWins.length} quick fixes" ∈ Report.lines s generated .actionPlan ∧
    s!"**Target**: {Report.remaining s} remaining violations" ∈
      Report.lines s generated .actionPlan

theorem isHealthy_of_not_critical (herrors : ∀ item ∈ s.items, item.violation.severity = .warning)
    (hpriority : ∀ item ∈ s.items, item.priority ≠ .critical) : s.IsHealthy := by
  have hcritical : s.critical = [] := by
    rw [critical, List.filter_eq_nil_iff]
    intro item hitem
    simpa using hpriority item hitem
  refine ⟨hcritical, ?_, ?_, ?_, ?_⟩
  · rw [ofSeverity, List.countP_eq_zero]
    intro item hitem
    rw [herrors item hitem]
    decide
  · rw [Report.assess, hcritical]
    rfl
  · have hrest : Report.remaining s = s.items.countP fun item => ¬(item.effort == .quick) := by
      apply List.countP_congr
      intro item hitem
      simp [hpriority item hitem]
    rw [hrest, quickWins, ← List.countP_eq_length_filter, total]
    exact (List.length_eq_countP_add_countP _).symm
  · intro generated
    constructor
    · simp [Report.lines, Report.actionPlanLines]
    · simp [Report.lines, Report.actionPlanLines]

theorem isHealthy_of_warnings {overrides : List (String × Category)} {vs : List Violation}
    (h : ∀ v ∈ vs, v.severity = .warning) : (ofViolations overrides vs).IsHealthy := by
  apply isHealthy_of_not_critical
  · exact List.forall_mem_map.2 h
  · rw [ofViolations, List.forall_mem_map]
    intro v hv
    show Triage.priority v ≠ .critical
    rw [Triage.priority, h v hv]
    dsimp only
    split <;> simp

/-- Whatever the rules find is triaged by its row, and the summary of a run is healthy. -/
theorem rows_and_runs :
    (∀ (s : Settings) (file content : String), ∀ v ∈ s.lintText file content, Triage.InRow v) ∧
    ∀ (p : Project) (t : FileTree) (paths : List Path) (r : LintResult) (warnings : List Warning),
      p.lint t paths = .ok (r, warnings) → (ofViolations [] r.violations).IsHealthy := by
  constructor
  · intro s file content v hv
    exact Triage.inRow_of_mem_lintText hv
  · intro p t paths r warnings hlint
    apply isHealthy_of_warnings
    intro v hv
    obtain ⟨_, _, _, _, -, -, -, -, hfound⟩ := Project.exists_of_mem_violations hlint hv
    exact (Triage.inRow_of_mem_lintText hfound).severity

theorem rows_and_runs_require :
    requireCall "a/x.ts" ∈ ({} : Settings).lintText "a/x.ts" "require('x')" ∧
    Triage.effort (requireCall "a/x.ts") = .quick ∧
    ∃ r warnings, sampleProject.lint Project.nestedTree [] = .ok (r, warnings) ∧
      requireCall "a/x.ts" ∈ r.violations ∧ (ofViolations [] r.violations).IsHealthy := by
  have hcall : requireCall "a/x.ts" ∈ ({} : Settings).lintText "a/x.ts" "require('x')" := by
    decide +kernel
  have hrow := rows_and_runs.1 {} "a/x.ts" "require('x')" _ hcall
  obtain ⟨r, warnings, hlint⟩ := Project.exists_lint (p := sampleProject) (t := Project.nestedTree)
    (by decide) (by decide)
  exact ⟨hcall, hrow.quick_iff.2 (by decide), r, warnings, hlint,
    Project.requireCall_mem_nestedTree hlint _ (by decide), rows_and_runs.2 _ _ _ _ _ hlint⟩

end TriageSummary

end LineLint
