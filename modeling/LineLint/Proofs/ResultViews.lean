import LineLint.Proofs.JsonReport
import LineLint.Proofs.Runs
import LineLint.Proofs.Tallies

/-!
# The views on a result

A result tells its violations by file, counts them by severity, and says whether they make the run
fail. Each of these looks at the violations on its own, and they agree. Main statement:
`LintResult.views_agree`.
-/

namespace LineLint.LintResult

variable {r : LintResult}

/-! ## Codes -/

/-- The same findings under another choice of what makes a run fail. -/
def failingOn (r : LintResult) (choice : FailOn) : LintResult := { r with failOn := choice }

/-- The result with more findings at its end. -/
def append (r : LintResult) (more : List Violation) : LintResult :=
  { r with violations := r.violations ++ more }

theorem exitCode_eq_ite (r : LintResult) :
    r.exitCode = if ∃ v ∈ r.violations, ∃ threshold ∈ r.failOn.threshold?,
      threshold ≤ v.severity.rank then 1 else 0 := by
  rw [exitCode]
  cases r.failOn.threshold? with
  | none => simp
  | some threshold => simp

/-- More findings make no run better. -/
theorem exitCode_append (r : LintResult) (more : List Violation) :
    r.exitCode ≤ (r.append more).exitCode := by
  rw [exitCode_eq_ite r]
  split
  next hreached =>
    obtain ⟨v, hv, hreaches⟩ := hreached
    have hfails : (r.append more).exitCode = 1 :=
      (Project.exitCode_eq_one_iff _).2 ⟨v, List.mem_append_left _ hv, hreaches⟩
    rw [hfails]
  next => exact Nat.zero_le _

/-! ## Counts -/

theorem count_pos_iff {severity : Severity} :
    0 < r.count severity ↔ ∃ v ∈ r.violations, v.severity = severity := by
  simp [count, List.countP_pos_iff]

theorem hasWarnings_iff : r.hasWarnings = true ↔ 0 < r.count .warning := by
  simp [count_pos_iff, hasWarnings]

theorem hasErrors_iff : r.hasErrors = true ↔ 0 < r.count .error := by
  simp [count_pos_iff, hasErrors]

/-- Every violation is as severe as a warning. -/
theorem exitCode_warning (r : LintResult) :
    (r.failingOn .warning).exitCode = if 0 < r.violations.length then 1 else 0 := by
  rw [exitCode_eq_ite]
  congr 1
  simp [failingOn, FailOn.threshold?, Severity.rank, List.length_pos_iff_exists_mem]

theorem exitCode_error (r : LintResult) :
    (r.failingOn .error).exitCode = if 0 < r.count .error then 1 else 0 := by
  have hrank : ∀ severity : Severity, Severity.error.rank ≤ severity.rank ↔ severity = .error := by
    intro severity
    cases severity <;> decide
  rw [exitCode_eq_ite]
  congr 1
  simp [failingOn, FailOn.threshold?, hrank, count_pos_iff]

/-! ## All views -/

/-- The views on a result fit together, and fit the numbers of its report. -/
structure ViewsAgree (r : LintResult) (report : LintReport) : Prop where
  byFile : GroupsBy (·.file) r.violations r.byFile
  total : report.total = r.violations.length
  /-- Every violation is a warning or an error. -/
  counts : report.total = report.warnings + report.errors
  hasWarnings : r.hasWarnings = true ↔ 0 < report.warnings
  hasErrors : r.hasErrors = true ↔ 0 < report.errors
  onWarning : (r.failingOn .warning).exitCode = if 0 < report.total then 1 else 0
  onError : (r.failingOn .error).exitCode = if 0 < report.errors then 1 else 0
  never : (r.failingOn .never).exitCode = 0
  /-- A stricter choice makes no run better. -/
  stricter : (r.failingOn .never).exitCode ≤ (r.failingOn .error).exitCode ∧
    (r.failingOn .error).exitCode ≤ (r.failingOn .warning).exitCode
  /-- Nor do more findings, whatever makes the run fail. -/
  append : ∀ more, r.exitCode ≤ (r.append more).exitCode

/-- The violations by file, the counts, and whether the run fails all say the same. -/
theorem views_agree (r : LintResult) :
    ∃ report, LintReport.ofJson? r.toJson = some report ∧ r.ViewsAgree report := by
  have htotal : r.violations.length = r.count .warning + r.count .error := by
    rw [count_eq, count_eq]
    exact length_violations
  have hnever : (r.failingOn .never).exitCode = 0 := rfl
  have hstricter : (r.failingOn .error).exitCode ≤ (r.failingOn .warning).exitCode := by
    rw [exitCode_error, exitCode_warning]
    split
    next herrors => rw [if_pos (by omega)]
    next => exact Nat.zero_le _
  refine ⟨_, ofJson?_toJson r, ?_⟩
  constructor
  case byFile => exact groupsBy_groupBy _ _
  case total => rfl
  case counts =>
    show (r.violations.length : ℤ) = r.count .warning + r.count .error
    exact_mod_cast htotal
  case hasWarnings => rw [hasWarnings_iff, Int.natCast_pos]
  case hasErrors => rw [hasErrors_iff, Int.natCast_pos]
  case onWarning => simp only [exitCode_warning, Int.natCast_pos]
  case onError => simp only [exitCode_error, Int.natCast_pos]
  case never => exact hnever
  case stricter => exact ⟨hnever ▸ Nat.zero_le _, hstricter⟩
  case append => exact exitCode_append r

end LineLint.LintResult
