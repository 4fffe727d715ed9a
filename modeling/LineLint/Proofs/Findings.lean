import LineLint.Rule
import Mathlib.Data.List.ProdSigma
import Mathlib.Data.Prod.Lex
import Mathlib.Order.WithBot

/-!
# What a rule finds

A finding is a row of a rule's table together with the line that the row reports, or without a
line if the row reports the file as a whole. `Rule.Finds` says which findings a file has, and
`Rule.findings` lists them in the order of `Finding.key`: line by line, on each line in the order
of the table, and last what is about the whole file.

Main statement: `Rule.validate_exact`. The evaluator, which splits the table by kind and tests
each gate once, tells of these findings and of nothing else.
-/

namespace LineLint

/-- What the row of a table says to the user. -/
def Check.advice : Check → Advice
  | .line c => c.advice
  | .file c => c.advice

/-- A row of a rule's table, its position, and the index of the line that it reports. -/
structure Finding where
  check : Check
  row : Nat
  line : Option Nat

/-- Findings are ordered by line and then by row; what has no line comes after every line. -/
def Finding.key (f : Finding) : WithTop ℕ ×ₗ ℕ :=
  toLex (match f.line with
    | some index => WithTop.some index
    | none => ⊤, f.row)

namespace Rule

variable {r : Rule} {file content : String}

/-! ## The findings of a file -/

/-- Which findings a rule makes in a file. -/
inductive Finds (r : Rule) (file content : String) : Finding → Prop
  | line {c : LineCheck} {row index : Nat} {line : List Char}
      (hrow : r.checks[row]? = some (.line c)) (hgate : c.gate file content = true)
      (hline : (Text.splitLines content.toList)[index]? = some line)
      (hcode : r.comments.hides line = false) (hreports : c.reports line = true) :
      Finds r file content ⟨.line c, row, some index⟩
  | file {c : FileCheck} {row : Nat}
      (hrow : r.checks[row]? = some (.file c)) (hgate : c.gate file content = true)
      (hunmet : c.requirement content = false) :
      Finds r file content ⟨.file c, row, none⟩

/-- The violation that tells of a finding. -/
def tell (r : Rule) (file : String) (f : Finding) : Violation where
  rule := r.name
  file := file
  message := f.check.advice.message
  severity := r.severity
  line := f.line.map fun index => (index : Int) + 1
  suggestion := some f.check.advice.suggestion

/-- Whether a row of the table reports a line of a file. -/
def reportsLine (r : Rule) (file content : String) (line : List Char) : Check → Bool
  | .line c => c.gate file content && !r.comments.hides line && c.reports line
  | .file _ => false

/-- Whether a row of a table reports a file as a whole. -/
def reportsFile (file content : String) : Check → Bool
  | .line _ => false
  | .file c => c.gate file content && !c.requirement content

/-- The rows of the table that hold, as findings about one line or about none. -/
def rowFindings (r : Rule) (line : Option Nat) (holds : Check → Bool) : List Finding :=
  (r.checks.zipIdx.filter fun row => holds row.1).map fun row => ⟨row.1, row.2, line⟩

/-- The findings of a rule in a file, in order. -/
def findings (r : Rule) (file content : String) : List Finding :=
  if content.isEmpty then []
  else
    ((Text.splitLines content.toList).zipIdx.flatMap fun line =>
      r.rowFindings (some line.2) (r.reportsLine file content line.1)) ++
      r.rowFindings none (reportsFile file content)

/-! ## They are the ones that hold -/

theorem mem_rowFindings {line : Option Nat} {holds : Check → Bool} {f : Finding} :
    f ∈ r.rowFindings line holds ↔
      r.checks[f.row]? = some f.check ∧ holds f.check = true ∧ f.line = line := by
  obtain ⟨check, row, place⟩ := f
  simp only [rowFindings, List.mem_map, List.mem_filter, Prod.exists, Finding.mk.injEq,
    List.mk_mem_zipIdx_iff_getElem?]
  constructor
  · rintro ⟨c, i, ⟨hrow, hholds⟩, rfl, rfl, rfl⟩
    exact ⟨hrow, hholds, rfl⟩
  · rintro ⟨hrow, hholds, rfl⟩
    exact ⟨check, row, ⟨hrow, hholds⟩, rfl, rfl, rfl⟩

theorem mem_findings {f : Finding} :
    f ∈ r.findings file content ↔ content ≠ "" ∧ r.Finds file content f := by
  by_cases hempty : content = ""
  · simp [findings, hempty]
  have hnot : content.isEmpty = false := by simpa [String.isEmpty_iff] using hempty
  simp only [findings, hnot, Bool.false_eq_true, if_false, List.mem_append, List.mem_flatMap,
    mem_rowFindings, Prod.exists, List.mk_mem_zipIdx_iff_getElem?, ne_eq, hempty,
    not_false_eq_true, true_and]
  constructor
  · rintro (⟨line, index, hline, hrow, hholds, hplace⟩ | ⟨hrow, hholds, hplace⟩)
    · obtain ⟨check | check, row, place⟩ := f
      · simp only [reportsLine, Bool.and_eq_true, Bool.not_eq_true'] at hholds
        obtain ⟨⟨hgate, hcode⟩, hreports⟩ := hholds
        cases hplace
        exact .line hrow hgate hline hcode hreports
      · simp [reportsLine] at hholds
    · obtain ⟨check | check, row, place⟩ := f
      · simp [reportsFile] at hholds
      · simp only [reportsFile, Bool.and_eq_true, Bool.not_eq_true'] at hholds
        cases hplace
        exact .file hrow hholds.1 hholds.2
  · intro h
    cases h with
    | line hrow hgate hline hcode hreports =>
      exact .inl ⟨_, _, hline, hrow, by simp [reportsLine, hgate, hcode, hreports], rfl⟩
    | file hrow hgate hunmet => exact .inr ⟨hrow, by simp [reportsFile, hgate, hunmet], rfl⟩

/-! ## They are in order -/

theorem zipIdx_pairwise {α : Type} (l : List α) : l.zipIdx.Pairwise fun a b => a.2 < b.2 := by
  have h := List.pairwise_lt_range' (s := 0) (n := l.length)
  rwa [← List.zipIdx_map_snd 0 l, List.pairwise_map] at h

theorem rowFindings_pairwise (line : Option Nat) (holds : Check → Bool) :
    (r.rowFindings line holds).Pairwise fun f g => f.key < g.key := by
  rw [rowFindings, List.pairwise_map]
  refine ((zipIdx_pairwise r.checks).filter _).imp fun hlt => ?_
  simp only [Finding.key, Prod.Lex.toLex_lt_toLex]
  exact .inr ⟨trivial, hlt⟩

theorem findings_pairwise :
    (r.findings file content).Pairwise fun f g => f.key < g.key := by
  rw [findings]
  split
  · exact .nil
  have hlines := zipIdx_pairwise (Text.splitLines content.toList)
  rw [List.pairwise_append, List.pairwise_flatMap]
  refine ⟨⟨fun _ _ => rowFindings_pairwise _ _, hlines.imp fun hlt f hf g hg => ?_⟩,
    rowFindings_pairwise _ _, fun f hf g hg => ?_⟩
  · have hf := (mem_rowFindings.1 hf).2.2
    have hg := (mem_rowFindings.1 hg).2.2
    simp only [Finding.key, hf, hg, Prod.Lex.toLex_lt_toLex]
    exact .inl (WithTop.coe_lt_coe.2 hlt)
  · obtain ⟨_, _, hf⟩ := List.mem_flatMap.1 hf
    have hf := (mem_rowFindings.1 hf).2.2
    have hg := (mem_rowFindings.1 hg).2.2
    simp only [Finding.key, hf, hg, Prod.Lex.toLex_lt_toLex]
    exact .inl (WithTop.coe_lt_top _)

/-! ## The evaluator tells of them -/

theorem map_tell_rowFindings (line : Option Nat) (holds : Check → Bool) :
    (r.rowFindings line holds).map (r.tell file) =
      (r.checks.filter holds).map fun c =>
        r.violation file c.advice (line.map fun index => (index : Int) + 1) := by
  have hrows : (r.checks.zipIdx.filter fun row => holds row.1).map Prod.fst =
      r.checks.filter holds := by
    rw [show (fun row : Check × ℕ => holds row.1) = holds ∘ Prod.fst from rfl,
      ← List.filter_map, List.zipIdx_map_fst]
  rw [← hrows, rowFindings, List.map_map, List.map_map]
  rfl

/-- Splitting the table by kind and then testing the gates keeps the rows that report a line. -/
theorem lineViolations_eq (line : List Char) (index : Nat) :
    r.lineViolations file (r.lineChecks file content) line index =
      (r.checks.filter (r.reportsLine file content line)).map fun c =>
        r.violation file c.advice (some (index + 1)) := by
  rw [lineViolations, lineChecks]
  cases hcode : r.comments.hides line with
  | true =>
    have hnone : ∀ c ∈ r.checks, ¬ r.reportsLine file content line c = true := by
      intro c _
      cases c <;> simp [reportsLine, hcode]
    simp [List.filter_eq_nil_iff.2 hnone]
  | false =>
    simp only [Bool.false_eq_true, if_false]
    -- the evaluator sorts the table once for all lines, so the two filters are compared row by row
    induction r.checks with
    | nil => rfl
    | cons c rest ih =>
      cases c with
      | line c =>
        cases hgate : c.gate file content <;> cases hreports : c.reports line <;>
          simpa [Check.line?, reportsLine, hcode, hgate, hreports, Check.advice] using ih
      | file c => simpa [Check.line?, reportsLine, List.filterMap_cons] using ih

theorem fileViolations_eq :
    ((r.fileChecks file content).filter (!·.requirement content)).map
        (fun c => r.violation file c.advice none) =
      (r.checks.filter (reportsFile file content)).map fun c =>
        r.violation file c.advice none := by
  rw [fileChecks]
  induction r.checks with
  | nil => rfl
  | cons c rest ih =>
    cases c with
    | line c => simpa [Check.file?, reportsFile, List.filterMap_cons] using ih
    | file c =>
      cases hgate : c.gate file content <;> cases hmet : c.requirement content <;>
        simpa [Check.file?, reportsFile, hgate, hmet, Check.advice] using ih

theorem validate_eq_map_findings :
    r.validate file content = (r.findings file content).map (r.tell file) := by
  rw [validate, findings]
  split
  · rfl
  · rw [List.map_append, List.map_flatMap, map_tell_rowFindings, fileViolations_eq]
    simp only [map_tell_rowFindings, lineViolations_eq]
    rfl

theorem length_validate (hcontent : content ≠ "") :
    (r.validate file content).length =
      ((Text.splitLines content.toList).product r.checks).countP
          (fun pair => r.reportsLine file content pair.1 pair.2) +
        r.checks.countP (reportsFile file content) := by
  have hnot : content.isEmpty = false := by simpa [String.isEmpty_iff] using hcontent
  have hlines : ∀ line index,
      (r.lineViolations file (r.lineChecks file content) line index).length =
        r.checks.countP (r.reportsLine file content line) := by
    intro line index
    rw [lineViolations_eq, List.length_map, List.countP_eq_length_filter]
  simp only [validate, hnot, Bool.false_eq_true, if_false, List.length_append, fileViolations_eq,
    List.length_map, ← List.countP_eq_length_filter, List.length_flatMap, hlines, List.product,
    List.countP_flatMap]
  congr 2
  -- the lines are counted by their texts, the evaluator also carries their numbers
  have hfst := List.zipIdx_map_fst 0 (Text.splitLines content.toList)
  conv_rhs => rw [← hfst, List.map_map]
  simp [Function.comp_def, List.countP_map]

/-- A rule reports each line and row of its table that belong together, each unmet requirement,
and nothing else, in the order of the lines, of the rows on each line, and of the requirements. -/
theorem validate_exact (r : Rule) (file content : String) :
    (content = "" → r.validate file content = []) ∧
    (∃ found : List Finding,
      r.validate file content = found.map (r.tell file) ∧
      (found.Pairwise fun f g => f.key < g.key) ∧
      ∀ f, f ∈ found ↔ content ≠ "" ∧ r.Finds file content f) ∧
    (content ≠ "" → (r.validate file content).length =
      ((Text.splitLines content.toList).product r.checks).countP
          (fun pair => r.reportsLine file content pair.1 pair.2) +
        r.checks.countP (reportsFile file content)) := by
  refine ⟨fun hempty => ?_, ⟨r.findings file content, validate_eq_map_findings,
    findings_pairwise, fun f => mem_findings⟩, length_validate⟩
  simp [validate, hempty]

end Rule

end LineLint
