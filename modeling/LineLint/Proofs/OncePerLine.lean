import LineLint.Proofs.Matchers

/-!
# One violation a line

Where the rows of a table exclude each other, the violations of a rule stand in lines of increasing
numbers. The two rows of the rule about configuration do: a read of the environment is found only
where the accessor stands, and the accessor excuses a line from the other row. Main statement:
`Configuration.once_per_line`.
-/

namespace LineLint

/-! ## Rows that exclude each other -/

namespace Rule

variable {r : Rule} {file content : String}

/-- All that a rule finds in a file are lines, and no line is found by two rows. -/
structure FindsOncePerLine (r : Rule) (file content : String) : Prop where
  line : ∀ f, r.Finds file content f → ∃ index, f.line = some index
  row : ∀ f g, r.Finds file content f → r.Finds file content g → f.line = g.line → f.row = g.row

theorem FindsOncePerLine.pairwise (h : r.FindsOncePerLine file content) :
    (r.findings file content).Pairwise fun f g => f.line.getD 0 < g.line.getD 0 := by
  refine findings_pairwise.imp_of_mem fun {f g} hf hg hlt => ?_
  have hf := (mem_findings.1 hf).2
  have hg := (mem_findings.1 hg).2
  obtain ⟨i, hi⟩ := h.line f hf
  obtain ⟨j, hj⟩ := h.line g hg
  simp only [Finding.key, hi, hj, Prod.Lex.toLex_lt_toLex] at hlt
  rw [hi, hj]
  obtain hlt | ⟨hline, hrow⟩ := hlt
  · exact WithTop.coe_lt_coe.1 hlt
  · -- In one line the second would have to come from a later row.
    have hsame : f.line = g.line := by rw [hi, hj, WithTop.coe_inj.1 hline]
    exact absurd (h.row f g hf hg hsame) hrow.ne

/-- The violations then have lines, and their numbers increase. -/
theorem FindsOncePerLine.numbers (h : r.FindsOncePerLine file content) :
    ∃ numbers : List ℤ, (r.validate file content).map (·.line) = numbers.map some ∧
      numbers.Pairwise (· < ·) := by
  refine ⟨(r.findings file content).map fun f => (f.line.getD 0 : ℤ) + 1, ?_, ?_⟩
  · rw [validate_eq_map_findings, List.map_map, List.map_map]
    refine List.map_congr_left fun f hf => ?_
    obtain ⟨index, hindex⟩ := h.line f (mem_findings.1 hf).2
    simp [tell, hindex]
  · rw [List.pairwise_map]
    refine h.pairwise.imp fun hlt => ?_
    omega

end Rule

/-- A line that holds an excuse is not reported. -/
theorem LineCheck.reports_of_excuse {c : LineCheck} {excuse : String} {line : List Char}
    (hexcuse : excuse ∈ c.excuses) (h : Text.contains excuse.toList line = true) :
    c.reports line = false := by
  have hany : Text.containsAny c.excuses line = true := List.any_eq_true.2 ⟨excuse, hexcuse, h⟩
  rw [reports, hany, Bool.not_true, Bool.and_false]

/-! ## Configuration -/

namespace Rules.Configuration

variable {libraries : List String} {file content : String} {line : List Char} {f : Finding}

/-- The check for values written into a line. -/
def hardcodedCheck : LineCheck where
  test := .pattern hardcodedValue
  advice := hardcodedAdvice
  excuses := ["process.env", "Bun.env"]

/-- Where the environment is read, the accessor stands in the line. -/
theorem contains_of_environmentAccess (h : environmentAccess.search line = true) :
    Text.contains "process.env".toList line = true := by
  obtain ⟨before, after, c, rfl, -, -⟩ := search_environmentAccess.1 h
  exact Text.contains_iff.2 ⟨before, '.' :: c :: after, by simp⟩

/-- The rows exclude each other: what the second one finds excuses a line from the first. -/
theorem not_reports_both (hread : (environmentCheck libraries).reports line = true) :
    hardcodedCheck.reports line = false := by
  rw [LineCheck.reports, Bool.and_eq_true] at hread
  have haccessor := contains_of_environmentAccess hread.1
  have hexcuse : "process.env" ∈ hardcodedCheck.excuses := by decide
  exact LineCheck.reports_of_excuse hexcuse haccessor

/-- What the rule finds is a line of code that one of its two rows reports. -/
theorem line_of_finds (h : (configuration libraries).Finds file content f) :
    ∃ index line, f.line = some index ∧ (Text.splitLines content.toList)[index]? = some line ∧
      CommentStyle.strict.hides line = false ∧
      (f.row = 0 ∧ f.check = .line hardcodedCheck ∧ hardcodedCheck.reports line = true ∨
        f.row = 1 ∧ f.check = .line (environmentCheck libraries) ∧
          (environmentCheck libraries).reports line = true) := by
  cases h with
  | @line c row index line hrow hgate hline hcode hreports =>
    refine ⟨index, line, rfl, hline, hcode, ?_⟩
    rcases row with _ | _ | row
    · cases hrow
      exact .inl ⟨rfl, rfl, hreports⟩
    · cases hrow
      exact .inr ⟨rfl, rfl, hreports⟩
    · cases hrow
  | @file c row hrow =>
    rcases row with _ | _ | row
    · cases hrow
    · cases hrow
    · cases hrow

theorem findsOncePerLine : (configuration libraries).FindsOncePerLine file content := by
  constructor
  · intro f hf
    obtain ⟨index, -, hindex, -⟩ := line_of_finds hf
    exact ⟨index, hindex⟩
  · intro f g hf hg hsame
    obtain ⟨i, line, hi, hline, -, hf⟩ := line_of_finds hf
    obtain ⟨j, other, hj, hother, -, hg⟩ := line_of_finds hg
    obtain rfl : i = j := Option.some.inj (hi.symm.trans (hsame.trans hj))
    obtain rfl : line = other := Option.some.inj (hline.symm.trans hother)
    obtain ⟨hf, -, hvalue⟩ | ⟨hf, -, hread⟩ := hf <;>
      obtain ⟨hg, -, hvalue'⟩ | ⟨hg, -, hread'⟩ := hg
    · rw [hf, hg]
    · simp [not_reports_both hread'] at hvalue
    · simp [not_reports_both hread] at hvalue'
    · rw [hf, hg]

/-- A violation with this advice is reported for the line with this index. -/
def Said (libraries : List String) (file content : String) (advice : Advice) (index : ℕ) : Prop :=
  ∃ v ∈ (configuration libraries).validate file content,
    v.message = advice.message ∧ v.line = some (index + 1 : ℤ)

/-- Which of its two violations the rule cannot report for a line. -/
structure Spared (libraries : List String) (file content : String) (index : ℕ)
    (line : List Char) : Prop where
  /-- A line does not get both violations. -/
  both : ¬ (Said libraries file content hardcodedAdvice index ∧
    Said libraries file content environmentAdvice index)
  /-- A line with an accessor of the environment is not said to hold a value. -/
  accessor : "process.env".toList <:+: line ∨ "Bun.env".toList <:+: line →
    ¬ Said libraries file content hardcodedAdvice index
  /-- A line with optional chaining is not said to read the environment. -/
  chaining : "?.".toList <:+: line → ¬ Said libraries file content environmentAdvice index
  /-- Nothing is said of a comment or an import. -/
  comment : (∃ opening ∈ ["//", "/*", "*", "import "], opening.toList <+: Text.trim line) →
    ∀ v ∈ (configuration libraries).validate file content, v.line ≠ some (index + 1 : ℤ)

/-- What is reported for a line was found there. -/
theorem row_of_line {v : Violation} {index : ℕ}
    (hv : v ∈ (configuration libraries).validate file content)
    (hline : (Text.splitLines content.toList)[index]? = some line)
    (hnumber : v.line = some (index + 1 : ℤ)) :
    CommentStyle.strict.hides line = false ∧
      (v.message = hardcodedAdvice.message ∧ hardcodedCheck.reports line = true ∨
        v.message = environmentAdvice.message ∧
          (environmentCheck libraries).reports line = true) := by
  rw [Rule.validate_eq_map_findings] at hv
  obtain ⟨f, hf, rfl⟩ := List.mem_map.1 hv
  obtain ⟨found, other, hfound, hother, hcode, hrow⟩ := line_of_finds (Rule.mem_findings.1 hf).2
  obtain rfl : found = index := by
    have hsame : (found : ℤ) + 1 = index + 1 := by simpa [Rule.tell, hfound] using hnumber
    omega
  obtain rfl : line = other := Option.some.inj (hline.symm.trans hother)
  refine ⟨hcode, hrow.imp ?_ ?_⟩
  · rintro ⟨-, hcheck, hreports⟩
    exact ⟨by rw [Rule.tell, hcheck]; rfl, hreports⟩
  · rintro ⟨-, hcheck, hreports⟩
    exact ⟨by rw [Rule.tell, hcheck]; rfl, hreports⟩

theorem contains_of_stands {needle : List Char} (h : needle <:+: line) :
    Text.contains needle line = true := by
  obtain ⟨before, after, rfl⟩ := h
  exact Text.contains_iff.2 ⟨before, after, rfl⟩

/-- The rule says at most one thing of a line, and its lines come in order. -/
theorem once_per_line (libraries : List String) (file content : String) :
    (∃ numbers : List ℤ,
      ((configuration libraries).validate file content).map (·.line) = numbers.map some ∧
        numbers.Pairwise (· < ·)) ∧
    ∀ index line, (Text.splitLines content.toList)[index]? = some line →
      Spared libraries file content index line := by
  refine ⟨findsOncePerLine.numbers, fun index line hline => ?_⟩
  have hadvice : hardcodedAdvice.message ≠ environmentAdvice.message := by decide
  have hvalue (h : Said libraries file content hardcodedAdvice index) :
      hardcodedCheck.reports line = true := by
    obtain ⟨v, hv, hmessage, hnumber⟩ := h
    obtain ⟨-, ⟨-, hreports⟩ | ⟨hother, -⟩⟩ := row_of_line hv hline hnumber
    · exact hreports
    · exact absurd (hmessage.symm.trans hother) hadvice
  have hread (h : Said libraries file content environmentAdvice index) :
      (environmentCheck libraries).reports line = true := by
    obtain ⟨v, hv, hmessage, hnumber⟩ := h
    obtain ⟨-, ⟨hother, -⟩ | ⟨-, hreports⟩⟩ := row_of_line hv hline hnumber
    · exact absurd (hother.symm.trans hmessage) hadvice
    · exact hreports
  have haccessor : ∀ accessor ∈ ["process.env", "Bun.env"], accessor.toList <:+: line →
      ¬ Said libraries file content hardcodedAdvice index := by
    intro accessor hmem hstands hsaid
    have hexcuse : accessor ∈ hardcodedCheck.excuses := hmem
    have hexcused := LineCheck.reports_of_excuse hexcuse (contains_of_stands hstands)
    simp [hvalue hsaid] at hexcused
  refine ⟨?_, ?_, fun hstands hsaid => ?_, ?_⟩
  · rintro ⟨hfirst, hsecond⟩
    have hexcused := not_reports_both (hread hsecond)
    simp [hvalue hfirst] at hexcused
  · rintro (hstands | hstands)
    · exact haccessor _ (by decide) hstands
    · exact haccessor _ (by decide) hstands
  · have hexcuse : "?." ∈ (environmentCheck libraries).excuses := List.mem_singleton_self _
    have hexcused := LineCheck.reports_of_excuse hexcuse (contains_of_stands hstands)
    simp [hread hsaid] at hexcused
  · rintro ⟨opening, hopening, hprefix⟩ v hv hnumber
    have hcode := (row_of_line hv hline hnumber).1
    have hhides : CommentStyle.strict.hides line = true :=
      List.any_eq_true.2 ⟨opening, hopening, List.isPrefixOf_iff_prefix.2 hprefix⟩
    simp [hhides] at hcode

end Rules.Configuration

end LineLint
