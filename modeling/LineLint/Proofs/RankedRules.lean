import LineLint.Proofs.Tallies
import LineLint.Text.Codes
import LineLint.Triage
import Mathlib.Data.Finset.Card
import Mathlib.Data.String.Basic

/-!
# The most frequent rules

Rules are listed by their counts and, where these are equal, by their names. No two rules share a
name, so the order leaves no choice, and a limit cuts one and the same list. Main statement:
`TriageSummary.topRules_ranked`.
-/

namespace LineLint

/-! ## The order of names -/

theorem codes_lt_iff {a b : String} : Text.codes a.toList < Text.codes b.toList ↔ a < b := by
  have hcodes : ∀ {a b : String}, a < b → Text.codes a.toList < Text.codes b.toList := by
    intro a b hlt
    refine List.map_lt (fun c d hcd => ?_) (String.lt_iff_toList_lt.1 hlt)
    exact UInt32.lt_iff_toNat_lt.1 hcd
  constructor
  · intro hlt
    rcases lt_trichotomy a b with hab | rfl | hba
    · exact hab
    · exact absurd hlt (List.lt_irrefl _)
    · exact absurd (hcodes hba) (List.lt_asymm hlt)
  · exact hcodes

namespace TriageSummary

variable {s : TriageSummary} {a b : String × ℕ}

/-- More violations come first, and of equal counts the lesser name. Names compare by the codes of
their characters. -/
def Precedes (a b : String × ℕ) : Prop :=
  b.2 < a.2 ∨ a.2 = b.2 ∧ Text.codes a.1.toList < Text.codes b.1.toList

theorem rankLe_iff : rankLe a b = true ↔ b.2 < a.2 ∨ a.2 = b.2 ∧ a.1 ≤ b.1 := by
  simp [rankLe]

theorem rankLe_trans (a b c : String × ℕ) (hab : rankLe a b = true) (hbc : rankLe b c = true) :
    rankLe a c = true := by
  rw [rankLe_iff] at hab hbc ⊢
  rcases hab with hab | ⟨hab, hnames⟩
  · left
    omega
  · rcases hbc with hbc | ⟨hbc, hnames'⟩
    · left
      omega
    · exact .inr ⟨hab.trans hbc, hnames.trans hnames'⟩

theorem rankLe_total (a b : String × ℕ) : (rankLe a b || rankLe b a) = true := by
  rw [Bool.or_eq_true, rankLe_iff, rankLe_iff]
  rcases lt_trichotomy a.2 b.2 with hlt | heq | hgt
  · exact .inr (.inl hlt)
  · rcases le_total a.1 b.1 with hle | hle
    · exact .inl (.inr ⟨heq, hle⟩)
    · exact .inr (.inr ⟨heq.symm, hle⟩)
  · exact .inl (.inl hgt)

theorem eq_of_rankLe (hab : rankLe a b = true) (hba : rankLe b a = true) : a = b := by
  rw [rankLe_iff] at hab hba
  have hcount : a.2 = b.2 := by omega
  have hname : a.1 = b.1 := by
    rcases hab with hab | ⟨-, hab⟩
    · omega
    · rcases hba with hba | ⟨-, hba⟩
      · omega
      · exact le_antisymm hab hba
  exact Prod.ext hname hcount

theorem precedes_of_rankLe (hle : rankLe a b = true) (hne : a ≠ b) : Precedes a b := by
  rcases rankLe_iff.1 hle with hlt | ⟨hcount, hname⟩
  · exact .inl hlt
  · refine .inr ⟨hcount, codes_lt_iff.2 (lt_of_le_of_ne hname fun heq => hne ?_)⟩
    exact Prod.ext heq hcount

/-! ## All rules -/

theorem rankedRules_perm : s.rankedRules.Perm s.byRule := List.mergeSort_perm _ _

/-- The number of violations of a rule stands beside it. -/
theorem mem_rankedRules {row : String × ℕ} : row ∈ s.rankedRules ↔
    0 < row.2 ∧ row.2 = s.items.countP (·.violation.rule == row.1) := by
  rw [rankedRules_perm.mem_iff]
  exact mem_tally

theorem nodup_rankedRules : (s.rankedRules.map Prod.fst).Nodup := by
  rw [(rankedRules_perm.map Prod.fst).nodup_iff]
  exact nodup_keys_tally _ _

theorem sum_rankedRules : (s.rankedRules.map Prod.snd).sum = s.total := by
  rw [(rankedRules_perm.map Prod.snd).sum_nat]
  exact sum_tally _ _

theorem pairwise_rankLe : s.rankedRules.Pairwise fun a b => rankLe a b = true :=
  List.pairwise_mergeSort rankLe_trans rankLe_total _

/-- The order is strict, as no rule has two rows. -/
theorem pairwise_precedes : s.rankedRules.Pairwise Precedes := by
  have hrows : s.rankedRules.Nodup := List.Nodup.of_map Prod.fst nodup_rankedRules
  exact (pairwise_rankLe.and hrows).imp fun h => precedes_of_rankLe h.1 h.2

/-- A list of as many rules as there are is the list of all of them. -/
theorem topRules_length : s.topRules s.byRule.length = s.rankedRules := by
  have hlength : s.rankedRules.length = s.byRule.length := List.length_mergeSort _
  rw [topRules, cutAt, if_neg (by omega), Int.toNat_natCast, ← hlength]
  exact List.take_length

/-! ## Some rules -/

theorem topRules_natCast (n : ℕ) : s.topRules n = s.rankedRules.take n := by
  rw [topRules, cutAt, if_neg (by omega), Int.toNat_natCast]

theorem topRules_of_neg {n : ℤ} (hn : n < 0) :
    s.topRules n = s.rankedRules.take (s.rankedRules.length - n.natAbs) := by
  rw [topRules, cutAt, if_pos hn]

/-- How many different rules there are. -/
def ruleCount (rules : List String) : ℕ := rules.toFinset.card

/-- What the list of the most frequent rules holds at each limit, if `rules` are the rules of the
violations. -/
structure Ranks (rules : List String) (top : ℤ → List (String × ℕ)) : Prop where
  /-- The list of all rules has a row for each rule, with the number of its violations. -/
  row : ∀ row, row ∈ top (ruleCount rules) ↔ row.1 ∈ rules ∧ row.2 = rules.count row.1
  /-- No rule has two rows. -/
  nodup : ((top (ruleCount rules)).map Prod.fst).Nodup
  length : (top (ruleCount rules)).length = ruleCount rules
  order : (top (ruleCount rules)).Pairwise Precedes
  /-- A limit keeps the first rows. -/
  first : ∀ n : ℕ, top n = (top (ruleCount rules)).take (min n (ruleCount rules))
  /-- What is left out comes after what is listed. -/
  leftOut : ∀ n : ℕ, ∀ listed ∈ top n, ∀ row ∈ top (ruleCount rules), row ∉ top n →
    Precedes listed row
  /-- A negative limit leaves the last rows out. -/
  last : ∀ n : ℤ, n < 0 → ∃ rest, top (ruleCount rules) = top n ++ rest ∧
    rest.length = min n.natAbs (ruleCount rules)
  /-- A list with a lesser limit is the start of one with a greater limit. -/
  start : ∀ m n : ℕ, m ≤ n → top m <+: top n

/-- Each rule that occurs has a row, which counts its violations. -/
theorem mem_rankedRules_iff {row : String × ℕ} : row ∈ s.rankedRules ↔
    row.1 ∈ s.items.map (·.violation.rule) ∧
      row.2 = (s.items.map (·.violation.rule)).count row.1 := by
  rw [mem_rankedRules, ← count_map_key, ← List.count_pos_iff]
  constructor
  · intro hrow
    exact ⟨hrow.2 ▸ hrow.1, hrow.2⟩
  · intro hrow
    exact ⟨hrow.2 ▸ hrow.1, hrow.2⟩

theorem length_rankedRules (s : TriageSummary) :
    s.rankedRules.length = ruleCount (s.items.map (·.violation.rule)) := by
  rw [ruleCount, ← List.length_map Prod.fst, ← List.toFinset_card_of_nodup nodup_rankedRules]
  congr 1
  ext rule
  rw [List.mem_toFinset, List.mem_toFinset, List.mem_map]
  constructor
  · intro hrow
    obtain ⟨row, hrow, rfl⟩ := hrow
    exact (mem_rankedRules_iff.1 hrow).1
  · intro hrule
    let count := (s.items.map (·.violation.rule)).count rule
    have hrow : (rule, count) ∈ s.rankedRules := mem_rankedRules_iff.2 ⟨hrule, rfl⟩
    exact ⟨(rule, count), hrow, rfl⟩

theorem length_topRules (s : TriageSummary) (n : ℕ) :
    (s.topRules n).length = min n (ruleCount (s.items.map (·.violation.rule))) := by
  rw [topRules_natCast, List.length_take, length_rankedRules]

theorem rules_ofViolations (overrides : List (String × Category)) (vs : List Violation) :
    (ofViolations overrides vs).items.map (·.violation.rule) = vs.map (·.rule) := by
  rw [ofViolations, List.map_map]
  rfl

/-- The most frequent rules are the start of one list, in which all rules are in their order. -/
theorem topRules_ranked (overrides : List (String × Category)) (vs : List Violation) :
    Ranks (vs.map (·.rule)) (ofViolations overrides vs).topRules := by
  rw [← rules_ofViolations overrides vs]
  generalize ofViolations overrides vs = s
  have hlength := length_rankedRules s
  have hall : s.topRules (ruleCount (s.items.map (·.violation.rule))) = s.rankedRules := by
    rw [topRules_natCast, ← hlength, List.take_length]
  constructor
  case row =>
    intro row
    rw [hall]
    exact mem_rankedRules_iff
  case nodup =>
    rw [hall]
    exact nodup_rankedRules
  case length =>
    rw [hall, hlength]
  case order =>
    rw [hall]
    exact pairwise_precedes
  case first =>
    intro n
    rw [hall, topRules_natCast, ← hlength, ← List.take_eq_take_min]
  case leftOut =>
    intro n listed hlisted row hrow hout
    rw [topRules_natCast] at hlisted hout
    rw [hall, ← List.take_append_drop n s.rankedRules, List.mem_append] at hrow
    have horder := pairwise_precedes (s := s)
    rw [← List.take_append_drop n s.rankedRules, List.pairwise_append] at horder
    exact horder.2.2 listed hlisted row (hrow.resolve_left hout)
  case last =>
    intro n hn
    rw [hall, topRules_of_neg hn, ← hlength]
    refine ⟨_, (List.take_append_drop _ _).symm, ?_⟩
    rw [List.length_drop]
    omega
  case start =>
    intro m n hmn
    rw [topRules_natCast, topRules_natCast]
    exact List.take_prefix_take_left hmn

end TriageSummary

end LineLint
