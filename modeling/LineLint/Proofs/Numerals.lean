import Mathlib.Data.Int.Notation
import Mathlib.Data.Nat.Notation

/-!
# Numerals

A number as it stands in a text consists of digits, perhaps with a minus sign before them.
-/

namespace LineLint

variable {c : Char}

theorem numeral_nat (n : ℕ) : ∀ c ∈ (toString n).toList, c.isDigit = true := by
  intro c hc
  have hdigits : c ∈ Nat.toDigits 10 n := by
    rw [← Nat.toList_repr]
    exact hc
  exact Nat.isDigit_of_mem_toDigits (by omega) (by omega) hdigits

theorem not_mem_numeral_nat (n : ℕ) (hdigit : c.isDigit = false) : c ∉ (toString n).toList := by
  intro hmem
  simp [numeral_nat n c hmem] at hdigit

theorem not_mem_toDigits (n : ℕ) (hdigit : c.isDigit = false) : c ∉ Nat.toDigits 10 n := by
  rw [← Nat.toList_repr]
  exact not_mem_numeral_nat n hdigit

/-- A numeral begins with a digit. -/
theorem toDigits_cons (n : ℕ) :
    ∃ digit rest, Nat.toDigits 10 n = digit :: rest ∧ digit.isDigit = true := by
  cases htext : Nat.toDigits 10 n with
  | nil => exact absurd htext Nat.toDigits_ne_nil
  | cons digit rest =>
    have hmem : digit ∈ Nat.toDigits 10 n := htext ▸ List.mem_cons_self
    exact ⟨digit, rest, rfl, Nat.isDigit_of_mem_toDigits (by omega) (by omega) hmem⟩

theorem toDigits_inj {m n : ℕ} (h : Nat.toDigits 10 m = Nat.toDigits 10 n) : m = n := by
  rw [← Nat.ofDigitChars_ten_toDigits (n := m), h, Nat.ofDigitChars_ten_toDigits]

theorem numeral_int (n : ℤ) : ∀ c ∈ (toString n).toList, c = '-' ∨ c.isDigit = true := by
  intro c hc
  cases n with
  | ofNat n => exact .inr (numeral_nat n c hc)
  | negSucc n =>
    have hsigned : c ∈ ("-" ++ toString (n + 1)).toList := hc
    rw [String.toList_append, List.mem_append] at hsigned
    rcases hsigned with hsign | hdigits
    · exact .inl (by simpa using hsign)
    · exact .inr (numeral_nat (n + 1) c hdigits)

theorem not_mem_numeral_int (n : ℤ) (hdigit : c.isDigit = false) (hdash : c ≠ '-') :
    c ∉ (toString n).toList := by
  intro hmem
  rcases numeral_int n c hmem with hsign | hnumeral
  · exact hdash hsign
  · simp [hnumeral] at hdigit

end LineLint
