import LineLint.Proofs.Patterns
import Mathlib.Data.List.DropRight

/-!
# What compound patterns describe

The parts of the matchers in terms of the text alone: a word in any case, a run of characters, a
number of digits. A word boundary before something that starts with a word character only asks that
no word character stands before it. Main statements: `Pattern.search_word_iff`, and
`Pattern.search_run_iff`, by which a boundary and a run of word characters ask for nothing at all.
-/

namespace LineLint

namespace Text

variable {before after : List Char} {c : Char}

/-- No word character stands directly before what follows this text. -/
def NoWordBefore (before : List Char) : Prop := ∀ c ∈ before.getLast?, isWord c = false

/-- This text does not start with a word character. -/
def NoWordAfter (after : List Char) : Prop := ∀ c ∈ after.head?, isWord c = false

theorem noWordBefore_iff : NoWordBefore before ↔ before.getLast?.any isWord = false := by
  rw [NoWordBefore]
  cases before.getLast? <;> simp

theorem noWordAfter_iff : NoWordAfter after ↔ after.head?.any isWord = false := by
  rw [NoWordAfter]
  cases after.head? <;> simp

/-- Every text ends in a run of word characters, which may be empty, with none before it. -/
theorem exists_run (before : List Char) :
    ∃ skipped run, before = skipped ++ run ∧ NoWordBefore skipped ∧
      ∀ c ∈ run, isWord c = true := by
  refine ⟨before.rdropWhile isWord, before.rtakeWhile isWord,
    (List.rdropWhile_append_rtakeWhile).symm, fun c hc => ?_, fun c hc => ?_⟩
  · obtain ⟨hne, rfl⟩ := List.mem_getLast?_eq_getLast hc
    simpa using List.rdropWhile_last_not isWord before hne
  · exact List.mem_rtakeWhile_imp hc

/-! ## Digits are word characters -/

/-- Whether the second range lies within the first one. -/
def covers (range part : ℕ × ℕ) : Bool := range.1 ≤ part.1 && part.2 ≤ range.2

theorem covers_iff {range part : ℕ × ℕ} :
    covers range part = true ↔ range.1 ≤ part.1 ∧ part.2 ≤ range.2 := by
  rw [covers, Bool.and_eq_true, decide_eq_true_eq, decide_eq_true_eq]

/-- What is left of some ranges after those in front that lie within this one. -/
def withoutCovered (parts : List (ℕ × ℕ)) (range : ℕ × ℕ) : List (ℕ × ℕ) :=
  parts.dropWhile (covers range)

/-- If nothing is left of some ranges, each of them lies within another one. -/
theorem covered_of_foldl {ranges parts : List (ℕ × ℕ)}
    (h : ranges.foldl withoutCovered parts = []) :
    ∀ part ∈ parts, ∃ range ∈ ranges, covers range part = true := by
  induction ranges generalizing parts with
  | nil =>
    intro part hpart
    rw [show parts = [] from h] at hpart
    cases hpart
  | cons range ranges ih =>
    intro part hpart
    rw [← List.takeWhile_append_dropWhile (p := covers range) (l := parts), List.mem_append]
      at hpart
    obtain hpart | hpart := hpart
    · exact ⟨range, List.mem_cons_self, List.mem_takeWhile_imp hpart⟩
    · obtain ⟨other, hother, hcovers⟩ := ih h part hpart
      exact ⟨other, List.mem_cons_of_mem range hother, hcovers⟩

/-- Digits beyond ASCII lie within the ranges of word characters. -/
theorem wordRanges_of_digitRanges {digits : ℕ × ℕ} (h : digits ∈ digitRanges) :
    digits.2 < 0x80 ∨ ∃ range ∈ wordRanges, range.1 ≤ digits.1 ∧ digits.2 ≤ range.2 := by
  -- Both tables are in order, so one pass over them is enough.
  have hnone : ((0, 0x7F) :: wordRanges.toList).foldl withoutCovered digitRanges.toList = [] := by
    decide +kernel
  obtain ⟨range, hrange, hcovers⟩ := covered_of_foldl hnone digits (Array.mem_toList_iff.2 h)
  obtain ⟨hfirst, hlast⟩ := covers_iff.1 hcovers
  obtain rfl | hrange := List.mem_cons.1 hrange
  · exact .inl (Nat.lt_succ_of_le hlast)
  · exact .inr ⟨range, Array.mem_toList_iff.1 hrange, hfirst, hlast⟩

theorem isWord_of_isDigit (h : isDigit c = true) : isWord c = true := by
  rw [isDigit, digitValue?] at h
  rw [isWord]
  by_cases hascii : c.toNat < 0x80
  · rw [if_pos hascii] at h ⊢
    have hdigit : c.isDigit = true := by
      by_contra hnot
      simp [hnot] at h
    simp [Char.isAlphanum, hdigit]
  · rw [if_neg hascii, Option.isSome_map, Array.find?_isSome] at h
    obtain ⟨digits, hdigits, hin⟩ := h
    simp only [Bool.and_eq_true, decide_eq_true_eq] at hin
    obtain hsmall | ⟨range, hrange, hfirst, hlast⟩ := wordRanges_of_digitRanges hdigits
    · omega
    rw [if_neg hascii, inRanges, Array.any_eq_true']
    refine ⟨range, hrange, ?_⟩
    simp only [Bool.and_eq_true, decide_eq_true_eq]
    omega

end Text

namespace Pattern

open Text (NoWordBefore NoWordAfter noWordBefore_iff noWordAfter_iff)

variable {p : Pattern} {ps : List Pattern} {accepts : Char → Bool} {before : Option Char}
  {taken after text : List Char} {c letter : Char} {word : String} {low high n : ℕ}

/-! ## Characters and runs of them -/

@[simp] theorem matches_char :
    (char accepts).Matches before taken after ↔ ∃ c, accepts c = true ∧ taken = [c] :=
  Iff.rfl

@[simp] theorem matches_boundary :
    boundary.Matches before taken after ↔ taken = [] ∧ atBoundary before after = true :=
  Iff.rfl

@[simp] theorem matches_many :
    (many accepts).Matches before taken after ↔ ∀ c ∈ taken, accepts c = true :=
  Iff.rfl

@[simp] theorem matches_optional :
    (optional p).Matches before taken after ↔ p.Matches before taken after ∨ taken = [] :=
  Iff.rfl

@[simp] theorem matches_oneOrMore :
    (oneOrMore accepts).Matches before taken after ↔
      taken ≠ [] ∧ ∀ c ∈ taken, accepts c = true := by
  constructor
  · rintro ⟨_, rest, rfl, ⟨c, hc, rfl⟩, hrest⟩
    exact ⟨by simp, List.forall_mem_cons.2 ⟨hc, hrest⟩⟩
  · rintro ⟨hne, hall⟩
    cases taken with
    | nil => exact absurd rfl hne
    | cons c rest =>
      obtain ⟨hc, hrest⟩ := List.forall_mem_cons.1 hall
      exact ⟨[c], rest, rfl, ⟨c, hc, rfl⟩, hrest⟩

theorem matches_times_char :
    (times n (char accepts)).Matches before taken after ↔
      taken.length = n ∧ ∀ c ∈ taken, accepts c = true := by
  induction n generalizing before taken with
  | zero =>
    rw [List.length_eq_zero_iff]
    exact ⟨fun h => ⟨h, by simp [show taken = [] from h]⟩, And.left⟩
  | succ n ih =>
    constructor
    · rintro ⟨_, rest, rfl, ⟨c, hc, rfl⟩, hrest⟩
      obtain ⟨hlength, hall⟩ := ih.1 hrest
      exact ⟨by simp [hlength], List.forall_mem_cons.2 ⟨hc, hall⟩⟩
    · rintro ⟨hlength, hall⟩
      obtain ⟨c, rest, rfl⟩ := List.exists_cons_of_length_eq_add_one hlength
      obtain ⟨hc, hrest⟩ := List.forall_mem_cons.1 hall
      exact ⟨[c], rest, rfl, ⟨c, hc, rfl⟩, ih.2 ⟨by simpa using hlength, hrest⟩⟩

theorem matches_atMost_char :
    (atMost n (char accepts)).Matches before taken after ↔
      taken.length ≤ n ∧ ∀ c ∈ taken, accepts c = true := by
  induction n generalizing before taken with
  | zero =>
    rw [Nat.le_zero, List.length_eq_zero_iff]
    exact ⟨fun h => ⟨h, by simp [show taken = [] from h]⟩, And.left⟩
  | succ n ih =>
    constructor
    · rintro (⟨_, rest, rfl, ⟨c, hc, rfl⟩, hrest⟩ | rfl)
      · obtain ⟨hlength, hall⟩ := ih.1 hrest
        exact ⟨by simpa using hlength, List.forall_mem_cons.2 ⟨hc, hall⟩⟩
      · exact ⟨Nat.zero_le _, by simp⟩
    · rintro ⟨hlength, hall⟩
      cases taken with
      | nil => exact .inr rfl
      | cons c rest =>
        obtain ⟨hc, hrest⟩ := List.forall_mem_cons.1 hall
        exact .inl ⟨[c], rest, rfl, ⟨c, hc, rfl⟩, ih.2 ⟨by simpa using hlength, hrest⟩⟩

/-- A run of characters whose number lies between two bounds. -/
theorem matches_between_char (hle : low ≤ high) :
    (between low high (char accepts)).Matches before taken after ↔
      low ≤ taken.length ∧ taken.length ≤ high ∧ ∀ c ∈ taken, accepts c = true := by
  constructor
  · rintro ⟨left, right, rfl, hleft, hright⟩
    obtain ⟨hlow, hallLeft⟩ := matches_times_char.1 hleft
    obtain ⟨hhigh, hallRight⟩ := matches_atMost_char.1 hright
    rw [List.length_append]
    exact ⟨by omega, by omega, List.forall_mem_append.2 ⟨hallLeft, hallRight⟩⟩
  · -- What there must be is taken first, what there may be after it.
    rintro ⟨hlow, hhigh, hall⟩
    refine ⟨taken.take low, taken.drop low, (List.take_append_drop low taken).symm,
      matches_times_char.2 ⟨?_, fun c hc => hall c (List.mem_of_mem_take hc)⟩,
      matches_atMost_char.2 ⟨?_, fun c hc => hall c (List.mem_of_mem_drop hc)⟩⟩
    · rw [List.length_take]
      omega
    · rw [List.length_drop]
      omega

/-! ## Words in any case -/

/-- The text is this word but for the case of its letters. -/
def Spells (word : String) (taken : List Char) : Prop :=
  List.Forall₂ (fun c letter => sameLetter letter c = true) taken word.toList

@[simp] theorem matches_textFolded :
    (textFolded word).Matches before taken after ↔ Spells word taken := by
  rw [textFolded, Spells]
  generalize word.toList = letters
  induction letters generalizing before taken with
  | nil => rw [List.map_nil, matches_sequence_nil, List.forall₂_nil_right_iff]
  | cons letter letters ih =>
    rw [List.map_cons, matches_sequence_cons, List.forall₂_cons_right_iff]
    constructor
    · rintro ⟨_, rest, rfl, ⟨c, hc, rfl⟩, hrest⟩
      exact ⟨c, rest, hc, ih.1 hrest, rfl⟩
    · rintro ⟨c, rest, hc, hrest, rfl⟩
      exact ⟨[c], rest, rfl, ⟨c, hc, rfl⟩, ih.2 hrest⟩

/-- A word of two parts is spelled one part after the other. -/
theorem spells_append {first second : String} :
    Spells (first ++ second) taken ↔
      ∃ left right, taken = left ++ right ∧ Spells first left ∧ Spells second right := by
  constructor
  · intro h
    rw [Spells, String.toList_append] at h
    exact ⟨_, _, (List.take_append_drop first.toList.length taken).symm,
      List.forall₂_take_append _ _ _ h, List.forall₂_drop_append _ _ _ h⟩
  · rintro ⟨left, right, rfl, hfirst, hsecond⟩
    rw [Spells, String.toList_append]
    exact List.rel_append hfirst hsecond

/-- A word with an ending that may be left out. -/
theorem matches_ending {first second : String} :
    (seq (textFolded first) (optional (textFolded second))).Matches before taken after ↔
      Spells first taken ∨ Spells (first ++ second) taken := by
  rw [spells_append]
  constructor
  · rintro ⟨left, right, rfl, hleft, hright | rfl⟩
    · exact .inr ⟨left, right, rfl, matches_textFolded.1 hleft, matches_textFolded.1 hright⟩
    · exact .inl (by simpa using matches_textFolded.1 hleft)
  · rintro (h | ⟨left, right, rfl, hleft, hright⟩)
    · exact ⟨taken, [], by simp, matches_textFolded.2 h, .inr rfl⟩
    · exact ⟨left, right, rfl, matches_textFolded.2 hleft, .inl (matches_textFolded.2 hright)⟩

theorem isWord_of_isAlpha (h : c.isAlpha = true) : Text.isWord c = true := by
  have hascii : c.toNat < 0x80 := by
    delta Char.isAlpha Char.isUpper Char.isLower at h
    simp only [Bool.or_eq_true, Bool.and_eq_true, decide_eq_true_eq, UInt32.le_iff_toNat_le,
      ge_iff_le] at h
    have hz : 'z'.val.toNat = 122 := rfl
    have hZ : 'Z'.val.toNat = 90 := rfl
    have hc : c.toNat = c.val.toNat := rfl
    omega
  rw [Text.isWord, if_pos hascii, Char.isAlphanum, h]
  rfl

/-- What counts as a letter in some case is a word character. -/
theorem isWord_of_sameLetter (hletter : letter.isLower = true) (h : sameLetter letter c = true) :
    Text.isWord c = true := by
  have hpast {n : ℕ} (hrange : ¬ n < 0x80 ∧
      (Text.wordRanges.toList.any fun range => range.1 ≤ n && n ≤ range.2) = true)
      (hc : c.toNat = n) : Text.isWord c = true := by
    rw [Text.isWord, hc, if_neg hrange.1, Text.inRanges, ← Array.any_toList, hrange.2]
  simp only [sameLetter, Bool.or_eq_true, Bool.and_eq_true, beq_iff_eq] at h
  -- Either the case of an ASCII letter differs, or the character is one of the four beyond ASCII.
  obtain ((hlower | ⟨-, hs⟩) | ⟨-, hk⟩) | ⟨-, hi | hi⟩ := h
  · by_cases hcapital : c.val ≥ 'A'.val ∧ c.val ≤ 'Z'.val
    · have hupper : c.isUpper = true := decide_eq_true hcapital
      exact isWord_of_isAlpha (Bool.or_eq_true_iff.2 (.inl hupper))
    · have hsame : c.toLower = c := dif_neg hcapital
      have hlow : c.isLower = true := by rw [← hsame, hlower, hletter]
      exact isWord_of_isAlpha (Bool.or_eq_true_iff.2 (.inr hlow))
  · exact hpast (by decide +kernel) hs
  · exact hpast (by decide +kernel) hk
  · exact hpast (by decide +kernel) hi
  · exact hpast (by decide +kernel) hi

/-- A character without case counts only as itself. -/
theorem sameLetter_iff_of_not_isAlpha (hletter : letter.isAlpha = false) :
    sameLetter letter c = true ↔ c = letter := by
  have hcase : letter.isUpper = false ∧ letter.isLower = false :=
    Bool.or_eq_false_iff.1 hletter
  have hne : ∀ special : Char, special.isLower = true → (letter == special) = false := by
    intro special hlower
    refine beq_eq_false_iff_ne.2 ?_
    rintro rfl
    simp [hcase.2] at hlower
  have hplain : sameLetter letter c = (c.toLower == letter) := by
    simp [sameLetter, hne 's' rfl, hne 'k' rfl, hne 'i' rfl]
  rw [hplain, beq_iff_eq]
  constructor
  · intro hlower
    by_cases hcapital : c.val ≥ 'A'.val ∧ c.val ≤ 'Z'.val
    · -- A capital would become a small letter, but there is none here.
      have hcode : letter.val = c.val + 0x20 := by
        rw [← hlower]
        delta Char.toLower
        rw [dif_pos hcapital]
        rfl
      have hisLower : letter.isLower = true := by
        simp only [UInt32.le_iff_toNat_le, ge_iff_le] at hcapital
        have hA : 'A'.val.toNat = 65 := rfl
        have hZ : 'Z'.val.toNat = 90 := rfl
        have hsum : letter.val.toNat = c.val.toNat + 32 := by
          rw [hcode, UInt32.toNat_add]
          exact Nat.mod_eq_of_lt (show c.val.toNat + 32 < 2 ^ 32 by omega)
        have ha : 'a'.val.toNat = 97 := rfl
        have hz : 'z'.val.toNat = 122 := rfl
        delta Char.isLower
        simp only [Bool.and_eq_true, decide_eq_true_eq, ge_iff_le, UInt32.le_iff_toNat_le]
        omega
      simp [hcase.2] at hisLower
    · have hsame : c.toLower = c := dif_neg hcapital
      rwa [hsame] at hlower
  · rintro rfl
    exact dif_neg (of_decide_eq_false hcase.1)

/-- A word without letters has one spelling. -/
theorem spells_iff_of_not_isAlpha (h : ∀ letter ∈ word.toList, letter.isAlpha = false) :
    Spells word taken ↔ taken = word.toList := by
  rw [Spells]
  generalize word.toList = letters at h
  induction letters generalizing taken with
  | nil => rw [List.forall₂_nil_right_iff]
  | cons letter letters ih =>
    obtain ⟨hletter, hletters⟩ := List.forall_mem_cons.1 h
    simp only [List.forall₂_cons_right_iff, ih hletters, sameLetter_iff_of_not_isAlpha hletter]
    constructor
    · rintro ⟨_, _, rfl, rfl, htaken⟩
      exact htaken
    · intro htaken
      exact ⟨letter, letters, rfl, rfl, htaken⟩

/-! ## Boundaries -/

/-- Whatever the pattern describes starts with a word character. -/
def StartsWord (p : Pattern) : Prop :=
  ∀ ⦃before taken after⦄, p.Matches before taken after →
    ∃ c rest, taken = c :: rest ∧ Text.isWord c = true

theorem startsWord_text (h : word.toList.head?.any Text.isWord = true) :
    StartsWord (Pattern.text word) := by
  intro before taken after hmatch
  rw [matches_text] at hmatch
  cases taken with
  | nil => simp [← hmatch] at h
  | cons c rest => exact ⟨c, rest, rfl, by simpa [← hmatch] using h⟩

theorem startsWord_textFolded (h : word.toList.head?.any Char.isLower = true) :
    StartsWord (textFolded word) := by
  intro before taken after hmatch
  rw [matches_textFolded, Spells] at hmatch
  generalize word.toList = letters at h hmatch
  cases hmatch with
  | nil => cases h
  | cons hfirst hrest => exact ⟨_, _, rfl, isWord_of_sameLetter h hfirst⟩

theorem StartsWord.seq {q : Pattern} (h : StartsWord p) : StartsWord (.seq p q) := by
  rintro before _ after ⟨left, right, rfl, hleft, -⟩
  obtain ⟨c, rest, rfl, hc⟩ := h hleft
  exact ⟨c, rest ++ right, rfl, hc⟩

theorem StartsWord.sequence (h : StartsWord p) : StartsWord (sequence (p :: ps)) := StartsWord.seq h

theorem startsWord_anyOf (h : ∀ p ∈ ps, StartsWord p) : StartsWord (anyOf ps) := by
  intro before taken after hmatch
  obtain ⟨p, hp, hmatch⟩ := matches_anyOf.1 hmatch
  exact h p hp hmatch

theorem atBoundary_word {before : List Char} (hc : Text.isWord c = true) :
    atBoundary before.getLast? (c :: after) = true ↔ NoWordBefore before := by
  rw [noWordBefore_iff, atBoundary]
  simp [hc]

/-- A boundary after a word character asks that no other one follows. -/
theorem atBoundary_lastOf (hlast : taken.getLast? = some c) (hc : Text.isWord c = true) :
    atBoundary (lastOf before taken) after = true ↔ NoWordAfter after := by
  rw [noWordAfter_iff, atBoundary, lastOf, hlast]
  simp [hc]

theorem search_either {q : Pattern} :
    (either p q).search text = true ↔ p.search text = true ∨ q.search text = true := by
  simp only [search_iff]
  constructor
  · rintro ⟨skipped, taken, after, htext, hmatch | hmatch⟩
    · exact .inl ⟨skipped, taken, after, htext, hmatch⟩
    · exact .inr ⟨skipped, taken, after, htext, hmatch⟩
  · rintro (⟨skipped, taken, after, htext, hmatch⟩ | ⟨skipped, taken, after, htext, hmatch⟩)
    · exact ⟨skipped, taken, after, htext, .inl hmatch⟩
    · exact ⟨skipped, taken, after, htext, .inr hmatch⟩

theorem search_anyOf : (anyOf ps).search text = true ↔ ∃ p ∈ ps, p.search text = true := by
  simp only [search_iff, matches_anyOf]
  constructor
  · rintro ⟨skipped, taken, after, htext, p, hp, hmatch⟩
    exact ⟨p, hp, skipped, taken, after, htext, hmatch⟩
  · rintro ⟨p, hp, skipped, taken, after, htext, hmatch⟩
    exact ⟨skipped, taken, after, htext, p, hp, hmatch⟩

/-- Something that starts with a word character after a boundary is found where it stands with no
word character before it. -/
theorem search_word_iff (hstart : StartsWord (sequence ps)) :
    (sequence (boundary :: ps)).search text = true ↔ ∃ before taken after,
      text = before ++ (taken ++ after) ∧ NoWordBefore before ∧
        (sequence ps).Matches (lastOf none before) taken after := by
  rw [search_iff]
  constructor
  · rintro ⟨before, _, after, htext, _, taken, rfl, ⟨rfl, hboundary⟩, hmatch⟩
    rw [lastOf_nil] at hmatch
    obtain ⟨c, rest, rfl, hc⟩ := hstart hmatch
    refine ⟨before, c :: rest, after, htext, ?_, hmatch⟩
    exact (atBoundary_word hc).1 (by simpa [lastOf] using hboundary)
  · rintro ⟨before, taken, after, htext, hbefore, hmatch⟩
    refine ⟨before, taken, after, htext, [], taken, rfl, ⟨rfl, ?_⟩, by rwa [lastOf_nil]⟩
    obtain ⟨c, rest, rfl, hc⟩ := hstart hmatch
    have hboundary : atBoundary before.getLast? (c :: (rest ++ after)) = true :=
      (atBoundary_word hc).2 hbefore
    simpa [lastOf] using hboundary

/-- A boundary and a run of word characters ask for nothing before something that starts with a
word character, since the run can reach back to where the word starts. -/
theorem search_run_iff (hstart : StartsWord (sequence ps)) :
    (sequence (boundary :: many Text.isWord :: ps)).search text = (sequence ps).search text := by
  rw [Bool.eq_iff_iff, search_iff, search_iff]
  constructor
  · rintro ⟨before, _, after, rfl, _, _, rfl, ⟨rfl, -⟩, run, taken, rfl, -, hmatch⟩
    rw [lastOf_nil, lastOf_append] at hmatch
    exact ⟨before ++ run, taken, after, by simp, hmatch⟩
  · rintro ⟨before, taken, after, rfl, hmatch⟩
    -- The run is the part of a word that stands before the match, so the word starts with it.
    obtain ⟨skipped, run, rfl, hskipped, hrun⟩ := Text.exists_run before
    refine ⟨skipped, run ++ taken, after, by simp, [], run ++ taken, rfl, ⟨rfl, ?_⟩, run, taken,
      rfl, hrun, by rwa [lastOf_nil, lastOf_append]⟩
    obtain ⟨c, rest, rfl, hc⟩ := hstart hmatch
    cases run with
    | nil =>
      have hboundary : atBoundary skipped.getLast? (c :: (rest ++ after)) = true :=
        (atBoundary_word hc).2 hskipped
      simpa [lastOf] using hboundary
    | cons d run =>
      have hboundary : atBoundary skipped.getLast? (d :: (run ++ (c :: rest ++ after))) = true :=
        (atBoundary_word (hrun d List.mem_cons_self)).2 hskipped
      simpa [lastOf] using hboundary

end Pattern

end LineLint
