import LineLint.Pattern
import LineLint.Text.Search
import Mathlib.Data.List.Forall2
import Mathlib.Data.List.Induction

/-!
# What a search depends on

A pattern looks beyond the text that it describes only for word boundaries, and the characters in
which a match can end are read off the pattern. Main statements: `Pattern.search_mono`, a pattern
that describes more is found more often, and `Pattern.search_concat`, a character at the end of a
text in which no match can end, and which is no word character, does not change what is found.
-/

namespace LineLint.Pattern

variable {p q : Pattern} {ps qs : List Pattern} {before : Option Char}
  {taken after text : List Char} {c : Char}

/-! ## Compound patterns -/

@[simp] theorem matches_anyOf :
    (anyOf ps).Matches before taken after ↔ ∃ p ∈ ps, p.Matches before taken after := by
  induction ps with
  | nil => simp [anyOf, Matches]
  | cons p ps ih =>
    have hcons : (anyOf (p :: ps)).Matches before taken after ↔
        p.Matches before taken after ∨ (anyOf ps).Matches before taken after := Iff.rfl
    simp [hcons, ih]

@[simp] theorem matches_sequence_nil : (sequence []).Matches before taken after ↔ taken = [] :=
  Iff.rfl

theorem matches_sequence_cons :
    (sequence (p :: ps)).Matches before taken after ↔ ∃ left right, taken = left ++ right ∧
      p.Matches before left (right ++ after) ∧
      (sequence ps).Matches (lastOf before left) right after :=
  Iff.rfl

theorem matches_sequence_append :
    (sequence (ps ++ qs)).Matches before taken after ↔ ∃ left right, taken = left ++ right ∧
      (sequence ps).Matches before left (right ++ after) ∧
      (sequence qs).Matches (lastOf before left) right after := by
  induction ps generalizing before taken with
  | nil =>
    constructor
    · exact fun h => ⟨[], taken, rfl, rfl, by simpa using h⟩
    · rintro ⟨_, right, rfl, rfl, h⟩
      simpa using h
  | cons p ps ih =>
    simp only [List.cons_append, matches_sequence_cons, ih]
    constructor
    · rintro ⟨first, _, rfl, hfirst, left, right, rfl, hleft, hright⟩
      exact ⟨first ++ left, right, by simp, ⟨first, left, rfl, by simpa using hfirst, hleft⟩,
        by simpa using hright⟩
    · rintro ⟨_, right, rfl, ⟨first, left, rfl, hfirst, hleft⟩, hright⟩
      exact ⟨first, left ++ right, by simp, by simpa using hfirst, left, right, rfl, hleft,
        by simpa using hright⟩

theorem matches_text {s : String} :
    (Pattern.text s).Matches before taken after ↔ taken = s.toList := by
  rw [Pattern.text]
  generalize s.toList = chars
  induction chars generalizing before taken with
  | nil => simp
  | cons c chars ih =>
    rw [List.map_cons, matches_sequence_cons]
    simp only [ih, Matches, beq_iff_eq]
    constructor
    · rintro ⟨_, _, rfl, ⟨_, rfl, rfl⟩, rfl⟩
      rfl
    · rintro rfl
      exact ⟨[c], chars, rfl, ⟨c, rfl, rfl⟩, rfl⟩

/-- Looking for a fixed text is searching for the pattern of that text. -/
theorem search_text (s : String) (line : List Char) :
    (Pattern.text s).search line = Text.contains s.toList line := by
  rw [Bool.eq_iff_iff, search_iff, Text.contains_iff]
  simp [matches_text]

theorem search_mono (h : ∀ before taken after, p.Matches before taken after →
    q.Matches before taken after) (hsearch : p.search text = true) : q.search text = true := by
  obtain ⟨skipped, taken, after, htext, hmatch⟩ := search_iff.1 hsearch
  exact search_iff.2 ⟨skipped, taken, after, htext, h _ _ _ hmatch⟩

theorem matches_sequence_mono (h : List.Forall₂ (fun p q : Pattern => ∀ before taken after,
      p.Matches before taken after → q.Matches before taken after) ps qs)
    (hmatch : (sequence ps).Matches before taken after) :
    (sequence qs).Matches before taken after := by
  induction h generalizing before taken with
  | nil => exact hmatch
  | cons hfirst _ ih =>
    obtain ⟨left, right, htaken, hleft, hright⟩ := matches_sequence_cons.1 hmatch
    exact matches_sequence_cons.2 ⟨left, right, htaken, hfirst _ _ _ hleft, ih hright⟩

/-! ## What stands around a match -/

/-- Only whether a word goes on before and after a match can matter to the match. -/
theorem Matches.congr {before' : Option Char} {after' : List Char}
    (h : p.Matches before taken after)
    (hbefore : before.any Text.isWord = before'.any Text.isWord)
    (hafter : after.head?.any Text.isWord = after'.head?.any Text.isWord) :
    p.Matches before' taken after' := by
  induction p generalizing before before' taken after after' with
  | fail => exact h
  | empty => exact h
  | char accepts => exact h
  | boundary =>
    refine ⟨h.1, ?_⟩
    rw [atBoundary, ← hbefore, ← hafter]
    exact h.2
  | seq first second ihfirst ihsecond =>
    obtain ⟨left, right, htaken, hleft, hright⟩ := h
    refine ⟨left, right, htaken, ihfirst hleft hbefore ?_, ihsecond hright ?_ hafter⟩
    · cases right with
      | nil => exact hafter
      | cons c right => rfl
    · rcases List.eq_nil_or_concat' left with rfl | ⟨start, d, rfl⟩
      · simpa using hbefore
      · simp [lastOf]
  | either first second ihfirst ihsecond =>
    exact h.imp (fun h => ihfirst h hbefore hafter) fun h => ihsecond h hbefore hafter
  | many accepts => exact h

/-! ## What a match can end in -/

/-- Whether the pattern can describe the empty text, as far as its parts tell. -/
def mayBeEmpty : Pattern → Bool
  | fail | char _ => false
  | empty | boundary | many _ => true
  | seq first second => first.mayBeEmpty && second.mayBeEmpty
  | either left right => left.mayBeEmpty || right.mayBeEmpty

/-- Whether the pattern can describe a text with this last character, as far as its parts tell. -/
def mayEndIn (c : Char) : Pattern → Bool
  | fail | empty | boundary => false
  | char accepts | many accepts => accepts c
  | seq first second => second.mayEndIn c || second.mayBeEmpty && first.mayEndIn c
  | either left right => left.mayEndIn c || right.mayEndIn c

theorem Matches.mayBeEmpty (h : p.Matches before [] after) : p.mayBeEmpty = true := by
  induction p generalizing before after with
  | fail => exact h.elim
  | char accepts =>
    obtain ⟨c, -, hnil⟩ := h
    cases hnil
  | empty => rfl
  | boundary => rfl
  | many accepts => rfl
  | seq first second ihfirst ihsecond =>
    obtain ⟨left, right, hnil, hleft, hright⟩ := h
    obtain ⟨rfl, rfl⟩ := List.append_eq_nil_iff.1 hnil.symm
    simp [Pattern.mayBeEmpty, ihfirst hleft, ihsecond hright]
  | either left right ihleft ihright =>
    rcases h with h | h
    · simp [Pattern.mayBeEmpty, ihleft h]
    · simp [Pattern.mayBeEmpty, ihright h]

theorem Matches.mayEndIn (h : p.Matches before (taken ++ [c]) after) : p.mayEndIn c = true := by
  induction p generalizing before taken after with
  | fail => exact h.elim
  | empty => simp [Matches] at h
  | boundary => simp [Matches] at h
  | char accepts =>
    obtain ⟨d, hd, hlast⟩ := h
    have hlast : taken ++ [c] = [] ++ [d] := hlast
    obtain ⟨-, hcd⟩ := List.append_inj' hlast rfl
    cases hcd
    exact hd
  | many accepts => exact h c (by simp)
  | seq first second ihfirst ihsecond =>
    obtain ⟨left, right, hcut, hleft, hright⟩ := h
    -- the last character belongs to the second part unless that describes the empty text
    rcases List.eq_nil_or_concat' right with rfl | ⟨rest, d, rfl⟩
    · rw [List.append_nil] at hcut
      subst hcut
      simp [Pattern.mayEndIn, hright.mayBeEmpty, ihfirst hleft]
    · rw [← List.append_assoc] at hcut
      obtain ⟨-, hcd⟩ := List.append_inj' hcut rfl
      cases hcd
      simp [Pattern.mayEndIn, ihsecond hright]
  | either left right ihleft ihright =>
    rcases h with h | h
    · simp [Pattern.mayEndIn, ihleft h]
    · simp [Pattern.mayEndIn, ihright h]

/-! ## One more character at the end -/

/-- A character that is put at the end of a text and is no word character leaves all matches alone,
and all that can be new is a match that reaches the end. -/
theorem search_concat_iff (hword : Text.isWord c = false) :
    p.search (text ++ [c]) = true ↔ p.search text = true ∨
      ∃ skipped taken, text ++ [c] = skipped ++ taken ∧
        p.Matches (lastOf none skipped) taken [] := by
  have hafter : ∀ after : List Char,
      (after ++ [c]).head?.any Text.isWord = after.head?.any Text.isWord := by
    intro after
    cases after with
    | nil => simp [hword]
    | cons d after => rfl
  constructor
  · intro hsearch
    obtain ⟨skipped, taken, after, htext, hmatch⟩ := search_iff.1 hsearch
    rcases List.eq_nil_or_concat' after with rfl | ⟨rest, d, rfl⟩
    · rw [List.append_nil] at htext
      exact .inr ⟨skipped, taken, htext, hmatch⟩
    · rw [← List.append_assoc, ← List.append_assoc] at htext
      obtain ⟨rfl, hcd⟩ := List.append_inj' htext rfl
      cases hcd
      exact .inl (search_iff.2 ⟨skipped, taken, rest, by simp,
        hmatch.congr rfl (hafter rest)⟩)
  · rintro (hsearch | ⟨skipped, taken, htext, hmatch⟩)
    · obtain ⟨skipped, taken, after, rfl, hmatch⟩ := search_iff.1 hsearch
      exact search_iff.2 ⟨skipped, taken, after ++ [c], by simp,
        hmatch.congr rfl (hafter after).symm⟩
    · exact search_iff.2 ⟨skipped, taken, [], by rw [htext, List.append_nil], hmatch⟩

/-- Nothing new is found if no match can end in the character. -/
theorem search_concat (hword : Text.isWord c = false) (hempty : p.mayBeEmpty = false)
    (hend : p.mayEndIn c = false) (text : List Char) : p.search (text ++ [c]) = p.search text := by
  rw [Bool.eq_iff_iff, search_concat_iff hword, or_iff_left]
  rintro ⟨skipped, taken, htext, hmatch⟩
  rcases List.eq_nil_or_concat' taken with rfl | ⟨rest, d, rfl⟩
  · simp [hmatch.mayBeEmpty] at hempty
  · rw [← List.append_assoc] at htext
    obtain ⟨-, hcd⟩ := List.append_inj' htext rfl
    cases hcd
    simp [hmatch.mayEndIn] at hend

end LineLint.Pattern
