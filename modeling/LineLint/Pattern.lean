import LineLint.Text.Word

/-! # Patterns in a line

A pattern describes a stretch of text together with the character before it and the text after
it, because a word boundary looks to both sides. Two definitions say what a pattern means:

* `Matches`, by recursion on the pattern, as a statement about a cut of the text;
* `search`, the test that runs: it tries every place and every way to continue.

`search_iff` says that they agree, so nothing is lost by the order in which `search` tries. -/

namespace LineLint

/-- What a stretch of text may look like. -/
inductive Pattern where
  /-- No text. -/
  | fail
  /-- The empty text. -/
  | empty
  /-- One character of a class. -/
  | char (accepts : Char → Bool)
  /-- The empty text between a word character and something else. -/
  | boundary
  /-- One pattern directly followed by another. -/
  | seq (first second : Pattern)
  /-- One of two patterns. -/
  | either (left right : Pattern)
  /-- Any number of characters of a class. -/
  | many (accepts : Char → Bool)

namespace Pattern

/-- Whether a word starts or ends between the character before and the text after. -/
def atBoundary (before : Option Char) (after : List Char) : Bool :=
  before.any Text.isWord != after.head?.any Text.isWord

/-- The last character before the point that is reached when `taken` has been read. -/
def lastOf (before : Option Char) (taken : List Char) : Option Char :=
  taken.getLast?.or before

/-- The pattern describes the text `taken`, which stands between `before` and `after`. -/
def Matches : Pattern → Option Char → List Char → List Char → Prop
  | fail, _, _, _ => False
  | empty, _, taken, _ => taken = []
  | char accepts, _, taken, _ => ∃ c, accepts c = true ∧ taken = [c]
  | boundary, before, taken, after => taken = [] ∧ atBoundary before after = true
  | seq first second, before, taken, after =>
    ∃ left right, taken = left ++ right ∧ first.Matches before left (right ++ after) ∧
      second.Matches (lastOf before left) right after
  | either left right, before, taken, after =>
    left.Matches before taken after ∨ right.Matches before taken after
  | many accepts, _, taken, _ => ∀ c ∈ taken, accepts c = true

/-- Reads characters of a class and, after each number of them, tries to go on with `next`. -/
def manyThen (accepts : Char → Bool) (next : Option Char → List Char → Bool) :
    Option Char → List Char → Bool
  | before, [] => next before []
  | before, c :: rest =>
    next before (c :: rest) || (accepts c && manyThen accepts next (some c) rest)

/-- Whether the pattern describes a start of the text from whose end `next` can go on. -/
def matchThen : Pattern → (Option Char → List Char → Bool) → Option Char → List Char → Bool
  | fail, _, _, _ => false
  | empty, next, before, text => next before text
  | char _, _, _, [] => false
  | char accepts, next, _, c :: rest => accepts c && next (some c) rest
  | boundary, next, before, text => atBoundary before text && next before text
  | seq first second, next, before, text => first.matchThen (second.matchThen next) before text
  | either left right, next, before, text =>
    left.matchThen next before text || right.matchThen next before text
  | many accepts, next, before, text => manyThen accepts next before text

/-- Tries the pattern at every place of a text that follows the character `before`. -/
def searchFrom (p : Pattern) : Option Char → List Char → Bool
  | before, [] => p.matchThen (fun _ _ => true) before []
  | before, c :: rest =>
    p.matchThen (fun _ _ => true) before (c :: rest) || p.searchFrom (some c) rest

/-- Whether the pattern describes some stretch of the text. -/
def search (p : Pattern) (text : List Char) : Bool := p.searchFrom none text

instance : CoeFun Pattern fun _ => List Char → Bool := ⟨search⟩

/-! ## Compound patterns -/

/-- The patterns one after the other. -/
def sequence (ps : List Pattern) : Pattern := ps.foldr seq empty

/-- One of the patterns; `fail` if there is none. -/
def anyOf (ps : List Pattern) : Pattern := ps.foldr either fail

/-- One or more characters of a class. -/
def oneOrMore (accepts : Char → Bool) : Pattern := seq (char accepts) (many accepts)

/-- The pattern or nothing. -/
def optional (p : Pattern) : Pattern := either p empty

/-- The pattern `n` times. -/
def times : Nat → Pattern → Pattern
  | 0, _ => empty
  | n + 1, p => seq p (times n p)

/-- The pattern at most `n` times. -/
def atMost : Nat → Pattern → Pattern
  | 0, _ => empty
  | n + 1, p => optional (seq p (atMost n p))

/-- The pattern at least `low` and at most `high` times. -/
def between (low high : Nat) (p : Pattern) : Pattern := seq (times low p) (atMost (high - low) p)

/-- Exactly this text. -/
def text (s : String) : Pattern := sequence (s.toList.map fun c => char (· == c))

/-- Whether two characters are the same letter but for case. `letter` is a lower-case ASCII letter
or no letter; the long s, the Kelvin sign and the dotted and dotless i count as their plain
letters. -/
def sameLetter (letter c : Char) : Bool :=
  c.toLower == letter ||
    (letter == 's' && c.toNat == 0x17F) ||
    (letter == 'k' && c.toNat == 0x212A) ||
    (letter == 'i' && (c.toNat == 0x130 || c.toNat == 0x131))

/-- This text in any case. -/
def textFolded (s : String) : Pattern := sequence (s.toList.map fun c => char (sameLetter c))

/-! ## The two definitions agree -/

@[simp] theorem lastOf_nil (before : Option Char) : lastOf before [] = before := by simp [lastOf]

@[simp] theorem lastOf_append (before : Option Char) (u v : List Char) :
    lastOf (lastOf before u) v = lastOf before (u ++ v) := by
  simp [lastOf, List.getLast?_append, Option.or_assoc]

theorem lastOf_cons (before : Option Char) (c : Char) (u : List Char) :
    lastOf before (c :: u) = lastOf (some c) u := by
  have := lastOf_append before [c] u
  simpa [lastOf] using this.symm

theorem manyThen_iff {accepts : Char → Bool} {next : Option Char → List Char → Bool}
    {before : Option Char} {text : List Char} :
    manyThen accepts next before text = true ↔
      ∃ taken after, text = taken ++ after ∧ (∀ c ∈ taken, accepts c = true) ∧
        next (lastOf before taken) after = true := by
  induction text generalizing before with
  | nil =>
    simp only [manyThen]
    constructor
    · intro h
      exact ⟨[], [], rfl, by simp, by simpa using h⟩
    · rintro ⟨taken, after, h, -, hn⟩
      obtain ⟨rfl, rfl⟩ := List.append_eq_nil_iff.1 h.symm
      simpa using hn
  | cons c rest ih =>
    simp only [manyThen, Bool.or_eq_true, Bool.and_eq_true, ih]
    constructor
    · rintro (h | ⟨hc, taken, after, rfl, ht, hn⟩)
      · exact ⟨[], c :: rest, rfl, by simp, by simpa using h⟩
      · exact ⟨c :: taken, after, rfl, by simpa [hc] using ht, by rwa [lastOf_cons]⟩
    · rintro ⟨taken, after, h, ht, hn⟩
      cases taken with
      | nil =>
        simp only [List.nil_append] at h
        subst h
        exact Or.inl (by simpa using hn)
      | cons d taken =>
        simp only [List.cons_append, List.cons.injEq] at h
        obtain ⟨rfl, rfl⟩ := h
        rw [lastOf_cons] at hn
        exact Or.inr ⟨ht c (by simp), taken, after, rfl, fun x hx => ht x (by simp [hx]), hn⟩

theorem matchThen_iff {p : Pattern} {next : Option Char → List Char → Bool}
    {before : Option Char} {text : List Char} :
    p.matchThen next before text = true ↔
      ∃ taken after, text = taken ++ after ∧ p.Matches before taken after ∧
        next (lastOf before taken) after = true := by
  induction p generalizing next before text with
  | fail => simp [matchThen, Matches]
  | empty =>
    simp only [matchThen, Matches]
    constructor
    · intro h
      exact ⟨[], text, rfl, rfl, by simpa using h⟩
    · rintro ⟨_, after, rfl, rfl, h⟩
      simpa using h
  | char accepts =>
    cases text with
    | nil => simp [matchThen, Matches]
    | cons c rest =>
      simp only [matchThen, Matches, Bool.and_eq_true]
      constructor
      · rintro ⟨hc, hn⟩
        exact ⟨[c], rest, rfl, ⟨c, hc, rfl⟩, by simpa [lastOf] using hn⟩
      · rintro ⟨_, after, h, ⟨d, hd, rfl⟩, hn⟩
        simp only [List.cons_append, List.nil_append, List.cons.injEq] at h
        obtain ⟨rfl, rfl⟩ := h
        exact ⟨hd, by simpa [lastOf] using hn⟩
  | boundary =>
    simp only [matchThen, Matches, Bool.and_eq_true]
    constructor
    · rintro ⟨hb, hn⟩
      exact ⟨[], text, rfl, ⟨rfl, hb⟩, by simpa using hn⟩
    · rintro ⟨_, after, rfl, ⟨rfl, hb⟩, hn⟩
      exact ⟨by simpa using hb, by simpa using hn⟩
  | seq first second ihf ihs =>
    simp only [matchThen, Matches, ihf, ihs]
    constructor
    · rintro ⟨left, _, rfl, hl, right, after, rfl, hr, hn⟩
      exact ⟨left ++ right, after, by simp, ⟨left, right, rfl, hl, hr⟩, by simpa using hn⟩
    · rintro ⟨_, after, rfl, ⟨left, right, rfl, hl, hr⟩, hn⟩
      exact ⟨left, right ++ after, by simp, hl, right, after, rfl, hr, by simpa using hn⟩
  | either left right ihl ihr =>
    simp only [matchThen, Matches, Bool.or_eq_true, ihl, ihr]
    constructor
    · rintro (⟨taken, after, h, hm, hn⟩ | ⟨taken, after, h, hm, hn⟩)
      · exact ⟨taken, after, h, Or.inl hm, hn⟩
      · exact ⟨taken, after, h, Or.inr hm, hn⟩
    · rintro ⟨taken, after, h, hm | hm, hn⟩
      · exact Or.inl ⟨taken, after, h, hm, hn⟩
      · exact Or.inr ⟨taken, after, h, hm, hn⟩
  | many accepts => simp only [matchThen, Matches, manyThen_iff]

theorem searchFrom_iff {p : Pattern} {before : Option Char} {text : List Char} :
    p.searchFrom before text = true ↔
      ∃ skipped taken after, text = skipped ++ (taken ++ after) ∧
        p.Matches (lastOf before skipped) taken after := by
  induction text generalizing before with
  | nil =>
    simp only [searchFrom, matchThen_iff, and_true]
    constructor
    · rintro ⟨taken, after, h, hm⟩
      exact ⟨[], taken, after, h, by simpa using hm⟩
    · rintro ⟨skipped, taken, after, h, hm⟩
      obtain ⟨rfl, hrest⟩ := List.append_eq_nil_iff.1 h.symm
      exact ⟨taken, after, hrest.symm, by simpa using hm⟩
  | cons c rest ih =>
    simp only [searchFrom, Bool.or_eq_true, ih, matchThen_iff, and_true]
    constructor
    · rintro (⟨taken, after, h, hm⟩ | ⟨skipped, taken, after, rfl, hm⟩)
      · exact ⟨[], taken, after, h, by simpa using hm⟩
      · exact ⟨c :: skipped, taken, after, rfl, by rwa [lastOf_cons]⟩
    · rintro ⟨skipped, taken, after, h, hm⟩
      cases skipped with
      | nil => exact Or.inl ⟨taken, after, h, by simpa using hm⟩
      | cons d skipped =>
        simp only [List.cons_append, List.cons.injEq] at h
        obtain ⟨rfl, rfl⟩ := h
        rw [lastOf_cons] at hm
        exact Or.inr ⟨skipped, taken, after, rfl, hm⟩

/-- The search finds a pattern exactly where some cut of the text matches it. -/
theorem search_iff {p : Pattern} {text : List Char} :
    p.search text = true ↔
      ∃ skipped taken after, text = skipped ++ (taken ++ after) ∧
        p.Matches (lastOf none skipped) taken after :=
  searchFrom_iff

end Pattern

end LineLint
