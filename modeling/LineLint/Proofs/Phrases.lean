import LineLint.Proofs.Marks
import LineLint.Proofs.Numerals
import LineLint.Proofs.Printing

/-!
# Lines of phrases

What is shown of a violation consists of phrases in different styles, which are printed with one
space between them whatever blanks there are. Main statement: `Screen.print_marks`.
-/

namespace LineLint

open Markup (Mark IsBare HoldsTag shownText)

namespace Screen

variable {text title : List Char} {c : Char} {columns : ℕ}

/-! ## Phrases -/

/-- A visible character of ASCII that means nothing by itself. -/
structure IsInk (c : Char) : Prop where
  range : 0x20 < c.toNat ∧ c.toNat < 0x7F
  no_colon : c ≠ ':'
  no_escape : c ≠ '\\'

theorem IsInk.simple (h : IsInk c) : IsSimple c := .inl ⟨by have := h.range; omega, h.range.2⟩

theorem IsInk.not_blank (h : IsInk c) : Text.isBlank c = false := by
  have hrange := h.range
  simp [Text.isBlank, Text.isSpace]
  omega

theorem IsInk.literal (h : IsInk c) : Markup.IsLiteral c := by
  have hrange := h.range
  refine ⟨h.no_escape, h.no_colon, ?_⟩
  simp [Markup.isControl]
  omega

/-- A short text of simple characters without brackets, of words with one space between them. -/
structure IsPhrase (text : List Char) : Prop where
  simple : ∀ c ∈ text, IsSimple c
  no_bracket : '[' ∉ text
  no_escape : '\\' ∉ text
  spaced : Markup.isSpaced text = true
  tidy : Text.IsTidy text
  short : text.length ≤ 100

instance (c : Char) : Decidable (IsSimple c) :=
  inferInstanceAs (Decidable ((0x20 ≤ c.toNat ∧ c.toNat < 0x7F) ∨ c = '●'))

instance (text : List Char) : Decidable (IsPhrase text) :=
  decidable_of_iff ((text.all fun c => decide (IsSimple c)) = true ∧ '[' ∉ text ∧ '\\' ∉ text ∧
      Markup.isSpaced text = true ∧ Text.IsTidy text ∧ text.length ≤ 100)
    ⟨fun ⟨hsimple, hbracket, hescape, hspaced, htidy, hshort⟩ =>
        ⟨by simpa using hsimple, hbracket, hescape, hspaced, htidy, hshort⟩,
      fun h => ⟨by simpa using h.simple, h.no_bracket, h.no_escape, h.spaced, h.tidy, h.short⟩⟩

theorem isControl_of_isSimple (h : IsSimple c) : Markup.isControl c = false := by
  rcases h with ⟨hfirst, -⟩ | rfl
  · simp [Markup.isControl]
    omega
  · decide

theorem IsPhrase.shown (h : IsPhrase text) : shownText text = text :=
  Markup.shownText_eq_self h.no_escape h.spaced fun c hc => isControl_of_isSimple (h.simple c hc)

/-- A phrase is also shown as it is when blanks stand around it. -/
theorem IsPhrase.shown_between (h : IsPhrase text) (before after : ℕ) :
    shownText (List.replicate before ' ' ++ text ++ List.replicate after ' ') =
      List.replicate before ' ' ++ text ++ List.replicate after ' ' := by
  have hblanks : ∀ n, Markup.isSpaced (List.replicate n ' ') = true := fun n =>
    Markup.isSpaced_of_not_mem (by simp)
  refine Markup.shownText_eq_self (by simpa using h.no_escape)
    (Markup.isSpaced_append (Markup.isSpaced_append (hblanks before) h.spaced) (hblanks after)) ?_
  intro c hc
  simp only [List.mem_append, List.mem_replicate] at hc
  rcases hc with (⟨-, rfl⟩ | hc) | ⟨-, rfl⟩
  · decide
  · exact isControl_of_isSimple (h.simple c hc)
  · decide

theorem IsPhrase.bare (h : IsPhrase text) : IsBare text :=
  Markup.isBare_of_not_mem h.no_bracket h.no_escape

/-- A short word of visible characters is a phrase. -/
theorem isPhrase_of_word (hne : text ≠ []) (hink : ∀ c ∈ text, IsInk c) (hbracket : '[' ∉ text)
    (hshort : text.length ≤ 100) : IsPhrase text where
  simple c hc := (hink c hc).simple
  no_bracket := hbracket
  no_escape hmem := (hink _ hmem).no_escape rfl
  spaced := Markup.isSpaced_of_not_mem fun hmem => (hink _ hmem).no_colon rfl
  tidy := Text.isTidy_of_word hne fun c hc => (hink c hc).not_blank
  short := hshort

theorem isInk_of_isDigit (h : c.isDigit = true) : IsInk c := by
  have hrange : 0x30 ≤ c.toNat ∧ c.toNat ≤ 0x39 := by
    simpa [Char.isDigit, UInt32.le_iff_toNat_le] using h
  refine ⟨by omega, ?_, ?_⟩
  · rintro rfl
    exact absurd h (by decide)
  · rintro rfl
    exact absurd h (by decide)

theorem isPhrase_place {v : Violation} (hshort : (place v).length ≤ 80) :
    IsPhrase (place v).toList := by
  have hlength : (place v).toList.length ≤ 100 := by
    rw [String.length_toList]
    omega
  rw [place.eq_def] at hlength ⊢
  cases hline : v.line with
  | none => decide
  | some line =>
    have hword : s!"L{line}".toList = 'L' :: (toString line).toList := String.toList_append
    have hfits : ('L' :: (toString line).toList).length ≤ 100 := by
      rw [← hword]
      rwa [hline] at hlength
    rw [hword]
    have hnumeral := numeral_int line
    refine isPhrase_of_word (List.cons_ne_nil _ _) (List.forall_mem_cons.2 ⟨?_, ?_⟩) ?_ hfits
    · exact ⟨by decide, by decide, by decide⟩
    · intro c hc
      rcases hnumeral c hc with rfl | hdigit
      · exact ⟨by decide, by decide, by decide⟩
      · exact isInk_of_isDigit hdigit
    · rw [List.mem_cons, not_or]
      refine ⟨by decide, fun hmem => ?_⟩
      exact absurd (hnumeral _ hmem) (by decide)

/-! ## Lines -/

/-- A line of marks can be printed, whether or not it has room. -/
theorem exists_print (columns : ℕ) {markup : String} {lead : List Char} {marks : List Mark}
    (hmarkup : markup.toList = lead ++ marks.flatMap Mark.markup) (hlead : IsBare lead)
    (hmarks : ∀ m ∈ marks, m.IsPlain) : ∃ lines, printWithin columns markup = .ok lines := by
  obtain ⟨t, hrender, hstyles, -⟩ := Markup.render_marks hlead hmarks
  exact printWithin_eq_ok columns (hmarkup ▸ hrender) hstyles

/-- A line of marks that has room is printed as its words with one space between them. -/
theorem print_marks {markup : String} {lead line : List Char} {marks : List Mark}
    (hmarkup : markup.toList = lead ++ marks.flatMap Mark.markup) (hlead : IsBare lead)
    (hmarks : ∀ m ∈ marks, m.IsPlain) (htext : shownText lead ++ marks.flatMap Mark.shown = text)
    (hsimple : ∀ c ∈ text, IsSimple c) (hfits : text.length ≤ columns)
    (hline : Text.tidy text = line) (hne : line ≠ []) :
    printWithin columns markup = .ok [String.ofList line] := by
  obtain ⟨t, hrender, hstyles, hshown⟩ := Markup.render_marks hlead hmarks
  have hsame : t.text = text := hshown.trans htext
  rw [← hmarkup] at hrender
  rw [print_eq_ok hrender hstyles (by rwa [hsame]) (by rwa [hsame]) (by rwa [hsame, hline]), hsame,
    hline]

/-- Phrases with two blanks before each. -/
def spread (phrases : List (List Char)) : List Char := phrases.flatMap fun p => ' ' :: ' ' :: p

theorem words_spread (phrases : List (List Char)) :
    Text.words (spread phrases) = phrases.flatMap Text.words := by
  induction phrases with
  | nil => rfl
  | cons p rest ih =>
    have hcons : spread (p :: rest) = ' ' :: ' ' :: (p ++ spread rest) := rfl
    rw [hcons, Text.words_space, Text.words_space, List.flatMap_cons, ← ih]
    cases rest with
    | nil => simp [spread, Text.words_nil]
    | cons q rest =>
      have hnext : spread (q :: rest) = ' ' :: ' ' :: (q ++ spread rest) := rfl
      rw [hnext, Text.words_append_space]
      simp only [Text.words_space]

/-- Of the blanks before a phrase one is left, and none before the first. -/
theorem tidy_spread {phrases : List (List Char)} (hne : phrases ≠ [])
    (h : ∀ p ∈ phrases, Text.IsTidy p) : Text.tidy (spread phrases) = Text.glue ' ' phrases := by
  induction phrases with
  | nil => exact absurd rfl hne
  | cons p rest ih =>
    rw [List.forall_mem_cons] at h
    rw [Text.tidy, words_spread, List.flatMap_cons]
    cases rest with
    | nil => rw [List.flatMap_nil, List.append_nil, ← Text.tidy, h.1.tidy_eq, Text.glue]
    | cons q rest =>
      have hq : Text.words q ≠ [] := (h.2 q List.mem_cons_self).ne_nil
      rw [Text.glue_append h.1.ne_nil (by simp [hq]), ← words_spread, ← Text.tidy, ← Text.tidy,
        ih (List.cons_ne_nil q rest) h.2, h.1.tidy_eq, Text.glue]

theorem length_spread_le {phrases : List (List Char)} (h : ∀ p ∈ phrases, IsPhrase p) :
    (spread phrases).length ≤ 102 * phrases.length := by
  induction phrases with
  | nil => exact Nat.zero_le _
  | cons p rest ih =>
    rw [List.forall_mem_cons] at h
    have hrest := ih h.2
    have hp := h.1.short
    have hcons : spread (p :: rest) = ' ' :: ' ' :: (p ++ spread rest) := rfl
    simp only [hcons, List.length_cons, List.length_append]
    omega

/-- A line that shows at most nine phrases is printed with one space between them. -/
theorem print_phrases {markup : String} {lead : List Char} {marks : List Mark}
    {phrases : List (List Char)} (hmarkup : markup.toList = lead ++ marks.flatMap Mark.markup)
    (hlead : IsBare lead) (hmarks : ∀ m ∈ marks, m.IsPlain)
    (htext : shownText lead ++ marks.flatMap Mark.shown = spread phrases)
    (hphrases : ∀ p ∈ phrases, IsPhrase p) (hne : phrases ≠ []) (hfew : phrases.length ≤ 9) :
    print markup = .ok [String.ofList (Text.glue ' ' phrases)] := by
  have htidy := tidy_spread hne fun p hp => (hphrases p hp).tidy
  refine print_marks hmarkup hlead hmarks htext ?_ ?_ htidy ?_
  · intro c hc
    obtain ⟨p, hp, hc⟩ := List.mem_flatMap.1 hc
    rcases List.mem_cons.1 hc with rfl | hc
    · decide
    · rcases List.mem_cons.1 hc with rfl | hc
      · decide
      · exact (hphrases p hp).simple c hc
  · have hlength := length_spread_le hphrases
    have hwidth : screenWidth = 1000 := rfl
    omega
  · obtain ⟨p, rest, rfl⟩ := List.exists_cons_of_ne_nil hne
    exact Text.glue_ne_nil (hphrases p List.mem_cons_self).tidy.text_ne_nil rest

end Screen

end LineLint
