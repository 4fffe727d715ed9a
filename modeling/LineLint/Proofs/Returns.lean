import LineLint.Proofs.Patterns
import LineLint.Text.Blank
import LineLint.Text.Lines

/-!
# Carriage returns before line feeds

A text from another system has a carriage return before each of its line feeds. The reader of a file
leaves these returns out. A search does not see them if the pattern takes no part of a line break
apart, which holds of all that is looked for in a whole text, and at the end of a line a return is
blank, ends no match and ends no word. Main statements: `Text.PairedReturns.of_mem_splitLines` and
`Pattern.search_dropReturns`.
-/

namespace LineLint

namespace Text

variable {text rest before after : List Char}

/-! ## Returns in a text -/

/-- The text without its carriage returns. -/
def dropReturns (text : List Char) : List Char := text.filter (· != '\r')

/-- Each carriage return stands before a line feed. -/
def PairedReturns : List Char → Prop
  | [] => True
  | c :: rest => (c = '\r' → rest.head? = some '\n') ∧ PairedReturns rest

instance instDecidablePairedReturns : (text : List Char) → Decidable (PairedReturns text)
  | [] => inferInstanceAs (Decidable True)
  | c :: rest =>
    have := instDecidablePairedReturns rest
    inferInstanceAs (Decidable ((c = '\r' → rest.head? = some '\n') ∧ PairedReturns rest))

@[simp] theorem dropReturns_nil : dropReturns [] = [] := rfl

@[simp] theorem dropReturns_cons_return : dropReturns ('\r' :: rest) = dropReturns rest := rfl

theorem dropReturns_cons {c : Char} (hc : c ≠ '\r') :
    dropReturns (c :: rest) = c :: dropReturns rest :=
  List.filter_cons_of_pos (by simpa using hc)

@[simp] theorem dropReturns_append :
    dropReturns (before ++ after) = dropReturns before ++ dropReturns after :=
  List.filter_append _ _

theorem dropReturns_of_not_mem (h : '\r' ∉ text) : dropReturns text = text := by
  refine List.filter_eq_self.2 fun c hc => ?_
  simp only [bne_iff_ne, ne_eq]
  rintro rfl
  exact h hc

theorem PairedReturns.of_append (h : PairedReturns (before ++ after)) : PairedReturns after := by
  induction before with
  | nil => exact h
  | cons c before ih => exact ih h.2

/-- Reading paired returns as line feeds is leaving them out. -/
theorem unifyBreaks_eq_dropReturns (h : PairedReturns text) :
    unifyBreaks text = dropReturns text := by
  fun_induction unifyBreaks text with
  | case1 => rfl
  | case2 rest ih =>
    rw [dropReturns_cons_return, dropReturns_cons (by decide), ih h.2.2]
  | case3 c rest hnext ih =>
    have hc : c ≠ '\r' := by
      rintro rfl
      obtain ⟨tail, rfl⟩ := List.head?_eq_some_iff.1 (h.1 rfl)
      exact hnext tail rfl rfl
    rw [if_neg hc, dropReturns_cons hc, ih h.2]

theorem dropReturns_eq_nil_iff (h : PairedReturns text) : dropReturns text = [] ↔ text = [] := by
  refine ⟨fun hdrop => ?_, by rintro rfl; rfl⟩
  cases text with
  | nil => rfl
  | cons c rest =>
    by_cases hc : c = '\r'
    · obtain ⟨tail, rfl⟩ := List.head?_eq_some_iff.1 (h.1 hc)
      subst hc
      rw [dropReturns_cons_return, dropReturns_cons (by decide)] at hdrop
      cases hdrop
    · rw [dropReturns_cons hc] at hdrop
      cases hdrop

/-! ## Returns in a line -/

theorem splitLines_dropReturns (text : List Char) :
    splitLines (dropReturns text) = (splitLines text).map dropReturns := by
  induction text with
  | nil => rfl
  | cons c rest ih =>
    rw [splitLines] at ih ⊢
    by_cases hc : c = '\r'
    · subst hc
      rw [dropReturns_cons_return, ih, splitLines, splitLines, cut, if_neg (by decide)]
      cases hrest : cut '\n' rest with
      | nil => exact absurd hrest (cut_ne_nil _ _)
      | cons piece pieces => rfl
    · rw [dropReturns_cons hc, cut, ih, splitLines, splitLines, cut]
      split
      · rfl
      · cases hrest : cut '\n' rest with
        | nil => exact absurd hrest (cut_ne_nil _ _)
        | cons piece pieces => simp only [List.map_cons, dropReturns_cons hc]

theorem infix_of_mem_glue {separator : Char} {pieces : List (List Char)} {piece : List Char}
    (h : piece ∈ pieces) : piece <:+: glue separator pieces := by
  induction pieces with
  | nil => cases h
  | cons first rest ih =>
    cases rest with
    | nil =>
      rw [List.mem_singleton.1 h]
      exact List.infix_rfl
    | cons next rest =>
      rw [glue]
      rcases List.mem_cons.1 h with rfl | h
      · exact (List.prefix_append _ _).isInfix
      · exact (ih h).trans ((List.suffix_cons _ _).trans (List.suffix_append _ _)).isInfix

/-- In a line a paired return can only be the last character, with a line feed after it. -/
theorem PairedReturns.line {line : List Char} (h : PairedReturns (line ++ rest))
    (hline : '\n' ∉ line) :
    line = dropReturns line ∨ line = dropReturns line ++ ['\r'] ∧ rest.head? = some '\n' := by
  induction line with
  | nil => exact .inl rfl
  | cons c line ih =>
    obtain ⟨hreturn, hpaired⟩ := h
    have hline' : '\n' ∉ line := fun hmem => hline (List.mem_cons_of_mem _ hmem)
    by_cases hc : c = '\r'
    · subst hc
      have hnext : (line ++ rest).head? = some '\n' := hreturn rfl
      cases line with
      | nil => exact .inr ⟨rfl, hnext⟩
      | cons d line =>
        cases hnext
        exact absurd List.mem_cons_self hline'
    · rw [dropReturns_cons hc]
      exact (ih hpaired hline').imp (congrArg _) fun ⟨hlast, hrest⟩ => ⟨congrArg _ hlast, hrest⟩

/-- A line of a text with paired returns has no return, or one at its end before the line feed. -/
theorem PairedReturns.of_mem_splitLines {line : List Char} (h : PairedReturns text)
    (hline : line ∈ splitLines text) :
    line = dropReturns line ∨
      line = dropReturns line ++ ['\r'] ∧ dropReturns line ++ ['\r', '\n'] <:+: text := by
  obtain ⟨before, after, htext⟩ := @infix_of_mem_glue '\n' _ _ hline
  rw [splitLines, glue_cut, List.append_assoc] at htext
  subst htext
  refine (h.of_append.line (not_mem_of_mem_cut hline)).imp id fun ⟨hlast, hafter⟩ => ⟨hlast, ?_⟩
  obtain ⟨tail, rfl⟩ := List.head?_eq_some_iff.1 hafter
  refine ⟨before, tail, ?_⟩
  conv_rhs => rw [hlast]
  simp

/-! ## Returns at the end of a line -/

theorem strip_concat {p : Char → Bool} {c : Char} (hc : p c = true) (text : List Char) :
    strip p (text ++ [c]) = strip p text := by
  rw [strip, strip, List.dropWhile_append]
  split
  · rename_i hblank
    rw [List.isEmpty_iff.1 hblank, List.dropWhile_cons_of_pos hc, List.dropWhile_nil]
  · rw [List.reverse_append, List.reverse_singleton, List.singleton_append,
      List.dropWhile_cons_of_pos hc]

theorem contains_concat {needle : List Char} {c : Char} (hc : c ∉ needle) (hne : needle ≠ [])
    (text : List Char) : contains needle (text ++ [c]) = contains needle text := by
  rw [Bool.eq_iff_iff, contains_iff, contains_iff]
  constructor
  · rintro ⟨before, after, htext⟩
    rcases List.eq_nil_or_concat' after with rfl | ⟨rest, d, rfl⟩
    · rcases List.eq_nil_or_concat' needle with rfl | ⟨start, d, rfl⟩
      · exact absurd rfl hne
      · rw [List.append_nil, ← List.append_assoc] at htext
        obtain ⟨-, hcd⟩ := List.append_inj' htext rfl
        cases hcd
        exact absurd (by simp) hc
    · rw [← List.append_assoc] at htext
      exact ⟨before, rest, (List.append_inj' htext rfl).1⟩
  · rintro ⟨before, after, rfl⟩
    exact ⟨before, after ++ [c], by simp⟩

end Text

/-! ## Searching -/

namespace Pattern

open Text

variable {p : Pattern} {before before' : Option Char} {taken after text : List Char}

/-- The pattern takes no part of a line break apart: a single character is none, and a class that
holds the line feed holds the return. -/
def keepsBreaks : Pattern → Bool
  | fail | empty | boundary => true
  | char accepts => !accepts '\r' && !accepts '\n'
  | many accepts => !accepts '\n' || accepts '\r'
  | seq first second => first.keepsBreaks && second.keepsBreaks
  | either left right => left.keepsBreaks && right.keepsBreaks

theorem keepsBreaks_text {s : String} (h : '\r' ∉ s.toList ∧ '\n' ∉ s.toList) :
    (Pattern.text s).keepsBreaks = true := by
  rw [Pattern.text]
  generalize s.toList = chars at h
  induction chars with
  | nil => rfl
  | cons c chars ih =>
    simp only [List.mem_cons, not_or] at h
    have hfirst : (char (· == c)).keepsBreaks = true := by
      simp [keepsBreaks, h.1.1, h.2.1]
    exact Bool.and_eq_true_iff.2 ⟨hfirst, ih ⟨h.1.2, h.2.2⟩⟩

theorem keepsBreaks_anyOf {ps : List Pattern} (h : ∀ p ∈ ps, p.keepsBreaks = true) :
    (anyOf ps).keepsBreaks = true := by
  induction ps with
  | nil => rfl
  | cons p ps ih =>
    rw [List.forall_mem_cons] at h
    exact Bool.and_eq_true_iff.2 ⟨h.1, ih h.2⟩

theorem lastOf_suffix (before : Option Char) (taken rest : List Char) :
    (lastOf before taken).toList ++ rest <:+ before.toList ++ (taken ++ rest) := by
  rcases List.eq_nil_or_concat' taken with rfl | ⟨start, c, rfl⟩
  · simp
  · refine ⟨before.toList ++ start, ?_⟩
    simp [lastOf]

theorem lastOf_dropReturns (hbefore : before ≠ some '\r' → before' = before)
    (hlast : lastOf before taken ≠ some '\r') :
    lastOf before' (dropReturns taken) = lastOf before taken := by
  rcases List.eq_nil_or_concat' taken with rfl | ⟨start, c, rfl⟩
  · rw [dropReturns_nil, lastOf_nil, lastOf_nil] at *
    exact hbefore hlast
  · have hc : c ≠ '\r' := by
      rintro rfl
      simp [lastOf] at hlast
    have hdrop : dropReturns [c] = [c] := dropReturns_cons hc
    simp [lastOf, hdrop]

/-- Where a word goes on after a break, its return says nothing. -/
theorem isWord_head_dropReturns (h : PairedReturns after) :
    (dropReturns after).head?.any Text.isWord = after.head?.any Text.isWord := by
  cases after with
  | nil => rfl
  | cons c rest =>
    by_cases hc : c = '\r'
    · obtain ⟨tail, rfl⟩ := List.head?_eq_some_iff.1 (h.1 hc)
      subst hc
      rw [dropReturns_cons_return, dropReturns_cons (by decide)]
      exact (show Text.isWord '\n' = Text.isWord '\r' by decide)
    · rw [dropReturns_cons hc]
      rfl

/-- What a pattern describes it still describes without the returns. -/
theorem Matches.dropReturns (h : p.Matches before taken after) (hkeeps : p.keepsBreaks = true)
    (hpaired : PairedReturns (before.toList ++ (taken ++ after)))
    (hbefore : before ≠ some '\r' → before' = before) :
    p.Matches before' (dropReturns taken) (dropReturns after) := by
  induction p generalizing before before' taken after with
  | fail => exact h
  | empty =>
    cases h
    rfl
  | char accepts =>
    obtain ⟨c, hc, rfl⟩ := h
    have hreturn : c ≠ '\r' := by
      rintro rfl
      simp [keepsBreaks, hc] at hkeeps
    exact ⟨c, hc, dropReturns_cons hreturn⟩
  | boundary =>
    obtain ⟨rfl, hboundary⟩ := h
    refine ⟨rfl, ?_⟩
    rw [atBoundary] at hboundary ⊢
    have hafter : PairedReturns after := hpaired.of_append
    rw [isWord_head_dropReturns hafter]
    by_cases hreturn : before = some '\r'
    · -- between a return and its line feed there is no boundary
      subst hreturn
      obtain ⟨tail, rfl⟩ := List.head?_eq_some_iff.1 (hpaired.1 rfl)
      exact absurd hboundary (by simp [show Text.isWord '\r' = Text.isWord '\n' by decide])
    · rwa [hbefore hreturn]
  | seq first second ihfirst ihsecond =>
    rw [keepsBreaks, Bool.and_eq_true] at hkeeps
    obtain ⟨left, right, rfl, hleft, hright⟩ := h
    rw [List.append_assoc] at hpaired
    obtain ⟨above, hsuffix⟩ := lastOf_suffix before left (right ++ after)
    refine ⟨_, _, dropReturns_append, ?_, ?_⟩
    · rw [← dropReturns_append]
      exact ihfirst hleft hkeeps.1 hpaired hbefore
    · exact ihsecond hright hkeeps.2 (hsuffix ▸ hpaired).of_append
        (lastOf_dropReturns hbefore)
  | either left right ihleft ihright =>
    rw [keepsBreaks, Bool.and_eq_true] at hkeeps
    exact h.imp (fun h => ihleft h hkeeps.1 hpaired hbefore)
      fun h => ihright h hkeeps.2 hpaired hbefore
  | many accepts => exact fun c hc => h c (List.mem_filter.1 hc).1

/-- Where a text without its returns is cut, the text itself can be cut so that the returns come
after the cut. -/
theorem exists_cut {taken' after' : List Char} (hpaired : PairedReturns text)
    (htext : dropReturns text = taken' ++ after') :
    ∃ taken after, text = taken ++ after ∧ dropReturns taken = taken' ∧
      dropReturns after = after' ∧ taken.getLast? = taken'.getLast? ∧
      ('\r' ∈ taken → '\n' ∈ taken') := by
  induction text generalizing taken' with
  | nil =>
    obtain ⟨rfl, rfl⟩ := List.append_eq_nil_iff.1 htext.symm
    exact ⟨[], [], rfl, rfl, rfl, rfl, by simp⟩
  | cons c rest ih =>
    cases taken' with
    | nil => exact ⟨[], c :: rest, rfl, rfl, htext, rfl, by simp⟩
    | cons d taken' =>
      by_cases hc : c = '\r'
      · subst hc
        obtain ⟨taken, after, hrest, htaken, hafter, hlast, -⟩ := ih hpaired.2 htext
        obtain ⟨tail, rfl⟩ := List.head?_eq_some_iff.1 (hpaired.1 rfl)
        rw [dropReturns_cons_return, dropReturns_cons (by decide)] at htext
        obtain ⟨rfl, -⟩ := List.cons.inj htext
        refine ⟨'\r' :: taken, after, by rw [hrest]; rfl, htaken, hafter, ?_, by simp⟩
        cases taken with
        | nil => cases htaken
        | cons e taken => rw [List.getLast?_cons_cons, hlast]
      · rw [dropReturns_cons hc] at htext
        obtain ⟨rfl, hrest⟩ := List.cons.inj htext
        obtain ⟨taken, after, rfl, rfl, rfl, hlast, hbreak⟩ := ih hpaired.2 hrest
        refine ⟨c :: taken, after, rfl, dropReturns_cons hc, rfl, ?_, fun hmem => ?_⟩
        · rw [List.getLast?_cons, List.getLast?_cons, hlast]
        · exact List.mem_cons_of_mem _ (hbreak ((List.mem_cons.1 hmem).resolve_left (Ne.symm hc)))

/-- What a pattern describes in a text without its returns it describes in the text itself. -/
theorem Matches.of_dropReturns {taken' after' : List Char}
    (h : p.Matches before taken' after') (hkeeps : p.keepsBreaks = true)
    (hpaired : PairedReturns text) (htext : Text.dropReturns text = taken' ++ after') :
    ∃ taken after, text = taken ++ after ∧ Text.dropReturns taken = taken' ∧
      Text.dropReturns after = after' ∧ lastOf before taken = lastOf before taken' ∧
      p.Matches before taken after := by
  induction p generalizing before taken' after' text with
  | fail => exact h.elim
  | empty =>
    cases h
    exact ⟨[], text, rfl, rfl, htext, rfl, rfl⟩
  | char accepts =>
    obtain ⟨c, hc, rfl⟩ := h
    obtain ⟨taken, after, rfl, htaken, rfl, -, hbreak⟩ := exists_cut hpaired htext
    -- the character is no line feed, so no return stands before it
    have hreturn : '\r' ∉ taken := by
      intro hmem
      rw [← List.mem_singleton.1 (hbreak hmem)] at hc
      simp [keepsBreaks, hc] at hkeeps
    rw [dropReturns_of_not_mem hreturn] at htaken
    subst htaken
    exact ⟨[c], after, rfl, dropReturns_of_not_mem hreturn, rfl, rfl, c, hc, rfl⟩
  | boundary =>
    obtain ⟨rfl, hboundary⟩ := h
    refine ⟨[], text, rfl, rfl, htext, rfl, rfl, ?_⟩
    rw [List.nil_append] at htext
    rwa [atBoundary, ← isWord_head_dropReturns hpaired, htext]
  | seq first second ihfirst ihsecond =>
    rw [keepsBreaks, Bool.and_eq_true] at hkeeps
    obtain ⟨left', right', rfl, hleft, hright⟩ := h
    rw [List.append_assoc] at htext
    obtain ⟨left, rest, rfl, rfl, hrest, hlast, hfirst⟩ := ihfirst hleft hkeeps.1 hpaired htext
    obtain ⟨right, after, rfl, rfl, rfl, hlast', hsecond⟩ :=
      ihsecond hright hkeeps.2 hpaired.of_append hrest
    refine ⟨left ++ right, after, by simp, by simp, rfl, ?_, left, right, rfl, hfirst, ?_⟩
    · rw [← lastOf_append, hlast, hlast', lastOf_append]
    · rwa [hlast]
  | either left right ihleft ihright =>
    rw [keepsBreaks, Bool.and_eq_true] at hkeeps
    rcases h with h | h
    · obtain ⟨taken, after, hcut, htaken, hafter, hlast, hmatch⟩ := ihleft h hkeeps.1 hpaired htext
      exact ⟨taken, after, hcut, htaken, hafter, hlast, .inl hmatch⟩
    · obtain ⟨taken, after, hcut, htaken, hafter, hlast, hmatch⟩ :=
        ihright h hkeeps.2 hpaired htext
      exact ⟨taken, after, hcut, htaken, hafter, hlast, .inr hmatch⟩
  | many accepts =>
    obtain ⟨taken, after, rfl, rfl, rfl, hlast, hbreak⟩ := exists_cut hpaired htext
    refine ⟨taken, after, rfl, rfl, rfl, by rw [lastOf, lastOf, hlast], fun c hc => ?_⟩
    by_cases hreturn : c = '\r'
    · subst hreturn
      simpa [keepsBreaks, h _ (hbreak hc)] using hkeeps
    · exact h c (List.mem_filter.2 ⟨hc, by simpa using hreturn⟩)

/-- A pattern that takes no part of a break apart is found with and without the returns. -/
theorem search_dropReturns (hkeeps : p.keepsBreaks = true) (hpaired : PairedReturns text) :
    p.search (Text.dropReturns text) = p.search text := by
  rw [Bool.eq_iff_iff, search_iff, search_iff]
  constructor
  · rintro ⟨skipped', taken', after', htext, hmatch⟩
    obtain ⟨skipped, rest, rfl, rfl, hrest, hlast, -⟩ := exists_cut hpaired htext
    obtain ⟨taken, after, rfl, -, -, -, hmatch⟩ :=
      hmatch.of_dropReturns hkeeps hpaired.of_append hrest
    exact ⟨skipped, taken, after, rfl, by rwa [lastOf, hlast]⟩
  · rintro ⟨skipped, taken, after, rfl, hmatch⟩
    obtain ⟨above, hsuffix⟩ := lastOf_suffix none skipped (taken ++ after)
    refine ⟨_, _, _, by rw [dropReturns_append, dropReturns_append], ?_⟩
    exact hmatch.dropReturns hkeeps (hsuffix ▸ hpaired).of_append (lastOf_dropReturns fun _ => rfl)

end Pattern

end LineLint
