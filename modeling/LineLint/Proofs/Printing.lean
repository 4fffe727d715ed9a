import LineLint.Proofs.Messages

/-!
# Texts that fit on a line

A text of simple characters that is no longer than a line is printed as one line, which holds its
words with one space between them. Main statements: `Screen.lines_of_print` and
`Screen.print_eq_ok`.
-/

namespace LineLint

namespace Text

variable {text other rest : List Char} {c d : Char}

/-! ## Words with one space between them -/

/-- The words of a text with one space between them. -/
def tidy (text : List Char) : List Char := glue ' ' (words text)

/-- A text of words with one space between them. -/
structure IsTidy (text : List Char) : Prop where
  ne_nil : words text ≠ []
  tidy_eq : tidy text = text

instance (text : List Char) : Decidable (IsTidy text) :=
  decidable_of_iff (words text ≠ [] ∧ tidy text = text)
    ⟨fun ⟨hne, htidy⟩ => ⟨hne, htidy⟩, fun h => ⟨h.ne_nil, h.tidy_eq⟩⟩

theorem words_nil : words [] = [] := rfl

theorem words_blank (hc : isBlank c = true) (rest : List Char) :
    words (c :: rest) = words rest := by
  rw [words.eq_def]
  exact if_pos hc

theorem words_space (text : List Char) : words (' ' :: text) = words text :=
  words_blank (by decide) text

theorem words_last (hc : isBlank c = false) (hd : isBlank d = true) (rest : List Char) :
    words (c :: d :: rest) = [c] :: words (d :: rest) := by
  rw [words.eq_def]
  simp [hc, hd]

theorem words_more (hc : isBlank c = false) (hd : isBlank d = false) {w : List Char}
    {ws : List (List Char)} (h : words (d :: rest) = w :: ws) :
    words (c :: d :: rest) = (c :: w) :: ws := by
  rw [words.eq_def]
  simp [hc, hd, h]

theorem words_ne_nil (hc : isBlank c = false) (rest : List Char) : words (c :: rest) ≠ [] := by
  rw [words.eq_def]
  simp only [hc, Bool.false_eq_true, if_false]
  split
  · simp
  · split
    · simp
    · split <;> simp

theorem words_append_space (text other : List Char) :
    words (text ++ ' ' :: other) = words text ++ words other := by
  induction text with
  | nil => exact words_space other
  | cons c rest ih =>
    cases hc : isBlank c with
    | true => rw [List.cons_append, words_blank hc, words_blank hc, ih]
    | false =>
      cases rest with
      | nil =>
        have hone : words [c] = [[c]] := by
          rw [words.eq_def]
          simp [hc]
        rw [List.singleton_append, words_last hc (by decide), words_space, hone]
        rfl
      | cons d rest =>
        rw [List.cons_append, List.cons_append]
        cases hd : isBlank d with
        | true => rw [words_last hc hd, words_last hc hd, ← List.cons_append, ih, List.cons_append]
        | false =>
          obtain ⟨w, ws, hwords⟩ := List.exists_cons_of_ne_nil (words_ne_nil hd rest)
          have hall : words (d :: (rest ++ ' ' :: other)) = w :: (ws ++ words other) := by
            rw [← List.cons_append, ih, hwords, List.cons_append]
          rw [words_more hc hd hwords, words_more hc hd hall, List.cons_append]

theorem glue_ne_nil {separator : Char} (hne : text ≠ []) (pieces : List (List Char)) :
    glue separator (text :: pieces) ≠ [] := by
  cases pieces with
  | nil => exact hne
  | cons piece pieces => simp [glue]

theorem tidy_space (text : List Char) : tidy (' ' :: text) = tidy text := by
  rw [tidy, words_space, tidy]

theorem tidy_append (htext : words text ≠ []) (hother : words other ≠ []) :
    tidy (text ++ ' ' :: other) = tidy text ++ ' ' :: tidy other := by
  rw [tidy, words_append_space, glue_append htext hother, tidy, tidy]

theorem IsTidy.text_ne_nil (h : IsTidy text) : text ≠ [] := by
  intro hnil
  exact h.ne_nil (by rw [hnil, words_nil])

/-- Words stay as they are, and of the blanks between two texts one is left. -/
theorem IsTidy.append (htext : IsTidy text) (hother : IsTidy other) :
    IsTidy (text ++ ' ' :: other) := by
  constructor
  · rw [words_append_space]
    simp [htext.ne_nil]
  · rw [tidy_append htext.ne_nil hother.ne_nil, htext.tidy_eq, hother.tidy_eq]

/-- A single word is tidy. -/
theorem isTidy_of_word (hne : text ≠ []) (hword : ∀ c ∈ text, isBlank c = false) : IsTidy text := by
  have hwords : words text = [text] := by
    induction text with
    | nil => exact absurd rfl hne
    | cons c rest ih =>
      rw [List.forall_mem_cons] at hword
      cases rest with
      | nil =>
        rw [words.eq_def]
        simp [hword.1]
      | cons d rest =>
        have hd := hword.2 d List.mem_cons_self
        exact words_more hword.1 hd (ih (List.cons_ne_nil d rest) hword.2)
  exact ⟨by simp [hwords], by rw [tidy, hwords]; rfl⟩

end Text

namespace Screen

open Markup (MarkupError)

variable {text : List Char} {c : Char} {limit columns : ℕ} {t : StyledText}

/-! ## Simple characters -/

/-- A character of one column that neither ends a line nor belongs to a frame: those of ASCII and
the mark of a violation. -/
def IsSimple (c : Char) : Prop := (0x20 ≤ c.toNat ∧ c.toNat < 0x7F) ∨ c = '●'

theorem charWidth_of_isSimple (h : IsSimple c) : Text.charWidth c = 1 := by
  rcases h with ⟨hfirst, hlast⟩ | rfl
  · simp [Text.charWidth, hfirst, hlast]
  · -- The tables are searched as lists, which is much faster than as arrays.
    have hzero : Text.inRanges Text.zeroWidthRanges 0x25CF = false := by
      rw [Text.inRanges, ← Array.any_toList]
      decide +kernel
    have hdouble : Text.inRanges Text.doubleWidthRanges 0x25CF = false := by
      rw [Text.inRanges, ← Array.any_toList]
      decide +kernel
    simp [Text.charWidth, hzero, hdouble]

theorem IsSimple.ne (h : IsSimple c) {d : Char} (hd : d.toNat < 0x20 ∨ 0x7F ≤ d.toNat)
    (hmark : d ≠ '●') : c ≠ d := by
  rintro rfl
  rcases h with h | h
  · omega
  · exact hmark h

theorem not_isFrame_of_isSimple (h : IsSimple c) : isFrame c = false := by
  rcases h with ⟨hfirst, hlast⟩ | rfl
  · have hbelow : ¬0x2500 ≤ c.toNat := by omega
    simp [isFrame, hbelow]
  · decide

theorem widthFrom_of_simple (h : ∀ c ∈ text, IsSimple c) (n : ℕ) (last : Option Char) :
    Text.widthFrom n last text = n + text.length := by
  induction text generalizing n last with
  | nil => rfl
  | cons c rest ih =>
    rw [List.forall_mem_cons] at h
    have hjoiner : (c == Text.joiner) = false := by
      simpa using h.1.ne (d := Text.joiner) (by decide) (by decide)
    have hmark : (c == Text.emojiMark) = false := by
      simpa using h.1.ne (d := Text.emojiMark) (by decide) (by decide)
    cases rest with
    | nil => simp [Text.widthFrom, hjoiner, hmark, charWidth_of_isSimple h.1]
    | cons d rest =>
      rw [Text.widthFrom]
      simp only [hjoiner, hmark, charWidth_of_isSimple h.1, Bool.false_eq_true, if_false]
      rw [ih h.2]
      simp only [List.length_cons]
      omega

theorem width_of_simple (h : ∀ c ∈ text, IsSimple c) : Text.width text = text.length := by
  rw [Text.width, widthFrom_of_simple h, Nat.zero_add]

/-! ## Breaking -/

theorem flatten_wordsWithBlanks (fuel : ℕ) (line : List Char) :
    (wordsWithBlanks fuel line).flatten <+: line := by
  induction fuel generalizing line with
  | zero => exact List.nil_prefix
  | succ fuel ih =>
    rw [wordsWithBlanks]
    simp only [List.span_eq_takeWhile_dropWhile]
    split
    · exact List.nil_prefix
    · obtain ⟨more, hmore⟩ := ih (((line.dropWhile Text.isBlank).dropWhile
        (!Text.isBlank ·)).dropWhile Text.isBlank)
      refine ⟨more, ?_⟩
      rw [List.flatten_cons, List.append_assoc, hmore, List.append_assoc,
        List.takeWhile_append_dropWhile, List.append_assoc, List.takeWhile_append_dropWhile,
        List.takeWhile_append_dropWhile]

theorem dropEndBlanks_sublist (text : List Char) : (dropEndBlanks text).Sublist text := by
  rw [dropEndBlanks, ← List.reverse_sublist, List.reverse_reverse]
  exact List.dropWhile_sublist _

/-- Words that have room on the current line are all put there. -/
theorem foldl_putWord {words : List (List Char)} (hsimple : ∀ c ∈ words.flatten, IsSimple c)
    (overflow : Overflow) (b : Breaking) (hroom : b.used + words.flatten.length ≤ limit) :
    (words.foldl (Breaking.putWord limit overflow) b).breaks = b.breaks := by
  induction words generalizing b with
  | nil => rfl
  | cons word rest ih =>
    rw [List.flatten_cons, List.length_append] at hroom
    rw [List.flatten_cons, List.forall_mem_append] at hsimple
    have hshort := dropEndBlanks_sublist word
    have hneeded : Text.width (dropEndBlanks word) ≤ word.length := by
      rw [width_of_simple fun c hc => hsimple.1 c (hshort.subset hc)]
      exact hshort.length_le
    have hput : b.putWord limit overflow word = b.put word := by
      rw [Breaking.putWord.eq_def]
      exact if_pos (by omega)
    rw [List.foldl_cons, hput]
    refine ih hsimple.2 (b.put word) ?_
    simp only [Breaking.put, width_of_simple hsimple.1]
    omega

/-- A text that has room on a line is not broken. -/
theorem breaks_of_simple (h : ∀ c ∈ text, IsSimple c) (overflow : Overflow)
    (hfits : text.length ≤ limit) : breaks limit overflow text = [] := by
  have hstart := flatten_wordsWithBlanks text.length text
  have hroom : (wordsWithBlanks text.length text).flatten.length ≤ limit :=
    hstart.length_le.trans hfits
  have hplaced := foldl_putWord (fun c hc => h c (hstart.subset hc)) overflow {}
    (by simpa using hroom)
  rw [breaks, hplaced]
  rfl

theorem placesOf_of_not_mem (h : c ∉ text) : StyledText.placesOf c text = [] := by
  rw [StyledText.placesOf, List.filterMap_eq_nil_iff]
  rintro ⟨i, d⟩ hmem
  have hd : d ∈ text := (List.of_mem_zip hmem).2
  have hne : ¬(d == c) = true := by
    rw [beq_iff_eq]
    rintro rfl
    exact h hd
  exact if_neg hne

theorem wrap_of_simple (h : ∀ c ∈ t.text, IsSimple c) (overflow : Overflow)
    (hfits : t.text.length ≤ limit) : t.wrap limit overflow = [t] := by
  have hbreak : '\n' ∉ t.text := fun hmem => (h _ hmem).ne (.inl (by decide)) (by decide) rfl
  have htab : '\t' ∉ t.text := fun hmem => (h _ hmem).ne (.inl (by decide)) (by decide) rfl
  have hline : t.lines = [t] := by
    have hkept : (t.text != ['\n']) = true := by
      rw [bne_iff_ne]
      intro heq
      exact hbreak (heq ▸ List.mem_singleton_self _)
    rw [StyledText.lines, placesOf_of_not_mem hbreak]
    simp [StyledText.divide, hkept]
  have htabs : t.expandTabs = t := by
    rw [StyledText.expandTabs, if_neg (by simpa using htab)]
  have htrim : t.trimEnd limit = t := by
    rw [StyledText.trimEnd, StyledText.before, if_neg (by omega)]
  have hwhole : t.truncate limit overflow = t := by
    rw [StyledText.truncate.eq_def, if_pos (by rwa [width_of_simple h])]
  rw [StyledText.wrap, hline]
  simp [htabs, breaks_of_simple h overflow hfits, StyledText.divide, htrim, hwhole]

/-! ## Printing -/

theorem flatten_segmentsFrom (first : ℕ) (text : List Char) (places : List ℕ) :
    (StyledText.segmentsFrom first text places).flatten = text := by
  induction places generalizing first text with
  | nil => exact List.append_nil text
  | cons place places ih =>
    rw [StyledText.segmentsFrom]
    split
    · exact ih first text
    · rw [List.splitAt_eq]
      dsimp only
      rw [List.flatten_cons, ih, List.take_append_drop]

theorem sum_width_of_simple {segments : List (List Char)} (h : ∀ c ∈ segments.flatten, IsSimple c)
    (n : ℕ) : (segments.map Text.width).foldl (· + ·) n = n + segments.flatten.length := by
  induction segments generalizing n with
  | nil => rfl
  | cons segment rest ih =>
    rw [List.flatten_cons, List.forall_mem_append] at h
    rw [List.map_cons, List.foldl_cons, ih h.2, width_of_simple h.1, List.flatten_cons,
      List.length_append, Nat.add_assoc]

theorem showSegments_of_simple (h : ∀ c ∈ t.text, IsSimple c) (hfits : t.text.length ≤ columns) :
    showSegments columns t.segments = t.text := by
  have hflat : t.segments.flatten = t.text := flatten_segmentsFrom 0 t.text t.borders
  have hsum : (t.segments.map Text.width).foldl (· + ·) 0 = t.text.length := by
    rw [sum_width_of_simple (by rwa [hflat]), hflat, Nat.zero_add]
  rw [showSegments, if_pos (by rwa [hsum]), hflat]

theorem plainLine_of_simple (h : ∀ c ∈ text, IsSimple c) : plainLine text = Text.tidy text := by
  have hsame : text.map (fun c => if isFrame c then ' ' else c) = text := by
    refine (List.map_congr_left fun c hc => ?_).trans (List.map_id text)
    simp [not_isFrame_of_isSimple (h c hc)]
  rw [plainLine, hsame, Text.tidy]

/-- A text that fits on a line is printed as its words with one space between them. -/
theorem lines_of_print {markup : String} {lines : List String}
    (hrender : Markup.render markup.toList = .ok t) (h : ∀ c ∈ t.text, IsSimple c)
    (hfits : t.text.length ≤ columns) (hne : Text.tidy t.text ≠ [])
    (hprint : printWithin columns markup = .ok lines) :
    lines = [String.ofList (Text.tidy t.text)] := by
  rw [printWithin, hrender] at hprint
  simp only [bind, Except.bind, wrap_of_simple h .fold hfits, showLines] at hprint
  split at hprint
  · cases hprint
  · rename_i shown hshown
    split at hshown
    · cases hshown
    · cases hshown
      cases hprint
      simp [plainLines, showSegments_of_simple h hfits, plainLine_of_simple h, hne]

/-- A text without parentheses in its styles that fits on a line is printed. -/
theorem print_eq_ok {markup : String} (hrender : Markup.render markup.toList = .ok t)
    (hstyles : t.StyledIn ('(' ∉ ·)) (h : ∀ c ∈ t.text, IsSimple c)
    (hfits : t.text.length ≤ columns) (hne : Text.tidy t.text ≠ []) :
    printWithin columns markup = .ok [String.ofList (Text.tidy t.text)] := by
  obtain ⟨lines, hprint⟩ := printWithin_eq_ok columns hrender hstyles
  rw [hprint, lines_of_print hrender h hfits hne hprint]

end Screen

end LineLint
