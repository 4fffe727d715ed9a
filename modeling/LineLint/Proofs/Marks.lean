import LineLint.Proofs.Messages
import LineLint.Proofs.Results

/-!
# Text with marks

A mark is a text in one style: a tag that opens the style, the text, and the tag that closes it. The
tags of a text are found one by one, and whatever stands before a tag is taken apart as if it stood
alone. Main statements: `pieces_split`, and `render_marks`, which says what is shown of a line of
marks.
-/

namespace LineLint.Markup

open Screen (StyledText)

variable {text content before after rest name : List Char} {c : Char}

/-! ## Tags -/

/-- What can stand between the brackets of a tag. -/
structure IsTag (content : List Char) : Prop where
  start : content.head?.any startsTag = true
  no_open : '[' ∉ content
  no_close : ']' ∉ content

instance (content : List Char) : Decidable (IsTag content) :=
  decidable_of_iff (content.head?.any startsTag = true ∧ '[' ∉ content ∧ ']' ∉ content)
    ⟨fun ⟨hstart, hopen, hclose⟩ => ⟨hstart, hopen, hclose⟩,
      fun h => ⟨h.start, h.no_open, h.no_close⟩⟩

/-- A tag stands somewhere in a text. -/
def HoldsTag (text : List Char) : Prop :=
  ∃ before content after, IsTag content ∧ text = before ++ '[' :: (content ++ ']' :: after)

theorem not_holdsTag_of_not_mem (h : '[' ∉ text) : ¬HoldsTag text := by
  rintro ⟨before, content, after, -, rfl⟩
  simp at h

theorem span_content (hopen : '[' ∉ content) (hclose : ']' ∉ content) (after : List Char) :
    (content ++ ']' :: after).span (fun d => d != '[' && d != ']') = (content, ']' :: after) := by
  have hinside : ∀ d ∈ content, (d != '[' && d != ']') = true := by
    intro d hd
    simp only [Bool.and_eq_true, bne_iff_ne]
    exact ⟨fun heq => hopen (heq ▸ hd), fun heq => hclose (heq ▸ hd)⟩
  rw [List.span_eq_takeWhile_dropWhile, List.takeWhile_append_of_pos hinside,
    List.dropWhile_append_of_pos hinside]
  simp

theorem tagAt?_eq_some_iff : tagAt? text = some (content, after) ↔
    IsTag content ∧ text = '[' :: (content ++ ']' :: after) := by
  constructor
  · intro h
    have htext := tagAt?_eq_some h
    refine ⟨?_, by simpa using htext⟩
    rw [tagAt?.eq_def] at h
    split at h
    · rename_i c rest
      rw [Option.ite_none_right_eq_some] at h
      obtain ⟨hstart, h⟩ := h
      split at h
      · rename_i inside remains hspan
        simp only [Option.some.injEq, Prod.mk.injEq] at h
        obtain ⟨rfl, rfl⟩ := h
        rw [List.span_eq_takeWhile_dropWhile, Prod.mk.injEq] at hspan
        have hinside : ∀ d ∈ inside, (d != '[' && d != ']') = true := by
          intro d hd
          rw [← hspan.1] at hd
          have hkept := List.mem_takeWhile_imp hd
          exact hkept
        refine ⟨by simpa using hstart, ?_, ?_⟩
        · intro hmem
          rcases List.mem_cons.1 hmem with rfl | hmem
          · exact absurd hstart (by decide)
          · exact absurd (hinside _ hmem) (by decide)
        · intro hmem
          rcases List.mem_cons.1 hmem with rfl | hmem
          · exact absurd hstart (by decide)
          · exact absurd (hinside _ hmem) (by decide)
      · cases h
    · cases h
  · rintro ⟨htag, rfl⟩
    cases content with
    | nil => exact absurd htag.start (by decide)
    | cons c inside =>
      have hstart : startsTag c = true := by simpa using htag.start
      have hspan := span_content (fun hmem => htag.no_open (List.mem_cons_of_mem c hmem))
        (fun hmem => htag.no_close (List.mem_cons_of_mem c hmem)) after
      rw [List.cons_append, tagAt?, if_pos hstart, hspan]
      rfl

theorem holdsTag_cons : HoldsTag (c :: rest) ↔ (tagAt? (c :: rest)).isSome ∨ HoldsTag rest := by
  constructor
  · rintro ⟨before, content, after, htag, htext⟩
    cases before with
    | nil =>
      have hfound := tagAt?_eq_some_iff.2 ⟨htag, htext⟩
      exact .inl (by rw [hfound]; rfl)
    | cons d before =>
      obtain ⟨rfl, hrest⟩ := List.cons.inj htext
      exact .inr ⟨before, content, after, htag, hrest⟩
  · rintro (hfound | ⟨before, content, after, htag, rfl⟩)
    · obtain ⟨⟨content, after⟩, hfound⟩ := Option.isSome_iff_exists.1 hfound
      obtain ⟨htag, htext⟩ := tagAt?_eq_some_iff.1 hfound
      exact ⟨[], content, after, htag, htext⟩
    · exact ⟨c :: before, content, after, htag, rfl⟩

/-- Whether a text holds a tag is found out by looking at each of its ends. -/
def decideHoldsTag : (text : List Char) → Decidable (HoldsTag text)
  | [] => isFalse (not_holdsTag_of_not_mem List.not_mem_nil)
  | _ :: rest =>
    have := decideHoldsTag rest
    decidable_of_iff _ holdsTag_cons.symm

instance : DecidablePred HoldsTag := decideHoldsTag

/-- A tag ends before the next opening bracket. -/
theorem tagAt?_append (hne : text ≠ []) (rest : List Char) : tagAt? (text ++ '[' :: rest) =
    (tagAt? text).map fun found => (found.1, found.2 ++ '[' :: rest) := by
  ext ⟨content, after⟩
  rw [tagAt?_eq_some_iff, Option.map_eq_some_iff]
  constructor
  · rintro ⟨htag, htext⟩
    cases text with
    | nil => exact absurd rfl hne
    | cons c text =>
      obtain ⟨rfl, hinner⟩ := List.cons.inj htext
      rcases List.append_eq_append_iff.1 hinner with ⟨more, hcontent, hmore⟩ | ⟨more, rfl, hmore⟩
      · -- then the next opening bracket would lie in the tag
        cases more with
        | nil => cases hmore
        | cons d more =>
          obtain ⟨rfl, -⟩ := List.cons.inj hmore
          exact absurd (by simp [hcontent]) htag.no_open
      · cases more with
        | nil => cases hmore
        | cons d more =>
          obtain ⟨rfl, rfl⟩ := List.cons.inj hmore
          exact ⟨(content, more), tagAt?_eq_some_iff.2 ⟨htag, rfl⟩, rfl⟩
  · rintro ⟨⟨content', after'⟩, hfound, heq⟩
    obtain ⟨htag, rfl⟩ := tagAt?_eq_some_iff.1 hfound
    cases heq
    exact ⟨htag, by simp⟩

/-! ## Pieces -/

theorem piecesFrom_cons (hc : c ≠ '\\') (fuel : ℕ) : piecesFrom (fuel + 1) (c :: rest) =
    match tagAt? (c :: rest) with
    | some (content, after) => .tag 0 content :: piecesFrom fuel after
    | none => .text [c] :: piecesFrom fuel rest := by
  have hspan : (c :: rest).span (· == '\\') = ([], c :: rest) := by
    simp [List.span_eq_takeWhile_dropWhile, hc]
  rw [piecesFrom, hspan]
  rfl

/-- Only the length of a text decides how much fuel its pieces take. -/
theorem piecesFrom_eq_pieces (hplain : '\\' ∉ text) {fuel : ℕ} (hfuel : text.length < fuel) :
    piecesFrom fuel text = pieces text := by
  have hsame : ∀ (fuel more : ℕ) (text : List Char), '\\' ∉ text → text.length < fuel →
      text.length < more → piecesFrom fuel text = piecesFrom more text := by
    intro fuel
    induction fuel with
    | zero =>
      intro more text _ hfuel
      omega
    | succ fuel ih =>
      intro more text hplain hfuel hmore
      obtain ⟨more, rfl⟩ := Nat.exists_eq_add_one.2 (Nat.zero_lt_of_lt hmore)
      cases text with
      | nil => rfl
      | cons c rest =>
        simp only [List.mem_cons, not_or, List.length_cons] at hplain hfuel hmore
        rw [piecesFrom_cons (Ne.symm hplain.1), piecesFrom_cons (Ne.symm hplain.1)]
        split
        · rename_i content after htag
          obtain ⟨-, htext⟩ := tagAt?_eq_some_iff.1 htag
          obtain ⟨rfl, hrest⟩ := List.cons.inj htext
          have hafter : '\\' ∉ after := fun hmem => hplain.2 (by simp [hrest, hmem])
          have hlength : after.length < rest.length := by
            simp only [hrest, List.length_append, List.length_cons]
            omega
          rw [ih more after hafter (by omega) (by omega)]
        · rw [ih more rest hplain.2 (by omega) (by omega)]
  exact hsame _ _ text hplain hfuel (Nat.lt_succ_self _)

theorem pieces_tag (htag : IsTag content) (hplain : '\\' ∉ after) :
    pieces ('[' :: (content ++ ']' :: after)) = .tag 0 content :: pieces after := by
  have hfound := tagAt?_eq_some_iff.2 ⟨htag, Eq.refl ('[' :: (content ++ ']' :: after))⟩
  rw [pieces, piecesFrom_cons (by decide), hfound]
  simp only
  rw [piecesFrom_eq_pieces hplain (by simp only [List.length_cons, List.length_append]; omega)]

theorem pieces_char (hplain : '\\' ∉ c :: rest) (hnone : tagAt? (c :: rest) = none) :
    pieces (c :: rest) = .text [c] :: pieces rest := by
  simp only [List.mem_cons, not_or] at hplain
  rw [pieces, piecesFrom_cons (Ne.symm hplain.1), hnone]
  simp only
  rw [piecesFrom_eq_pieces hplain.2 (by simp)]

/-- What stands before a tag is taken apart as if it stood alone. -/
theorem pieces_split (htag : IsTag content) (hbefore : '\\' ∉ before) (hafter : '\\' ∉ after)
    (hcontent : '\\' ∉ content) :
    pieces (before ++ '[' :: (content ++ ']' :: after)) =
      pieces before ++ .tag 0 content :: pieces after := by
  -- a tag takes several characters at once, so the induction is on the length
  induction hn : before.length using Nat.strongRecOn generalizing before with
  | ind n ih =>
    cases before with
    | nil => exact pieces_tag htag hafter
    | cons c before =>
      have hsplit := tagAt?_append (List.cons_ne_nil c before) (content ++ ']' :: after)
      cases hfound : tagAt? (c :: before) with
      | none =>
        rw [hfound, Option.map_none] at hsplit
        have hplain : '\\' ∉ c :: (before ++ '[' :: (content ++ ']' :: after)) := by
          simp_all
        rw [List.cons_append] at hsplit ⊢
        rw [pieces_char hplain hsplit, pieces_char hbefore hfound, List.cons_append,
          ih before.length (by simp [← hn]) (by simp_all) rfl]
      | some found =>
        obtain ⟨inside, remains⟩ := found
        obtain ⟨hinside, htext⟩ := tagAt?_eq_some_iff.1 hfound
        rw [htext] at hbefore ⊢
        have hremains : '\\' ∉ remains := by simp_all
        have hshort : remains.length < n := by
          rw [← hn, htext]
          simp only [List.length_cons, List.length_append]
          omega
        have hplain : '\\' ∉ remains ++ '[' :: (content ++ ']' :: after) := by simp_all
        rw [List.cons_append, List.append_assoc, List.cons_append, pieces_tag hinside hplain,
          pieces_tag hinside hremains, List.cons_append, ih remains.length hshort hremains rfl]

/-- A text without tags is only text. -/
theorem pieces_of_not_holdsTag (hplain : '\\' ∉ text) (h : ¬HoldsTag text) :
    pieces text = text.map fun c => .text [c] := by
  induction text with
  | nil => rfl
  | cons c text ih =>
    rw [holdsTag_cons, not_or, Option.not_isSome_iff_eq_none] at h
    obtain ⟨hnone, hrest⟩ := h
    rw [pieces_char hplain hnone, List.map_cons,
      ih (fun hmem => hplain (List.mem_cons_of_mem c hmem)) hrest]

/-! ## Marks -/

/-- A text in one style, and the text up to the next mark. -/
structure Mark where
  name : List Char
  inside : List Char
  after : List Char

namespace Mark

/-- A mark as it is written. -/
def markup (m : Mark) : List Char :=
  '[' :: (m.name ++ ']' :: (m.inside ++ '[' :: ('/' :: m.name ++ ']' :: m.after)))

def pieces (m : Mark) : List Piece :=
  .tag 0 m.name :: (m.inside.map (fun c => .text [c]) ++
    .tag 0 ('/' :: m.name) :: m.after.map fun c => .text [c])

/-- What is shown of a mark. -/
def shown (m : Mark) : List Char := shownText m.inside ++ shownText m.after

end Mark

/-- The name of a style that can be opened and closed. -/
structure IsStyleName (name : List Char) : Prop where
  tag : IsTag name
  no_slash : name.head? ≠ some '/'
  no_equals : '=' ∉ name
  no_call : '(' ∉ name
  no_escape : '\\' ∉ name
  trimmed : Text.trim name = name

instance (name : List Char) : Decidable (IsStyleName name) :=
  decidable_of_iff (IsTag name ∧ name.head? ≠ some '/' ∧ '=' ∉ name ∧ '(' ∉ name ∧
      '\\' ∉ name ∧ Text.trim name = name)
    ⟨fun ⟨htag, hslash, hequals, hcall, hescape, htrim⟩ =>
        ⟨htag, hslash, hequals, hcall, hescape, htrim⟩,
      fun h => ⟨h.tag, h.no_slash, h.no_equals, h.no_call, h.no_escape, h.trimmed⟩⟩

theorem IsStyleName.closing (h : IsStyleName name) : IsTag ('/' :: name) :=
  ⟨rfl, by simpa using h.tag.no_open, by simpa using h.tag.no_close⟩

/-- A text that stands for itself between tags. -/
structure IsBare (text : List Char) : Prop where
  no_tag : ¬HoldsTag text
  no_escape : '\\' ∉ text

theorem isBare_of_not_mem (hopen : '[' ∉ text) (hescape : '\\' ∉ text) : IsBare text :=
  ⟨not_holdsTag_of_not_mem hopen, hescape⟩

theorem isBare_blanks (n : ℕ) : IsBare (List.replicate n ' ') :=
  isBare_of_not_mem (by simp) (by simp)

/-- A mark of a style, with texts that stand for themselves. -/
structure Mark.IsPlain (m : Mark) : Prop where
  name : IsStyleName m.name
  inside : IsBare m.inside
  after : IsBare m.after

theorem no_escape_markup {marks : List Mark} (h : ∀ m ∈ marks, m.IsPlain) :
    '\\' ∉ marks.flatMap Mark.markup := by
  intro hmem
  obtain ⟨m, hm, hmem⟩ := List.mem_flatMap.1 hmem
  have hplain := h m hm
  simp [Mark.markup, hplain.name.no_escape, hplain.inside.no_escape, hplain.after.no_escape] at hmem

theorem pieces_marks {lead : List Char} {marks : List Mark} (hlead : IsBare lead)
    (h : ∀ m ∈ marks, m.IsPlain) : pieces (lead ++ marks.flatMap Mark.markup) =
      lead.map (fun c => .text [c]) ++ marks.flatMap Mark.pieces := by
  induction marks generalizing lead with
  | nil =>
    rw [List.flatMap_nil, List.flatMap_nil, List.append_nil, List.append_nil]
    exact pieces_of_not_holdsTag hlead.no_escape hlead.no_tag
  | cons m marks ih =>
    rw [List.forall_mem_cons] at h
    obtain ⟨hm, hmarks⟩ := h
    have hrest := no_escape_markup hmarks
    have hslash : '\\' ∉ '/' :: m.name := by simpa using hm.name.no_escape
    have hafter : '\\' ∉ m.after ++ marks.flatMap Mark.markup := by
      simp [hm.after.no_escape, hrest]
    have hinside : '\\' ∉ m.inside ++ '[' :: ('/' :: m.name ++ ']' ::
        (m.after ++ marks.flatMap Mark.markup)) := by
      simpa [hm.inside.no_escape, hm.name.no_escape] using hafter
    have htext : lead ++ (m :: marks).flatMap Mark.markup =
        lead ++ '[' :: (m.name ++ ']' :: (m.inside ++ '[' :: ('/' :: m.name ++ ']' ::
          (m.after ++ marks.flatMap Mark.markup)))) := by
      simp [Mark.markup]
    rw [htext, pieces_split hm.name.tag hlead.no_escape hinside hm.name.no_escape,
      pieces_split hm.name.closing hm.inside.no_escape hafter hslash,
      pieces_of_not_holdsTag hlead.no_escape hlead.no_tag,
      pieces_of_not_holdsTag hm.inside.no_escape hm.inside.no_tag, ih hm.after hmarks]
    simp [Mark.pieces]

/-! ## Showing marks -/

@[simp] theorem shownText_nil : shownText [] = [] := rfl

/-- What is seen of a canvas once the text since the last tag is shown. -/
def Canvas.visible (c : Canvas) : List Char := c.shown.reverse ++ shownText c.plain.reverse

theorem shown_complete (c : Canvas) : c.complete.shown.reverse = c.visible := by
  have hpaint : ∀ (tags : List OpenTag) (c : Canvas),
      (tags.foldl Canvas.paint c).shown = c.shown := by
    intro tags
    induction tags with
    | nil => exact fun _ => rfl
    | cons tag tags ih => exact fun c => ih (c.paint tag)
  rw [Canvas.complete, hpaint, Canvas.visible]
  simp [Canvas.flush, Canvas.put]

theorem foldlM_text (c : Canvas) (text : List Char) :
    (text.map fun d => Piece.text [d]).foldlM Canvas.step c =
      .ok { c with plain := text.reverse ++ c.plain } := by
  induction text generalizing c with
  | nil => rfl
  | cons d text ih =>
    rw [List.map_cons, List.foldlM_cons]
    have hrest := ih { c with plain := d :: c.plain }
    refine hrest.trans ?_
    simp

/-- The end of a style without parameters gives what stands in it a style without parentheses. -/
theorem finish_eq_ok (c : Canvas) {standard : List Char} (hstandard : '(' ∉ standard)
    (start : ℕ) : ∃ style, '(' ∉ style ∧ c.finish ⟨standard, none, start⟩ =
      .ok { c with
        opened := c.opened.erase ⟨standard, none, start⟩
        spans := ⟨start, c.length, style⟩ :: c.spans } := by
  rw [Canvas.finish]
  dsimp only
  split
  · exact ⟨standard, hstandard, rfl⟩
  · exact ⟨[], List.not_mem_nil, rfl⟩

/-- A mark adds what it shows and leaves no style open. -/
theorem foldlM_shown {c : Canvas} {m : Mark} (hm : m.IsPlain) (hopened : c.opened = [])
    (hspans : ∀ s ∈ c.spans, '(' ∉ s.style) :
    ∃ c' : Canvas, m.pieces.foldlM Canvas.step c = .ok c' ∧ c'.opened = [] ∧
      (∀ s ∈ c'.spans, '(' ∉ s.style) ∧ c'.visible = c.visible ++ m.shown := by
  obtain ⟨standard, hnormal, hstandard⟩ := Screen.Style.normalize_eq_ok hm.name.no_call
  have hne : m.name ≠ [] := by
    intro hnil
    have hstart := hm.name.tag.start
    rw [hnil] at hstart
    cases hstart
  let first : Canvas := c.flush.put []
  let opening : Canvas := { first with opened := ⟨standard, none, first.length⟩ :: first.opened }
  have hopen : c.step (.tag 0 m.name) = .ok opening :=
    apply_open hm.name.no_equals hnormal hm.name.no_slash first
  let second : Canvas := Canvas.put
    (Canvas.flush { opening with plain := m.inside.reverse ++ opening.plain }) []
  have hone : second.opened = [⟨standard, none, first.length⟩] :=
    congrArg (List.cons _) hopened
  obtain ⟨style, hstyle, hfinish⟩ := finish_eq_ok second hstandard first.length
  have hclose : Canvas.step { opening with plain := m.inside.reverse ++ opening.plain }
      (.tag 0 ('/' :: m.name)) = second.finish ⟨standard, none, first.length⟩ :=
    apply_close hm.name.no_equals hnormal hne hm.name.trimmed hone
  let closed : Canvas := { second with
    opened := second.opened.erase ⟨standard, none, first.length⟩
    spans := ⟨first.length, second.length, style⟩ :: second.spans }
  refine ⟨{ closed with plain := m.after.reverse ++ closed.plain }, ?_, ?_, ?_, ?_⟩
  · rw [Mark.pieces, List.foldlM_cons, hopen]
    change List.foldlM Canvas.step opening _ = _
    rw [List.foldlM_append, foldlM_text]
    change List.foldlM Canvas.step _ _ = _
    rw [List.foldlM_cons, hclose, hfinish]
    exact foldlM_text closed m.after
  · simp [closed, hone]
  · exact List.forall_mem_cons.2 ⟨hstyle, hspans⟩
  · simp [closed, second, opening, first, Canvas.visible, Canvas.flush, Canvas.put, Mark.shown]

/-- A line of marks shows its texts one after the other. -/
theorem render_marks {lead : List Char} {marks : List Mark} (hlead : IsBare lead)
    (h : ∀ m ∈ marks, m.IsPlain) : ∃ t, render (lead ++ marks.flatMap Mark.markup) = .ok t ∧
      t.StyledIn ('(' ∉ ·) ∧ t.text = shownText lead ++ marks.flatMap Mark.shown := by
  have hmarks : ∀ c : Canvas, c.opened = [] → (∀ s ∈ c.spans, '(' ∉ s.style) →
      ∃ c' : Canvas, (marks.flatMap Mark.pieces).foldlM Canvas.step c = .ok c' ∧ c'.IsPlain ∧
        c'.visible = c.visible ++ marks.flatMap Mark.shown := by
    induction marks with
    | nil =>
      intro c hopened hspans
      exact ⟨c, rfl, ⟨by simp [hopened], hspans⟩, by simp⟩
    | cons m marks ih =>
      intro c hopened hspans
      rw [List.forall_mem_cons] at h
      obtain ⟨next, hfirst, hopened, hspans, hvisible⟩ := foldlM_shown h.1 hopened hspans
      obtain ⟨last, hrest, hlast, hall⟩ := ih h.2 next hopened hspans
      refine ⟨last, ?_, hlast, by rw [hall, hvisible, List.flatMap_cons, List.append_assoc]⟩
      rw [List.flatMap_cons, List.foldlM_append, hfirst]
      exact hrest
  obtain ⟨c, hfold, hc, hvisible⟩ := hmarks { plain := lead.reverse } rfl (by simp)
  have hall : (pieces (lead ++ marks.flatMap Mark.markup)).foldlM Canvas.step {} = .ok c := by
    rw [pieces_marks hlead h, List.foldlM_append, foldlM_text, List.append_nil]
    exact hfold
  refine ⟨⟨c.complete.shown.reverse, c.complete.spans⟩, ?_, spans_complete hc, ?_⟩
  · rw [render, hall]
    rfl
  · rw [shown_complete, hvisible]
    simp [Canvas.visible]

/-! ## Texts that are shown as they are -/

/-- Every colon of a text is followed by a blank. -/
def isSpaced : List Char → Bool
  | [] => true
  | c :: rest => (c != ':' || rest.head?.any Text.isBlank) && isSpaced rest

theorem isSpaced_append {other : List Char} (htext : isSpaced text = true)
    (hother : isSpaced other = true) : isSpaced (text ++ other) = true := by
  induction text with
  | nil => exact hother
  | cons c rest ih =>
    simp only [isSpaced, Bool.and_eq_true] at htext
    rw [List.cons_append, isSpaced, ih htext.2, Bool.and_true]
    cases rest with
    | nil =>
      have hcolon : (c != ':') = true := by simpa using htext.1
      rw [hcolon, Bool.true_or]
    | cons d rest => exact htext.1

theorem isSpaced_of_not_mem (h : ':' ∉ text) : isSpaced text = true := by
  induction text with
  | nil => rfl
  | cons c rest ih =>
    simp only [List.mem_cons, not_or] at h
    simp [isSpaced, Ne.symm h.1, ih h.2]

theorem name?_blank (hc : Text.isBlank c = true) (rest : List Char) :
    Screen.Emoji.name? (c :: rest) = none := by
  have hdash : '-' ≠ c := by
    rintro rfl
    exact absurd hc (by decide)
  have hcolon : ':' ≠ c := by
    rintro rfl
    exact absurd hc (by decide)
  have hending : Screen.Emoji.ending? (c :: rest) = none := by
    simp [Screen.Emoji.ending?, Screen.Emoji.endings, hdash, hcolon]
  rw [Screen.Emoji.name?, hending]
  exact if_pos hc

/-- No name of an emoji starts with a blank. -/
theorem replace_eq_self (h : isSpaced text = true) : Screen.Emoji.replace text = text := by
  have hfrom : ∀ (fuel : ℕ) (text : List Char), isSpaced text = true →
      Screen.Emoji.replaceFrom fuel text = text := by
    intro fuel
    induction fuel with
    | zero => exact fun _ _ => rfl
    | succ fuel ih =>
      intro text h
      cases text with
      | nil => rfl
      | cons c rest =>
        simp only [isSpaced, Bool.and_eq_true] at h
        by_cases hc : c = ':'
        · cases rest with
          | nil => simp [hc] at h
          | cons d rest =>
            have hd : Text.isBlank d = true := by simpa [hc] using h.1
            rw [Screen.Emoji.replaceFrom, if_pos (by simpa using hc), name?_blank hd, ih _ h.2]
        · rw [Screen.Emoji.replaceFrom, if_neg (by simpa using hc), ih rest h.2]
  exact hfrom _ text h

theorem unescape_eq_self (h : '\\' ∉ text) : unescape text = text := by
  fun_induction unescape text with
  | case1 => rfl
  | case2 rest ih => exact absurd List.mem_cons_self h
  | case3 c rest hnot ih => rw [ih fun hmem => h (List.mem_cons_of_mem _ hmem)]

theorem shownText_eq_self (hescape : '\\' ∉ text) (hspaced : isSpaced text = true)
    (hcontrol : ∀ c ∈ text, isControl c = false) : shownText text = text := by
  rw [shownText, unescape_eq_self hescape, replace_eq_self hspaced, List.filter_eq_self]
  intro c hc
  simp [hcontrol c hc]

/-- A character that is shown as it is wherever it stands. -/
structure IsLiteral (c : Char) : Prop where
  no_escape : c ≠ '\\'
  no_colon : c ≠ ':'
  no_control : isControl c = false

theorem shownText_of_literal (h : ∀ c ∈ text, IsLiteral c) : shownText text = text :=
  shownText_eq_self (fun hmem => (h _ hmem).no_escape rfl)
    (isSpaced_of_not_mem fun hmem => (h _ hmem).no_colon rfl) fun c hc => (h c hc).no_control

/-! ## What is left of a text -/

/-- The texts between the tags. -/
def textOf (ps : List Piece) : List Char :=
  ps.flatMap fun
    | .text t => t
    | .tag _ _ => []

theorem textOf_cons (p : Piece) (ps : List Piece) : textOf (p :: ps) =
    (match p with | .text t => t | .tag _ _ => []) ++ textOf ps := rfl

theorem textOf_append (ps qs : List Piece) : textOf (ps ++ qs) = textOf ps ++ textOf qs :=
  List.flatMap_append

theorem textOf_text (text : List Char) : textOf (text.map fun c => .text [c]) = text := by
  induction text with
  | nil => rfl
  | cons c text ih => rw [List.map_cons, textOf_cons, ih]; rfl

/-- A tag that closes a style is the end of one that is open. -/
theorem finish_of_leave {c c' : Canvas} (h : c.leave name = .ok c') :
    ∃ tag, c.finish tag = .ok c' := by
  rw [Canvas.leave] at h
  split at h
  · obtain ⟨tag?, -, hclosed⟩ := bind_eq_ok_iff.1 h
    cases tag? with
    | some tag => exact ⟨tag, hclosed⟩
    | none => cases hclosed
  · obtain ⟨standard, -, hfound⟩ := bind_eq_ok_iff.1 h
    obtain ⟨tag?, -, hclosed⟩ := bind_eq_ok_iff.1 hfound
    cases tag? with
    | some tag => exact ⟨tag, hclosed⟩
    | none => cases hclosed

/-- A tag does not change what is already there. -/
theorem keeps_of_apply {c c' : Canvas} (h : c.apply content = .ok c') :
    c'.shown = c.shown ∧ c'.plain = c.plain := by
  rw [Canvas.apply, List.span_eq_takeWhile_dropWhile] at h
  dsimp only at h
  split at h
  · obtain ⟨tag, hfinish⟩ := finish_of_leave h
    rw [Canvas.finish] at hfinish
    split at hfinish
    · cases hfinish
      exact ⟨rfl, rfl⟩
    · split at hfinish
      · cases hfinish
        exact ⟨rfl, rfl⟩
      · cases hfinish
  · rw [Canvas.enter] at h
    obtain ⟨standard, -, hentered⟩ := bind_eq_ok_iff.1 h
    cases hentered
    exact ⟨rfl, rfl⟩

/-- What is left of a text without backslashes once its tags are taken out. -/
theorem textOf_sublist (hplain : '\\' ∉ text) : (textOf (pieces text)).Sublist text := by
  induction hn : text.length using Nat.strongRecOn generalizing text with
  | ind n ih =>
    cases text with
    | nil => exact .slnil
    | cons c rest =>
      cases hfound : tagAt? (c :: rest) with
      | none =>
        have hrest : '\\' ∉ rest := fun hmem => hplain (List.mem_cons_of_mem c hmem)
        rw [pieces_char hplain hfound, textOf_cons]
        exact (ih rest.length (by simp [← hn]) hrest rfl).cons_cons c
      | some found =>
        obtain ⟨content, after⟩ := found
        obtain ⟨htag, htext⟩ := tagAt?_eq_some_iff.1 hfound
        have hafter : '\\' ∉ after := fun hmem => hplain (by simp [htext, hmem])
        have hshort : after.length < n := by
          rw [← hn, htext]
          simp only [List.length_cons, List.length_append]
          omega
        have hsuffix : after.Sublist (c :: rest) := by
          rw [htext, ← List.cons_append]
          exact ((List.suffix_cons _ _).trans (List.suffix_append _ _)).sublist
        rw [htext, pieces_tag htag hafter, textOf_cons, ← htext]
        exact (ih after.length hshort hafter rfl).trans hsuffix

/-- A tag in a text is missing from what is left. -/
theorem length_textOf_lt (hplain : '\\' ∉ text) (h : HoldsTag text) :
    (textOf (pieces text)).length < text.length := by
  obtain ⟨before, content, after, htag, rfl⟩ := h
  simp only [List.mem_append, List.mem_cons, not_or] at hplain
  obtain ⟨hbefore, -, hcontent, -, hafter⟩ := hplain
  have hfirst := (textOf_sublist hbefore).length_le
  have hlast := (textOf_sublist hafter).length_le
  rw [pieces_split htag hbefore hafter hcontent, textOf_append, textOf_cons]
  simp only [List.length_append, List.length_cons, List.nil_append]
  omega

theorem visible_text {c : Canvas} {d : Char} (hplain : ∀ e ∈ c.plain, IsLiteral e)
    (hd : IsLiteral d) : Canvas.visible { c with plain := d :: c.plain } = c.visible ++ [d] := by
  have hmore : ∀ e ∈ (d :: c.plain).reverse, IsLiteral e := by
    intro e he
    rcases List.mem_cons.1 (List.mem_reverse.1 he) with rfl | he
    · exact hd
    · exact hplain e he
  have hold : ∀ e ∈ c.plain.reverse, IsLiteral e := fun e he => hplain e (List.mem_reverse.1 he)
  change c.shown.reverse ++ shownText (d :: c.plain).reverse = c.visible ++ [d]
  rw [Canvas.visible, shownText_of_literal hmore, shownText_of_literal hold, List.reverse_cons,
    List.append_assoc]

theorem visible_tag {c c' : Canvas} (h : c.step (.tag 0 content) = .ok c') :
    c'.visible = c.visible ∧ c'.plain = [] := by
  have happly : (c.flush.put []).apply content = .ok c' := h
  obtain ⟨hshown, hplain⟩ := keeps_of_apply happly
  refine ⟨?_, hplain⟩
  rw [Canvas.visible, hshown, hplain]
  simp [Canvas.visible, Canvas.flush, Canvas.put]

/-- A canvas that reads the pieces of a text shows what is left of the text after what it showed. -/
theorem visible_foldlM {c c' : Canvas} (hliteral : ∀ d ∈ text, IsLiteral d)
    (hplain : ∀ d ∈ c.plain, IsLiteral d) (hfold : (pieces text).foldlM Canvas.step c = .ok c') :
    c'.visible = c.visible ++ textOf (pieces text) := by
  -- a tag takes more than one character, so the induction is on the length
  induction hn : text.length using Nat.strongRecOn generalizing text c with
  | ind n ih =>
    cases text with
    | nil =>
      cases hfold
      exact (List.append_nil _).symm
    | cons d rest =>
      have hescape : '\\' ∉ d :: rest := fun hmem => (hliteral _ hmem).no_escape rfl
      cases hfound : tagAt? (d :: rest) with
      | none =>
        obtain ⟨hd, hrest⟩ := List.forall_mem_cons.1 hliteral
        rw [pieces_char hescape hfound] at hfold ⊢
        have hnext : c'.visible =
            Canvas.visible { c with plain := d :: c.plain } ++ textOf (pieces rest) :=
          ih rest.length (by simp [← hn]) hrest (List.forall_mem_cons.2 ⟨hd, hplain⟩) hfold rfl
        rw [hnext, visible_text hplain hd, textOf_cons, List.append_assoc]
      | some found =>
        obtain ⟨content, after⟩ := found
        obtain ⟨htag, htext⟩ := tagAt?_eq_some_iff.1 hfound
        have hafter : ∀ e ∈ after, IsLiteral e := fun e he => hliteral e (by simp [htext, he])
        have hshort : after.length < n := by
          rw [← hn, htext]
          simp only [List.length_cons, List.length_append]
          omega
        rw [htext, pieces_tag htag fun hmem => (hafter _ hmem).no_escape rfl] at hfold ⊢
        rw [List.foldlM_cons] at hfold
        obtain ⟨next, hstep, hrest⟩ := bind_eq_ok_iff.1 hfold
        obtain ⟨hvisible, hnone⟩ := visible_tag hstep
        have hnext := ih after.length hshort hafter (by simp [hnone]) hrest rfl
        rw [hnext, hvisible, textOf_cons, List.nil_append]

/-- What a text shows is what is left of it, if its characters are shown as they are. -/
theorem text_of_render (hliteral : ∀ c ∈ text, IsLiteral c) {t : StyledText}
    (h : render text = .ok t) : t.text = textOf (pieces text) := by
  rw [render] at h
  obtain ⟨c, hall, hshown⟩ := bind_eq_ok_iff.1 h
  cases hshown
  rw [shown_complete, visible_foldlM hliteral (by simp) hall]
  simp [Canvas.visible]

end LineLint.Markup
