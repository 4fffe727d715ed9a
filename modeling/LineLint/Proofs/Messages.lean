import LineLint.Proofs.Styles
import LineLint.Screen.Views
import Mathlib.Data.List.TakeDrop
import Mathlib.Data.List.TakeWhile

/-!
# Messages that can be shown

A message goes through the tags like all text on the screen, so not every message can be shown: it
may close a style that is not open, or name a colour by components that are no numbers. What cannot
fail is breaking a text into lines, which makes no styles that were not there before. Main
statement: `Screen.failure_eq_ok`.
-/

namespace LineLint

namespace Screen

/-! ## Styles in lines -/

/-- All styles in a text are of some kind. -/
def StyledText.StyledIn (allowed : List Char → Prop) (t : StyledText) : Prop :=
  ∀ s ∈ t.spans, allowed s.style

namespace StyledText

variable {allowed : List Char → Prop} {t : StyledText} {spans : List Span} {first last : Nat}

theorem StyledIn.filterMap {keep : Span → Option Span} (h : ∀ s ∈ spans, allowed s.style)
    (hkeep : ∀ s s', keep s = some s' → s'.style = s.style) (text : List Char) :
    StyledIn allowed ⟨text, spans.filterMap keep⟩ := by
  intro s hs
  obtain ⟨old, hold, hkept⟩ := List.mem_filterMap.1 hs
  rw [hkeep old s hkept]
  exact h old hold

theorem style_of_between? {s s' : Span} (h : s.between? first last = some s') :
    s'.style = s.style := by
  simp only [Span.between?, Option.ite_none_right_eq_some, Option.some.injEq] at h
  rw [← h.2]

theorem StyledIn.divideFrom (h : ∀ s ∈ spans, allowed s.style) (first : Nat) (text : List Char)
    (places : List Nat) : ∀ p ∈ divideFrom spans first text places, p.StyledIn allowed := by
  induction places generalizing first text with
  | nil =>
    rw [StyledText.divideFrom, List.forall_mem_singleton]
    exact .filterMap h (fun _ _ => style_of_between?) _
  | cons place places ih =>
    rw [StyledText.divideFrom, List.forall_mem_cons]
    exact ⟨.filterMap h (fun _ _ => style_of_between?) _, ih _ _⟩

theorem StyledIn.divide (h : t.StyledIn allowed) (places : List Nat) :
    ∀ p ∈ t.divide places, p.StyledIn allowed := by
  rw [StyledText.divide]
  split
  · rwa [List.forall_mem_singleton]
  · exact .divideFrom h _ _ _

theorem StyledIn.before (h : t.StyledIn allowed) (place : Nat) :
    (t.before place).StyledIn allowed := by
  rw [StyledText.before]
  split
  · refine .filterMap h (fun s s' hkept => ?_) _
    simp only [Span.before?, Option.ite_none_right_eq_some, Option.some.injEq] at hkept
    rw [← hkept.2]
  · exact h

theorem StyledIn.extend (h : t.StyledIn allowed) (blanks : Nat) :
    (t.extend blanks).StyledIn allowed := by
  intro s hs
  obtain ⟨old, hold, rfl⟩ := List.mem_map.1 hs
  split <;> exact h old hold

theorem StyledIn.join {pieces : List StyledText} (h : ∀ p ∈ pieces, p.StyledIn allowed) :
    (join pieces).StyledIn allowed := by
  induction pieces with
  | nil => exact fun s hs => absurd hs List.not_mem_nil
  | cons p rest ih =>
    rw [List.forall_mem_cons] at h
    intro s hs
    rcases List.mem_append.1 hs with hs | hs
    · exact h.1 s hs
    · obtain ⟨old, hold, rfl⟩ := List.mem_map.1 hs
      exact ih h.2 old hold

theorem StyledIn.expandPieces {pieces : List StyledText} (h : ∀ p ∈ pieces, p.StyledIn allowed)
    (column : Nat) : ∀ p ∈ expandPieces column pieces, p.StyledIn allowed := by
  induction pieces generalizing column with
  | nil => exact h
  | cons p rest ih =>
    rw [List.forall_mem_cons] at h
    rw [StyledText.expandPieces]
    split
    · rw [List.forall_mem_cons]
      have hblank : StyledIn allowed ⟨p.text.dropLast ++ [' '], p.spans⟩ := h.1
      exact ⟨hblank.extend _, ih h.2 _⟩
    · rw [List.forall_mem_cons]
      exact ⟨h.1, ih h.2 _⟩

theorem StyledIn.expandTabs (h : t.StyledIn allowed) : t.expandTabs.StyledIn allowed := by
  rw [StyledText.expandTabs]
  split
  · exact .join (.expandPieces (fun p hp => h.divide _ p (List.mem_filter.1 hp).1) _)
  · exact h

/-- Breaking a text into lines makes no new styles. -/
theorem StyledIn.wrap (h : t.StyledIn allowed) (limit : Nat) (overflow : Overflow) :
    ∀ l ∈ t.wrap limit overflow, l.StyledIn allowed := by
  intro l hl
  obtain ⟨line, hline, hl⟩ := List.mem_flatMap.1 hl
  obtain ⟨piece, hpiece, rfl⟩ := List.mem_map.1 hl
  have htabs : line.expandTabs.StyledIn allowed :=
    (h.divide _ line (List.mem_filter.1 hline).1).expandTabs
  have htrimmed : (piece.trimEnd limit).StyledIn allowed := (htabs.divide _ piece hpiece).before _
  rw [truncate.eq_def]
  split
  · exact htrimmed
  · exact htrimmed.before _

end StyledText

/-- Lines can be shown if their styles have no parentheses. -/
theorem showLines_eq_ok (columns : Nat) {lines : List StyledText}
    (h : ∀ l ∈ lines, l.StyledIn ('(' ∉ ·)) :
    showLines columns lines = .ok (lines.map fun l => showSegments columns l.segments) := by
  rw [showLines, if_neg]
  · rfl
  · intro hany
    obtain ⟨l, hl, hany⟩ := List.any_eq_true.1 hany
    obtain ⟨s, hs, hbad⟩ := List.any_eq_true.1 hany
    have hgood := Style.parse_ne_badNumber (h l hl s hs)
    cases hparse : Style.parse s.style with
    | ok style => simp [hparse] at hbad
    | error fault =>
      cases fault with
      | unknownWord => simp [hparse] at hbad
      | badNumber => exact hgood hparse

/-- A text whose tags can be taken out can be shown if its styles have no parentheses. -/
theorem printWithin_eq_ok {markup : String} {t : StyledText} (columns : Nat)
    (hrender : Markup.render markup.toList = .ok t) (hstyles : t.StyledIn ('(' ∉ ·)) :
    ∃ lines, printWithin columns markup = .ok lines := by
  have hshow := showLines_eq_ok columns (hstyles.wrap columns .fold)
  rw [printWithin, hrender]
  simp only [bind, Except.bind, hshow]
  exact ⟨_, rfl⟩

end Screen

namespace Markup

open Screen (StyledText)

variable {text content name standard : List Char} {c : Canvas}

/-! ## Tags of a text -/

theorem tagAt?_eq_some {after : List Char} (h : tagAt? text = some (content, after)) :
    text = '[' :: content ++ ']' :: after := by
  rw [tagAt?.eq_def] at h
  split at h
  · rename_i d rest
    rw [Option.ite_none_right_eq_some] at h
    split at h
    · rename_i first second hspan
      rw [List.span_eq_takeWhile_dropWhile, Prod.mk.injEq] at hspan
      simp only [Option.some.injEq, Prod.mk.injEq] at h
      rw [← h.2.1, ← h.2.2, ← List.takeWhile_append_dropWhile (l := rest), hspan.1, hspan.2]
      rfl
    · cases h.2
  · cases h

/-- The first piece of a text is a tag, behind its backslashes, or text that the rest follows. -/
theorem piecesFrom_cases (fuel : ℕ) (d : Char) (rest : List Char) :
    (∃ front content after, d :: rest = front ++ '[' :: (content ++ ']' :: after) ∧
      tagAt? ('[' :: (content ++ ']' :: after)) = some (content, after) ∧
      piecesFrom (fuel + 1) (d :: rest) = .tag front.length content :: piecesFrom fuel after) ∨
    ∃ front after, d :: rest = front ++ after ∧
      piecesFrom (fuel + 1) (d :: rest) = .text front :: piecesFrom fuel after := by
  obtain ⟨front, back, hspan⟩ : ∃ front back,
    (d :: rest).span (· == '\\') = (front, back) := ⟨_, _, rfl⟩
  have hsplit : d :: rest = front ++ back := by
    rw [List.span_eq_takeWhile_dropWhile, Prod.mk.injEq] at hspan
    rw [← hspan.1, ← hspan.2, List.takeWhile_append_dropWhile]
  rw [piecesFrom, hspan]
  dsimp only
  cases htag : tagAt? back with
  | some found =>
    obtain ⟨content, after⟩ := found
    have hback := tagAt?_eq_some htag
    rw [List.cons_append] at hback
    exact .inl ⟨front, content, after, hback ▸ hsplit, hback ▸ htag, rfl⟩
  | none =>
    by_cases hfront : front.isEmpty
    · exact .inr ⟨[d], rest, rfl, if_pos hfront⟩
    · exact .inr ⟨front, back, hsplit, if_neg hfront⟩

/-- Every tag of a text stands in it between two brackets. -/
theorem split_of_mem_piecesFrom {fuel backslashes : Nat}
    (h : .tag backslashes content ∈ piecesFrom fuel text) : ∃ before after,
      text = before ++ '[' :: (content ++ ']' :: after) ∧
        tagAt? ('[' :: (content ++ ']' :: after)) = some (content, after) := by
  induction fuel generalizing text with
  | zero => cases h
  | succ fuel ih =>
    cases text with
    | nil => cases h
    | cons d rest =>
      rcases piecesFrom_cases fuel d rest with
        ⟨front, first, remains, hsplit, htag, hpieces⟩ | ⟨front, remains, hsplit, hpieces⟩
      · rw [hpieces] at h
        rcases List.mem_cons.1 h with hhead | hmem
        · cases hhead
          exact ⟨front, remains, hsplit, htag⟩
        · obtain ⟨before, after, rfl, hfound⟩ := ih hmem
          exact ⟨front ++ '[' :: (first ++ ']' :: before), after, by simp [hsplit], hfound⟩
      · rw [hpieces] at h
        rcases List.mem_cons.1 h with hhead | hmem
        · cases hhead
        · obtain ⟨before, after, rfl, hfound⟩ := ih hmem
          exact ⟨front ++ before, after, by rw [hsplit, List.append_assoc], hfound⟩

/-- All tags of a text start with a bracket in it. -/
theorem infix_of_mem_piecesFrom {fuel backslashes : Nat}
    (h : .tag backslashes content ∈ piecesFrom fuel text) : '[' :: content <:+: text := by
  obtain ⟨before, after, rfl, -⟩ := split_of_mem_piecesFrom h
  exact ⟨before, ']' :: after, by simp⟩

/-! ## Tags that open styles -/

/-- The open tags and the styles given so far have no parentheses. -/
structure Canvas.IsPlain (c : Canvas) : Prop where
  opened : ∀ tag ∈ c.opened, '(' ∉ tag.style
  spans : ∀ s ∈ c.spans, '(' ∉ s.style

/-- A tag that does not close a style opens one. -/
theorem apply_eq_enter (hclose : content.head? ≠ some '/') (c : Canvas) :
    ∃ parameters : Option (List Char), (∀ p ∈ parameters, p ⊆ content) ∧
      c.apply content = c.enter (content.takeWhile (· != '=')) parameters := by
  refine ⟨if (content.dropWhile (· != '=')).isEmpty then none
    else some ((content.dropWhile (· != '=')).drop 1), ?_, ?_⟩
  · intro p hp
    split at hp
    · cases hp
    · cases hp
      exact ((List.drop_suffix _ _).trans (List.dropWhile_suffix _)).subset
  · have hname : ∀ rest, content.takeWhile (· != '=') ≠ '/' :: rest := by
      intro rest hrest
      cases content with
      | nil => cases hrest
      | cons d content =>
        rw [List.takeWhile_cons] at hrest
        split at hrest
        · cases hrest
          exact hclose rfl
        · cases hrest
    rw [Canvas.apply, List.span_eq_takeWhile_dropWhile]
    dsimp only
    split
    · rename_i rest hrest
      exact absurd hrest (hname rest)
    · rfl

theorem enter_eq_ok (hnormal : Screen.Style.normalize name = .ok standard) (c : Canvas)
    (parameters : Option (List Char)) : c.enter name parameters =
      .ok { c with opened := ⟨standard, parameters, c.length⟩ :: c.opened } := by
  rw [Canvas.enter, Canvas.normalize, hnormal]
  rfl

theorem apply_plain (hc : c.IsPlain) (hclose : content.head? ≠ some '/')
    (hcall : '(' ∉ content) : ∃ c' : Canvas, c.apply content = .ok c' ∧ c'.IsPlain := by
  obtain ⟨parameters, hparameters, happly⟩ := apply_eq_enter hclose c
  have hname : '(' ∉ content.takeWhile (· != '=') := fun hmem =>
    hcall ((List.takeWhile_prefix _).subset hmem)
  obtain ⟨standard, hnormal, hstandard⟩ := Screen.Style.normalize_eq_ok hname
  rw [happly, enter_eq_ok hnormal]
  refine ⟨_, rfl, List.forall_mem_cons.2 ⟨?_, hc.opened⟩, hc.spans⟩
  cases parameters with
  | none => exact hstandard
  | some p =>
    intro hmem
    rcases List.mem_append.1 hmem with hmem | hmem
    · exact hstandard hmem
    · rcases List.mem_cons.1 hmem with hblank | hmem
      · exact absurd hblank (by decide)
      · exact hcall (hparameters p rfl hmem)

/-- A text none of whose tags closes a style or holds a parenthesis. -/
def OnlyOpens (ps : List Piece) : Prop :=
  ∀ backslashes content, .tag backslashes content ∈ ps →
    content.head? ≠ some '/' ∧ '(' ∉ content

theorem foldlM_plain {ps : List Piece} (hps : OnlyOpens ps) (hc : c.IsPlain) :
    ∃ c' : Canvas, ps.foldlM Canvas.step c = .ok c' ∧ c'.IsPlain := by
  induction ps generalizing c with
  | nil => exact ⟨c, rfl, hc⟩
  | cons piece rest ih =>
    have hstep : ∃ c' : Canvas, c.step piece = .ok c' ∧ c'.IsPlain := by
      cases piece with
      | text t => exact ⟨_, rfl, hc.opened, hc.spans⟩
      | tag backslashes content =>
        obtain ⟨hclose, hcall⟩ := hps _ _ List.mem_cons_self
        rw [Canvas.step]
        split
        · exact ⟨_, rfl, hc.opened, hc.spans⟩
        · exact apply_plain ⟨hc.opened, hc.spans⟩ hclose hcall
    obtain ⟨c', hfirst, hc'⟩ := hstep
    obtain ⟨last, hrest, hlast⟩ := ih (fun b t hmem => hps b t (List.mem_cons_of_mem _ hmem)) hc'
    refine ⟨last, ?_, hlast⟩
    rw [List.foldlM_cons, hfirst]
    exact hrest

theorem spans_complete (hc : c.IsPlain) : ∀ s ∈ c.complete.spans, '(' ∉ s.style := by
  have hpaint : ∀ (tags : List OpenTag) (c : Canvas), (∀ tag ∈ tags, '(' ∉ tag.style) →
      (∀ s ∈ c.spans, '(' ∉ s.style) → ∀ s ∈ (tags.foldl Canvas.paint c).spans, '(' ∉ s.style := by
    intro tags
    induction tags with
    | nil => exact fun _ _ hspans => hspans
    | cons tag tags ih =>
      intro c htags hspans
      rw [List.forall_mem_cons] at htags
      exact ih _ htags.2 (List.forall_mem_cons.2 ⟨htags.1, hspans⟩)
  exact hpaint c.flush.opened c.flush hc.opened hc.spans

/-! ## Marks -/

/-- Before a tag, the text up to it is shown. -/
theorem step_tag (c : Canvas) (content : List Char) : ∃ before : Canvas,
    c.step (.tag 0 content) = before.apply content ∧ before.opened = c.opened ∧
      before.spans = c.spans :=
  ⟨c.flush.put [], rfl, rfl, rfl⟩

theorem span_eq_self (h : '=' ∉ name) : name.span (· != '=') = (name, []) := by
  have hall : ∀ d ∈ name, (d != '=') = true := by
    intro d hd
    rw [bne_iff_ne]
    rintro rfl
    exact h hd
  rw [List.span_eq_takeWhile_dropWhile, List.takeWhile_eq_self_iff.2 hall,
    List.dropWhile_eq_nil_iff.2 hall]

theorem finish_plain (hstandard : '(' ∉ standard) {start : Nat}
    (hopened : c.opened = [⟨standard, none, start⟩]) (hspans : c.spans = []) :
    ∃ c' : Canvas, c.finish ⟨standard, none, start⟩ = .ok c' ∧ c'.IsPlain := by
  rw [Canvas.finish, hopened, List.erase_cons_head]
  dsimp only
  split
  · exact ⟨_, rfl, List.forall_mem_nil _,
      by simpa [Canvas.paint, hspans, OpenTag.style] using hstandard⟩
  · exact ⟨_, rfl, List.forall_mem_nil _, by simp [Canvas.paint, hspans, OpenTag.style]⟩

section

variable (hname : '=' ∉ name) (hnormal : Screen.Style.normalize name = .ok standard)

include hname hnormal

theorem apply_open (hclose : name.head? ≠ some '/') (c : Canvas) :
    c.apply name = .ok { c with opened := ⟨standard, none, c.length⟩ :: c.opened } := by
  rw [← enter_eq_ok hnormal, Canvas.apply, span_eq_self hname]
  dsimp only
  split
  · exact absurd rfl hclose
  · rfl

theorem apply_close (hne : name ≠ []) (htrim : Text.trim name = name) {start : Nat}
    (hopened : c.opened = [⟨standard, none, start⟩]) :
    c.apply ('/' :: name) = c.finish ⟨standard, none, start⟩ := by
  have hslash : '=' ∉ '/' :: name := by simpa using hname
  rw [Canvas.apply, span_eq_self hslash]
  change c.leave (Text.trim name) = _
  rw [htrim, Canvas.leave, if_neg (by simpa using hne), Canvas.normalize, hnormal, hopened]
  simp [bind, Except.bind, Except.mapError, pure, Except.pure]

/-- A text in one style can be shown, followed by more text. -/
theorem foldlM_mark (hne : name ≠ []) (hclose : name.head? ≠ some '/')
    (htrim : Text.trim name = name) (hstandard : '(' ∉ standard) (inside after : List Char) :
    ∃ c : Canvas, [.tag 0 name, .text inside, .tag 0 ('/' :: name),
      .text after].foldlM Canvas.step {} = .ok c ∧ c.IsPlain := by
  obtain ⟨first, hfirst, hopened, hspans⟩ := step_tag {} name
  let opening : Canvas :=
    { first with opened := ⟨standard, none, first.length⟩ :: first.opened }
  have hopen : Canvas.step {} (.tag 0 name) = .ok opening :=
    hfirst.trans (apply_open hname hnormal hclose first)
  let showing : Canvas := { opening with plain := inside.reverse ++ opening.plain }
  obtain ⟨second, hsecond, hopened', hspans'⟩ := step_tag showing ('/' :: name)
  have hone : second.opened = [⟨standard, none, first.length⟩] := by
    rw [hopened']
    exact congrArg _ hopened
  obtain ⟨closed, hfinish, hplain⟩ :=
    finish_plain hstandard hone (hspans'.trans hspans)
  have hclosing : showing.step (.tag 0 ('/' :: name)) = .ok closed :=
    hsecond.trans ((apply_close hname hnormal hne htrim hone).trans hfinish)
  refine ⟨{ closed with plain := after.reverse ++ closed.plain }, ?_, hplain.opened, hplain.spans⟩
  rw [List.foldlM_cons, hopen]
  change List.foldlM Canvas.step showing _ = _
  rw [List.foldlM_cons, hclosing]
  rfl

end

/-- A text can be shown after a mark if none of its tags closes a style or holds a parenthesis. -/
theorem render_after_mark {mark inside : List Char} (hlength : 4 ≤ mark.length)
    (hmark : ∀ fuel, piecesFrom (fuel + 4) (mark ++ text) = [.tag 0 name, .text inside,
      .tag 0 ('/' :: name), .text [' ']] ++ piecesFrom fuel text)
    (hequals : '=' ∉ name) (hparen : '(' ∉ name) (hclose : name.head? ≠ some '/') (hne : name ≠ [])
    (htrim : Text.trim name = name) (honly : ∀ fuel, OnlyOpens (piecesFrom fuel text)) :
    ∃ t, render (mark ++ text) = .ok t ∧ t.StyledIn ('(' ∉ ·) := by
  obtain ⟨standard, hnormal, hstandard⟩ := Screen.Style.normalize_eq_ok hparen
  obtain ⟨shown, hshown, hplain⟩ :=
    foldlM_mark hequals hnormal hne hclose htrim hstandard inside [' ']
  obtain ⟨c, hfold, hc⟩ := foldlM_plain (honly ((mark ++ text).length - 3)) hplain
  refine ⟨⟨c.complete.shown.reverse, c.complete.spans⟩, ?_, spans_complete hc⟩
  have hfuel : (mark ++ text).length + 1 = (mark ++ text).length - 3 + 4 := by
    rw [List.length_append]
    omega
  rw [render, pieces, hfuel, hmark, List.foldlM_append, hshown]
  simp only [bind, Except.bind, hfold]
  rfl

/-- The style in which the mark of an error is shown. -/
def errorStyle : List Char := "error".toList

/-- What stands before the text of a message about an error. -/
def errorMark : List Char := "[error]✖[/error] ".toList

theorem render_error (hcall : '(' ∉ text) (hclose : ¬['[', '/'] <:+: text) :
    ∃ t, render (errorMark ++ text) = .ok t ∧ t.StyledIn ('(' ∉ ·) := by
  have hmark : ∀ fuel, piecesFrom (fuel + 4) (errorMark ++ text) = [.tag 0 errorStyle, .text ['✖'],
      .tag 0 ('/' :: errorStyle), .text [' ']] ++ piecesFrom fuel text := fun _ => rfl
  refine render_after_mark (by decide) hmark (by decide) (by decide) (by decide) (by decide)
    (by decide) fun fuel backslashes content hmem => ?_
  have hwithin := infix_of_mem_piecesFrom hmem
  refine ⟨?_, fun hparen => hcall (hwithin.subset (List.mem_cons_of_mem _ hparen))⟩
  intro hhead
  obtain ⟨rest, rfl⟩ := List.head?_eq_some_iff.1 hhead
  exact hclose (List.IsInfix.trans ⟨[], rest, rfl⟩ hwithin)

end Markup

/-- A message can be shown if it holds no parenthesis and no bracket is followed by a slash. -/
theorem Screen.failure_eq_ok {text : String} (hcall : '(' ∉ text.toList)
    (hclose : ¬['[', '/'] <:+: text.toList) : ∃ lines, Screen.failure text = .ok lines := by
  obtain ⟨t, hrender, hstyles⟩ := Markup.render_error hcall hclose
  have hmarkup : Screen.failure text =
      printWithin screenWidth ("[error]✖[/error] " ++ text) := by
    rw [Screen.failure, print]
    simp only [toString]
  have hchars : ("[error]✖[/error] " ++ text).toList = Markup.errorMark ++ text.toList :=
    String.toList_append
  rw [hmarkup]
  exact printWithin_eq_ok screenWidth (hchars ▸ hrender) hstyles

end LineLint
