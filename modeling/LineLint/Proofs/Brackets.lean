import LineLint.Proofs.ShownViolations
import LineLint.Proofs.Tallies

/-!
# Text without brackets

A text without opening brackets holds no tags, so it can always be shown: alone, after a mark, in
the title of a file and in the cells of a table. Main statements: `Screen.violations_of_no_bracket`
and `Screen.triage_of_no_bracket`.
-/

namespace LineLint

open Screen (StyledText)
open Markup (IsBare Mark)

namespace Markup

variable {text name standard content : List Char} {c : Canvas} {ps : List Piece} {start : ℕ}

/-! ## Tags and brackets -/

/-- Whether a piece is a tag. -/
def Piece.isTag : Piece → Bool
  | .text _ => false
  | .tag _ _ => true

/-- A text has no more tags than opening brackets. -/
theorem countP_isTag_le (fuel : ℕ) (text : List Char) :
    (piecesFrom fuel text).countP Piece.isTag ≤ text.count '[' := by
  induction fuel generalizing text with
  | zero => exact Nat.zero_le _
  | succ fuel ih =>
    cases text with
    | nil => exact Nat.zero_le _
    | cons d rest =>
      rcases piecesFrom_cases fuel d rest with
        ⟨front, inside, remains, hsplit, -, hpieces⟩ | ⟨front, remains, hsplit, hpieces⟩
      · have hone := ih remains
        rw [hpieces, hsplit]
        simp only [List.countP_cons, Piece.isTag, if_true, List.count_append, List.count_cons,
          BEq.rfl]
        omega
      · have hone := ih remains
        rw [hpieces, hsplit, List.count_append, List.countP_cons_of_neg (by simp [Piece.isTag])]
        omega

theorem onlyOpens_of_no_bracket (h : '[' ∉ text) (fuel : ℕ) : OnlyOpens (piecesFrom fuel text) := by
  intro backslashes content hmem
  exact absurd ((infix_of_mem_piecesFrom hmem).subset List.mem_cons_self) h

/-- A text without brackets can be shown. -/
theorem render_of_no_bracket (h : '[' ∉ text) :
    ∃ t, render text = .ok t ∧ t.StyledIn ('(' ∉ ·) := by
  have hplain : Canvas.IsPlain {} := ⟨by simp, by simp⟩
  obtain ⟨c, hfold, hc⟩ := foldlM_plain (onlyOpens_of_no_bracket h (text.length + 1)) hplain
  refine ⟨⟨c.complete.shown.reverse, c.complete.spans⟩, ?_, spans_complete hc⟩
  rw [render, pieces, hfold]
  rfl

/-! ## A style that is closed once -/

section

variable (hname : '=' ∉ name) (hnormal : Screen.Style.normalize name = .ok standard)
  (hne : name ≠ [])
  (htrim : Text.trim name = name) (hstandard : '(' ∉ standard)

include hstandard

theorem isPlain_of_opened (hopened : c.opened = [⟨standard, none, start⟩])
    (hspans : ∀ s ∈ c.spans, '(' ∉ s.style) : c.IsPlain :=
  ⟨by simpa [hopened, OpenTag.style] using hstandard, hspans⟩

include hname hnormal hne htrim

/-- The tag that closes a style leaves a canvas plain, also behind backslashes. -/
theorem step_closing (k : ℕ) (hopened : c.opened = [⟨standard, none, start⟩])
    (hspans : ∀ s ∈ c.spans, '(' ∉ s.style) :
    ∃ c' : Canvas, c.step (.tag k ('/' :: name)) = .ok c' ∧ c'.IsPlain := by
  rw [Canvas.step]
  split
  · exact ⟨_, rfl, (isPlain_of_opened hstandard hopened hspans).opened, hspans⟩
  · let before : Canvas := c.flush.put (List.replicate (k / 2) '\\')
    have hbefore : before.opened = [⟨standard, none, start⟩] := hopened
    obtain ⟨style, hstyle, hfinish⟩ := finish_eq_ok before hstandard start
    refine ⟨_, (apply_close hname hnormal hne htrim hbefore).trans hfinish, ?_,
      List.forall_mem_cons.2 ⟨hstyle, hspans⟩⟩
    exact fun tag htag => (isPlain_of_opened hstandard hbefore hspans).opened tag
      (List.mem_of_mem_erase htag)

/-- Among the pieces after the start of a style there may be the tag that closes it, even behind
backslashes. -/
theorem foldlM_closing (htags : ∀ k content, .tag k content ∈ ps → content = '/' :: name)
    (hcount : ps.countP Piece.isTag ≤ 1) (hopened : c.opened = [⟨standard, none, start⟩])
    (hspans : ∀ s ∈ c.spans, '(' ∉ s.style) :
    ∃ c' : Canvas, ps.foldlM Canvas.step c = .ok c' ∧ c'.IsPlain := by
  induction ps generalizing c with
  | nil => exact ⟨c, rfl, isPlain_of_opened hstandard hopened hspans⟩
  | cons piece rest ih =>
    have hrest : ∀ k content, .tag k content ∈ rest → content = '/' :: name :=
      fun k content hmem => htags k content (List.mem_cons_of_mem _ hmem)
    cases piece with
    | text t =>
      rw [List.foldlM_cons]
      exact ih hrest (by simpa [Piece.isTag] using hcount) hopened hspans
    | tag k content =>
      obtain rfl := htags k content List.mem_cons_self
      -- no other tag follows, so whatever this one does the rest is only text
      have hnone : OnlyOpens rest := by
        intro k content hmem
        have hzero : rest.countP Piece.isTag = 0 := by
          simp only [List.countP_cons, Piece.isTag, if_true] at hcount
          omega
        exact absurd (List.countP_eq_zero.1 hzero _ hmem) (by simp [Piece.isTag])
      obtain ⟨next, hnext, hc⟩ := step_closing hname hnormal hne htrim hstandard k hopened hspans
      obtain ⟨last, hlast, hlast'⟩ := foldlM_plain hnone hc
      refine ⟨last, ?_, hlast'⟩
      rw [List.foldlM_cons, hnext]
      exact hlast

end

section

variable {inside after : List Char} (hname : IsStyleName name) (hinside : '[' ∉ inside)
  (hafter : '[' ∉ after)

include hname hinside hafter

/-- The one opening bracket of a text that closes a style starts the tag that closes it. -/
theorem content_of_closing {fuel k : ℕ}
    (hmem : .tag k content ∈ piecesFrom fuel (inside ++ '[' :: ('/' :: name ++ ']' :: after))) :
    content = '/' :: name := by
  obtain ⟨before, behind, hsplit, hfound⟩ := split_of_mem_piecesFrom hmem
  have hbracket : '[' ∉ '/' :: name ++ ']' :: after := by
    simp [hname.tag.no_open, hafter]
  obtain ⟨-, -, hsame⟩ := (List.append_cons_inj_of_notMem hinside hbracket).1 hsplit
  have hclosing := tagAt?_eq_some_iff.2
    ⟨hname.closing, Eq.refl ('[' :: ('/' :: name ++ ']' :: after))⟩
  rw [hsame] at hclosing
  cases hclosing.symm.trans hfound
  rfl

theorem countP_closing_le (fuel : ℕ) :
    (piecesFrom fuel (inside ++ '[' :: ('/' :: name ++ ']' :: after))).countP Piece.isTag ≤ 1 := by
  refine (countP_isTag_le fuel _).trans ?_
  simp [List.count_eq_zero_of_not_mem, hinside, hname.tag.no_open, hafter]

/-- A text in one style can be shown if there are no brackets in it and after it, even where a
backslash at its end takes the tag that should close the style. -/
theorem render_styled :
    ∃ t, render ('[' :: (name ++ ']' :: (inside ++ '[' :: ('/' :: name ++ ']' :: after)))) = .ok t ∧
      t.StyledIn ('(' ∉ ·) := by
  obtain ⟨standard, hnormal, hstandard⟩ := Screen.Style.normalize_eq_ok hname.no_call
  have hne : name ≠ [] := by
    intro hnil
    have hstart := hname.tag.start
    rw [hnil] at hstart
    cases hstart
  obtain ⟨first, hfirst, hopened, hspans⟩ := step_tag {} name
  have hopen := hfirst.trans (apply_open hname.no_equals hnormal hname.no_slash first)
  let rest := inside ++ '[' :: ('/' :: name ++ ']' :: after)
  have hfound := tagAt?_eq_some_iff.2 ⟨hname.tag, Eq.refl ('[' :: (name ++ ']' :: rest))⟩
  let opening : Canvas :=
    { first with opened := ⟨standard, none, first.length⟩ :: first.opened }
  have hone : opening.opened = [⟨standard, none, first.length⟩] := congrArg (List.cons _) hopened
  have hnone : ∀ s ∈ opening.spans, '(' ∉ s.style := hspans ▸ List.forall_mem_nil _
  obtain ⟨c, hfold, hc⟩ := foldlM_closing hname.no_equals hnormal hne hname.trimmed hstandard
    (fun _ _ hmem => content_of_closing hname hinside hafter hmem)
    (countP_closing_le hname hinside hafter (name ++ ']' :: rest).length.succ) hone hnone
  refine ⟨⟨c.complete.shown.reverse, c.complete.spans⟩, ?_, spans_complete hc⟩
  have hpieces : pieces ('[' :: (name ++ ']' :: rest)) =
      .tag 0 name :: piecesFrom (name ++ ']' :: rest).length.succ rest := by
    rw [pieces, List.length_cons, piecesFrom_cons (by decide), hfound]
  have hall : (pieces ('[' :: (name ++ ']' :: rest))).foldlM Canvas.step {} = .ok c := by
    rw [hpieces, List.foldlM_cons, hopen]
    exact hfold
  rw [render, hall]
  rfl

end

end Markup

namespace Screen

variable {markup text file title : String} {header : List String} {rows : List (List String)}

/-! ## Texts on the screen -/

/-- The tags of a text can be taken out and leave no style with a parenthesis. -/
def Renders (markup : String) : Prop :=
  ∃ t, Markup.render markup.toList = .ok t ∧ t.StyledIn ('(' ∉ ·)

theorem renders_of_no_bracket (h : '[' ∉ markup.toList) : Renders markup :=
  Markup.render_of_no_bracket h

theorem Renders.exists_printWithin (h : Renders markup) (columns : ℕ) :
    ∃ lines, printWithin columns markup = .ok lines := by
  obtain ⟨t, hrender, hstyles⟩ := h
  exact printWithin_eq_ok columns hrender hstyles

/-- A status line shows any text without brackets. -/
theorem exists_status {name mark : List Char} (hname : Markup.IsStyleName name)
    (hmark : '[' ∉ mark) (htext : '[' ∉ text.toList)
    (hmarkup : markup.toList =
      '[' :: (name ++ ']' :: (mark ++ '[' :: ('/' :: name ++ ']' :: ' ' :: text.toList)))) :
    ∃ lines, print markup = .ok lines := by
  have hafter : '[' ∉ ' ' :: text.toList := by simpa using htext
  obtain ⟨t, hrender, hstyles⟩ := Markup.render_styled hname hmark hafter
  exact printWithin_eq_ok screenWidth (hmarkup ▸ hrender) hstyles

theorem success_of_no_bracket (h : '[' ∉ text.toList) : ∃ lines, success text = .ok lines := by
  have hname : Markup.IsStyleName "success".toList := by decide
  have hmark : '[' ∉ ['✔'] := by decide
  exact exists_status hname hmark h (by simp [toString])

theorem caution_of_no_bracket (h : '[' ∉ text.toList) : ∃ lines, caution text = .ok lines := by
  have hname : Markup.IsStyleName "warning".toList := by decide
  have hmark : '[' ∉ ['⚠'] := by decide
  exact exists_status hname hmark h (by simp [toString])

theorem info_of_no_bracket (h : '[' ∉ text.toList) : ∃ lines, info text = .ok lines := by
  have hname : Markup.IsStyleName "info".toList := by decide
  have hmark : '[' ∉ ['ℹ'] := by decide
  exact exists_status hname hmark h (by simp [toString])

/-! ## Violations -/

theorem exists_violation {v : Violation} (h : v.IsReported) :
    ∃ lines, violation v = .ok lines := by
  obtain ⟨-, settings, r, c, hr, hc, hrule, hmessage, hadvice⟩ := h
  obtain ⟨hwords, hphrase⟩ := isPhrase_of_advice hr c hc
  have hplace : IsBare (place v).toList := by
    rw [place]
    split
    · rename_i line _
      have hmarkup : s!"L{line}".toList = ['L'] ++ ((toString line).toList ++ []) := by
        simp [toString]
      rw [hmarkup]
      exact isBare_numeral (by decide) (by decide) (numeral_int line)
    · exact Markup.isBare_of_not_mem (by decide) (by decide)
  obtain ⟨found, hfound⟩ := exists_print screenWidth (finding_markup v) (Markup.isBare_blanks 2)
    (isPlain_findingMarks hplace (hmessage ▸ hwords) (hrule ▸ (isPhrase_of_name hr).bare))
  rw [violation, print, hfound, hadvice]
  simp only [bind, Except.bind, print_advice hphrase]
  split <;> exact ⟨_, rfl⟩

theorem exists_fileGroup {vs : List Violation} (hfile : '[' ∉ file.toList)
    (h : ∀ v ∈ vs, v.IsReported) : ∃ lines, fileGroup file vs = .ok lines := by
  have hafter : '[' ∉ ' ' :: ' ' :: issues vs.length := by
    simpa using fun hmem => (mem_issues hmem).2 rfl
  have hname : Markup.IsStyleName "bold".toList := by decide
  obtain ⟨t, hrender, hstyles⟩ := Markup.render_styled hname hfile hafter
  have hmarkup : s!"[bold]{file}[/bold]  ({vs.length} issue(s))".toList = '[' :: ("bold".toList ++
      ']' :: (file.toList ++ '[' :: ('/' :: "bold".toList ++ ']' :: ' ' :: ' ' ::
        issues vs.length))) :=
    (title_markup file vs.length).trans (by simp [titleMark, Mark.markup])
  obtain ⟨title, htitle⟩ := printWithin_eq_ok framedWidth (hmarkup ▸ hrender) hstyles
  obtain ⟨shown, hshown⟩ := exists_results fun v hv => exists_violation (h v hv)
  rw [fileGroup, printFramed, htitle]
  simp only [bind, Except.bind, hshown]
  exact ⟨_, rfl⟩

/-- All violations are shown if no name of a file has a bracket. -/
theorem violations_of_no_bracket {r : LintResult} (hreported : ∀ v ∈ r.violations, v.IsReported)
    (hfiles : ∀ v ∈ r.violations, '[' ∉ v.file.toList) : ∃ lines, violations r = .ok lines := by
  have hgroups : ∀ group ∈ r.byFile, ∃ lines, fileGroup group.1 group.2 = .ok lines := by
    intro group hgroup
    obtain ⟨⟨v, hv, hkey⟩, hsub⟩ := key_of_mem_groupBy hgroup
    exact exists_fileGroup (hkey ▸ hfiles v hv) fun w hw => hreported w (hsub w hw)
  obtain ⟨shown, hshown⟩ := exists_results hgroups
  have hviolations : violations r =
      (r.byFile.mapM fun group => fileGroup group.1 group.2).map List.flatten := rfl
  rw [hviolations, hshown]
  exact ⟨_, rfl⟩

/-! ## Tables -/

theorem exists_readRow {cells : List String} (h : ∀ cell ∈ cells, Renders cell) :
    ∃ texts, readRow cells = .ok texts ∧ ∀ t ∈ texts, t.StyledIn ('(' ∉ ·) :=
  exists_mapM h

/-- A table can be shown if all of its texts can. -/
theorem exists_table (htitle : Renders title) (hheader : ∀ cell ∈ header, Renders cell)
    (hrows : ∀ row ∈ rows, ∀ cell ∈ row, Renders cell) :
    ∃ lines, table title header rows = .ok lines := by
  obtain ⟨first, hfirst, hfirst'⟩ := exists_readRow hheader
  obtain ⟨rest, hrest, hrest'⟩ := exists_mapM fun row hrow => exists_readRow (hrows row hrow)
  obtain ⟨shown, hshown⟩ := htitle.exists_printWithin screenWidth
  let t : Table := ⟨first, rest⟩
  have hcells : ∀ row ∈ t.allRows, ∃ lines,
      ((row.zip t.widths).mapM fun pair => Table.cellLines pair.1 pair.2) = .ok lines := by
    intro row hrow
    have hstyled : ∀ cell ∈ row, cell.StyledIn ('(' ∉ ·) := by
      rcases List.mem_cons.1 hrow with rfl | hrow
      · exact hfirst'
      · exact hrest' row hrow
    exact exists_results fun pair hpair =>
      ⟨_, showLines_eq_ok _ ((hstyled _ (List.of_mem_zip hpair).1).wrap _ _)⟩
  obtain ⟨lines, hlines⟩ : ∃ lines, t.lines = .ok lines := by
    obtain ⟨lines, hall⟩ := exists_results hcells
    have hlines : t.lines = (t.allRows.mapM fun row =>
        (List.zip row t.widths).mapM fun pair => Table.cellLines pair.1 pair.2).map
          (List.flatMap Table.rowLines) := rfl
    rw [hlines, hall]
    exact ⟨_, rfl⟩
  rw [table, hfirst]
  simp only [bind, Except.bind, hrest, print, hshown]
  rw [show Table.lines ⟨first, rest⟩ = _ from hlines]
  exact ⟨_, rfl⟩

/-! ## Triages -/

section

variable {s : TriageSummary} (h : ∀ i ∈ s.items, i.violation.IsReported)

theorem renders_counts {counts : List (String × ℕ)} (hnames : ∀ c ∈ counts, '[' ∉ c.1.toList) :
    ∀ row ∈ countRows counts, ∀ cell ∈ row, Renders cell := by
  intro row hrow
  obtain ⟨count, hcount, rfl⟩ := List.mem_map.1 hrow
  simp only [List.forall_mem_cons]
  exact ⟨renders_of_no_bracket (hnames count hcount),
    renders_of_no_bracket (not_mem_numeral_nat _ rfl), List.forall_mem_nil _⟩

/-- Texts without brackets, one by one. -/
theorem renders_all {cells : List String} (h : ∀ cell ∈ cells, '[' ∉ cell.toList) :
    ∀ cell ∈ cells, Renders cell :=
  fun cell hcell => renders_of_no_bracket (h cell hcell)

theorem overview_eq_ok (s : TriageSummary) : ∃ lines, overview s = .ok lines :=
  exists_table (renders_of_no_bracket (by decide)) (renders_all (by decide))
    (renders_counts (by simp only [List.forall_mem_cons]; decide))

theorem no_bracket_lineOrDash (v : Violation) : '[' ∉ (lineOrDash v).toList := by
  rw [lineOrDash]
  split
  · decide
  · split
    · decide
    · exact not_mem_numeral_int _ rfl (by decide)

theorem criticalNotice_eq_ok (s : TriageSummary) : ∃ lines, criticalNotice s = .ok lines := by
  rw [criticalNotice]
  split
  · exact ⟨_, rfl⟩
  · refine caution_of_no_bracket ?_
    have hword : '[' ∉ " critical violation(s) need attention.".toList := by decide
    have htext : s!"{s.critical.length} critical violation(s) need attention.".toList =
        (toString s.critical.length).toList ++ " critical violation(s) need attention.".toList := by
      simp [toString]
    rw [htext]
    exact List.not_mem_append (not_mem_numeral_nat _ rfl) hword

theorem categories_eq_ok (s : TriageSummary) : ∃ lines, table "📈 By category"
    ["Category", "Violations"] (countRows s.sortedCategories) = .ok lines := by
  refine exists_table (renders_of_no_bracket (by decide)) (renders_all (by decide))
    (renders_counts fun count hcount => ?_)
  obtain ⟨i, -, hname⟩ := key_of_mem_tally (List.mem_mergeSort.1 hcount)
  rw [← hname]
  cases i.category <;> decide

include h

theorem topRules_eq_ok (limit : ℤ) : ∃ lines,
    table "🏆 Top rules" ["Rule", "Violations"] (countRows (s.topRules limit)) = .ok lines := by
  refine exists_table (renders_of_no_bracket (by decide)) (renders_all (by decide))
    (renders_counts fun count hcount => ?_)
  have hranked : count ∈ s.rankedRules := by
    rw [TriageSummary.topRules, TriageSummary.cutAt] at hcount
    split at hcount <;> exact List.mem_of_mem_take hcount
  obtain ⟨i, hi, hname⟩ := key_of_mem_tally (List.mem_mergeSort.1 hranked)
  obtain ⟨-, settings, r, c, hr, hc, hrule, -⟩ := h i hi
  have hphrase := (isPhrase_of_name hr).no_bracket
  rw [← hname, hrule]
  exact fun hmem => hphrase (by simp [hmem])

theorem quickWins_eq_ok (hfiles : ∀ i ∈ s.items, '[' ∉ i.violation.file.toList) :
    ∃ lines, quickWins s = .ok lines := by
  rw [quickWins]
  split
  · exact ⟨_, rfl⟩
  · refine exists_table (renders_of_no_bracket (by decide))
      (renders_all (by decide)) (List.forall_mem_map.2 fun i hi => renders_all ?_)
    have hmem := (List.mem_filter.1 hi).1
    obtain ⟨-, settings, r, c, hr, hc, -, hmessage, -⟩ := h i hmem
    simp only [List.forall_mem_cons]
    exact ⟨hfiles i hmem, no_bracket_lineOrDash _,
      hmessage ▸ (isPhrase_of_advice hr c hc).1.no_bracket, List.forall_mem_nil _⟩

/-- A triage is shown if no name of a file has a bracket. -/
theorem triage_of_no_bracket (hfiles : ∀ i ∈ s.items, '[' ∉ i.violation.file.toList) (limit : ℤ) :
    ∃ lines, triage s limit = .ok lines := by
  obtain ⟨top, htop⟩ := topRules_eq_ok h limit
  obtain ⟨categories, hcategories⟩ := categories_eq_ok s
  obtain ⟨numbers, hnumbers⟩ := overview_eq_ok s
  obtain ⟨wins, hwins⟩ := quickWins_eq_ok h hfiles
  obtain ⟨notice, hnotice⟩ := criticalNotice_eq_ok s
  rw [triage, htop]
  simp only [bind, Except.bind, hcategories, hnumbers, hwins, hnotice]
  exact ⟨_, rfl⟩

end

end Screen

end LineLint
