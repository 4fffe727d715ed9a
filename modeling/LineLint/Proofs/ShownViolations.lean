import LineLint.Proofs.Phrases
import LineLint.Proofs.Reported

/-!
# How violations are shown

Every line of a violation is shown as it is written, without the tags. The name of a file goes
through the tags like all text on the screen, so a name that holds a tag loses it or cannot be shown
at all. Main statement: `Screen.violations_eq_ok_iff`.
-/

namespace LineLint

open Markup (Mark IsBare HoldsTag shownText)

namespace Screen

variable {v : Violation}

/-! ## Violations -/

/-- A text is looked at through the list of its characters, which can be computed with. -/
theorem isPhrase_literal {chars : List Char} (h : IsPhrase chars) :
    IsPhrase (String.ofList chars).toList := by
  rwa [String.toList_ofList]

theorem isPhrase_extended {first last : List Char} (h : IsPhrase (first ++ last)) :
    IsPhrase (String.ofList first ++ String.ofList last).toList := by
  rwa [String.toList_append, String.toList_ofList, String.toList_ofList]

theorem isPhrase_inserted {first inside last : List Char} (h : IsPhrase (first ++ inside ++ last)) :
    IsPhrase (String.ofList first ++ String.ofList inside ++ String.ofList last).toList := by
  rwa [String.toList_append, String.toList_append, String.toList_ofList, String.toList_ofList,
    String.toList_ofList]

/-- What a rule says is made of phrases. -/
theorem isPhrase_of_advice {s : Settings} {r : Rule} (hr : r ∈ s.allRules) :
    ∀ c ∈ r.checks, IsPhrase c.advice.message.toList ∧ IsPhrase c.advice.suggestion.toList := by
  have hall : ∀ a ∈ r.checks.map Check.advice,
      IsPhrase a.message.toList ∧ IsPhrase a.suggestion.toList := by
    simp only [Settings.allRules, Settings.catalogue, List.map_cons, List.map_nil, List.mem_cons,
      List.not_mem_nil, or_false] at hr
    -- the texts of the three rules do not depend on the settings, so they can be looked at
    rcases hr with rfl | rfl | rfl
    · simp only [Rules.bunFlags, List.map_cons, List.map_nil, Check.advice, List.forall_mem_cons]
      refine ⟨⟨isPhrase_literal ?_, isPhrase_literal ?_⟩,
        ⟨isPhrase_extended ?_, isPhrase_inserted ?_⟩,
        ⟨isPhrase_literal ?_, isPhrase_literal ?_⟩, List.forall_mem_nil _⟩ <;> decide
    · simp only [Rules.configuration, List.map_cons, List.map_nil, Check.advice,
        List.forall_mem_cons]
      refine ⟨⟨isPhrase_literal ?_, isPhrase_literal ?_⟩,
        ⟨isPhrase_literal ?_, isPhrase_literal ?_⟩, List.forall_mem_nil _⟩ <;> decide
    · have hreplaced : ∀ pair ∈ Rules.Deprecation.replacements,
          IsPhrase (Rules.Deprecation.message pair.1).toList ∧ IsPhrase pair.2.toList := by
        simp only [Rules.Deprecation.replacements, List.forall_mem_cons]
        refine ⟨?_, ?_, ?_, ?_, ?_, ?_, ?_, ?_, List.forall_mem_nil _⟩ <;>
          exact ⟨isPhrase_inserted (by decide), isPhrase_literal (by decide)⟩
      have hmanifest : IsPhrase Rules.Deprecation.manifestAdvice.message.toList ∧
          IsPhrase Rules.Deprecation.manifestAdvice.suggestion.toList :=
        ⟨isPhrase_literal (by decide), isPhrase_literal (by decide)⟩
      simp only [Rules.deprecation, List.map_append, List.map_map, List.map_cons, List.map_nil,
        Function.comp_def, Check.advice, List.forall_mem_append, List.forall_mem_map,
        List.forall_mem_cons]
      exact ⟨hreplaced, hmanifest, List.forall_mem_nil _⟩
  exact fun c hc => hall _ (List.mem_map_of_mem hc)

theorem isPhrase_of_name {s : Settings} {r : Rule} (hr : r ∈ s.allRules) :
    IsPhrase ('(' :: (r.name.toList ++ [')'])) := by
  simp only [Settings.allRules, Settings.catalogue, List.map_cons, List.map_nil, List.mem_cons,
    List.not_mem_nil, or_false] at hr
  rcases hr with rfl | rfl | rfl <;>
    simp only [Rules.bunFlags, Rules.configuration, Rules.deprecation] <;> decide

/-- How the violation is shown. -/
def shownFinding (v : Violation) : String :=
  s!"● {severityTitle v.severity} {place v} {v.message} ({v.rule})"

def shownAdvice (advice : String) : String := s!"Suggestion: {advice}"

/-- How a violation is shown, with what it suggests. -/
def shownViolation (v : Violation) : List String :=
  shownFinding v :: (v.suggestion.map shownAdvice).toList

/-- The marks of the line of a violation. -/
def findingMarks (v : Violation) : List Mark := [
  ⟨(severityStyle v.severity).toList, '●' :: ' ' :: (severityTitle v.severity).toList, [' ', ' ']⟩,
  ⟨"dim".toList, (place v).toList, ' ' :: ' ' :: (v.message.toList ++ [' ', ' '])⟩,
  ⟨"dim".toList, '(' :: (v.rule.toList ++ [')']), []⟩]

theorem finding_markup (v : Violation) :
    (finding v).toList = [' ', ' '] ++ (findingMarks v).flatMap Mark.markup := by
  -- To derive an equation of the definition would take long here.
  delta finding
  simp only [findingMarks, toString, String.toList_append, List.flatMap_cons, List.flatMap_nil,
    Mark.markup]
  simp

theorem isStyleName_dim : Markup.IsStyleName "dim".toList := by
  decide

theorem isPlain_findingMarks {v : Violation} (hplace : IsBare (place v).toList)
    (hmessage : IsPhrase v.message.toList) (hrule : IsBare ('(' :: (v.rule.toList ++ [')']))) :
    ∀ m ∈ findingMarks v, m.IsPlain := by
  have hstyle : Markup.IsStyleName (severityStyle v.severity).toList := by
    cases v.severity <;> decide
  have htitle : IsBare ('●' :: ' ' :: (severityTitle v.severity).toList) := by
    cases v.severity <;> exact Markup.isBare_of_not_mem (by decide) (by decide)
  have hafter : IsBare (' ' :: ' ' :: (v.message.toList ++ [' ', ' '])) :=
    Markup.isBare_of_not_mem (by simpa using hmessage.no_bracket)
      (by simpa using hmessage.no_escape)
  simp only [findingMarks, List.forall_mem_cons]
  refine ⟨⟨hstyle, htitle, Markup.isBare_blanks 2⟩,
    ⟨isStyleName_dim, hplace, hafter⟩,
    ⟨isStyleName_dim, hrule, Markup.isBare_blanks 0⟩, List.forall_mem_nil _⟩

theorem print_finding {v : Violation} (hreported : v.IsReported)
    (hshort : (place v).length ≤ 80) : print (finding v) = .ok [shownFinding v] := by
  obtain ⟨-, settings, r, c, hr, hc, hrule, hmessage, -⟩ := hreported
  have hplace := isPhrase_place hshort
  have hwords : IsPhrase v.message.toList := hmessage ▸ (isPhrase_of_advice hr c hc).1
  have hname : IsPhrase ('(' :: (v.rule.toList ++ [')'])) := hrule ▸ isPhrase_of_name hr
  have htitle : IsPhrase ('●' :: ' ' :: (severityTitle v.severity).toList) := by
    cases v.severity <;> decide
  have hblanks : shownText [' ', ' '] = [' ', ' '] := by decide
  have hafter : shownText (' ' :: ' ' :: (v.message.toList ++ [' ', ' '])) =
      ' ' :: ' ' :: (v.message.toList ++ [' ', ' ']) := hwords.shown_between 2 2
  let phrases := ['●' :: ' ' :: (severityTitle v.severity).toList, (place v).toList,
    v.message.toList, '(' :: (v.rule.toList ++ [')'])]
  have hphrases : ∀ p ∈ phrases, IsPhrase p := by
    simp only [phrases, List.forall_mem_cons]
    exact ⟨htitle, hplace, hwords, hname, List.forall_mem_nil _⟩
  have htext : shownText [' ', ' '] ++ (findingMarks v).flatMap Mark.shown = spread phrases := by
    simp [findingMarks, Mark.shown, hblanks, hafter, htitle.shown, hplace.shown, hname.shown,
      spread, phrases]
  have hline : shownFinding v = String.ofList (Text.glue ' ' phrases) := by
    rw [← String.toList_inj, String.toList_ofList]
    simp only [shownFinding, toString, String.toList_append, phrases, Text.glue]
    simp
  rw [hline]
  exact print_phrases (finding_markup v) (Markup.isBare_blanks 2)
    (isPlain_findingMarks hplace.bare hwords hname.bare) htext hphrases (by simp [phrases])
    (by simp [phrases])

theorem print_advice {advice : String} (h : IsPhrase advice.toList) :
    print s!"    [dim]Suggestion:[/dim] {advice}" = .ok [shownAdvice advice] := by
  let word := "Suggestion:".toList
  let m : Mark := ⟨"dim".toList, word, ' ' :: advice.toList⟩
  have hword : IsBare word := Markup.isBare_of_not_mem (by decide) (by decide)
  have hplain : m.IsPlain := ⟨isStyleName_dim, hword, Markup.isBare_of_not_mem
    (by simpa [m] using h.no_bracket) (by simpa [m] using h.no_escape)⟩
  have hmarkup : s!"    [dim]Suggestion:[/dim] {advice}".toList =
      [' ', ' ', ' ', ' '] ++ [m].flatMap Mark.markup := by
    simp only [toString, String.toList_append, List.flatMap_cons, List.flatMap_nil, Mark.markup, m,
      word]
    simp
  have htext : shownText [' ', ' ', ' ', ' '] ++ [m].flatMap Mark.shown =
      ' ' :: ' ' :: ' ' :: ' ' :: (word ++ ' ' :: advice.toList) := by
    have hlead : shownText [' ', ' ', ' ', ' '] = [' ', ' ', ' ', ' '] := by decide
    have hafter : shownText (' ' :: advice.toList) = ' ' :: advice.toList := by
      simpa using h.shown_between 1 0
    have hinside : shownText word = word := by decide
    simp [Mark.shown, m, hlead, hinside, hafter]
  have hsimple : (word.all fun c => decide (IsSimple c)) = true := by decide
  have htidy : Text.IsTidy (word ++ ' ' :: advice.toList) :=
    Text.IsTidy.append (by decide) h.tidy
  have hline : shownAdvice advice = String.ofList (word ++ ' ' :: advice.toList) := by
    rw [← String.toList_inj, String.toList_ofList]
    simp only [shownAdvice, toString, String.toList_append, word]
    simp
  rw [hline]
  refine print_marks hmarkup (Markup.isBare_blanks 4) (by simpa using hplain)
    htext ?_ ?_ ?_ htidy.text_ne_nil
  · have hblank : IsSimple ' ' := by decide
    simp only [List.all_eq_true, decide_eq_true_eq] at hsimple
    simpa [hblank, or_imp, forall_and] using ⟨hsimple, h.simple⟩
  · have hlength := h.short
    have hwidth : screenWidth = 1000 := rfl
    have hcount : word.length = 11 := by decide
    simp only [List.length_cons, List.length_append]
    omega
  · simp only [Text.tidy_space, htidy.tidy_eq]

theorem violation_eq_ok {v : Violation} (hreported : v.IsReported)
    (hshort : (place v).length ≤ 80) : violation v = .ok (shownViolation v) := by
  have hfound := print_finding hreported hshort
  obtain ⟨-, settings, r, c, hr, hc, -, -, hadvice⟩ := hreported
  have hphrase := (isPhrase_of_advice hr c hc).2
  have hnonempty : c.advice.suggestion.isEmpty = false := by
    rw [← Bool.not_eq_true, String.isEmpty_iff]
    intro hempty
    exact hphrase.tidy.text_ne_nil (by rw [hempty]; rfl)
  rw [violation, hfound, hadvice]
  simp [bind, Except.bind, hnonempty, print_advice hphrase, shownViolation, hadvice, pure,
    Except.pure]

/-! ## Titles -/

/-- A letter, a digit, or one of the marks that are common in the names of files. -/
def isNameChar (c : Char) : Bool := c.isAlphanum || ['.', '_', '-', '/', '[', ']'].contains c

/-- A name of fewer than 900 characters, all of which are common ones. -/
structure IsShortName (name : String) : Prop where
  chars : ∀ c ∈ name.toList, isNameChar c = true
  short : name.length < 900

instance (name : String) : Decidable (IsShortName name) :=
  decidable_of_iff (name.toList.all isNameChar = true ∧ name.length < 900)
    ⟨fun ⟨hchars, hshort⟩ => ⟨List.all_eq_true.1 hchars, hshort⟩,
      fun h => ⟨List.all_eq_true.2 h.chars, h.short⟩⟩

theorem isInk_of_isNameChar {c : Char} (h : isNameChar c = true) : IsInk c := by
  simp only [isNameChar, Bool.or_eq_true, List.contains_eq_mem, decide_eq_true_eq, List.mem_cons,
    List.not_mem_nil, or_false] at h
  rcases h with halnum | hmark
  · have hrange : 0x30 ≤ c.toNat ∧ c.toNat ≤ 0x7A := by
      delta Char.isAlphanum Char.isAlpha Char.isUpper Char.isLower Char.isDigit at halnum
      simp only [Bool.or_eq_true, Bool.and_eq_true, decide_eq_true_eq,
        UInt32.le_iff_toNat_le] at halnum
      have hcode : c.val.toNat = c.toNat := rfl
      simp at halnum
      omega
    refine ⟨by omega, ?_, ?_⟩
    · rintro rfl
      exact absurd halnum (by decide)
    · rintro rfl
      exact absurd halnum (by decide)
  · rcases hmark with rfl | rfl | rfl | rfl | rfl | rfl <;> exact ⟨by decide, by decide, by decide⟩

theorem simple_of {c : Char} (h : c = ' ' ∨ IsInk c) : IsSimple c := by
  rcases h with rfl | hink
  · decide
  · exact hink.simple

theorem literal_of {c : Char} (h : c = ' ' ∨ IsInk c) : Markup.IsLiteral c := by
  rcases h with rfl | hink
  · exact ⟨by decide, by decide, by decide⟩
  · exact hink.literal

/-- How the name of a file with so many violations is shown. -/
def shownTitle (file : String) (count : ℕ) : String := s!"{file} ({count} issue(s))"

/-- The number of violations as it stands behind a name. -/
def issues (count : ℕ) : List Char := '(' :: ((toString count).toList ++ " issue(s))".toList)

theorem shownTitle_eq (file : String) (count : ℕ) :
    shownTitle file count = String.ofList (file.toList ++ ' ' :: issues count) := by
  rw [← String.toList_inj, String.toList_ofList]
  simp only [shownTitle, issues, toString, String.toList_append]
  simp

/-- The mark of a title. -/
def titleMark (file : String) (count : ℕ) : Mark :=
  ⟨"bold".toList, file.toList, ' ' :: ' ' :: issues count⟩

theorem title_markup (file : String) (count : ℕ) :
    s!"[bold]{file}[/bold]  ({count} issue(s))".toList = (titleMark file count).markup := by
  simp only [toString, String.toList_append, titleMark, Mark.markup, issues]
  simp

/-- All characters of the number of violations are blanks or visible, and none is a bracket. -/
theorem mem_issues {count : ℕ} {c : Char} (h : c ∈ issues count) :
    (c = ' ' ∨ IsInk c) ∧ c ≠ '[' := by
  rw [issues, List.mem_cons, List.mem_append] at h
  rcases h with rfl | hdigit | hword
  · exact ⟨.inr ⟨by decide, by decide, by decide⟩, by decide⟩
  · have hdigit := numeral_nat count c hdigit
    refine ⟨.inr (isInk_of_isDigit hdigit), ?_⟩
    rintro rfl
    exact absurd hdigit (by decide)
  · simp at hword
    rcases hword with rfl | rfl | rfl | rfl | rfl | rfl | rfl | rfl <;>
      first
      | exact ⟨.inl rfl, by decide⟩
      | exact ⟨.inr ⟨by decide, by decide, by decide⟩, by decide⟩

theorem length_issues (count : ℕ) : (issues count).length = (toString count).length + 11 := by
  have hword : " issue(s))".toList.length = 10 := by decide
  rw [issues, List.length_cons, List.length_append, String.length_toList, hword]

theorem isTidy_issues (count : ℕ) : Text.IsTidy (issues count) := by
  have hsplit : issues count = '(' :: (toString count).toList ++ ' ' :: "issue(s))".toList := by
    simp [issues]
  rw [hsplit]
  refine Text.IsTidy.append (Text.isTidy_of_word (List.cons_ne_nil _ _) ?_) (by decide)
  rw [List.forall_mem_cons]
  exact ⟨by decide, fun c hc => (isInk_of_isDigit (numeral_nat count c hc)).not_blank⟩

theorem tidy_title {left : List Char} (hleft : ∀ c ∈ left, IsInk c) (count : ℕ) :
    Text.tidy (left ++ ' ' :: ' ' :: issues count) =
      if left = [] then issues count else left ++ ' ' :: issues count := by
  have htidy := isTidy_issues count
  split
  · rename_i hnil
    rw [hnil, List.nil_append, Text.tidy_space, Text.tidy_space, htidy.tidy_eq]
  · rename_i hne
    have hword := Text.isTidy_of_word hne fun c hc => (hleft c hc).not_blank
    have hwords : Text.words (' ' :: issues count) ≠ [] := by
      rw [Text.words_space]
      exact htidy.ne_nil
    rw [Text.tidy_append hword.ne_nil hwords, Text.tidy_space, hword.tidy_eq, htidy.tidy_eq]

section

variable {file : String} {count : ℕ} (hname : IsShortName file)

include hname

theorem IsShortName.ink {c : Char} (hc : c ∈ file.toList) : IsInk c :=
  isInk_of_isNameChar (hname.chars c hc)

theorem mem_title {c : Char} (hc : c ∈ file.toList ++ ' ' :: ' ' :: issues count) :
    c = ' ' ∨ IsInk c := by
  simp only [List.mem_append, List.mem_cons] at hc
  rcases hc with hfile | rfl | rfl | hissues
  · exact .inr (hname.ink hfile)
  · exact .inl rfl
  · exact .inl rfl
  · exact (mem_issues hissues).1

variable (hcount : (toString count).length ≤ 80)

include hcount

theorem length_title_le :
    (file.toList ++ ' ' :: ' ' :: issues count).length ≤ framedWidth := by
  have hshort := hname.short
  have hwidth : framedWidth = 996 := rfl
  simp only [List.length_append, List.length_cons, String.length_toList, length_issues]
  omega

/-- A name without tags is shown as it is. -/
theorem print_title (hne : file ≠ "") (htags : ¬HoldsTag file.toList) :
    printFramed s!"[bold]{file}[/bold]  ({count} issue(s))" = .ok [shownTitle file count] := by
  have hchars : file.toList ≠ [] := by simpa using hne
  have hafter : ∀ c ∈ ' ' :: ' ' :: issues count, (c = ' ' ∨ IsInk c) ∧ c ≠ '[' := by
    rw [List.forall_mem_cons, List.forall_mem_cons]
    exact ⟨⟨.inl rfl, by decide⟩, ⟨.inl rfl, by decide⟩, fun c hc => mem_issues hc⟩
  have hplain : (titleMark file count).IsPlain := by
    refine ⟨by simp only [titleMark]; decide,
      ⟨htags, fun hmem => (hname.ink hmem).no_escape rfl⟩,
      Markup.isBare_of_not_mem ?_ ?_⟩
    · exact fun hmem => (hafter _ hmem).2 rfl
    · exact fun hmem => (literal_of (hafter _ hmem).1).no_escape rfl
  have htext : shownText [] ++ [titleMark file count].flatMap Mark.shown =
      file.toList ++ ' ' :: ' ' :: issues count := by
    rw [List.flatMap_singleton, Mark.shown, titleMark, Markup.shownText_nil, List.nil_append,
      Markup.shownText_of_literal fun c hc => (hname.ink hc).literal,
      Markup.shownText_of_literal fun c hc => literal_of (hafter c hc).1]
  have hmarkup : s!"[bold]{file}[/bold]  ({count} issue(s))".toList =
      [] ++ [titleMark file count].flatMap Mark.markup := by
    rw [title_markup, List.nil_append, List.flatMap_singleton]
  have htidy : Text.tidy (file.toList ++ ' ' :: ' ' :: issues count) =
      file.toList ++ ' ' :: issues count := by
    rw [tidy_title (fun c hc => hname.ink hc), if_neg hchars]
  rw [shownTitle_eq]
  exact print_marks hmarkup (Markup.isBare_blanks 0) (by simpa using hplain)
    htext (fun c hc => simple_of (mem_title hname hc)) (length_title_le hname hcount) htidy
    (by simp)

omit hcount in
theorem literal_title {c : Char} (hc : c ∈ (titleMark file count).markup) :
    Markup.IsLiteral c := by
  have hstyle : ∀ d ∈ '[' :: ']' :: '/' :: "bold".toList, isNameChar d = true := by
    rw [← List.all_eq_true]
    decide
  have hparts : c ∈ '[' :: ']' :: '/' :: "bold".toList ∨
      c ∈ file.toList ++ ' ' :: ' ' :: issues count := by
    simp only [Mark.markup, titleMark, List.mem_cons, List.mem_append] at hc ⊢
    grind
  rcases hparts with htag | htext
  · exact (isInk_of_isNameChar (hstyle c htag)).literal
  · exact literal_of (mem_title hname htext)

omit hcount in
/-- Of the text of a title the tags are taken out, those of the name included. -/
theorem textOf_title (count : ℕ) : Markup.textOf (Markup.pieces (titleMark file count).markup) =
    Markup.textOf (Markup.pieces file.toList) ++ ' ' :: ' ' :: issues count := by
  have hend : ∀ c ∈ ' ' :: ' ' :: issues count, c ≠ '[' ∧ c ≠ '\\' := by
    rw [List.forall_mem_cons, List.forall_mem_cons]
    refine ⟨by decide, by decide, fun c hc => ⟨(mem_issues hc).2, ?_⟩⟩
    exact (literal_of (mem_issues hc).1).no_escape
  have hescape : '\\' ∉ ' ' :: ' ' :: issues count := fun hmem => (hend _ hmem).2 rfl
  have hfile : '\\' ∉ file.toList := fun hmem => (hname.ink hmem).no_escape rfl
  have hbare : ¬HoldsTag (' ' :: ' ' :: issues count) :=
    Markup.not_holdsTag_of_not_mem fun hmem => (hend _ hmem).1 rfl
  have hstyle : Markup.IsStyleName "bold".toList := by decide
  have hslash : '\\' ∉ '/' :: "bold".toList := by decide
  have hrest : '\\' ∉ file.toList ++ '[' :: ('/' :: "bold".toList ++ ']' :: ' ' :: ' ' ::
      issues count) := by
    simp only [List.mem_append, List.mem_cons, not_or] at hescape hslash ⊢
    exact ⟨hfile, by decide, ⟨by decide, hslash.2⟩, by decide, hescape⟩
  rw [Mark.markup, titleMark, Markup.pieces_tag hstyle.tag hrest,
    Markup.pieces_split hstyle.closing hfile hescape hslash,
    Markup.pieces_of_not_holdsTag hescape hbare, Markup.textOf_cons, Markup.textOf_append,
    Markup.textOf_cons, Markup.textOf_text]
  rfl

/-- A name with a tag is not shown as it is, if it is shown at all. -/
theorem title_ne_of_holdsTag (htag : HoldsTag file.toList) {lines : List String}
    (hprint : printFramed s!"[bold]{file}[/bold]  ({count} issue(s))" = .ok lines) :
    ∃ line, lines = [line] ∧ line ≠ shownTitle file count := by
  let left := Markup.textOf (Markup.pieces file.toList)
  have hfile : '\\' ∉ file.toList := fun hmem => (hname.ink hmem).no_escape rfl
  have hshorter : left.length < file.toList.length := Markup.length_textOf_lt hfile htag
  have hleft : left.Sublist file.toList := Markup.textOf_sublist hfile
  cases hrender : Markup.render (s!"[bold]{file}[/bold]  ({count} issue(s))".toList) with
  | error e =>
    rw [printFramed, printWithin, hrender] at hprint
    cases hprint
  | ok t =>
    -- the tag takes characters away, so the line is shorter than the title
    have htext : t.text = left ++ ' ' :: ' ' :: issues count := by
      rw [title_markup] at hrender
      rw [Markup.text_of_render (fun c hc => literal_title hname hc) hrender, textOf_title hname]
    have hsub : t.text.Sublist (file.toList ++ ' ' :: ' ' :: issues count) :=
      htext ▸ hleft.append_right _
    have htidy : Text.tidy t.text =
        if left = [] then issues count else left ++ ' ' :: issues count := by
      rw [htext, tidy_title fun c hc => hname.ink (hleft.subset hc)]
    have hne : Text.tidy t.text ≠ [] := by
      rw [htidy]
      split <;> simp [issues]
    have hlines := lines_of_print hrender (fun c hc => simple_of (mem_title hname (hsub.subset hc)))
      (hsub.length_le.trans (length_title_le hname hcount)) hne hprint
    refine ⟨_, hlines, fun hsame => ?_⟩
    have hlength : (Text.tidy t.text).length = (file.toList ++ ' ' :: issues count).length := by
      rw [shownTitle_eq, String.ofList_inj] at hsame
      rw [hsame]
    rw [htidy] at hlength
    split at hlength <;> simp only [List.length_append, List.length_cons] at hlength <;> omega

end

/-! ## Files -/

/-- How a file with its violations is shown. -/
def shownGroup (group : String × List Violation) : List String :=
  shownTitle group.1 group.2.length :: group.2.flatMap shownViolation

/-- The numbers that are shown of a result have at most 80 digits. -/
structure FitsScreen (r : LintResult) : Prop where
  places : ∀ v ∈ r.violations, (place v).length ≤ 80
  counts : ∀ group ∈ r.byFile, (toString group.2.length).length ≤ 80

instance (r : LintResult) : Decidable (FitsScreen r) :=
  decidable_of_iff ((∀ v ∈ r.violations, (place v).length ≤ 80) ∧
      ∀ group ∈ r.byFile, (toString group.2.length).length ≤ 80)
    ⟨fun ⟨hplaces, hcounts⟩ => ⟨hplaces, hcounts⟩, fun h => ⟨h.places, h.counts⟩⟩

/-- A file with violations that have room on the screen. -/
structure IsShowable (group : String × List Violation) : Prop where
  named : group.1 ≠ ""
  name : IsShortName group.1
  count : (toString group.2.length).length ≤ 80
  each : ∀ v ∈ group.2, v.IsReported ∧ (place v).length ≤ 80

section

variable {group : String × List Violation} (h : IsShowable group)

include h

/-- All violations of a file are shown. -/
theorem mapM_violation : group.2.mapM violation = .ok (group.2.map shownViolation) := by
  rw [mapM_eq_ok_iff, List.forall₂_map_right_iff, List.forall₂_same]
  exact fun v hv => violation_eq_ok (h.each v hv).1 (h.each v hv).2

/-- The violations of a file stand below its title. -/
theorem fileGroup_eq : fileGroup group.1 group.2 =
    (printFramed s!"[bold]{group.1}[/bold]  ({group.2.length} issue(s))").map
      (· ++ group.2.flatMap shownViolation) := by
  rw [fileGroup, mapM_violation h, List.flatMap_def]
  cases printFramed s!"[bold]{group.1}[/bold]  ({group.2.length} issue(s))" <;> rfl

theorem fileGroup_eq_ok (htags : ¬HoldsTag group.1.toList) :
    fileGroup group.1 group.2 = .ok (shownGroup group) := by
  rw [fileGroup_eq h, print_title h.name h.count h.named htags]
  rfl

/-- What is shown of a file has a title in the first line, which is the right one only if the name
of the file holds no tag. -/
theorem exists_title {lines : List String} (hlines : fileGroup group.1 group.2 = .ok lines) :
    ∃ title, lines = title :: group.2.flatMap shownViolation ∧
      (title = shownTitle group.1 group.2.length → ¬HoldsTag group.1.toList) := by
  by_cases htag : HoldsTag group.1.toList
  · rw [fileGroup_eq h] at hlines
    obtain ⟨shown, hprint, rfl⟩ := map_eq_ok_iff.1 hlines
    obtain ⟨title, rfl, hother⟩ := title_ne_of_holdsTag h.name h.count htag hprint
    exact ⟨title, rfl, fun hsame => absurd hsame hother⟩
  · cases hlines.symm.trans (fileGroup_eq_ok h htag)
    exact ⟨_, rfl, fun _ => htag⟩

end

/-- The violations are shown as they should be if and only if no name of a file holds a tag. -/
theorem violations_eq_ok_iff {r : LintResult} (h : ∀ group ∈ r.byFile, IsShowable group) :
    violations r = .ok (r.byFile.flatMap shownGroup) ↔
      ∀ group ∈ r.byFile, ¬HoldsTag group.1.toList := by
  -- each part has as many lines as it should have, so equal texts have equal parts
  have hparts : ∀ (groups : List (String × List Violation)) (parts : List (List String)),
      (∀ group ∈ groups, IsShowable group) →
      List.Forall₂ (fun group part => fileGroup group.1 group.2 = .ok part) groups parts →
      parts.flatten = groups.flatMap shownGroup → ∀ group ∈ groups, ¬HoldsTag group.1.toList := by
    intro groups parts hgroups hall
    induction hall with
    | nil => exact fun _ => List.forall_mem_nil _
    | @cons group part groups parts hpart _ ih =>
      intro hsame
      rw [List.forall_mem_cons] at hgroups ⊢
      obtain ⟨title, rfl, htitle⟩ := exists_title hgroups.1 hpart
      rw [List.flatten_cons, List.flatMap_cons] at hsame
      obtain ⟨hfirst, hrest⟩ := List.append_inj hsame (by simp [shownGroup])
      exact ⟨htitle (List.cons.inj hfirst).1, ih hgroups.2 hrest⟩
  have hviolations : violations r =
      (r.byFile.mapM fun group => fileGroup group.1 group.2).map List.flatten := rfl
  rw [hviolations]
  constructor
  · intro hok
    obtain ⟨parts, hmap, hflat⟩ := map_eq_ok_iff.1 hok
    exact hparts _ _ h (mapM_eq_ok_iff.1 hmap) hflat
  · intro htags
    have hmap : (r.byFile.mapM fun group => fileGroup group.1 group.2) =
        .ok (r.byFile.map shownGroup) := by
      rw [mapM_eq_ok_iff, List.forall₂_map_right_iff, List.forall₂_same]
      exact fun group hgroup => fileGroup_eq_ok (h group hgroup) (htags group hgroup)
    rw [hmap, List.flatMap_def]
    rfl

/-- The violations of a file are among those of the result. -/
theorem isShowable_of_byFile {r : LintResult} (hfits : FitsScreen r)
    (hreported : ∀ v ∈ r.violations, v.IsReported)
    (hnames : ∀ group ∈ r.byFile, IsShortName group.1) :
    ∀ group ∈ r.byFile, IsShowable group := by
  intro group hgroup
  have hcount := hfits.counts group hgroup
  have hname := hnames group hgroup
  rw [LintResult.byFile, groupBy] at hgroup
  obtain ⟨file, hfile, rfl⟩ := List.mem_map.1 hgroup
  obtain ⟨v, hv, rfl⟩ := List.mem_map.1 (List.mem_eraseDups.1 hfile)
  refine ⟨(hreported v hv).named, hname, hcount, fun w hw => ?_⟩
  have hmem := (List.mem_filter.1 hw).1
  exact ⟨hreported w hmem, hfits.places w hmem⟩

/-! ## Counts -/

theorem isBare_numeral {label numeral after : List Char} (hlabel : '[' ∉ label ∧ '\\' ∉ label)
    (hafter : '[' ∉ after ∧ '\\' ∉ after)
    (hnumeral : ∀ c ∈ numeral, c = '-' ∨ c.isDigit = true) :
    IsBare (label ++ (numeral ++ after)) := by
  have hnot : ∀ c, c ≠ '-' → c.isDigit = false → c ∉ numeral := by
    intro c hdash hdigit hmem
    rcases hnumeral c hmem with rfl | h
    · exact hdash rfl
    · exact absurd (hdigit.symm.trans h) Bool.false_ne_true
  refine Markup.isBare_of_not_mem ?_ ?_
  · exact List.not_mem_append hlabel.1
      (List.not_mem_append (hnot _ (by decide) (by decide)) hafter.1)
  · exact List.not_mem_append hlabel.2
      (List.not_mem_append (hnot _ (by decide) (by decide)) hafter.2)

/-- A number with its label stands for itself. -/
theorem isPlain_of_numeral {name label numeral after : List Char} (hname : Markup.IsStyleName name)
    (hlabel : '[' ∉ label ∧ '\\' ∉ label) (hafter : '[' ∉ after ∧ '\\' ∉ after)
    (hnumeral : ∀ c ∈ numeral, c = '-' ∨ c.isDigit = true) :
    Mark.IsPlain ⟨name, label ++ numeral, after⟩ :=
  ⟨hname, by simpa using isBare_numeral hlabel (show '[' ∉ [] ∧ '\\' ∉ [] by simp) hnumeral,
    Markup.isBare_of_not_mem hafter.1 hafter.2⟩

theorem lintSummary_eq_ok (r : LintResult) : ∃ lines, lintSummary r = .ok lines := by
  let marks : List Mark := [
    ⟨"bold".toList, "Files: ".toList ++ (toString r.filesScanned).toList, [' ', ' ']⟩,
    ⟨"bold".toList, "Total: ".toList ++ (toString r.violations.length).toList, [' ', ' ']⟩,
    ⟨"red".toList, "Error: ".toList ++ (toString (r.count .error)).toList, [' ', ' ']⟩,
    ⟨"yellow".toList, "Warning: ".toList ++ (toString (r.count .warning)).toList, []⟩]
  have hcount : ∀ n : ℕ, ∀ c ∈ (toString n).toList, c = '-' ∨ c.isDigit = true :=
    fun n c hc => .inr (numeral_nat n c hc)
  have hmarks : ∀ m ∈ marks, m.IsPlain := by
    simp only [marks, List.forall_mem_cons]
    refine ⟨isPlain_of_numeral (by decide) (by decide) (by simp)
        (numeral_int r.filesScanned),
      isPlain_of_numeral (by decide) (by decide) (by simp) (hcount _),
      isPlain_of_numeral (by decide) (by decide) (by simp) (hcount _),
      isPlain_of_numeral (by decide) (by decide) (by simp) (hcount _),
      List.forall_mem_nil _⟩
  have hmarkup :
      (s!"[bold]Files: {r.filesScanned}[/bold]  [bold]Total: {r.violations.length}[/bold]  " ++
        s!"[red]Error: {r.count .error}[/red]  [yellow]Warning: {r.count .warning}[/yellow]").toList
      = [] ++ marks.flatMap Mark.markup := by
    simp only [toString, String.toList_append, marks, List.flatMap_cons, List.flatMap_nil,
      Mark.markup]
    simp
  have htitle : "📋 Lint Summary".toList = "📋 Lint Summary".toList ++ [].flatMap Mark.markup :=
    (List.append_nil _).symm
  obtain ⟨title, hprint⟩ := exists_print screenWidth htitle
    (Markup.isBare_of_not_mem (by decide) (by decide)) (List.forall_mem_nil _)
  obtain ⟨counts, hcounts⟩ := exists_print framedWidth hmarkup
    (Markup.isBare_blanks 0) hmarks
  refine ⟨title ++ counts, ?_⟩
  rw [lintSummary, print, hprint]
  simp only [printFramed, hcounts]
  rfl

theorem success_eq_ok (n : ℤ) :
    ∃ lines, success s!"{n} file(s) passed all golden rules." = .ok lines := by
  let m : Mark := ⟨"success".toList, ['✔'],
    [' '] ++ ((toString n).toList ++ " file(s) passed all golden rules.".toList)⟩
  have hname : Markup.IsStyleName "success".toList := by decide
  have hinside : IsBare ['✔'] := Markup.isBare_of_not_mem (by decide) (by decide)
  let text := s!"{n} file(s) passed all golden rules."
  have hmarkup : s!"[success]✔[/success] {text}".toList = [] ++ [m].flatMap Mark.markup := by
    simp only [toString, String.toList_append, List.flatMap_cons, List.flatMap_nil, Mark.markup, m,
      text]
    simp
  refine exists_print screenWidth hmarkup (Markup.isBare_blanks 0) ?_
  rw [List.forall_mem_singleton]
  exact ⟨hname, hinside, isBare_numeral (by decide) (by decide) (numeral_int n)⟩

end Screen

end LineLint
