import LineLint.Screen.Markup
import Mathlib.Data.List.TakeDrop

/-!
# Styles that can be read

A style can be unreadable in one way only: it names a colour by its components, and one of them is
no number. Such a colour has a parenthesis. Main statements: `Style.normalize_eq_ok` and
`Style.parse_ne_badNumber`.
-/

namespace LineLint

namespace Text

variable {text : List Char} {c : Char}

/-! ## Characters of parts of a text -/

theorem mem_of_mem_words {word : List Char} (hword : word ∈ words text) (hc : c ∈ word) :
    c ∈ text := by
  fun_induction words text generalizing word with
  | case1 => cases hword
  | case2 d rest hblank ih => exact List.mem_cons_of_mem _ (ih hword hc)
  | case3 d hblank => grind
  | case4 d e rest hblank hnext ih => grind
  | case5 d e rest hblank hnext hnone ih => grind
  | case6 d e rest hblank hnext w ws hsome ih => grind

theorem mem_of_mem_strip {p : Char → Bool} (h : c ∈ strip p text) : c ∈ text := by
  have hback := List.dropWhile_subset _ (List.mem_reverse.1 h)
  exact List.dropWhile_subset _ (List.mem_reverse.1 hback)

theorem mem_glue {separator : Char} {pieces : List (List Char)} (h : c ∈ glue separator pieces) :
    c = separator ∨ ∃ piece ∈ pieces, c ∈ piece := by
  fun_induction glue separator pieces with
  | case1 => cases h
  | case2 piece => exact .inr ⟨piece, List.mem_singleton_self _, h⟩
  | case3 piece next pieces ih => grind

/-! ## Small letters -/

/-- The small letters of capitals past ASCII lie past the parenthesis. -/
theorem capitalRuns_past : ∀ run ∈ capitalRuns, (0x28 : Int) < run.1 + run.2.2.2 := by
  have hrows : ∀ run ∈ capitalRuns.toList, (0x28 : Int) < run.1 + run.2.2.2 := by decide +kernel
  exact fun run hrun => hrows run (Array.mem_toList_iff.2 hrun)

theorem ofNat_eq_paren {n : Nat} (h : Char.ofNat n = '(') : n = 0x28 := by
  by_cases hvalid : n.isValidChar
  · rw [Char.ofNat, dif_pos hvalid] at h
    exact congrArg Char.toNat h
  · rw [Char.ofNat, dif_neg hvalid] at h
    cases h

theorem toLower_eq_paren (h : c.toLower = '(') : c = '(' := by
  delta Char.toLower at h
  split at h
  · rename_i hcapital
    have hcode : c.val + 0x20 = 0x28 := congrArg Char.val h
    have hvalue : c.val = 8 := by
      have hback := congrArg (· - 0x20) hcode
      simpa using hback
    rw [hvalue] at hcapital
    exact absurd hcapital.1 (by decide)
  · exact h

theorem lowerChar_eq_paren (h : lowerChar c = '(') : c = '(' := by
  rw [lowerChar] at h
  split at h
  · exact toLower_eq_paren h
  · split at h
    case _ first last step distance hfound =>
      have hfirst := Array.find?_some hfound
      simp only [Bool.and_eq_true, decide_eq_true_eq] at hfirst
      have hpast : (0x28 : Int) < first + distance :=
        capitalRuns_past _ (Array.mem_of_find?_eq_some hfound)
      have hcode := ofNat_eq_paren h
      omega
    · exact h

theorem paren_mem_of_mem_lowerFrom {before : List Char} (h : '(' ∈ lowerFrom before text) :
    '(' ∈ text := by
  induction text generalizing before with
  | nil => cases h
  | cons c rest ih =>
    rw [lowerFrom, List.mem_append] at h
    rcases h with h | h
    · have hhead : c = '(' := by
        split at h
        · exact absurd h (by decide)
        · split at h
          · have hsigma := ofNat_eq_paren (List.mem_singleton.1 h).symm
            split at hsigma <;> cases hsigma
          · exact lowerChar_eq_paren (List.mem_singleton.1 h).symm
      exact hhead ▸ List.mem_cons_self
    · exact List.mem_cons_of_mem _ (ih h)

theorem paren_mem_of_mem_lower (h : '(' ∈ lower text) : '(' ∈ text :=
  paren_mem_of_mem_lowerFrom h

end Text

namespace Screen

variable {word text : List Char} {s : Style}

/-! ## Reading -/

theorem recognize_eq_ok (h : '(' ∉ word) : ∃ known, Colour.recognize word = .ok known := by
  have hcall : Colour.call? "rgb" word = none := by
    rw [Colour.call?, if_neg]
    rw [Bool.and_eq_true, List.isPrefixOf_iff_prefix]
    rintro ⟨hstart, -⟩
    exact h (hstart.subset (by simp))
  rw [Colour.recognize, hcall]
  split
  · exact ⟨true, rfl⟩
  · exact ⟨false, rfl⟩

namespace Style

/-- The words of a style have no parentheses. -/
structure IsPlain (s : Style) : Prop where
  colour : ∀ word ∈ s.colour, '(' ∉ word
  background : ∀ word ∈ s.background, '(' ∉ word
  link : ∀ word ∈ s.link, '(' ∉ word

/-- What has been read is a plain style, or no style at all. -/
inductive ReadsPlain {α : Type} (style : α → Style) : Except StyleFault α → Prop
  | plain {found : α} (h : (style found).IsPlain) : ReadsPlain style (.ok found)
  | unknown : ReadsPlain style (.error .unknownWord)

/-- A colour makes a plain style if a plain word does. -/
theorem readsPlain_colour {α : Type} {style : α → Style} {f : List Char → α} (h : '(' ∉ word)
    (hf : ∀ colour, '(' ∉ colour → (style (f colour)).IsPlain) :
    ReadsPlain style (do return f (← readColour word)) := by
  have hlower : '(' ∉ Text.lower word := fun hmem => h (Text.paren_mem_of_mem_lower hmem)
  obtain ⟨known, hknown⟩ := recognize_eq_ok hlower
  rw [readColour, hknown]
  cases known with
  | false => exact .unknown
  | true => exact .plain (hf _ hlower)

theorem readWord_plain (hs : s.IsPlain) (h : '(' ∉ word) :
    ReadsPlain (·.1) (s.readWord word) := by
  have hlower : '(' ∉ Text.lower word := fun hmem => h (Text.paren_mem_of_mem_lower hmem)
  rw [readWord.eq_def]
  dsimp only
  split
  · exact .plain hs
  · exact .plain hs
  · exact .plain hs
  · split
    · exact .plain ⟨hs.colour, hs.background, hs.link⟩
    · apply readsPlain_colour hlower
      intro colour hcolour
      exact { hs with colour := by simpa using hcolour }

theorem step_plain {state : Style × Awaited} (hs : state.1.IsPlain) (h : '(' ∉ word) :
    ReadsPlain (·.1) (step state word) := by
  rw [step.eq_def]
  dsimp only
  split
  · exact readWord_plain hs h
  · apply readsPlain_colour h
    intro colour hcolour
    exact { hs with background := by simpa using hcolour }
  · split
    · exact .plain ⟨hs.colour, hs.background, hs.link⟩
    · exact .unknown
  · exact .plain { hs with link := by simpa using h }

theorem steps_plain {words : List (List Char)} {state : Style × Awaited} (hs : state.1.IsPlain)
    (h : ∀ word ∈ words, '(' ∉ word) : ReadsPlain (·.1) (words.foldlM step state) := by
  induction words generalizing state with
  | nil => exact .plain hs
  | cons word rest ih =>
    rw [List.forall_mem_cons] at h
    have hstep := step_plain hs h.1
    rw [List.foldlM_cons]
    generalize step state word = read at hstep
    cases hstep with
    | plain hnext => exact ih hnext h.2
    | unknown => exact .unknown

theorem parse_plain (h : '(' ∉ text) : ReadsPlain id (parse text) := by
  have hblank : IsPlain {} := by constructor <;> simp
  have hwords : ∀ word ∈ Text.words text, '(' ∉ word := by
    intro word hword hmem
    exact h (Text.mem_of_mem_words hword hmem)
  have hsteps : ReadsPlain (·.1) ((Text.words text).foldlM step ({}, .anything)) :=
    steps_plain hblank hwords
  rw [parse]
  split
  · exact .plain hblank
  · generalize (Text.words text).foldlM step ({}, .anything) = read at hsteps
    cases hsteps with
    | @plain state hs =>
      obtain ⟨s, awaited⟩ := state
      cases awaited <;> first | exact .plain hs | exact .unknown
    | unknown => exact .unknown

/-- A style without a parenthesis can be read, though it may be no style. -/
theorem parse_ne_badNumber (h : '(' ∉ text) : parse text ≠ .error .badNumber := by
  have hplain := parse_plain h
  intro hbad
  rw [hbad] at hplain
  cases hplain

/-! ## Writing -/

theorem paren_not_mem_attributeWords (s : Style) : ∀ word ∈ s.attributeWords, '(' ∉ word := by
  have hnames : ∀ entry ∈ attributeNames, ∀ on : Bool,
      '(' ∉ (if on then entry.1 else s!"not {entry.1}").toList := by
    decide
  intro word hword
  obtain ⟨entry, hentry, hsome⟩ := List.mem_filterMap.1 hword
  obtain ⟨on, -, rfl⟩ := Option.map_eq_some_iff.1 hsome
  exact hnames entry hentry on

theorem IsPlain.toText (hs : s.IsPlain) : '(' ∉ s.toText := by
  have hwords : ∀ word ∈ s.toWords, '(' ∉ word := by
    simp only [toWords, List.forall_mem_append]
    refine ⟨⟨⟨paren_not_mem_attributeWords s, by simpa using hs.colour⟩, ?_⟩, ?_⟩
    · cases hfound : s.background with
      | none => simp
      | some colour => simpa using hs.background colour hfound
    · cases hfound : s.link with
      | none => simp
      | some address => simpa using hs.link address hfound
  rw [Style.toText]
  split
  · decide
  · intro hmem
    rcases Text.mem_glue hmem with hblank | ⟨word, hword, hmem⟩
    · exact absurd hblank (by decide)
    · exact hwords word hword hmem

/-- A style without a parenthesis has a standard form, which has none either. -/
theorem normalize_eq_ok (h : '(' ∉ text) : ∃ standard, normalize text = .ok standard ∧
    '(' ∉ standard := by
  have hplain := parse_plain h
  rw [normalize]
  generalize parse text = read at hplain
  cases hplain with
  | plain hs => exact ⟨_, rfl, hs.toText⟩
  | unknown =>
    exact ⟨_, rfl, fun hmem => h (Text.mem_of_mem_strip (Text.paren_mem_of_mem_lower hmem))⟩

end Style

end Screen

end LineLint
