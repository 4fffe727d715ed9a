/-! # Search for a fixed text -/

namespace LineLint.Text

/-- Whether `needle` stands somewhere in the text. The empty needle stands in every text. -/
def contains (needle : List Char) : List Char → Bool
  | [] => needle.isEmpty
  | c :: rest => needle.isPrefixOf (c :: rest) || contains needle rest

/-- Whether one of the needles stands somewhere in the text. -/
def containsAny (needles : List String) (text : List Char) : Bool :=
  needles.any fun needle => contains needle.toList text

theorem contains_iff {needle text : List Char} :
    contains needle text = true ↔ ∃ before after, text = before ++ needle ++ after := by
  induction text with
  | nil => simp [contains, List.isEmpty_iff, List.append_eq_nil_iff]
  | cons c rest ih =>
    simp only [contains, Bool.or_eq_true, List.isPrefixOf_iff_prefix, ih]
    constructor
    · rintro (⟨after, h⟩ | ⟨before, after, rfl⟩)
      · exact ⟨[], after, by simpa using h.symm⟩
      · exact ⟨c :: before, after, by simp⟩
    · rintro ⟨before, after, h⟩
      cases before with
      | nil => exact Or.inl ⟨after, by simpa using h.symm⟩
      | cons d before =>
        simp only [List.cons_append, List.cons.injEq] at h
        exact Or.inr ⟨before, after, h.2⟩

end LineLint.Text
