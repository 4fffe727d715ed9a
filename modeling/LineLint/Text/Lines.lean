/-! # Lines

`cut` splits a text at every separator and `glue` puts the pieces back, so a text that ends in a
separator has an empty last piece. Lines are the pieces between line feeds and nothing else ends
one. Text that comes from a file first has its line breaks unified: a carriage return, alone or
before a line feed, reads as one line feed. -/

namespace LineLint.Text

/-- The pieces between the separators. There is always at least one. -/
def cut (separator : Char) : List Char → List (List Char)
  | [] => [[]]
  | c :: rest =>
    if c = separator then [] :: cut separator rest
    else match cut separator rest with
      | [] => [[c]]
      | piece :: pieces => (c :: piece) :: pieces

/-- The pieces with a separator between each two. -/
def glue (separator : Char) : List (List Char) → List Char
  | [] => []
  | [piece] => piece
  | piece :: next :: pieces => piece ++ separator :: glue separator (next :: pieces)

/-- The lines of a text. -/
def splitLines (text : List Char) : List (List Char) := cut '\n' text

/-- Reads a carriage return, with or without a line feed after it, as a line feed. -/
def unifyBreaks : List Char → List Char
  | [] => []
  | '\r' :: '\n' :: rest => '\n' :: unifyBreaks rest
  | c :: rest => (if c = '\r' then '\n' else c) :: unifyBreaks rest

theorem cut_ne_nil (separator : Char) (text : List Char) : cut separator text ≠ [] := by
  cases text with
  | nil => simp [cut]
  | cons c rest =>
    simp only [cut]
    split
    · simp
    · split <;> simp

@[simp] theorem glue_cut (separator : Char) (text : List Char) :
    glue separator (cut separator text) = text := by
  induction text with
  | nil => rfl
  | cons c rest ih =>
    simp only [cut]
    cases h : cut separator rest with
    | nil => exact absurd h (cut_ne_nil separator rest)
    | cons piece pieces =>
      rw [h] at ih
      split
      · subst c
        simp [glue, ih]
      · cases pieces with
        | nil => simp_all [glue]
        | cons next pieces => simp_all [glue]

/-- No piece holds the separator. -/
theorem not_mem_of_mem_cut {separator : Char} {text piece : List Char}
    (h : piece ∈ cut separator text) : separator ∉ piece := by
  induction text generalizing piece with
  | nil => simp_all [cut]
  | cons c rest ih =>
    simp only [cut] at h
    split at h
    · rcases List.mem_cons.1 h with rfl | h
      · simp
      · exact ih h
    · rename_i hc
      cases hr : cut separator rest with
      | nil => exact absurd hr (cut_ne_nil separator rest)
      | cons first pieces =>
        rw [hr] at h ih
        rcases List.mem_cons.1 h with rfl | h
        · have := ih (List.mem_cons_self)
          simp_all [eq_comm]
        · exact ih (List.mem_cons_of_mem _ h)

/-- The pieces hold nothing but characters of the text. -/
theorem mem_of_mem_cut {separator c : Char} {text piece : List Char}
    (h : piece ∈ cut separator text) (hc : c ∈ piece) : c ∈ text := by
  induction text generalizing piece with
  | nil => simp_all [cut]
  | cons d rest ih =>
    simp only [cut] at h
    split at h
    · rcases List.mem_cons.1 h with rfl | h
      · simp at hc
      · exact List.mem_cons_of_mem _ (ih h hc)
    · cases hr : cut separator rest with
      | nil => exact absurd hr (cut_ne_nil separator rest)
      | cons first pieces =>
        rw [hr] at h ih
        rcases List.mem_cons.1 h with rfl | h
        · rcases List.mem_cons.1 hc with rfl | hc
          · exact List.mem_cons_self
          · exact List.mem_cons_of_mem _ (ih List.mem_cons_self hc)
        · exact List.mem_cons_of_mem _ (ih (List.mem_cons_of_mem _ h) hc)

/-- A separator between two texts is one of the places where they are cut. -/
theorem cut_append_separator (separator : Char) (first second : List Char) :
    cut separator (first ++ separator :: second) = cut separator first ++ cut separator second := by
  induction first with
  | nil => simp [cut]
  | cons c rest ih =>
    rw [List.cons_append, cut, cut, ih]
    by_cases hc : c = separator
    · rw [if_pos hc, if_pos hc, List.cons_append]
    · rw [if_neg hc, if_neg hc]
      cases hrest : cut separator rest with
      | nil => exact absurd hrest (cut_ne_nil separator rest)
      | cons piece pieces => rfl

/-- A piece without the separator stands on its own. -/
theorem cut_of_not_mem {separator : Char} {piece : List Char} (h : separator ∉ piece) :
    cut separator piece = [piece] := by
  induction piece with
  | nil => rfl
  | cons c rest ih =>
    obtain ⟨hc, hrest⟩ : separator ≠ c ∧ separator ∉ rest := by simpa using h
    simp [cut, Ne.symm hc, ih hrest]

/-- A piece without the separator ends at the next separator. -/
theorem cut_append_cons {separator : Char} {piece : List Char} (h : separator ∉ piece)
    (rest : List Char) :
    cut separator (piece ++ separator :: rest) = piece :: cut separator rest := by
  rw [cut_append_separator, cut_of_not_mem h]
  rfl

theorem cut_glue {separator : Char} {pieces : List (List Char)} (hne : pieces ≠ [])
    (h : ∀ piece ∈ pieces, separator ∉ piece) :
    cut separator (glue separator pieces) = pieces := by
  induction pieces with
  | nil => exact absurd rfl hne
  | cons piece rest ih =>
    have hpiece := h piece List.mem_cons_self
    cases rest with
    | nil => exact cut_of_not_mem hpiece
    | cons next rest =>
      rw [glue, cut_append_cons hpiece, ih (by simp) fun p hp => h p (List.mem_cons_of_mem _ hp)]

theorem glue_append {separator : Char} {xs ys : List (List Char)} (hxs : xs ≠ []) (hys : ys ≠ []) :
    glue separator (xs ++ ys) = glue separator xs ++ separator :: glue separator ys := by
  fun_induction glue separator xs with
  | case1 => exact absurd rfl hxs
  | case2 piece =>
    obtain ⟨y, ys, rfl⟩ := List.exists_cons_of_ne_nil hys
    rfl
  | case3 piece next pieces ih =>
    have hrest := ih (List.cons_ne_nil next pieces)
    rw [List.cons_append, List.cons_append, glue, ← List.cons_append, hrest, List.append_assoc]
    rfl

/-- Gluing is the library's `List.intercalate`. -/
theorem intercalate_eq_glue (separator : Char) (pieces : List (List Char)) :
    [separator].intercalate pieces = glue separator pieces := by
  induction pieces with
  | nil => rfl
  | cons piece rest ih =>
    cases rest with
    | nil => simp [glue, List.intercalate]
    | cons next rest =>
      rw [glue, ← ih]
      simp [List.intercalate]

end LineLint.Text
