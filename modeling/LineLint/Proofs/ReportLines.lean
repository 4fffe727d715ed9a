import LineLint.Report.Layout
import LineLint.Text.Lines
import Mathlib.Data.List.Basic

/-!
# Lines of reports

A report is written line by line, and its text gives the lines back if none of them holds a line
feed. What stands on a line can be read back too: what is between labels, before the first separator
or behind the last one. Main statements: `Report.linesOf_text` and `flatMap_inj`.
-/

namespace LineLint

/-! ## Separators -/

namespace Text

variable {c : Char} {a b x y : List Char}

theorem eq_of_first_separator (ha : c ∉ a) (hb : c ∉ b) (h : a ++ c :: x = b ++ c :: y) :
    a = b ∧ x = y := by
  have hcut := congrArg (cut c) h
  rw [cut_append_cons ha, cut_append_cons hb] at hcut
  obtain rfl : a = b := (List.cons.inj hcut).1
  exact ⟨rfl, (List.cons.inj (List.append_cancel_left h)).2⟩

theorem eq_of_last_separator (hx : c ∉ x) (hy : c ∉ y) (h : a ++ c :: x = b ++ c :: y) :
    a = b ∧ x = y := by
  have hback : x.reverse ++ c :: a.reverse = y.reverse ++ c :: b.reverse := by
    simpa using congrArg List.reverse h
  obtain ⟨hends, hstarts⟩ := eq_of_first_separator (by simpa) (by simpa) hback
  exact ⟨List.reverse_injective hstarts, List.reverse_injective hends⟩

end Text

/-! ## Codes -/

/-- Codes can be put one after another if it shows where each ends. -/
theorem flatMap_inj {α β : Type} {code : α → List β} (hne : ∀ a, code a ≠ [])
    (hcode : ∀ {a b rest rest'}, code a ++ rest = code b ++ rest' → a = b ∧ rest = rest')
    {xs ys : List α} (h : xs.flatMap code = ys.flatMap code) : xs = ys := by
  induction xs generalizing ys with
  | nil =>
    cases ys with
    | nil => rfl
    | cons y ys => exact absurd (List.append_eq_nil_iff.1 h.symm).1 (hne y)
  | cons x xs ih =>
    cases ys with
    | nil => exact absurd (List.append_eq_nil_iff.1 h).1 (hne x)
    | cons y ys =>
      obtain ⟨rfl, hrest⟩ := hcode h
      rw [ih hrest]

namespace Report

/-! ## Lines -/

/-- Whether a line begins with a text. -/
def begins (start line : String) : Bool := start.toList.isPrefixOf line.toList

/-- The lines of a text. -/
def linesOf (text : String) : List String := (Text.splitLines text.toList).map String.ofList

theorem linesOf_text {lines : List String} (hne : lines ≠ [])
    (hlines : ∀ line ∈ lines, '\n' ∉ line.toList) : linesOf (text lines) = lines := by
  have htext : (text lines).toList = Text.glue '\n' (lines.map String.toList) := by
    rw [text, String.toList_intercalate, ← Text.intercalate_eq_glue]
    rfl
  rw [linesOf, htext, Text.splitLines, Text.cut_glue (by simpa using hne) (by simpa using hlines),
    List.map_map]
  simp

/-! ## Numbered items -/

theorem map_snd_numbered {α : Type} (items : List α) : (numbered items).map Prod.snd = items := by
  rw [numbered, List.map_map]
  exact List.zipIdx_map_fst 0 items

theorem mem_of_mem_numbered {α : Type} {items : List α} {entry : ℕ × α}
    (h : entry ∈ numbered items) : entry.2 ∈ items := by
  rw [← map_snd_numbered items]
  exact List.mem_map_of_mem h

end Report

end LineLint
