import Mathlib.Data.List.Forall2

/-!
# Results and failures

A sequence of readings has a result if each of them has one, and what it gives comes from what they
give. Main statements: `bind_eq_ok_iff` for one reading after another and `mapM_eq_ok_iff` for many
of one kind.
-/

namespace LineLint

variable {α β ε : Type} {R : α → β → Prop} {items : List α} {results : List β}

/-! ## Items and what they give -/

theorem exists_of_forall₂ (h : List.Forall₂ R items results) {x : α} (hx : x ∈ items) :
    ∃ y ∈ results, R x y := by
  induction h with
  | nil => cases hx
  | cons hfirst _ ih =>
    rcases List.mem_cons.1 hx with rfl | hx
    · exact ⟨_, List.mem_cons_self, hfirst⟩
    · obtain ⟨y, hy, hxy⟩ := ih hx
      exact ⟨y, List.mem_cons_of_mem _ hy, hxy⟩

theorem forall₂_append_left_iff {first second : List α} :
    List.Forall₂ R (first ++ second) results ↔
      ∃ xs ys, List.Forall₂ R first xs ∧ List.Forall₂ R second ys ∧ results = xs ++ ys := by
  constructor
  · intro h
    induction first generalizing results with
    | nil => exact ⟨[], results, .nil, h, rfl⟩
    | cons a first ih =>
      rw [List.cons_append] at h
      cases h with
      | cons hx h =>
        obtain ⟨xs, ys, hxs, hys, rfl⟩ := ih h
        exact ⟨_ :: xs, ys, .cons hx hxs, hys, rfl⟩
  · rintro ⟨xs, ys, hxs, hys, rfl⟩
    exact List.rel_append hxs hys

/-! ## One reading after another -/

section

variable {x : Except ε α} {y : β} {e : ε}

theorem bind_eq_ok_iff {f : α → Except ε β} :
    x >>= f = .ok y ↔ ∃ a, x = .ok a ∧ f a = .ok y := by
  cases x with
  | error e => simp [bind, Except.bind]
  | ok a => simp [bind, Except.bind]

theorem bind_eq_error_iff {f : α → Except ε β} :
    x >>= f = .error e ↔ x = .error e ∨ ∃ a, x = .ok a ∧ f a = .error e := by
  cases x with
  | error e => simp [bind, Except.bind]
  | ok a => simp [bind, Except.bind]

theorem map_eq_ok_iff {f : α → β} : x.map f = .ok y ↔ ∃ a, x = .ok a ∧ f a = y := by
  cases x with
  | error e => simp [Except.map]
  | ok a => simp [Except.map]

end

/-! ## Many readings -/

section

variable {f : α → Except ε β}

theorem mapM_eq_ok_iff :
    items.mapM f = .ok results ↔ List.Forall₂ (fun x y => f x = .ok y) items results := by
  induction items generalizing results with
  | nil => simp [pure, Except.pure, eq_comm]
  | cons x rest ih =>
    rw [List.mapM_cons, List.forall₂_cons_left_iff]
    simp only [← ih, bind_eq_ok_iff, pure, Except.pure, Except.ok.injEq]
    constructor
    · rintro ⟨y, hy, ys, hys, rfl⟩
      exact ⟨y, ys, hy, hys, rfl⟩
    · rintro ⟨y, ys, hy, hys, rfl⟩
      exact ⟨y, hy, ys, hys, rfl⟩

theorem exists_mapM_eq_error {e : ε} (h : items.mapM f = .error e) :
    ∃ x ∈ items, f x = .error e := by
  induction items with
  | nil => cases h
  | cons x rest ih =>
    rw [List.mapM_cons, bind_eq_error_iff] at h
    rcases h with hx | ⟨y, -, h⟩
    · exact ⟨x, List.mem_cons_self, hx⟩
    · rcases bind_eq_error_iff.1 h with hrest | ⟨ys, -, hnone⟩
      · obtain ⟨z, hz, hfz⟩ := ih hrest
        exact ⟨z, List.mem_cons_of_mem _ hz, hfz⟩
      · cases hnone

/-- What is found in all items is found in all results. -/
theorem exists_mapM {good : β → Prop} (h : ∀ x ∈ items, ∃ y, f x = .ok y ∧ good y) :
    ∃ results, items.mapM f = .ok results ∧ ∀ y ∈ results, good y := by
  induction items with
  | nil => exact ⟨[], rfl, List.forall_mem_nil _⟩
  | cons x rest ih =>
    rw [List.forall_mem_cons] at h
    obtain ⟨⟨y, hone, hy⟩, hrest⟩ := h
    obtain ⟨ys, hall, hys⟩ := ih hrest
    refine ⟨y :: ys, ?_, List.forall_mem_cons.2 ⟨hy, hys⟩⟩
    rw [mapM_eq_ok_iff] at hall ⊢
    exact .cons hone hall

theorem exists_results (h : ∀ x ∈ items, ∃ y, f x = .ok y) :
    ∃ results, items.mapM f = .ok results := by
  have hany : ∀ x ∈ items, ∃ y, f x = .ok y ∧ True := by simpa using h
  obtain ⟨results, hall, -⟩ := exists_mapM hany
  exact ⟨results, hall⟩

end

end LineLint
