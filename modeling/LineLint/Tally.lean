/-! # Groups and counts

The elements of a list by a key, with the keys in the order in which they are first seen. -/

namespace LineLint

/-- The elements of each key, in list order. -/
def groupBy {α κ : Type} [BEq κ] (key : α → κ) (items : List α) : List (κ × List α) :=
  (items.map key).eraseDups.map fun k => (k, items.filter (key · == k))

/-- The number of elements of each key. -/
def tally {α κ : Type} [BEq κ] (key : α → κ) (items : List α) : List (κ × Nat) :=
  (groupBy key items).map fun group => (group.1, group.2.length)

section

variable {α β κ : Type} [BEq κ] [LawfulBEq κ] {key : α → κ} {xs ys : List α}

/-- Elements without a key in common are grouped apart. -/
theorem groupBy_append (h : ∀ x ∈ xs, ∀ y ∈ ys, key x ≠ key y) :
    groupBy key (xs ++ ys) = groupBy key xs ++ groupBy key ys := by
  have hkeys : (ys.map key).removeAll (xs.map key) = ys.map key := by
    rw [List.removeAll, List.filter_eq_self]
    intro k hk
    obtain ⟨y, hy, rfl⟩ := List.mem_map.1 hk
    have hfresh : key y ∉ xs.map key := by
      rw [List.mem_map]
      rintro ⟨x, hx, hkey⟩
      exact h x hx y hy hkey
    simpa using hfresh
  rw [groupBy, groupBy, groupBy, List.map_append, List.eraseDups_append, hkeys, List.map_append]
  congr 1
  · refine List.map_congr_left fun k hk => ?_
    obtain ⟨x, hx, rfl⟩ := List.mem_map.1 (List.mem_eraseDups.1 hk)
    have hnone : ys.filter (key · == key x) = [] := by
      rw [List.filter_eq_nil_iff]
      exact fun y hy hkey => h x hx y hy (beq_iff_eq.1 hkey).symm
    rw [List.filter_append, hnone, List.append_nil]
  · refine List.map_congr_left fun k hk => ?_
    obtain ⟨y, hy, rfl⟩ := List.mem_map.1 (List.mem_eraseDups.1 hk)
    have hnone : xs.filter (key · == key y) = [] := by
      rw [List.filter_eq_nil_iff]
      exact fun x hx hkey => h x hx y hy (beq_iff_eq.1 hkey)
    rw [List.filter_append, hnone, List.nil_append]

/-- Elements that share a key are one group. -/
theorem groupBy_of_key {k : κ} (hne : xs ≠ []) (h : ∀ x ∈ xs, key x = k) :
    groupBy key xs = [(k, xs)] := by
  obtain ⟨x, rest, rfl⟩ := List.exists_cons_of_ne_nil hne
  have hx : key x = k := h x List.mem_cons_self
  have hrest : (rest.map key).filter (!· == k) = [] := by
    rw [List.filter_eq_nil_iff]
    intro other hother
    obtain ⟨y, hy, rfl⟩ := List.mem_map.1 hother
    simp [h y (List.mem_cons_of_mem _ hy)]
  have hall : (x :: rest).filter (key · == k) = x :: rest := by
    rw [List.filter_eq_self]
    exact fun y hy => beq_iff_eq.2 (h y hy)
  rw [groupBy, List.map_cons, List.eraseDups_cons, hx, hrest, List.eraseDups_nil,
    List.map_singleton, hall]

/-- Blocks that each have a key of their own are the groups, apart from the empty ones. -/
theorem groupBy_flatMap {blocks : List β} {name : β → κ} {items : β → List α}
    (hkey : ∀ b ∈ blocks, ∀ x ∈ items b, key x = name b)
    (hname : blocks.Pairwise fun b c => name b ≠ name c) :
    groupBy key (blocks.flatMap items) =
      (blocks.filter fun b => !(items b).isEmpty).map fun b => (name b, items b) := by
  induction blocks with
  | nil => rfl
  | cons b rest ih =>
    rw [List.pairwise_cons] at hname
    have hrest := ih (fun c hc => hkey c (List.mem_cons_of_mem _ hc)) hname.2
    by_cases hempty : items b = []
    · simp [hempty, hrest]
    · have hapart : ∀ x ∈ items b, ∀ y ∈ rest.flatMap items, key x ≠ key y := by
        intro x hx y hy
        obtain ⟨c, hc, hy⟩ := List.mem_flatMap.1 hy
        rw [hkey b List.mem_cons_self x hx, hkey c (List.mem_cons_of_mem _ hc) y hy]
        exact hname.1 c hc
      rw [List.flatMap_cons, groupBy_append hapart, hrest,
        groupBy_of_key hempty (hkey b List.mem_cons_self)]
      simp [hempty]

end

end LineLint
