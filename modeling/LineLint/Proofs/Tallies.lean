import LineLint.Tally
import Mathlib.Algebra.BigOperators.Group.List.Lemmas
import Mathlib.Algebra.GroupWithZero.Nat
import Mathlib.Data.List.Induction
import Mathlib.Data.List.Nodup

/-!
# Groups and counts by key

The groups of a list are a partition of it, and a tally has one row for each key that occurs, with
the number of elements that have it. Keys come in the order in which they first occur, so that the
order of the elements decides the order of the rows and nothing else. Main statements:
`groupsBy_groupBy`, `countsBy_tally` and `tally_perm`.
-/

namespace LineLint

/-- Every group of a list has the key of some element. -/
theorem key_of_mem_groupBy {α κ : Type} [BEq κ] [LawfulBEq κ] {key : α → κ} {items : List α}
    {group : κ × List α} (h : group ∈ groupBy key items) :
    (∃ x ∈ items, key x = group.1) ∧ ∀ x ∈ group.2, x ∈ items := by
  obtain ⟨k, hk, rfl⟩ := List.mem_map.1 h
  obtain ⟨x, hx, rfl⟩ := List.mem_map.1 (List.mem_eraseDups.1 hk)
  exact ⟨⟨x, hx, rfl⟩, fun y hy => (List.mem_filter.1 hy).1⟩

theorem key_of_mem_tally {α κ : Type} [BEq κ] [LawfulBEq κ] {key : α → κ} {items : List α}
    {count : κ × Nat} (h : count ∈ tally key items) : ∃ x ∈ items, key x = count.1 := by
  obtain ⟨group, hgroup, rfl⟩ := List.mem_map.1 h
  exact (key_of_mem_groupBy hgroup).1

section

variable {α κ : Type} [DecidableEq κ] {key : α → κ} {items xs ys : List α} {keys : List κ}

/-! ## Keys -/

/-- A new key comes last. -/
theorem eraseDups_concat (keys : List κ) (k : κ) : (keys ++ [k]).eraseDups =
    if k ∈ keys then keys.eraseDups else keys.eraseDups ++ [k] := by
  rw [List.eraseDups_append, List.removeAll]
  split
  next hk => simp [hk]
  next hk => simp [hk, List.eraseDups_cons]

/-- What is left without repetitions is in the order of first occurrence. -/
theorem pairwise_eraseDups (keys : List κ) :
    keys.eraseDups.Pairwise fun j k => keys.idxOf j < keys.idxOf k := by
  induction keys using List.reverseRecOn with
  | nil => exact List.Pairwise.nil
  | append_singleton keys last ih =>
    have hplace : ∀ k ∈ keys.eraseDups, (keys ++ [last]).idxOf k = keys.idxOf k := by
      intro k hk
      exact List.idxOf_append_of_mem (List.mem_eraseDups.1 hk)
    have hold : keys.eraseDups.Pairwise fun j k =>
        (keys ++ [last]).idxOf j < (keys ++ [last]).idxOf k := by
      refine ih.imp_of_mem fun hj hk hlt => ?_
      rwa [hplace _ hj, hplace _ hk]
    rw [eraseDups_concat]
    split
    next hlast => exact hold
    next hlast =>
      rw [List.pairwise_append]
      refine ⟨hold, List.pairwise_singleton _ _, fun j hj k hk => ?_⟩
      rw [List.mem_singleton.1 hk, hplace j hj, List.idxOf_append_of_notMem hlast]
      have hlt := List.idxOf_lt_length_of_mem (List.mem_eraseDups.1 hj)
      omega

theorem nodup_eraseDups (keys : List κ) : keys.eraseDups.Nodup := by
  refine (pairwise_eraseDups keys).imp fun hlt heq => ?_
  rw [heq] at hlt
  exact Nat.lt_irrefl _ hlt

/-! ## Groups -/

/-- The elements of some different keys are the whole list if no other key occurs. -/
theorem perm_flatMap_filter (hkeys : keys.Nodup) (hall : ∀ x ∈ items, key x ∈ keys) :
    (keys.flatMap fun k => items.filter (key · == k)).Perm items := by
  induction keys generalizing items with
  | nil =>
    have hnone : items = [] := by
      rw [List.eq_nil_iff_forall_not_mem]
      intro x hx
      exact absurd (hall x hx) List.not_mem_nil
    rw [hnone, List.flatMap_nil]
  | cons k rest ih =>
    obtain ⟨hk, hrest⟩ := List.nodup_cons.1 hkeys
    -- the other groups do not change when the first one is taken out
    have hothers : ∀ j ∈ rest, items.filter (key · == j) =
        (items.filter fun x => !key x == k).filter (key · == j) := by
      intro j hj
      rw [List.filter_filter]
      apply List.filter_congr
      intro x _
      have hne : j ≠ k := by
        rintro rfl
        exact hk hj
      by_cases hkey : key x = j
      · simp [hkey, hne]
      · simp [hkey]
    have hleft : ∀ x ∈ items.filter fun x => !key x == k, key x ∈ rest := by
      intro x hx
      obtain ⟨hx, hne⟩ := List.mem_filter.1 hx
      exact (List.mem_cons.1 (hall x hx)).resolve_left (by simpa using hne)
    rw [List.flatMap_cons, List.flatMap_congr hothers]
    exact ((ih hrest hleft).append_left _).trans (List.filter_append_perm _ _)

/-- The groups together are the list. -/
theorem perm_groupBy (key : α → κ) (items : List α) :
    ((groupBy key items).flatMap Prod.snd).Perm items := by
  rw [groupBy, List.flatMap_map]
  apply perm_flatMap_filter (nodup_eraseDups _)
  intro x hx
  exact List.mem_eraseDups.2 (List.mem_map_of_mem hx)

/-! ## Grouping in one pass -/

/-- Groups after one more element with a key: the group of a new key comes last. -/
def putIn (k : κ) (x : α) : List (κ × List α) → List (κ × List α)
  | [] => [(k, [x])]
  | group :: rest => if group.1 = k then (k, group.2 ++ [x]) :: rest else group :: putIn k x rest

theorem putIn_of_not_mem {k : κ} {x : α} {groups : List (κ × List α)}
    (hk : k ∉ groups.map Prod.fst) : putIn k x groups = groups ++ [(k, [x])] := by
  induction groups with
  | nil => rfl
  | cons group rest ih =>
    obtain ⟨hgroup, hrest⟩ : group.1 ≠ k ∧ k ∉ rest.map Prod.fst := by
      simpa [eq_comm] using hk
    rw [putIn, if_neg hgroup, ih hrest, List.cons_append]

/-- An element whose key has a group comes last in it. -/
theorem putIn_of_mem {k : κ} {x : α} (group : κ → List α) (hkeys : keys.Nodup) (hk : k ∈ keys) :
    putIn k x (keys.map fun j => (j, group j)) =
      keys.map fun j => (j, if j = k then group j ++ [x] else group j) := by
  induction keys with
  | nil => exact absurd hk List.not_mem_nil
  | cons j rest ih =>
    obtain ⟨hj, hrest⟩ := List.nodup_cons.1 hkeys
    rw [List.map_cons, List.map_cons, putIn]
    by_cases hjk : j = k
    · subst hjk
      rw [if_pos rfl, if_pos rfl]
      congr 1
      refine List.map_congr_left fun i hi => ?_
      have hij : i ≠ j := by
        rintro rfl
        exact hj hi
      rw [if_neg hij]
    · rw [if_neg hjk, if_neg hjk, ih hrest ((List.mem_cons.1 hk).resolve_left (Ne.symm hjk))]

theorem filter_key_concat (key : α → κ) (items : List α) (x : α) (j : κ) :
    (items ++ [x]).filter (key · == j) =
      if j = key x then items.filter (key · == j) ++ [x] else items.filter (key · == j) := by
  rw [List.filter_append]
  by_cases hj : j = key x
  · simp [hj]
  · simp [hj, Ne.symm hj]

/-- One more element comes last in the group of its key. -/
theorem groupBy_concat (key : α → κ) (items : List α) (x : α) :
    groupBy key (items ++ [x]) = putIn (key x) x (groupBy key items) := by
  rw [groupBy, groupBy, List.map_append, List.map_singleton, eraseDups_concat]
  simp only [filter_key_concat]
  split
  next hk => rw [putIn_of_mem _ (nodup_eraseDups _) (List.mem_eraseDups.2 hk)]
  next hk =>
    have hold : ∀ j ∈ (items.map key).eraseDups, j ≠ key x := by
      rintro j hj rfl
      exact hk (List.mem_eraseDups.1 hj)
    have hnone : items.filter (key · == key x) = [] := by
      rw [List.filter_eq_nil_iff]
      intro y hy hkey
      exact hk (beq_iff_eq.1 hkey ▸ List.mem_map_of_mem hy)
    have hnew : key x ∉ ((items.map key).eraseDups.map fun j =>
        (j, items.filter (key · == j))).map Prod.fst := by
      simpa using hk
    rw [putIn_of_not_mem hnew, List.map_append, List.map_singleton, if_pos rfl, hnone,
      List.nil_append]
    congr 1
    refine List.map_congr_left fun j hj => ?_
    rw [if_neg (hold j hj)]

/-- The groups are what sorting the elements in one after the other leaves. -/
theorem groupBy_eq_foldl (key : α → κ) (items : List α) :
    groupBy key items = items.foldl (fun groups x => putIn (key x) x groups) [] := by
  induction items using List.reverseRecOn with
  | nil => rfl
  | append_singleton items x ih =>
    rw [groupBy_concat, ih, List.foldl_append, List.foldl_cons, List.foldl_nil]

/-- A list by a key: nothing is lost, nothing comes twice, and nothing changes its place among the
elements with the same key. -/
structure GroupsBy (key : α → κ) (items : List α) (groups : List (κ × List α)) : Prop where
  /-- The keys come in the order in which they first occur, so none comes twice. -/
  order : (groups.map Prod.fst).Pairwise fun j k =>
    (items.map key).idxOf j < (items.map key).idxOf k
  /-- Each key that occurs has a group. -/
  occurs : ∀ k, k ∈ groups.map Prod.fst ↔ ∃ x ∈ items, key x = k
  nonempty : ∀ group ∈ groups, group.2 ≠ []
  /-- A group holds the elements that have its key, in their order. -/
  group : ∀ group ∈ groups, group.2 = items.filter (key · == group.1)
  /-- The groups together are the list. -/
  perm : (groups.flatMap Prod.snd).Perm items
  sum : (groups.map fun group => group.2.length).sum = items.length
  /-- One pass over the elements makes them. -/
  pass : groups = items.foldl (fun groups x => putIn (key x) x groups) []

theorem keys_groupBy (key : α → κ) (items : List α) :
    (groupBy key items).map Prod.fst = (items.map key).eraseDups := by
  rw [groupBy, List.map_map]
  exact List.map_id _

theorem groupsBy_groupBy (key : α → κ) (items : List α) :
    GroupsBy key items (groupBy key items) where
  order := by
    rw [keys_groupBy]
    exact pairwise_eraseDups _
  occurs k := by
    rw [keys_groupBy, List.mem_eraseDups, List.mem_map]
  nonempty group hgroup := by
    obtain ⟨k, hk, rfl⟩ := List.mem_map.1 hgroup
    obtain ⟨x, hx, rfl⟩ := List.mem_map.1 (List.mem_eraseDups.1 hk)
    exact List.ne_nil_of_mem (List.mem_filter.2 ⟨hx, beq_self_eq_true _⟩)
  group group hgroup := by
    obtain ⟨k, -, rfl⟩ := List.mem_map.1 hgroup
    rfl
  perm := perm_groupBy key items
  sum := by
    rw [← List.length_flatMap, (perm_groupBy key items).length_eq]
  pass := groupBy_eq_foldl key items

/-! ## Numbers of elements -/

/-- The counts of some different keys add up to the whole if no other key occurs. -/
theorem sum_countP (hkeys : keys.Nodup) (hall : ∀ x ∈ items, key x ∈ keys) :
    (keys.map fun k => items.countP (key · == k)).sum = items.length := by
  rw [← (perm_flatMap_filter hkeys hall).length_eq, List.length_flatMap]
  simp only [List.countP_eq_length_filter]

/-- The elements with a property, counted by a key that has no more than some values. -/
theorem sum_countP_and (hkeys : keys.Nodup) (hall : ∀ k, k ∈ keys) (p : α → Bool) :
    (keys.map fun k => items.countP fun x => key x == k && p x).sum = items.countP p := by
  have hsum : (keys.map fun k => (items.filter p).countP (key · == k)).sum =
      (items.filter p).length := sum_countP hkeys fun x _ => hall (key x)
  rw [← List.countP_eq_length_filter] at hsum
  simpa only [List.countP_filter] using hsum

/-! ## Tallies -/

theorem count_map_key (k : κ) : (items.map key).count k = items.countP (key · == k) := by
  rw [List.count_eq_countP, List.countP_map]
  rfl

theorem tally_eq (key : α → κ) (items : List α) : tally key items =
    (items.map key).eraseDups.map fun k => (k, (items.map key).count k) := by
  rw [tally, groupBy, List.map_map]
  apply List.map_congr_left
  intro k _
  rw [count_map_key, List.countP_eq_length_filter]
  rfl

/-- Each key that occurs has a row. -/
theorem keys_tally (key : α → κ) (items : List α) :
    (tally key items).map Prod.fst = (items.map key).eraseDups := by
  rw [tally, List.map_map, ← keys_groupBy]
  rfl

/-- No key has two rows. -/
theorem nodup_keys_tally (key : α → κ) (items : List α) :
    ((tally key items).map Prod.fst).Nodup := by
  rw [keys_tally]
  exact nodup_eraseDups _

/-- A row counts the elements that have its key. -/
theorem mem_tally {row : κ × ℕ} :
    row ∈ tally key items ↔ 0 < row.2 ∧ row.2 = items.countP (key · == row.1) := by
  obtain ⟨k, n⟩ := row
  rw [tally_eq, List.mem_map, ← count_map_key]
  constructor
  · intro hrow
    obtain ⟨other, hother, heq⟩ := hrow
    cases heq
    exact ⟨List.count_pos_iff.2 (List.mem_eraseDups.1 hother), rfl⟩
  · intro hrow
    obtain ⟨hpos, hn⟩ := hrow
    have hmem : k ∈ items.map key := by
      rw [← List.count_pos_iff, ← hn]
      exact hpos
    exact ⟨k, List.mem_eraseDups.2 hmem, by rw [← hn]⟩

/-- The counts add up to the number of elements. -/
theorem sum_tally (key : α → κ) (items : List α) :
    ((tally key items).map Prod.snd).sum = items.length := by
  rw [tally, List.map_map, ← (perm_groupBy key items).length_eq, List.length_flatMap]
  rfl

/-! ## Counting in one pass -/

/-- A table of counts after one more element with a key: the row of a new key comes last. -/
def addTo (k : κ) : List (κ × ℕ) → List (κ × ℕ)
  | [] => [(k, 1)]
  | row :: rest => if row.1 = k then (k, row.2 + 1) :: rest else row :: addTo k rest

/-- Elements are counted as they are sorted into groups. -/
theorem addTo_lengths (k : κ) (x : α) (groups : List (κ × List α)) :
    addTo k (groups.map fun group => (group.1, group.2.length)) =
      (putIn k x groups).map fun group => (group.1, group.2.length) := by
  induction groups with
  | nil => rfl
  | cons group rest ih =>
    rw [List.map_cons, addTo, putIn]
    by_cases hgroup : group.1 = k
    · rw [if_pos hgroup, if_pos hgroup, List.map_cons, List.length_append, List.length_singleton]
    · rw [if_neg hgroup, if_neg hgroup, List.map_cons, ih]

/-- One more element is counted in the row of its key. -/
theorem tally_concat (key : α → κ) (items : List α) (x : α) :
    tally key (items ++ [x]) = addTo (key x) (tally key items) := by
  rw [tally, groupBy_concat, tally, addTo_lengths]

/-- The rows are what counting the elements one after the other leaves. -/
theorem tally_eq_foldl (key : α → κ) (items : List α) :
    tally key items = items.foldl (fun rows x => addTo (key x) rows) [] := by
  induction items using List.reverseRecOn with
  | nil => rfl
  | append_singleton items x ih =>
    rw [tally_concat, ih, List.foldl_append, List.foldl_cons, List.foldl_nil]

/-! ## Tables of counts -/

/-- A table of how often each key occurs. -/
structure CountsBy (key : α → κ) (items : List α) (table : List (κ × ℕ)) : Prop where
  /-- Its keys come in the order in which they first occur, so none comes twice. -/
  order : (table.map Prod.fst).Pairwise fun j k =>
    (items.map key).idxOf j < (items.map key).idxOf k
  /-- A row counts the elements that have its key, and each key that occurs has a row. -/
  row : ∀ row, row ∈ table ↔ 0 < row.2 ∧ row.2 = items.countP (key · == row.1)
  /-- The counts add up to the number of elements. -/
  sum : (table.map Prod.snd).sum = items.length
  /-- One pass over the elements makes it. -/
  pass : table = items.foldl (fun rows x => addTo (key x) rows) []

theorem countsBy_tally (key : α → κ) (items : List α) : CountsBy key items (tally key items) where
  order := by
    rw [keys_tally]
    exact pairwise_eraseDups _
  row _ := mem_tally
  sum := sum_tally key items
  pass := tally_eq_foldl key items

/-- The order of the elements decides the order of the rows alone. -/
theorem tally_perm (h : xs.Perm ys) : (tally key xs).Perm (tally key ys) := by
  have hrows : ∀ zs : List α, (tally key zs).Nodup := by
    intro zs
    exact List.Nodup.of_map Prod.fst (nodup_keys_tally key zs)
  rw [List.perm_ext_iff_of_nodup (hrows xs) (hrows ys)]
  intro row
  rw [mem_tally, mem_tally, h.countP_eq]

end

end LineLint
