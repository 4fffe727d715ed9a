import LineLint.Settings.Validation

/-!
# Named fields

What a mapping holds under a name depends neither on the order of its entries nor on what it holds
under other names. Main statement: `Settings.Rewording.field?_eq`.
-/

namespace LineLint.Settings

variable {entries others before after : List (Value × Value)} {entry : Value × Value}
  {name key : String} {keys : List String} {value : Value}

/-- The name of an entry, if its key is a text. -/
def entryName? (entry : Value × Value) : Option String := match entry.1 with
  | .text s => some s
  | _ => none

def isNamed (name : String) (entry : Value × Value) : Bool := entryName? entry == some name

/-- The last entry with a name is the one that counts. -/
theorem field?_eq_getLast? :
    field? entries name = (entries.filter (isNamed name)).getLast?.map (·.2) := by
  have hfind : field? entries name = (entries.reverse.find? (isNamed name)).map (·.2) := by
    unfold field?
    congr 2
    funext entry
    obtain ⟨key, value⟩ := entry
    cases key <;> simp [isNamed, entryName?]
  rw [hfind, ← List.head?_filter, List.filter_reverse, List.head?_reverse]

theorem field?_append :
    field? (before ++ after) key = (field? after key).or (field? before key) := by
  simp only [field?_eq_getLast?, List.filter_append, List.getLast?_append, Option.map_or]

/-- An entry counts unless one with the same name follows. -/
theorem field?_middle :
    field? (before ++ (.text name, value) :: after) key =
      (field? after key).or (if name = key then some value else field? before key) := by
  have hsplit : before ++ (.text name, value) :: after =
      (before ++ [(.text name, value)]) ++ after := by simp
  rw [hsplit, field?_append, field?_append]
  by_cases hname : name = key
  · simp [field?, hname]
  · simp [field?, hname]

/-! ## Rewordings -/

/-- No name stands twice. -/
def DistinctNames (entries : List (Value × Value)) : Prop := (entries.filterMap entryName?).Nodup

/-- The entries that have one of these names. -/
def known (keys : List String) (entries : List (Value × Value)) : List (Value × Value) :=
  entries.filter fun entry => (entryName? entry).any keys.contains

/-- The ways in which a mapping can be written differently when only these names matter. -/
inductive Rewording (keys : List String) : List (Value × Value) → List (Value × Value) → Prop
  /-- The entries stand in another order. -/
  | permuted {entries others : List (Value × Value)} (hdistinct : DistinctNames entries)
      (hperm : entries.Perm others) : Rewording keys entries others
  /-- The entries with other names are others. -/
  | unknown {entries others : List (Value × Value)}
      (hknown : known keys entries = known keys others) : Rewording keys entries others

theorem length_filter_isNamed (hdistinct : DistinctNames entries) (name : String) :
    (entries.filter (isNamed name)).length ≤ 1 := by
  have hcount := List.nodup_iff_count.1 hdistinct name
  rw [List.count, List.countP_filterMap] at hcount
  rw [← List.countP_eq_length_filter]
  refine Nat.le_trans (Nat.le_of_eq (List.countP_congr fun entry _ => ?_)) hcount
  cases hname : entryName? entry <;> simp [isNamed, hname]

theorem filter_isNamed_known (hkey : key ∈ keys) :
    (known keys entries).filter (isNamed key) = entries.filter (isNamed key) := by
  rw [known, List.filter_filter]
  refine List.filter_congr fun entry _ => ?_
  by_cases hnamed : isNamed key entry = true
  · have hname : entryName? entry = some key := eq_of_beq hnamed
    simp [hnamed, hname, hkey]
  · simp [hnamed]

/-- A rewording holds the same under each name that matters. -/
theorem Rewording.field?_eq (h : Rewording keys entries others) (hkey : key ∈ keys) :
    field? entries key = field? others key := by
  rw [field?_eq_getLast?, field?_eq_getLast?]
  cases h with
  | permuted hdistinct hperm =>
    -- There is at most one entry with the name, and it is found wherever it stands.
    have hone := length_filter_isNamed hdistinct key
    have hsame := hperm.filter (isNamed key)
    cases hfilter : entries.filter (isNamed key) with
    | nil =>
      rw [hfilter] at hsame
      rw [List.nil_perm.1 hsame]
    | cons first rest =>
      rw [hfilter, List.length_cons] at hone
      obtain rfl : rest = [] := List.length_eq_zero_iff.1 (by omega)
      rw [hfilter] at hsame
      rw [← List.singleton_perm.1 hsame]
  | unknown hknown =>
    rw [← filter_isNamed_known hkey, hknown, filter_isNamed_known hkey]

end LineLint.Settings
