import LineLint.FileTree

/-!
# Names and the texts of paths

A name of a directory entry is not empty, is none of the two dots that stand for a direction, and
holds neither a slash nor the null character. A path is plain if its components could have been
read off a text, and a location is real if its names are such names.

Main statement: `Path.parse_toString`, the text of a plain path is read as that path.
-/

namespace LineLint

/-- A name that a directory can hold. -/
structure IsName (name : String) : Prop where
  ne_empty : name ≠ ""
  ne_dot : name ≠ "."
  ne_up : name ≠ ".."
  no_slash : '/' ∉ name.toList
  no_null : Char.ofNat 0 ∉ name.toList

instance (name : String) : Decidable (IsName name) :=
  decidable_of_iff (name ≠ "" ∧ name ≠ "." ∧ name ≠ ".." ∧ '/' ∉ name.toList ∧
      Char.ofNat 0 ∉ name.toList)
    ⟨fun ⟨hempty, hdot, hup, hslash, hnull⟩ => ⟨hempty, hdot, hup, hslash, hnull⟩,
      fun h => ⟨h.ne_empty, h.ne_dot, h.ne_up, h.no_slash, h.no_null⟩⟩

/-- A location that consists of names. -/
def Location.IsReal (location : Location) : Prop := ∀ name ∈ location, IsName name

instance (location : Location) : Decidable location.IsReal :=
  inferInstanceAs (Decidable (∀ name ∈ location, IsName name))

/-- Components as they are read off a text: they mean something and hold no slash. -/
def PlainNames (names : List String) : Prop :=
  ∀ name ∈ names, name ≠ "" ∧ name ≠ "." ∧ '/' ∉ name.toList

instance (names : List String) : Decidable (PlainNames names) :=
  inferInstanceAs (Decidable (∀ name ∈ names, name ≠ "" ∧ name ≠ "." ∧ '/' ∉ name.toList))

theorem PlainNames.tail {name : String} {rest : List String} (h : PlainNames (name :: rest)) :
    PlainNames rest :=
  fun other hother => h other (List.mem_cons_of_mem _ hother)

theorem PlainNames.append {names more : List String} (h : PlainNames names)
    (hmore : PlainNames more) : PlainNames (names ++ more) :=
  fun name hname => (List.mem_append.1 hname).elim (h name) (hmore name)

namespace Location

theorem isReal_nil : IsReal [] := fun _ hname => absurd hname List.not_mem_nil

theorem IsReal.plainNames {location : Location} (h : IsReal location) : PlainNames location :=
  fun name hname => ⟨(h name hname).ne_empty, (h name hname).ne_dot, (h name hname).no_slash⟩

theorem IsReal.dropLast {location : Location} (h : IsReal location) :
    IsReal location.dropLast :=
  fun name hname => h name (List.dropLast_subset _ hname)

theorem IsReal.concat {location : Location} {name : String} (h : IsReal location)
    (hname : IsName name) : IsReal (location ++ [name]) := by
  intro other hother
  rcases List.mem_append.1 hother with hother | hother
  · exact h other hother
  · rwa [List.mem_singleton.1 hother]

end Location

namespace Path

/-- A path whose components could have been read off a text. -/
def IsPlain (p : Path) : Prop := PlainNames p.parts

instance (p : Path) : Decidable p.IsPlain := inferInstanceAs (Decidable (PlainNames p.parts))

theorem isPlain_parse (text : String) : (parse text).IsPlain := by
  intro name hname
  simp only [parse, List.mem_map, components, List.mem_filter] at hname
  obtain ⟨part, ⟨hcut, hmeans⟩, rfl⟩ := hname
  simp only [Bool.not_eq_true', Bool.or_eq_false_iff, List.isEmpty_eq_false_iff,
    beq_eq_false_iff_ne] at hmeans
  refine ⟨fun h => hmeans.1 ?_, fun h => hmeans.2 ?_, ?_⟩
  · simpa using congrArg String.toList h
  · simpa using congrArg String.toList h
  · simpa using Text.not_mem_of_mem_cut hcut

theorem mem_of_mem_parts {text name : String} {c : Char} (hname : name ∈ (parse text).parts)
    (hc : c ∈ name.toList) : c ∈ text.toList := by
  simp only [parse, List.mem_map, components, List.mem_filter] at hname
  obtain ⟨part, ⟨hcut, -⟩, rfl⟩ := hname
  exact Text.mem_of_mem_cut hcut (by simpa using hc)

/-! ## The text of a path -/

theorem components_slash (text : List Char) : components ('/' :: text) = components text := by
  simp [components, Text.cut]

theorem components_intercalate {parts : List String} (h : PlainNames parts) :
    components (['/'].intercalate (parts.map String.toList)) = parts.map String.toList := by
  by_cases hne : parts = []
  · subst hne
    simp [components, List.intercalate, Text.cut]
  have hcut : Text.cut '/' (['/'].intercalate (parts.map String.toList)) =
      parts.map String.toList := by
    rw [Text.intercalate_eq_glue]
    refine Text.cut_glue (by simpa using hne) fun piece hpiece => ?_
    obtain ⟨name, hname, rfl⟩ := List.mem_map.1 hpiece
    exact (h name hname).2.2
  rw [components, hcut, List.filter_eq_self]
  intro piece hpiece
  obtain ⟨name, hname, rfl⟩ := List.mem_map.1 hpiece
  obtain ⟨hempty, hdot, -⟩ := h name hname
  have hdot' : name.toList ≠ ['.'] := fun he => hdot (String.toList_inj.1 (by simpa using he))
  simp [hempty, hdot']

theorem takeWhile_slash_intercalate {parts : List String} (h : PlainNames parts) :
    (['/'].intercalate (parts.map String.toList)).takeWhile (· == '/') = [] := by
  cases parts with
  | nil => rfl
  | cons name rest =>
    obtain ⟨hempty, -, hslash⟩ := h name List.mem_cons_self
    obtain ⟨c, cs, hname⟩ : ∃ c cs, name.toList = c :: cs :=
      List.exists_cons_of_ne_nil (by simpa using hempty)
    have hc : c ≠ '/' := fun he => hslash (by simp [hname, he])
    cases rest <;> simp [List.intercalate, hname, hc]

theorem parse_toString {p : Path} (h : p.IsPlain) : parse p.toString = p := by
  obtain ⟨root, parts⟩ := p
  have hparts :
      (components (['/'].intercalate (parts.map String.toList))).map String.ofList = parts := by
    rw [components_intercalate h, List.map_map]
    simp [Function.comp_def]
  have hwhile := takeWhile_slash_intercalate h
  cases root with
  | relative =>
    -- no components at all are written as one dot, which is not read as a component
    by_cases hne : parts = []
    · subst hne
      rfl
    · simp [parse, toString, hne, hparts, rootOf, hwhile]
  | slash =>
    simp [parse, toString, components_slash, hparts, rootOf, hwhile]
  | doubleSlash =>
    simp [parse, toString, components_slash, hparts, rootOf, hwhile]

/-- A text that is a name is read as the path of that name. -/
theorem parse_of_isName {name : String} (h : IsName name) : parse name = ⟨.relative, [name]⟩ := by
  have hplain : (⟨.relative, [name]⟩ : Path).IsPlain :=
    List.forall_mem_singleton.2 ⟨h.ne_empty, h.ne_dot, h.no_slash⟩
  exact parse_toString hplain

theorem toString_inj {p q : Path} (hp : p.IsPlain) (hq : q.IsPlain)
    (h : p.toString = q.toString) : p = q := by
  rw [← parse_toString hp, ← parse_toString hq, h]

end Path
end LineLint
