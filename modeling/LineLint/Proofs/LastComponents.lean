import LineLint.Proofs.Manifests
import Mathlib.Logic.Relation

/-!
# The last component of a path

A manifest is told by the last component of its path that means anything. So it does not matter how
the components are put apart, which dots stand between them, and from which directory the path is
seen. Main statement: `Classifier.manifest_by_last_component`.
-/

namespace LineLint

/-! ## Components -/

/-- Slashes and backslashes put the components of a path apart. -/
def isSeparator (c : Char) : Bool := c == '/' || c == '\\'

/-- What stands between separators, without empty pieces and single dots. -/
def realComponents (text : List Char) : List (List Char) :=
  (text.splitOnP isSeparator).filter fun piece => !(piece.isEmpty || piece == ['.'])

/-- The last component that means anything, empty if there is none. -/
def lastComponent (file : String) : String :=
  String.ofList ((realComponents file.toList).getLast?.getD [])

section

variable {s : Char} (text first second : List Char)

/-- Two texts with a separator between them have their components one after the other. -/
theorem realComponents_append (hs : isSeparator s) :
    realComponents (first ++ s :: second) = realComponents first ++ realComponents second := by
  rw [realComponents, List.splitOnP_append_cons first second hs, List.filter_append]
  rfl

theorem realComponents_cons (hs : isSeparator s) :
    realComponents (s :: text) = realComponents text :=
  realComponents_append [] text hs

theorem realComponents_dot (hs : isSeparator s) :
    realComponents ('.' :: s :: text) = realComponents text :=
  realComponents_append ['.'] text hs

/-- With slashes for backslashes, a text is cut at slashes alone. -/
theorem cut_slashes :
    Text.cut '/' (text.map fun c => if c = '\\' then '/' else c) =
      text.splitOnP isSeparator := by
  induction text with
  | nil => rfl
  | cons c rest ih =>
    obtain ⟨piece, pieces, hrest⟩ : ∃ piece pieces, rest.splitOnP isSeparator = piece :: pieces :=
      List.exists_cons_of_ne_nil (List.splitOnP_ne_nil _ _)
    rw [List.map_cons, Text.cut, ih, List.splitOnP_cons_eq_if_modifyHead, hrest]
    by_cases hslash : c = '/'
    · simp [isSeparator, hslash]
    · by_cases hback : c = '\\'
      · simp [isSeparator, hback]
      · simp [isSeparator, hslash, hback]

/-- The name of a path is its last component. -/
theorem name_parse_slashes (file : String) :
    (Path.parse (Classifier.withSlashes file)).name = lastComponent file := by
  have hcomponents : Path.components (Classifier.withSlashes file).toList =
      realComponents file.toList := by
    rw [Path.components, Classifier.toList_withSlashes, cut_slashes, realComponents]
  rw [Path.name, Path.parse, hcomponents, lastComponent, List.getLast?_map]
  cases (realComponents file.toList).getLast? with
  | none => rfl
  | some piece => rfl

end

/-! ## Spellings -/

/-- One text is another one in another spelling, or one seen from a directory further up. -/
inductive Respells : List Char → List Char → Prop
  /-- One separator is as good as another. -/
  | swap {s t : Char} (first second : List Char) (hs : isSeparator s) (ht : isSeparator t) :
    Respells (first ++ s :: second) (first ++ t :: second)
  /-- Two separators are as good as one. -/
  | double {s t : Char} (first second : List Char) (hs : isSeparator s) (ht : isSeparator t) :
    Respells (first ++ s :: second) (first ++ s :: t :: second)
  /-- A single dot between separators means nothing. -/
  | dot {s t : Char} (first second : List Char) (hs : isSeparator s) (ht : isSeparator t) :
    Respells (first ++ s :: second) (first ++ s :: '.' :: t :: second)
  /-- Nor does a separator at the end. -/
  | trailing {s : Char} (text : List Char) (hs : isSeparator s) : Respells text (text ++ [s])
  /-- What has a component keeps its last one below any directory. -/
  | below {s : Char} {text : List Char} (directory : List Char) (hs : isSeparator s)
      (htext : realComponents text ≠ []) : Respells text (directory ++ s :: text)

/-- One path can be made another by changes of spelling and of the directories above, back and
forth. -/
def Respelled (file other : String) : Prop := Relation.EqvGen Respells file.toList other.toList

theorem Respells.getLast?_eq {text other : List Char} (h : Respells text other) :
    (realComponents other).getLast? = (realComponents text).getLast? := by
  cases h with
  | swap first second hs ht =>
    rw [realComponents_append first second hs, realComponents_append first second ht]
  | double first second hs ht =>
    rw [realComponents_append first second hs, realComponents_append _ _ hs,
      realComponents_cons second ht]
  | dot first second hs ht =>
    rw [realComponents_append first second hs, realComponents_append _ _ hs,
      realComponents_dot second ht]
  | trailing text hs =>
    rw [realComponents_append text [] hs]
    exact congrArg List.getLast? (List.append_nil _)
  | below directory hs htext =>
    rw [realComponents_append directory _ hs, List.getLast?_append_of_ne_nil _ htext]

/-- No change of the spelling reaches the last component, so no chain of changes does. -/
theorem getLast?_of_eqvGen {text other : List Char} (h : Relation.EqvGen Respells text other) :
    (realComponents other).getLast? = (realComponents text).getLast? := by
  induction h with
  | rel _ _ hstep => exact hstep.getLast?_eq
  | refl _ => rfl
  | symm _ _ _ ih => exact ih.symm
  | trans _ _ _ _ _ ih ih' => exact ih'.trans ih

theorem lastComponent_of_respelled {file other : String} (h : Respelled file other) :
    lastComponent other = lastComponent file := by
  rw [lastComponent, getLast?_of_eqvGen h, lastComponent]

/-! ## Manifests -/

namespace Classifier

/-- A path is that of a manifest if its last component is one of the names, and it stays one in any
other spelling and below any other directory. -/
theorem manifest_by_last_component (c : Classifier) (file : String) :
    (c.isManifest file = true ↔ lastComponent file ∈ c.manifestNames) ∧
    ∀ other, Respelled file other → c.isManifest other = c.isManifest file := by
  have hname : ∀ path, c.isManifest path = c.manifestNames.contains (lastComponent path) := by
    intro path
    rw [isManifest, name_parse_slashes]
  constructor
  · rw [hname, List.contains_iff_mem]
  · intro other hother
    rw [hname, hname, lastComponent_of_respelled hother]

/-- A manifest as it is written on another system, seen from further up. -/
theorem manifest_seen_from_above :
    Respelled "a/package.json" "..\\b/a\\./package.json//" ∧
    (Classifier.mk [] ["package.json"]).isManifest "..\\b/a\\./package.json//" = true := by
  have hs : isSeparator '/' := rfl
  have ht : isSeparator '\\' := rfl
  have hspelled : Respelled "a/package.json" "..\\b/a\\./package.json//" := by
    refine .trans _ _ _ (.rel _ _ (.swap ['a'] "package.json".toList hs ht)) ?_
    refine .trans _ _ _ (.rel _ _ (.dot ['a'] "package.json".toList ht hs)) ?_
    refine .trans _ _ _ (.rel _ _ (.trailing "a\\./package.json".toList hs)) ?_
    refine .trans _ _ _ (.rel _ _ (.trailing "a\\./package.json/".toList hs)) ?_
    exact .rel _ _ (.below "..\\b".toList hs (by decide))
  obtain ⟨htold, hsame⟩ :=
    manifest_by_last_component (Classifier.mk [] ["package.json"]) "a/package.json"
  exact ⟨hspelled, (hsame _ hspelled).trans (htold.2 (by decide))⟩

end Classifier

end LineLint
