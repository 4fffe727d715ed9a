import LineLint.Lint.Run
import LineLint.Proofs.Findings
import LineLint.Proofs.Names
import Mathlib.Data.String.Basic

/-!
# Samples

What the examples have in common: a project whose settings are those that hold where no file says
otherwise, names of any length, and a file in which something is found under every name
(`Settings.requireCall_mem_lintText`).
-/

namespace LineLint

/-- A project with the settings that hold where no file says otherwise. -/
def sampleProject : Project := ⟨{}, ["proj"]⟩

/-! ## Names of any length -/

/-- A name that is one letter many times over. -/
def letters (n : ℕ) : String := String.ofList (List.replicate n 'a')

theorem toList_letters (n : ℕ) : (letters n).toList = List.replicate n 'a' :=
  String.toList_ofList

theorem size_letters (n : ℕ) : (letters n).utf8ByteSize = n := by
  rw [letters, String.utf8ByteSize_ofList]
  induction n with
  | zero => rfl
  | succ n ih =>
    rw [List.replicate_succ, String.utf8Len_cons, ih]
    rfl

theorem isName_letters {n : ℕ} (hn : n ≠ 0) : IsName (letters n) := by
  have hother : ∀ c ≠ 'a', c ∉ (letters n).toList := by
    intro c hc hmem
    rw [toList_letters] at hmem
    exact hc (List.eq_of_mem_replicate hmem)
  have hletter : 'a' ∈ (letters n).toList := by
    rw [toList_letters]
    exact List.mem_replicate.2 ⟨hn, rfl⟩
  refine ⟨?_, ?_, ?_, hother _ (by decide), hother _ (by decide)⟩
  all_goals
    intro he
    rw [he] at hletter
    revert hletter
    decide

theorem fits_letters {n : ℕ} (hn : n ≠ 0) (hsize : n ≤ FileTree.maxNameBytes) :
    IsName (letters n) ∧ (letters n).utf8ByteSize ≤ FileTree.maxNameBytes :=
  ⟨isName_letters hn, (size_letters n).le.trans hsize⟩

/-! ## A file in which something is found -/

/-- The bytes of a file that calls `require`. -/
def requireBytes : List UInt8 := Text.Utf8.encode "require('x')".toList

/-- What is said of the call. -/
def requireCall (file : String) : Violation where
  rule := "Stay Updated"
  file := file
  message := "Deprecated pattern 'require(' found"
  line := some 1
  suggestion := some "Use ES module `import` syntax."

theorem Settings.requireCall_mem_lintText {s : Settings} (h : s.rules.deprecation = true)
    (file : String) : requireCall file ∈ s.lintText file (Project.decodeSource requireBytes) := by
  let r : Rule := Rules.deprecation s.classifier
  let check : LineCheck :=
    { test := .literal "require(",
      advice := ⟨Rules.Deprecation.message "require(", "Use ES module `import` syntax."⟩ }
  have hactive : r ∈ s.activeRules :=
    List.mem_map.2 ⟨⟨"stay_updated", r, s.rules.deprecation⟩, by simp [catalogue, h, r], rfl⟩
  have hdecode : Project.decodeSource requireBytes = "require('x')" := by decide +kernel
  have hline : (Text.splitLines "require('x')".toList)[0]? = some "require('x')".toList := by
    decide +kernel
  have hcode : r.comments.hides "require('x')".toList = false := by
    change CommentStyle.strict.hides _ = false
    decide
  have hfound : r.Finds file "require('x')" ⟨.line check, 0, some 0⟩ :=
    .line rfl rfl hline hcode (by decide)
  rw [hdecode]
  refine List.mem_flatMap.2 ⟨r, hactive, ?_⟩
  rw [Rule.validate_eq_map_findings]
  exact List.mem_map.2 ⟨_, Rule.mem_findings.2 ⟨by decide, hfound⟩, rfl⟩

end LineLint
