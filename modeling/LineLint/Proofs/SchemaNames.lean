import LineLint.Proofs.Findings
import LineLint.Proofs.Patterns
import LineLint.Rules.Configuration

/-!
# Names of schema libraries

A text names a schema library where the name stands with a word boundary on both sides. In quotes
there is one exactly if the name itself starts and ends with a word character, which the name of a
package with a scope does not. Main statement: `Configuration.quoted_recognised_iff`.
-/

namespace LineLint.Rules.Configuration

variable {libraries : List String} {library : String} {file content : String} {c : Char}

/-! ## Whole words -/

/-- A name stands in a text with a word boundary on both sides. -/
def NamedIn (name : String) (text : List Char) : Prop :=
  ∃ before after, text = before ++ (name.toList ++ after) ∧
    Pattern.atBoundary before.getLast? (name.toList ++ after) = true ∧
    Pattern.atBoundary (before ++ name.toList).getLast? after = true

theorem matches_schemaReference {before taken after : List Char} :
    (schemaReference libraries).Matches (Pattern.lastOf none before) taken after ↔
      ∃ library ∈ libraries, taken = library.toList ∧
        Pattern.atBoundary before.getLast? (taken ++ after) = true ∧
        Pattern.atBoundary (before ++ taken).getLast? after = true := by
  simp only [schemaReference, Pattern.matches_sequence_cons, Pattern.matches_sequence_nil,
    Pattern.matches_anyOf, Pattern.Matches, Pattern.lastOf_append]
  constructor
  · rintro ⟨_, _, rfl, ⟨rfl, hstart⟩, _, _, rfl, ⟨p, hp, hname⟩, _, _, rfl, ⟨rfl, hend⟩, rfl⟩
    obtain ⟨library, hmem, rfl⟩ := List.mem_map.1 hp
    rw [Pattern.matches_text] at hname
    refine ⟨library, hmem, by simpa using hname, ?_, ?_⟩
    · simpa [Pattern.lastOf] using hstart
    · simpa [Pattern.lastOf] using hend
  · rintro ⟨library, hmem, rfl, hstart, hend⟩
    refine ⟨[], library.toList, rfl, ⟨rfl, by simpa [Pattern.lastOf] using hstart⟩,
      library.toList, [], by simp, ⟨_, List.mem_map_of_mem hmem, Pattern.matches_text.2 rfl⟩,
      [], [], rfl, ⟨rfl, ?_⟩, rfl⟩
    simpa [Pattern.lastOf] using hend

theorem usesSchemaLibrary_iff :
    usesSchemaLibrary libraries content = true ↔
      ∃ library ∈ libraries, NamedIn library content.toList := by
  rw [usesSchemaLibrary, Pattern.search_iff]
  constructor
  · rintro ⟨before, taken, after, htext, hfound⟩
    obtain ⟨library, hmem, rfl, hstart, hend⟩ := matches_schemaReference.1 hfound
    exact ⟨library, hmem, before, after, htext, hstart, hend⟩
  · rintro ⟨library, hmem, before, after, htext, hstart, hend⟩
    exact ⟨before, library.toList, after, htext,
      matches_schemaReference.2 ⟨library, hmem, rfl, hstart, hend⟩⟩

/-! ## Names in quotes -/

/-- A name stands in a text directly between two quotes. -/
def QuotedIn (name : String) (text : List Char) : Prop :=
  ∃ before opening closing after, isQuote opening = true ∧ isQuote closing = true ∧
    text = before ++ opening :: (name.toList ++ closing :: after)

/-- A name starts and ends with a word character. -/
def IsWordlike (name : String) : Prop :=
  name.toList.head?.any Text.isWord = true ∧ name.toList.getLast?.any Text.isWord = true

theorem isWord_of_isQuote (h : isQuote c = true) : Text.isWord c = false := by
  simp only [isQuote, Bool.or_eq_true, beq_iff_eq] at h
  rcases h with (rfl | rfl) | rfl <;> decide

theorem wordlike_ne_nil (h : IsWordlike library) : library.toList ≠ [] := by
  intro hnil
  simp [IsWordlike, hnil] at h

/-- Between quotes, the boundaries of a name are a matter of its own first and last character. -/
theorem boundaries_of_quotes (before after : List Char) {opening closing : Char}
    (hchars : library.toList ≠ []) (hopening : isQuote opening = true)
    (hclosing : isQuote closing = true) :
    Pattern.atBoundary (before ++ [opening]).getLast? (library.toList ++ closing :: after) =
        library.toList.head?.any Text.isWord ∧
      Pattern.atBoundary (before ++ [opening] ++ library.toList).getLast? (closing :: after) =
        library.toList.getLast?.any Text.isWord := by
  constructor
  · rw [Pattern.atBoundary, List.head?_append_of_ne_nil _ hchars]
    simp [isWord_of_isQuote hopening]
  · rw [Pattern.atBoundary, List.getLast?_append_of_ne_nil _ hchars]
    simp [isWord_of_isQuote hclosing]

theorem namedIn_of_quotedIn {text : List Char} (hword : IsWordlike library)
    (hquoted : QuotedIn library text) : NamedIn library text := by
  obtain ⟨before, opening, closing, after, hopening, hclosing, rfl⟩ := hquoted
  obtain ⟨hstart, hend⟩ :=
    boundaries_of_quotes before after (wordlike_ne_nil hword) hopening hclosing
  exact ⟨before ++ [opening], closing :: after, by simp, hstart.trans hword.1,
    hend.trans hword.2⟩

/-- A name that a text holds in quotes and nowhere else is named there only if it is made like a
word. -/
theorem isWordlike_of_namedIn {opening closing : Char} (hne : library ≠ "")
    (hopening : isQuote opening = true) (hclosing : isQuote closing = true)
    (hnamed : NamedIn library (opening :: (library.toList ++ [closing]))) :
    IsWordlike library := by
  obtain ⟨before, after, hcut, hstart, hend⟩ := hnamed
  have hchars : library.toList ≠ [] := by simpa using hne
  have hlength : before.length + after.length = 2 := by
    have hcount := congrArg List.length hcut
    simp only [List.length_cons, List.length_append, List.length_nil] at hcount
    omega
  match before, after with
  | [], after =>
    -- here the name would start with the opening quote, which is no word character
    have hfirst := congrArg List.head? hcut
    rw [List.nil_append, List.head?_cons] at hfirst
    simp [Pattern.atBoundary, ← hfirst, isWord_of_isQuote hopening] at hstart
  | [d], after =>
    obtain ⟨rfl, hrest⟩ := List.cons.inj hcut
    obtain rfl : [closing] = after := List.append_cancel_left hrest
    obtain ⟨hfirst, hlast⟩ := boundaries_of_quotes [] [] hchars hopening hclosing
    exact ⟨hfirst.symm.trans hstart, hlast.symm.trans hend⟩
  | d :: e :: before, after =>
    -- and here it would end with the closing one
    obtain rfl : after = [] := by
      rw [← List.length_eq_zero_iff]
      simp only [List.length_cons] at hlength
      omega
    have hlast := congrArg List.getLast? hcut
    rw [← List.cons_append, List.getLast?_concat, List.append_nil] at hlast
    rw [Pattern.atBoundary, ← hlast] at hend
    simp [isWord_of_isQuote hclosing] at hend

/-! ## Reads of the environment -/

/-- The check for reads of the environment. -/
def environmentCheck (libraries : List String) : LineCheck where
  test := .pattern environmentAccess
  advice := environmentAdvice
  excuses := ["?."]
  gate := fun _ content => !usesSchemaLibrary libraries content

/-- What is said of reads of the environment is said of lines, in texts that name no library. -/
theorem reports_of_environment {v : Violation}
    (hv : v ∈ (configuration libraries).validate file content)
    (hmessage : v.message = environmentAdvice.message) :
    usesSchemaLibrary libraries content = false ∧
      ∃ index line, v.line = some ((index : ℕ) + 1 : ℤ) ∧
        (Text.splitLines content.toList)[index]? = some line ∧
        CommentStyle.strict.hides line = false ∧
        (environmentCheck libraries).reports line = true := by
  rw [Rule.validate_eq_map_findings] at hv
  obtain ⟨f, hf, rfl⟩ := List.mem_map.1 hv
  obtain ⟨-, hfinds⟩ := Rule.mem_findings.1 hf
  cases hfinds with
  | @line c row index line hrow hgate hsplit hcode hreports =>
    match row with
    | 0 =>
      cases hrow
      have hother : hardcodedAdvice.message ≠ environmentAdvice.message := by decide
      exact absurd hmessage hother
    | 1 =>
      cases hrow
      exact ⟨by simpa using hgate, index, line, rfl, hsplit, hcode, hreports⟩
    | _ + 2 => cases hrow
  | @file c row hrow =>
    match row with
    | 0 => cases hrow
    | 1 => cases hrow
    | _ + 2 => cases hrow

/-- A line is reported for reading the environment if and only if the text names no library. -/
theorem environment_reported_iff (index : ℕ) :
    (∃ v ∈ (configuration libraries).validate file content,
        v.message = environmentAdvice.message ∧ v.line = some (index + 1 : ℤ)) ↔
      usesSchemaLibrary libraries content = false ∧
        ∃ line, (Text.splitLines content.toList)[index]? = some line ∧
          CommentStyle.strict.hides line = false ∧
          (environmentCheck libraries).reports line = true := by
  constructor
  · rintro ⟨v, hv, hmessage, hline⟩
    obtain ⟨huses, found, line, hfound, hreported⟩ := reports_of_environment hv hmessage
    obtain rfl : found = index := by
      have hnumber : (found : ℤ) + 1 = index + 1 := Option.some.inj (hfound.symm.trans hline)
      omega
    exact ⟨huses, line, hreported⟩
  · rintro ⟨huses, line, hsplit, hcode, hreports⟩
    have hcontent : content ≠ "" := by
      rintro rfl
      have hline : line ∈ Text.splitLines [] := List.mem_of_getElem? hsplit
      have hnone : environmentAccess.search [] = false := by decide
      rw [List.mem_singleton.1 hline] at hreports
      simp [LineCheck.reports, environmentCheck, LineTest.holds, hnone] at hreports
    have hgate : (environmentCheck libraries).gate file content = true := by
      simp [environmentCheck, huses]
    have hfinds : (configuration libraries).Finds file content
        ⟨.line (environmentCheck libraries), 1, some index⟩ :=
      .line rfl hgate hsplit hcode hreports
    rw [Rule.validate_eq_map_findings]
    exact ⟨_, List.mem_map_of_mem (Rule.mem_findings.2 ⟨hcontent, hfinds⟩), rfl, rfl⟩

/-- A library that a text holds in quotes is recognised in every text if and only if its name starts
and ends with a word character. Reads of the environment are then not reported. -/
theorem quoted_recognised_iff {library : String} (hne : library ≠ "") :
    (∀ libraries file content, library ∈ libraries → QuotedIn library content.toList →
      usesSchemaLibrary libraries content = true ∧
        ∀ v ∈ (configuration libraries).validate file content,
          v.message ≠ environmentAdvice.message) ↔
      IsWordlike library := by
  constructor
  · intro h
    let content := String.ofList ('"' :: (library.toList ++ ['"']))
    have hchars : content.toList = '"' :: (library.toList ++ ['"']) := String.toList_ofList
    have hquoted : QuotedIn library content.toList :=
      ⟨[], '"', '"', [], rfl, rfl, by simp [hchars]⟩
    obtain ⟨huses, -⟩ := h [library] "" content (by simp) hquoted
    obtain ⟨_, hmem, hnamed⟩ := usesSchemaLibrary_iff.1 huses
    rw [List.mem_singleton.1 hmem, hchars] at hnamed
    exact isWordlike_of_namedIn hne rfl rfl hnamed
  · intro hword libraries file content hmem hquoted
    have huses : usesSchemaLibrary libraries content = true :=
      usesSchemaLibrary_iff.2 ⟨library, hmem, namedIn_of_quotedIn hword hquoted⟩
    refine ⟨huses, fun v hv hmessage => ?_⟩
    obtain ⟨hnone, -⟩ := reports_of_environment hv hmessage
    simp [huses] at hnone

theorem quoted_recognised_zod :
    "zod" ≠ "" ∧ usesSchemaLibrary ["zod"] "import z from 'zod';\nz(process.env.A);" = true := by
  have hne : "zod" ≠ "" := by decide
  have hword : IsWordlike "zod" := ⟨by decide, by decide⟩
  have hquoted : QuotedIn "zod" "import z from 'zod';\nz(process.env.A);".toList :=
    ⟨"import z from ".toList, '\'', '\'', ";\nz(process.env.A);".toList, by decide⟩
  exact ⟨hne, ((quoted_recognised_iff hne).2 hword ["zod"] "a.ts" _ (by simp) hquoted).1⟩

/-- A package with a scope is not recognised where it is imported, and the read of the environment
in the next line is reported. -/
theorem scoped_not_recognised :
    let content := "import j from '@hapi/joi';\nj(process.env.A);"
    QuotedIn "@hapi/joi" content.toList ∧
      usesSchemaLibrary ["@hapi/joi"] content = false ∧
      ∃ v ∈ (configuration ["@hapi/joi"]).validate "a.ts" content,
        v.message = environmentAdvice.message ∧ v.line = some 2 := by
  intro content
  have huses : usesSchemaLibrary ["@hapi/joi"] content = false := by decide +kernel
  refine ⟨⟨"import j from ".toList, '\'', '\'', ";\nj(process.env.A);".toList, by decide +kernel⟩,
    huses, ?_⟩
  exact (environment_reported_iff 1).2
    ⟨huses, "j(process.env.A);".toList, by decide +kernel, by decide +kernel, by decide +kernel⟩

end LineLint.Rules.Configuration
