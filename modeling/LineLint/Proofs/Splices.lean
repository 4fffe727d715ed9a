import LineLint.Proofs.Findings
import LineLint.Proofs.SchemaNames
import LineLint.Rules.Catalogue

/-!
# Texts below each other

What is said of the lines of a text does not depend on the lines around them, up to the gates that
look at the whole text. A pattern that takes no line feed is found in two texts with a line feed
between them exactly if it is found in one of them. Main statement: `Settings.lines_join`.
-/

namespace LineLint

namespace Text

variable {separator : Char} {first second : List Char}

/-! ## Lines -/

theorem length_cut (separator : Char) (text : List Char) :
    (cut separator text).length = 1 + text.count separator := by
  induction text with
  | nil => rfl
  | cons c rest ih =>
    rw [cut, List.count_cons]
    by_cases hc : c = separator
    · rw [if_pos hc, List.length_cons, ih]
      simp only [hc, beq_self_eq_true, if_true]
      omega
    · rw [if_neg hc]
      cases hrest : cut separator rest with
      | nil => exact absurd hrest (cut_ne_nil separator rest)
      | cons piece pieces =>
        rw [hrest] at ih
        simpa [hc] using ih

/-- A stretch without the separator lies on one side of it. -/
theorem sides_of_not_mem {skipped taken after : List Char}
    (htext : first ++ separator :: second = skipped ++ (taken ++ after))
    (htaken : separator ∉ taken) :
    (∃ rest, first = skipped ++ (taken ++ rest) ∧ after = rest ++ separator :: second) ∨
      ∃ rest, skipped = first ++ separator :: rest ∧ second = rest ++ (taken ++ after) := by
  obtain ⟨rest, rfl, hrest⟩ | ⟨rest, rfl, hrest⟩ := List.append_eq_append_iff.1 htext
  · -- The stretch starts at the separator or behind it, and it does not start with it.
    cases rest with
    | nil =>
      cases taken with
      | nil => exact .inl ⟨[], by simp, hrest.symm⟩
      | cons d taken =>
        obtain ⟨rfl, -⟩ := List.cons.inj hrest
        exact absurd List.mem_cons_self htaken
    | cons d rest =>
      obtain ⟨rfl, hsecond⟩ := List.cons.inj hrest
      exact .inr ⟨rest, rfl, hsecond⟩
  · -- It starts before the separator, so it also has to end there.
    obtain ⟨more, rfl, hafter⟩ | ⟨more, rfl, hafter⟩ := List.append_eq_append_iff.1 hrest
    · exact .inl ⟨more, rfl, hafter⟩
    · cases more with
      | nil => exact .inl ⟨[], by simp, hafter.symm⟩
      | cons d more =>
        obtain ⟨rfl, -⟩ := List.cons.inj hafter
        exact absurd (by simp) htaken

end Text

/-! ## Searching -/

namespace Pattern

variable {p : Pattern} {first second : List Char} {c : Char}

/-- No match reaches over a character that it cannot take, and one that is no word character ends
words as the ends of the text do. -/
theorem search_append_cons (hword : Text.isWord c = false)
    (havoids : ∀ {skipped taken after}, p.Matches (lastOf none skipped) taken after → c ∉ taken) :
    p.search (first ++ c :: second) = (p.search first || p.search second) := by
  have hafter : ∀ after : List Char,
      (after ++ c :: second).head?.any Text.isWord = after.head?.any Text.isWord := by
    intro after
    cases after with
    | nil => simp [hword]
    | cons d after => rfl
  have hbefore : ∀ skipped : List Char,
      (lastOf none (first ++ c :: skipped)).any Text.isWord =
        (lastOf none skipped).any Text.isWord := by
    intro skipped
    rcases List.eq_nil_or_concat' skipped with rfl | ⟨start, d, rfl⟩
    · simp [lastOf, hword]
    · have hlast : first ++ c :: (start ++ [d]) = first ++ c :: start ++ [d] := by simp
      rw [hlast, lastOf, lastOf, List.getLast?_concat, List.getLast?_concat]
  rw [Bool.eq_iff_iff, Bool.or_eq_true, search_iff, search_iff, search_iff]
  constructor
  · rintro ⟨skipped, taken, after, htext, hmatch⟩
    obtain ⟨rest, rfl, rfl⟩ | ⟨rest, rfl, rfl⟩ := Text.sides_of_not_mem htext (havoids hmatch)
    · exact .inl ⟨skipped, taken, rest, rfl, hmatch.congr rfl (hafter rest)⟩
    · exact .inr ⟨rest, taken, after, rfl, hmatch.congr (hbefore rest) rfl⟩
  · rintro (⟨skipped, taken, after, rfl, hmatch⟩ | ⟨skipped, taken, after, rfl, hmatch⟩)
    · exact ⟨skipped, taken, after ++ c :: second, by simp, hmatch.congr rfl (hafter after).symm⟩
    · exact ⟨first ++ c :: skipped, taken, after, by simp,
        hmatch.congr (hbefore skipped).symm rfl⟩

end Pattern

/-! ## Rules -/

/-- The violation as it is numbered with some lines above it. -/
def Violation.movedDown (lines : ℕ) (v : Violation) : Violation :=
  { v with line := v.line.map (· + (lines : ℤ)) }

/-- The text with another one below it. -/
def Text.below (first second : String) : String := first ++ "\n" ++ second

theorem Text.toList_below (first second : String) :
    (Text.below first second).toList = first.toList ++ '\n' :: second.toList := by
  rw [below, String.toList_append, String.toList_append, List.append_assoc]
  rfl

namespace Rule

variable {r : Rule} {file content part first second : String} {keep : String → Bool}

/-- What a rule says of the lines of a file. -/
def lineReports (r : Rule) (file content : String) : List Violation :=
  (r.validate file content).filter (·.line.isSome)

/-- What a rule says of the lines of two texts, each on its own, with the second below the first. -/
def joinedReports (r : Rule) (file first second : String) : List Violation :=
  r.lineReports file first ++
    (r.lineReports file second).map (·.movedDown (1 + first.toList.count '\n'))

/-- What a rule says of some lines, the first of which has this index, if its gates look at this
content. -/
def linesSaid (r : Rule) (file content : String) (lines : List (List Char)) (start : ℕ) :
    List Violation :=
  (lines.zipIdx start).flatMap fun line =>
    r.lineViolations file (r.lineChecks file content) line.1 line.2

/-- No row of the table reports an empty line. -/
def IgnoresBlank (r : Rule) : Prop := ∀ c, .line c ∈ r.checks → c.reports [] = false

theorem lineViolations_blank (h : r.IgnoresBlank) (index : ℕ) :
    r.lineViolations file (r.lineChecks file content) [] index = [] := by
  have hnone : ∀ c ∈ r.checks, ¬ r.reportsLine file content [] c = true := by
    intro c hc
    cases c with
    | line c => simp [reportsLine, h c hc]
    | file c => simp [reportsLine]
  rw [lineViolations_eq, List.filter_eq_nil_iff.2 hnone, List.map_nil]

theorem lineReports_eq (h : r.IgnoresBlank) :
    r.lineReports file content = r.linesSaid file content (Text.splitLines content.toList) 0 := by
  rw [lineReports, validate, linesSaid]
  by_cases hempty : content = ""
  · subst hempty
    simp [Text.splitLines, Text.cut, lineViolations_blank h]
  · have hlines : ∀ v ∈ (Text.splitLines content.toList).zipIdx.flatMap fun line =>
        r.lineViolations file (r.lineChecks file content) line.1 line.2, v.line.isSome = true := by
      intro v hv
      obtain ⟨line, -, hv⟩ := List.mem_flatMap.1 hv
      rw [lineViolations_eq] at hv
      obtain ⟨c, -, rfl⟩ := List.mem_map.1 hv
      rfl
    have hfile : ∀ v ∈ ((r.fileChecks file content).filter (!·.requirement content)).map
        fun c => r.violation file c.advice none, ¬ v.line.isSome = true := by
      intro v hv
      obtain ⟨c, -, rfl⟩ := List.mem_map.1 hv
      exact Bool.false_ne_true
    rw [if_neg (by simpa [String.isEmpty_iff] using hempty), List.filter_append,
      List.filter_eq_self.2 hlines, List.filter_eq_nil_iff.2 hfile, List.append_nil]

theorem lineViolations_add (checks : List LineCheck) (line : List Char) (index lines : ℕ) :
    r.lineViolations file checks line (index + lines) =
      (r.lineViolations file checks line index).map (·.movedDown lines) := by
  have hnumber : ((index + lines : ℕ) : ℤ) + 1 = index + 1 + lines := by
    push_cast
    omega
  rw [lineViolations, lineViolations]
  split
  · rfl
  · rw [List.map_map, hnumber]
    rfl

theorem linesSaid_append (lines more : List (List Char)) :
    r.linesSaid file content (lines ++ more) 0 =
      r.linesSaid file content lines 0 ++
        (r.linesSaid file content more 0).map (·.movedDown lines.length) := by
  have hindices : more.zipIdx (0 + lines.length) =
      (more.zipIdx 0).map (Prod.map id (· + lines.length)) := by
    rw [List.map_snd_add_zipIdx_eq_zipIdx, Nat.add_comm]
  rw [linesSaid, List.zipIdx_append, List.flatMap_append, hindices, List.flatMap_map, linesSaid,
    linesSaid, List.map_flatMap]
  congr 1
  exact List.flatMap_congr fun line _ => lineViolations_add _ line.1 line.2 lines.length

/-- The gates are as open for the content as for a part of it, but for the rows that are not
kept. -/
def GatesOpen (r : Rule) (file content part : String) (keep : String → Bool) : Prop :=
  ∀ c, .line c ∈ r.checks → c.gate file content = (c.gate file part && keep c.advice.message)

theorem linesSaid_of_gatesOpen (h : r.GatesOpen file content part keep)
    (lines : List (List Char)) (start : ℕ) :
    r.linesSaid file content lines start =
      (r.linesSaid file part lines start).filter (keep ·.message) := by
  rw [linesSaid, linesSaid, List.filter_flatMap]
  refine List.flatMap_congr fun line _ => ?_
  rw [lineViolations_eq, lineViolations_eq, List.filter_map, List.filter_filter]
  congr 1
  refine List.filter_congr fun c hc => ?_
  cases c with
  | line c =>
    have hmessage : (r.violation file c.advice (some (line.2 + 1 : ℤ))).message =
        c.advice.message := rfl
    simp only [reportsLine, h c hc, Check.advice, Function.comp_apply, hmessage]
    cases c.gate file part <;> cases keep c.advice.message <;> simp
  | file c => simp [reportsLine]

/-- What a rule says of the lines of two texts below each other is what it says of the lines of
each, without what the gates of the whole do not let through. -/
theorem lineReports_below (hblank : r.IgnoresBlank)
    (hfirst : r.GatesOpen file (Text.below first second) first keep)
    (hsecond : r.GatesOpen file (Text.below first second) second keep) :
    r.lineReports file (Text.below first second) =
      (r.joinedReports file first second).filter (keep ·.message) := by
  have hlines : Text.splitLines (Text.below first second).toList =
      Text.splitLines first.toList ++ Text.splitLines second.toList := by
    rw [Text.toList_below]
    exact Text.cut_append_separator '\n' first.toList second.toList
  rw [joinedReports, lineReports_eq hblank, lineReports_eq hblank, lineReports_eq hblank, hlines,
    linesSaid_append, linesSaid_of_gatesOpen hfirst, linesSaid_of_gatesOpen hsecond,
    Text.splitLines, Text.length_cut, List.filter_append, List.filter_map]
  rfl

end Rule

/-! ## Gates -/

namespace Rules

variable {libraries : List String} {c : Classifier} {file first second : String}

theorem Configuration.usesSchemaLibrary_below
    (h : ∀ library ∈ libraries, '\n' ∉ library.toList) :
    usesSchemaLibrary libraries (Text.below first second) =
      (usesSchemaLibrary libraries first || usesSchemaLibrary libraries second) := by
  rw [usesSchemaLibrary, Text.toList_below]
  refine Pattern.search_append_cons (by decide) fun hmatch => ?_
  obtain ⟨library, hlibrary, rfl, -⟩ := matches_schemaReference.1 hmatch
  exact h library hlibrary

theorem BunFlags.contains_preconnectFlag_below :
    Text.contains preconnectFlag.toList (Text.below first second).toList =
      (Text.contains preconnectFlag.toList first.toList ||
        Text.contains preconnectFlag.toList second.toList) := by
  simp only [← Pattern.search_text, Text.toList_below]
  refine Pattern.search_append_cons (by decide) fun hmatch => ?_
  rw [Pattern.matches_text.1 hmatch]
  decide

/-- The messages that stay if, once `lifted`, this advice is no longer given. -/
def messagesWithout (advice : Advice) (lifted : Bool) (message : String) : Bool :=
  !(lifted && message == advice.message)

/-- What neither of two texts lifts is not lifted by a single one. -/
theorem not_lifted (lifted : String → Bool) {part : String} (hpart : part ∈ [first, second]) :
    (!(lifted first || lifted second)) =
      (!lifted part && !(lifted first || lifted second)) := by
  obtain rfl | rfl : part = first ∨ part = second := by simpa using hpart
  · cases lifted part <;> simp
  · cases lifted part <;> simp

theorem ignoresBlank_configuration : (configuration libraries).IgnoresBlank := by
  intro c hc
  simp only [configuration, List.mem_cons, Check.line.injEq, List.not_mem_nil, or_false] at hc
  obtain rfl | rfl := hc
  · show (Configuration.hardcodedValue.search [] && true) = false
    decide
  · show (Configuration.environmentAccess.search [] && true) = false
    decide

theorem ignoresBlank_bunFlags : (bunFlags c).IgnoresBlank := by
  intro check hcheck
  simp only [bunFlags, List.mem_cons, Check.line.injEq, List.not_mem_nil, or_false] at hcheck
  obtain rfl | rfl | rfl := hcheck
  · rfl
  · show (BunFlags.databaseClient.search [] && true) = false
    decide
  · show (BunFlags.bunScript.search [] && true) = false
    decide

theorem ignoresBlank_deprecation : (deprecation c).IgnoresBlank := by
  have hneedles : ∀ pair ∈ Deprecation.replacements,
      Text.contains pair.1.toList [] = false := by decide
  intro check hcheck
  simp only [deprecation, List.mem_append, List.mem_map, List.mem_singleton, reduceCtorEq,
    or_false, Check.line.injEq] at hcheck
  obtain ⟨pair, hpair, rfl⟩ := hcheck
  rw [LineCheck.reports, LineTest.holds, hneedles pair hpair, Bool.false_and]

/-- Reads of the environment fall away where one of the texts names a library. -/
theorem lineReports_configuration (h : ∀ library ∈ libraries, '\n' ∉ library.toList) :
    (configuration libraries).lineReports file (Text.below first second) =
      ((configuration libraries).joinedReports file first second).filter fun v =>
        !((Configuration.usesSchemaLibrary libraries first ||
            Configuration.usesSchemaLibrary libraries second) &&
          v.message == Configuration.environmentAdvice.message) := by
  have hadvice : (Configuration.hardcodedAdvice.message ==
      Configuration.environmentAdvice.message) = false := by decide
  have hgates : ∀ part ∈ [first, second], (configuration libraries).GatesOpen file
      (Text.below first second) part (messagesWithout Configuration.environmentAdvice
        (Configuration.usesSchemaLibrary libraries first ||
          Configuration.usesSchemaLibrary libraries second)) := by
    intro part hpart c hc
    simp only [configuration, List.mem_cons, Check.line.injEq, List.not_mem_nil, or_false] at hc
    obtain rfl | rfl := hc
    · simp [messagesWithout, hadvice]
    · simp only [Configuration.usesSchemaLibrary_below h, messagesWithout, beq_self_eq_true,
        Bool.and_true]
      exact not_lifted (Configuration.usesSchemaLibrary libraries) hpart
  exact Rule.lineReports_below ignoresBlank_configuration (hgates first (by simp))
    (hgates second (by simp))

/-- Database clients fall away where one of the texts holds the flag. -/
theorem lineReports_bunFlags :
    (bunFlags c).lineReports file (Text.below first second) =
      ((bunFlags c).joinedReports file first second).filter fun v =>
        !((Text.contains BunFlags.preconnectFlag.toList first.toList ||
            Text.contains BunFlags.preconnectFlag.toList second.toList) &&
          v.message == BunFlags.databaseAdvice.message) := by
  have hadvice : ∀ advice ∈ [BunFlags.workerAdvice, BunFlags.scriptAdvice],
      (advice.message == BunFlags.databaseAdvice.message) = false := by decide
  have hgates : ∀ part ∈ [first, second], (bunFlags c).GatesOpen file
      (Text.below first second) part (messagesWithout BunFlags.databaseAdvice
        (Text.contains BunFlags.preconnectFlag.toList first.toList ||
          Text.contains BunFlags.preconnectFlag.toList second.toList)) := by
    intro part hpart check hcheck
    simp only [bunFlags, List.mem_cons, Check.line.injEq, List.not_mem_nil, or_false] at hcheck
    obtain rfl | rfl | rfl := hcheck
    · simp [messagesWithout, hadvice BunFlags.workerAdvice (by simp)]
    · simp only [BunFlags.serverWithoutPreconnect, BunFlags.contains_preconnectFlag_below,
        messagesWithout, beq_self_eq_true, Bool.and_true]
      rw [Bool.and_assoc]
      exact congrArg _ (not_lifted
        (fun content => Text.contains BunFlags.preconnectFlag.toList content.toList) hpart)
    · simp [messagesWithout, hadvice BunFlags.scriptAdvice (by simp)]
  exact Rule.lineReports_below ignoresBlank_bunFlags (hgates first (by simp))
    (hgates second (by simp))

/-- What is said of deprecated interfaces is said of lines alone. -/
theorem lineReports_deprecation :
    (deprecation c).lineReports file (Text.below first second) =
      (deprecation c).joinedReports file first second := by
  have hgates : ∀ part, (deprecation c).GatesOpen file (Text.below first second) part
      fun _ => true := by
    intro part check hcheck
    simp only [deprecation, List.mem_append, List.mem_map, List.mem_singleton, reduceCtorEq,
      or_false, Check.line.injEq] at hcheck
    obtain ⟨pair, -, rfl⟩ := hcheck
    rfl
  rw [Rule.lineReports_below ignoresBlank_deprecation (hgates first) (hgates second),
    List.filter_true]

end Rules

/-! ## All rules -/

/-- The names of schema libraries that can stand in a text. -/
def Settings.libraryNames (s : Settings) : List String := ChosenName.texts s.schemaLibraries

/-- What the rules say of the lines of two texts below each other, in terms of the two texts. -/
structure Settings.JoinsLines (s : Settings) (file first second : String) : Prop where
  /-- The whole text names a schema library exactly if one of the two does. -/
  references :
    Rules.Configuration.usesSchemaLibrary s.libraryNames (Text.below first second) = true ↔
      Rules.Configuration.usesSchemaLibrary s.libraryNames first = true ∨
        Rules.Configuration.usesSchemaLibrary s.libraryNames second = true
  /-- Reads of the environment fall away if one of the texts names a library. -/
  configuration :
    (Rules.configuration s.libraryNames).lineReports file (Text.below first second) =
      ((Rules.configuration s.libraryNames).joinedReports file first second).filter fun v =>
        !((Rules.Configuration.usesSchemaLibrary s.libraryNames first ||
            Rules.Configuration.usesSchemaLibrary s.libraryNames second) &&
          v.message == Rules.Configuration.environmentAdvice.message)
  /-- Database clients fall away if one of the texts holds the flag. -/
  bunFlags :
    (Rules.bunFlags s.classifier).lineReports file (Text.below first second) =
      ((Rules.bunFlags s.classifier).joinedReports file first second).filter fun v =>
        !((Text.contains Rules.BunFlags.preconnectFlag.toList first.toList ||
            Text.contains Rules.BunFlags.preconnectFlag.toList second.toList) &&
          v.message == Rules.BunFlags.databaseAdvice.message)
  /-- Nothing falls away among deprecated interfaces. -/
  deprecation :
    (Rules.deprecation s.classifier).lineReports file (Text.below first second) =
      (Rules.deprecation s.classifier).joinedReports file first second

/-- The rules look at each line on its own, up to the gates that look at the whole text. -/
theorem Settings.lines_join (s : Settings) (file first second : String)
    (hlibraries : ∀ library ∈ s.libraryNames, '\n' ∉ library.toList) :
    s.JoinsLines file first second where
  references := by
    rw [Rules.Configuration.usesSchemaLibrary_below hlibraries, Bool.or_eq_true]
  configuration := Rules.lineReports_configuration hlibraries
  bunFlags := Rules.lineReports_bunFlags
  deprecation := Rules.lineReports_deprecation

/-- An import above a read of the environment hides the read, which the line alone does not. -/
theorem Settings.lines_join_import :
    let s : Settings := {}
    (∀ library ∈ s.libraryNames, '\n' ∉ library.toList) ∧
      s.JoinsLines "a.ts" "import z from 'zod';" "z(process.env.A);" ∧
      ((Rules.configuration s.libraryNames).lineReports "a.ts" "z(process.env.A);").length = 1 ∧
      (Rules.configuration s.libraryNames).lineReports "a.ts"
        (Text.below "import z from 'zod';" "z(process.env.A);") = [] := by
  intro s
  have hlibraries : ∀ library ∈ s.libraryNames, '\n' ∉ library.toList := by decide
  have hjoins := Settings.lines_join s "a.ts" "import z from 'zod';" "z(process.env.A);" hlibraries
  refine ⟨hlibraries, hjoins, by decide, ?_⟩
  rw [hjoins.configuration]
  decide

end LineLint
