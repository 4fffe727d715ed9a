import LineLint.Proofs.Findings
import LineLint.Proofs.Returns
import LineLint.Rules.Catalogue

/-!
# Rules and line breaks

A rule that reads a text with a carriage return before each line feed says what it says of the text
without the returns. Main statement: `Settings.lintText_dropReturns`. One pattern takes a blank
after a quoted command, so in a manifest no line may end with that command before a return.
-/

namespace LineLint

open Text (dropReturns PairedReturns)

variable {text line : List Char} {file : String}

/-! ## A return at the end of a line -/

theorem Text.containsAny_concat {needles : List String}
    (h : ∀ needle ∈ needles, '\r' ∉ needle.toList ∧ needle.toList ≠ []) (line : List Char) :
    Text.containsAny needles (line ++ ['\r']) = Text.containsAny needles line := by
  rw [Bool.eq_iff_iff, Text.containsAny, Text.containsAny, List.any_eq_true, List.any_eq_true]
  refine exists_congr fun needle => and_congr_right fun hneedle => ?_
  rw [Text.contains_concat (h needle hneedle).1 (h needle hneedle).2]

theorem CommentStyle.hides_concat (style : CommentStyle) (line : List Char) :
    style.hides (line ++ ['\r']) = style.hides line := by
  cases style with
  | loose => exact Text.contains_concat (by decide) (by decide) line
  | strict =>
    have hblank : Text.isBlank '\r' = true := by decide
    simp only [hides, Text.trim, Text.strip_concat hblank]

/-- What a return at its end does not change about a line is the same for the lines of a text with
and without the returns. -/
theorem eq_of_mem_splitLines {α : Type} {f : List Char → α}
    (hf : ∀ line, f (line ++ ['\r']) = f line) (hpaired : PairedReturns text)
    (hline : line ∈ Text.splitLines text) : f (dropReturns line) = f line := by
  rcases hpaired.of_mem_splitLines hline with heq | ⟨heq, -⟩
  · rw [← heq]
  · rw [← hf, ← heq]

/-! ## Rows of a table -/

/-- A row says the same of a text with and without its returns. -/
inductive Check.IgnoresReturns (file : String) (text : List Char) : Check → Prop
  | line {c : LineCheck}
      (hgate : c.gate file (String.ofList (dropReturns text)) = c.gate file (String.ofList text))
      (hreports : c.gate file (String.ofList text) = true →
        ∀ line ∈ Text.splitLines text, c.reports (dropReturns line) = c.reports line) :
      IgnoresReturns file text (.line c)
  | file {c : FileCheck}
      (hgate : c.gate file (String.ofList (dropReturns text)) = c.gate file (String.ofList text))
      (hrequirement : c.requirement (String.ofList (dropReturns text)) =
        c.requirement (String.ofList text)) :
      IgnoresReturns file text (.file c)

theorem LineCheck.reports_dropReturns {c : LineCheck} (hpaired : PairedReturns text)
    (hexcuses : ∀ excuse ∈ c.excuses, '\r' ∉ excuse.toList ∧ excuse.toList ≠ [])
    (htest : ∀ line ∈ Text.splitLines text, c.test.holds (dropReturns line) = c.test.holds line)
    (hline : line ∈ Text.splitLines text) : c.reports (dropReturns line) = c.reports line := by
  rw [reports, reports, htest line hline,
    eq_of_mem_splitLines (Text.containsAny_concat hexcuses) hpaired hline]

theorem holds_literal_dropReturns {needle : String} (hpaired : PairedReturns text)
    (hneedle : '\r' ∉ needle.toList ∧ needle.toList ≠ []) :
    ∀ line ∈ Text.splitLines text,
      (LineTest.literal needle).holds (dropReturns line) = (LineTest.literal needle).holds line :=
  fun _ hline => eq_of_mem_splitLines (Text.contains_concat hneedle.1 hneedle.2) hpaired hline

theorem holds_pattern_dropReturns {p : Pattern} (hpaired : PairedReturns text)
    (hempty : p.mayBeEmpty = false) (hend : p.mayEndIn '\r' = false) :
    ∀ line ∈ Text.splitLines text,
      (LineTest.pattern p).holds (dropReturns line) = (LineTest.pattern p).holds line :=
  fun _ hline => eq_of_mem_splitLines
    (Pattern.search_concat (show Text.isWord '\r' = false by decide) hempty hend) hpaired hline

theorem Rule.validate_dropReturns {r : Rule} (hpaired : PairedReturns text)
    (h : ∀ c ∈ r.checks, c.IgnoresReturns file text) :
    r.validate file (String.ofList (dropReturns text)) = r.validate file (String.ofList text) := by
  have hline : ∀ line ∈ Text.splitLines text,
      r.checks.filter (r.reportsLine file (String.ofList (dropReturns text)) (dropReturns line)) =
        r.checks.filter (r.reportsLine file (String.ofList text) line) := by
    refine fun line hline => List.filter_congr fun c hc => ?_
    cases h c hc with
    | line hgate hreports =>
      rw [reportsLine, reportsLine, hgate,
        eq_of_mem_splitLines r.comments.hides_concat hpaired hline]
      cases hopen : LineCheck.gate _ file (String.ofList text) with
      | false => rfl
      | true => rw [hreports hopen line hline]
    | file => rfl
  have hfile : r.checks.filter (reportsFile file (String.ofList (dropReturns text))) =
      r.checks.filter (reportsFile file (String.ofList text)) := by
    refine List.filter_congr fun c hc => ?_
    cases h c hc with
    | line => rfl
    | file hgate hrequirement => rw [reportsFile, reportsFile, hgate, hrequirement]
  have hempty : (String.ofList (dropReturns text)).isEmpty = (String.ofList text).isEmpty := by
    rw [Bool.eq_iff_iff, String.isEmpty_iff, String.isEmpty_iff, String.ofList_eq_empty_iff,
      String.ofList_eq_empty_iff, Text.dropReturns_eq_nil_iff hpaired]
  simp only [validate, hempty, lineViolations_eq, fileViolations_eq, hfile, String.toList_ofList,
    Text.splitLines_dropReturns, List.zipIdx_map, List.flatMap_map]
  congr 2
  refine List.flatMap_congr fun indexed hmem => ?_
  rw [Prod.map_fst, Prod.map_snd, hline _ (List.fst_mem_of_mem_zipIdx hmem)]
  rfl

/-! ## The rules -/

namespace Rules

variable (c : Classifier) {libraries : List String}

/-- What may not stand at the end of a line of a manifest if a return comes after it. -/
def BunFlags.openCommand : List Char := "\"bun".toList

theorem BunFlags.ends_of_matches_bunScript {before : Option Char} {taken after : List Char}
    (h : bunScript.Matches before taken after) :
    ∃ start c, taken = start ++ openCommand ++ [c] := by
  have hsplit : bunScript = .sequence ([.text "\"", .oneOrMore isScriptNameChar, .text "\"",
      .many Text.isBlank, .text ":", .many Text.isBlank] ++
        [.text "\"bun", .char Text.isBlank]) := rfl
  rw [hsplit, Pattern.matches_sequence_append] at h
  obtain ⟨start, _, rfl, -, hend⟩ := h
  obtain ⟨command, _, rfl, hcommand, hblank⟩ := Pattern.matches_sequence_cons.1 hend
  obtain ⟨blank, _, rfl, ⟨c, -, rfl⟩, rfl⟩ := Pattern.matches_sequence_cons.1 hblank
  rw [Pattern.matches_text] at hcommand
  exact ⟨start, c, by rw [hcommand, List.append_nil, List.append_assoc, openCommand]⟩

theorem BunFlags.search_bunScript_dropReturns (hpaired : PairedReturns text)
    (hopen : Text.contains (openCommand ++ ['\r', '\n']) text = false)
    (hline : line ∈ Text.splitLines text) :
    bunScript.search (dropReturns line) = bunScript.search line := by
  rcases hpaired.of_mem_splitLines hline with heq | ⟨heq, hinfix⟩
  · rw [← heq]
  rw [Bool.eq_iff_iff]
  conv_rhs => rw [heq, Pattern.search_concat_iff (show Text.isWord '\r' = false by decide)]
  refine ⟨.inl, fun h => h.resolve_right ?_⟩
  rintro ⟨skipped, taken, hcut, hmatch⟩
  -- the return would have to be the blank after the command
  obtain ⟨start, c, rfl⟩ := ends_of_matches_bunScript hmatch
  rw [← List.append_assoc, ← List.append_assoc] at hcut
  obtain ⟨hdrop, -⟩ := List.append_inj' hcut rfl
  obtain ⟨above, below, htext⟩ := hinfix
  refine Bool.eq_false_iff.1 hopen (Text.contains_iff.2 ⟨above ++ (skipped ++ start), below, ?_⟩)
  rw [← htext, hdrop]
  simp

theorem bunFlags_ignoresReturns (hpaired : PairedReturns text)
    (hopen : c.isManifest file = true →
      Text.contains (BunFlags.openCommand ++ ['\r', '\n']) text = false) :
    ∀ check ∈ (bunFlags c).checks, check.IgnoresReturns file text := by
  have hflag : Text.contains BunFlags.preconnectFlag.toList (dropReturns text) =
      Text.contains BunFlags.preconnectFlag.toList text := by
    rw [← Pattern.search_text, ← Pattern.search_text]
    exact Pattern.search_dropReturns (Pattern.keepsBreaks_text (by decide)) hpaired
  simp only [bunFlags, List.forall_mem_cons]
  refine ⟨.line rfl fun _ line => ?_, .line ?_ fun _ line => ?_, .line rfl fun hmanifest line => ?_,
    by simp⟩
  · exact LineCheck.reports_dropReturns hpaired (by decide)
      (holds_literal_dropReturns hpaired (by decide))
  · simp only [BunFlags.serverWithoutPreconnect, String.toList_ofList, hflag]
  · exact LineCheck.reports_dropReturns hpaired (by simp)
      (holds_pattern_dropReturns hpaired (by decide) (by decide))
  · have hexcuses : ∀ excuse ∈ ["--smol", "--hot"],
        '\r' ∉ excuse.toList ∧ excuse.toList ≠ [] := by decide
    exact LineCheck.reports_dropReturns hpaired hexcuses fun line hline =>
      BunFlags.search_bunScript_dropReturns hpaired (hopen hmanifest) hline

theorem configuration_ignoresReturns (hpaired : PairedReturns text)
    (hlibraries : ∀ library ∈ libraries, '\r' ∉ library.toList ∧ '\n' ∉ library.toList) :
    ∀ check ∈ (configuration libraries).checks, check.IgnoresReturns file text := by
  have hreference : (Configuration.schemaReference libraries).keepsBreaks = true := by
    have hnames : (Pattern.anyOf (libraries.map .text)).keepsBreaks = true := by
      refine Pattern.keepsBreaks_anyOf (List.forall_mem_map.2 fun library hlibrary => ?_)
      exact Pattern.keepsBreaks_text (hlibraries library hlibrary)
    simp [Configuration.schemaReference, Pattern.sequence, Pattern.keepsBreaks, hnames]
  simp only [configuration, List.forall_mem_cons]
  refine ⟨.line rfl fun _ line => ?_, .line ?_ fun _ line => ?_, by simp⟩
  · exact LineCheck.reports_dropReturns hpaired (by decide)
      (holds_pattern_dropReturns hpaired (by decide) (by decide))
  · simp only [Configuration.usesSchemaLibrary, String.toList_ofList,
      Pattern.search_dropReturns hreference hpaired]
  · have hexcuses : ∀ excuse ∈ ["?."], '\r' ∉ excuse.toList ∧ excuse.toList ≠ [] := by decide
    exact LineCheck.reports_dropReturns hpaired hexcuses
      (holds_pattern_dropReturns hpaired (by decide) (by decide))

theorem deprecation_ignoresReturns (hpaired : PairedReturns text) :
    ∀ check ∈ (deprecation c).checks, check.IgnoresReturns file text := by
  have hneedles : ∀ pair ∈ Deprecation.replacements,
      '\r' ∉ pair.1.toList ∧ pair.1.toList ≠ [] := by decide
  simp only [deprecation, List.forall_mem_append, List.forall_mem_map, List.forall_mem_singleton]
  refine ⟨fun pair hpair => .line rfl fun _ line => ?_, .file rfl ?_⟩
  · exact LineCheck.reports_dropReturns hpaired (by simp)
      (holds_literal_dropReturns hpaired (hneedles pair hpair))
  · simp only [String.toList_ofList]
    exact Pattern.search_dropReturns (by decide) hpaired

end Rules

/-- What the rules say of a text does not depend on its returns. -/
theorem Settings.lintText_dropReturns (s : Settings) (hpaired : PairedReturns text)
    (hlibraries : ∀ library ∈ ChosenName.texts s.schemaLibraries,
      '\r' ∉ library.toList ∧ '\n' ∉ library.toList)
    (hopen : s.classifier.isManifest file = true →
      Text.contains (Rules.BunFlags.openCommand ++ ['\r', '\n']) text = false) :
    s.lintText file (String.ofList (dropReturns text)) = s.lintText file (String.ofList text) := by
  have hall : ∀ e ∈ s.catalogue, e.rule.validate file (String.ofList (dropReturns text)) =
      e.rule.validate file (String.ofList text) := by
    simp only [catalogue, List.forall_mem_cons]
    exact ⟨Rule.validate_dropReturns hpaired (Rules.bunFlags_ignoresReturns _ hpaired hopen),
      Rule.validate_dropReturns hpaired (Rules.configuration_ignoresReturns hpaired hlibraries),
      Rule.validate_dropReturns hpaired (Rules.deprecation_ignoresReturns _ hpaired), by simp⟩
  rw [lintText, lintText, activeRules, List.flatMap_map, List.flatMap_map]
  exact List.flatMap_congr fun e he => hall e (List.mem_of_mem_filter he)

end LineLint
