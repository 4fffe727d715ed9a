import LineLint.Proofs.PatternParts
import LineLint.Proofs.SchemaNames
import LineLint.Rules.BunFlags
import LineLint.Rules.Deprecation

/-!
# What the matchers find

The other matchers, each against the texts that it is meant to find: a read of the environment, a
database client, a script of Bun, the declaration of ES modules, and the name of a schema library.
Main statement: `Rules.matchers_exact`.
-/

namespace LineLint

namespace Text

variable {before after : List Char}

/-- Exactly one of the characters on the two sides is a word character. -/
def IsEdge (before after : List Char) : Prop := Xor (NoWordBefore before) (NoWordAfter after)

theorem atBoundary_iff_isEdge :
    Pattern.atBoundary before.getLast? after = true ↔ IsEdge before after := by
  rw [IsEdge, noWordBefore_iff, noWordAfter_iff, Pattern.atBoundary]
  cases before.getLast?.any isWord <;> cases after.head?.any isWord <;> simp [Xor]

end Text

namespace Rules

open Text (NoWordBefore NoWordAfter isWord isBlank IsEdge)
open Pattern (StartsWord)

variable {line text : List Char}

/-! ## Reads of the environment -/

/-- A variable is read from the environment: the accessor stands there as a word, directly before a
word character. -/
inductive Configuration.ReadsVariable (line : List Char) : Prop
  | intro (before after : List Char) (c : Char)
      (hline : line = before ++ ("process.env.".toList ++ c :: after))
      (hbefore : NoWordBefore before) (hc : isWord c = true)

theorem Configuration.search_environmentAccess :
    environmentAccess.search line = true ↔ ReadsVariable line := by
  have hstart : StartsWord (.text "process.env.") := Pattern.startsWord_text (by decide)
  rw [environmentAccess, Pattern.search_word_iff hstart.sequence]
  simp only [Pattern.matches_sequence_cons, Pattern.matches_sequence_nil, Pattern.matches_text,
    Pattern.matches_oneOrMore]
  constructor
  · rintro ⟨before, _, after, rfl, hbefore, _, _, rfl, rfl, name, _, rfl, ⟨hne, hname⟩, rfl⟩
    obtain ⟨c, rest, rfl⟩ := List.exists_cons_of_ne_nil hne
    exact ⟨before, rest ++ after, c, by simp, hbefore, hname c List.mem_cons_self⟩
  · rintro ⟨before, after, c, rfl, hbefore, hc⟩
    exact ⟨before, "process.env.".toList ++ [c], after, by simp, hbefore, _, [c], rfl, rfl, [c], [],
      rfl, ⟨by simp, by simpa using hc⟩, rfl⟩

/-! ## Database clients -/

/-- The built-in database client stands there as a word of its own. -/
inductive BunFlags.NamesClient (line : List Char) : Prop
  | intro (before after : List Char) (hline : line = before ++ ("Bun.sql".toList ++ after))
      (hbefore : NoWordBefore before) (hafter : NoWordAfter after)

/-- The constructor of a database client is called. -/
inductive BunFlags.CallsClient (line : List Char) : Prop
  | intro (before gap after : List Char)
      (hline : line = before ++ ("new".toList ++ (gap ++ ("SQL(".toList ++ after))))
      (hbefore : NoWordBefore before) (hne : gap ≠ []) (hgap : ∀ c ∈ gap, isBlank c = true)

theorem BunFlags.search_clientName :
    (Pattern.sequence [.boundary, .text "Bun.sql", .boundary]).search line = true ↔
      NamesClient line := by
  have hstart : StartsWord (.text "Bun.sql") := Pattern.startsWord_text (by decide)
  have hlast : "Bun.sql".toList.getLast? = some 'l' := by decide
  rw [Pattern.search_word_iff hstart.sequence]
  simp only [Pattern.matches_sequence_cons, Pattern.matches_sequence_nil, Pattern.matches_text,
    Pattern.matches_boundary]
  constructor
  · rintro ⟨before, _, after, rfl, hbefore, _, _, rfl, rfl, _, _, rfl, ⟨rfl, hboundary⟩, rfl⟩
    exact ⟨before, after, by simp, hbefore,
      (Pattern.atBoundary_lastOf hlast (by decide)).1 hboundary⟩
  · rintro ⟨before, after, rfl, hbefore, hafter⟩
    exact ⟨before, _, after, rfl, hbefore, "Bun.sql".toList, [], by simp, rfl, [], [], rfl,
      ⟨rfl, (Pattern.atBoundary_lastOf hlast (by decide)).2 hafter⟩, rfl⟩

theorem BunFlags.search_clientCall :
    (Pattern.sequence [.boundary, .text "new", .oneOrMore isBlank, .text "SQL("]).search line =
        true ↔ CallsClient line := by
  have hstart : StartsWord (.text "new") := Pattern.startsWord_text (by decide)
  rw [Pattern.search_word_iff hstart.sequence]
  simp only [Pattern.matches_sequence_cons, Pattern.matches_sequence_nil, Pattern.matches_text,
    Pattern.matches_oneOrMore]
  constructor
  · rintro ⟨before, _, after, rfl, hbefore, _, _, rfl, rfl, gap, _, rfl, ⟨hne, hgap⟩, _, _, rfl,
      rfl, rfl⟩
    exact ⟨before, gap, after, by simp, hbefore, hne, hgap⟩
  · rintro ⟨before, gap, after, rfl, hbefore, hne, hgap⟩
    exact ⟨before, "new".toList ++ (gap ++ "SQL(".toList), after, by simp, hbefore, _, _, rfl, rfl,
      gap, _, rfl, ⟨hne, hgap⟩, _, [], by simp, rfl, rfl⟩

theorem BunFlags.search_databaseClient :
    databaseClient.search line = true ↔ NamesClient line ∨ CallsClient line := by
  rw [databaseClient, Pattern.search_either, search_clientName, search_clientCall]

/-! ## Entries of a manifest -/

/-- A quoted name is mapped to a quoted command of Bun. -/
inductive BunFlags.MapsToBun (text : List Char) : Prop
  | intro (before name gap space after : List Char) (blank : Char)
      (htext : text = before ++ '"' :: (name ++ '"' :: (gap ++ ':' :: (space ++
        ("\"bun".toList ++ blank :: after)))))
      (hne : name ≠ []) (hname : ∀ c ∈ name, isWord c = true ∨ c = ':' ∨ c = '.' ∨ c = '-')
      (hgap : ∀ c ∈ gap, isBlank c = true) (hspace : ∀ c ∈ space, isBlank c = true)
      (hblank : isBlank blank = true)

theorem BunFlags.isScriptNameChar_iff {c : Char} :
    isScriptNameChar c = true ↔ isWord c = true ∨ c = ':' ∨ c = '.' ∨ c = '-' := by
  simp only [isScriptNameChar, Bool.or_eq_true, beq_iff_eq, or_assoc]

theorem BunFlags.search_bunScript : bunScript.search text = true ↔ MapsToBun text := by
  rw [bunScript, Pattern.search_iff]
  simp only [Pattern.matches_sequence_cons, Pattern.matches_sequence_nil, Pattern.matches_text,
    Pattern.matches_oneOrMore, Pattern.matches_many, Pattern.matches_char, isScriptNameChar_iff]
  constructor
  · rintro ⟨before, _, after, rfl, _, _, rfl, rfl, name, _, rfl, ⟨hne, hname⟩, _, _, rfl, rfl, gap,
      _, rfl, hgap, _, _, rfl, rfl, space, _, rfl, hspace, _, _, rfl, rfl, _, _, rfl,
      ⟨blank, hblank, rfl⟩, rfl⟩
    exact ⟨before, name, gap, space, after, blank, by simp, hne, hname, hgap, hspace, hblank⟩
  · rintro ⟨before, name, gap, space, after, blank, rfl, hne, hname, hgap, hspace, hblank⟩
    exact ⟨before, _, after, by simp, ['"'], _, rfl, rfl, name, _, rfl, ⟨hne, hname⟩, ['"'], _, rfl,
      rfl, gap, _, rfl, hgap, [':'], _, rfl, rfl, space, _, rfl, hspace, "\"bun".toList, [blank],
      rfl, rfl, [blank], [], rfl, ⟨blank, hblank, rfl⟩, rfl⟩

/-- A manifest declares its package to consist of ES modules. -/
inductive Deprecation.DeclaresModules (text : List Char) : Prop
  | intro (before gap space after : List Char)
      (htext : text = before ++ ("\"type\"".toList ++ (gap ++ ':' :: (space ++
        ("\"module\"".toList ++ after)))))
      (hgap : ∀ c ∈ gap, isBlank c = true) (hspace : ∀ c ∈ space, isBlank c = true)

theorem Deprecation.search_moduleType : moduleType.search text = true ↔ DeclaresModules text := by
  rw [moduleType, Pattern.search_iff]
  simp only [Pattern.matches_sequence_cons, Pattern.matches_sequence_nil, Pattern.matches_text,
    Pattern.matches_many]
  constructor
  · rintro ⟨before, _, after, rfl, _, _, rfl, rfl, gap, _, rfl, hgap, _, _, rfl, rfl, space, _, rfl,
      hspace, _, _, rfl, rfl, rfl⟩
    exact ⟨before, gap, space, after, by simp, hgap, hspace⟩
  · rintro ⟨before, gap, space, after, rfl, hgap, hspace⟩
    exact ⟨before, _, after, by simp, "\"type\"".toList, _, rfl, rfl, gap, _, rfl, hgap, [':'], _,
      rfl, rfl, space, _, rfl, hspace, "\"module\"".toList, [], rfl, rfl, rfl⟩

/-! ## Names of libraries -/

/-- A name stands in a text with a word character on exactly one side of each of its two ends. -/
inductive Configuration.StandsAlone (name : String) (text : List Char) : Prop
  | intro (before after : List Char) (htext : text = before ++ (name.toList ++ after))
      (hstart : IsEdge before (name.toList ++ after))
      (hend : IsEdge (before ++ name.toList) after)

theorem Configuration.namedIn_iff {name : String} : NamedIn name text ↔ StandsAlone name text := by
  constructor
  · rintro ⟨before, after, htext, hstart, hend⟩
    exact ⟨before, after, htext, Text.atBoundary_iff_isEdge.1 hstart,
      Text.atBoundary_iff_isEdge.1 hend⟩
  · rintro ⟨before, after, htext, hstart, hend⟩
    exact ⟨before, after, htext, Text.atBoundary_iff_isEdge.2 hstart,
      Text.atBoundary_iff_isEdge.2 hend⟩

/-- Each matcher finds exactly the texts that hold what it stands for, and a library counts as
referenced exactly if one of the names stands alone somewhere. -/
theorem matchers_exact :
    (∀ line, Configuration.environmentAccess.search line = true ↔
      Configuration.ReadsVariable line) ∧
    (∀ line, BunFlags.databaseClient.search line = true ↔
      BunFlags.NamesClient line ∨ BunFlags.CallsClient line) ∧
    (∀ line, BunFlags.bunScript.search line = true ↔ BunFlags.MapsToBun line) ∧
    (∀ text, Deprecation.moduleType.search text = true ↔ Deprecation.DeclaresModules text) ∧
    ∀ libraries content, Configuration.usesSchemaLibrary libraries content = true ↔
      ∃ library ∈ libraries, Configuration.StandsAlone library content.toList := by
  refine ⟨fun _ => Configuration.search_environmentAccess,
    fun _ => BunFlags.search_databaseClient, fun _ => BunFlags.search_bunScript,
    fun _ => Deprecation.search_moduleType, fun libraries content => ?_⟩
  simp only [Configuration.usesSchemaLibrary_iff, Configuration.namedIn_iff]

end Rules

end LineLint
