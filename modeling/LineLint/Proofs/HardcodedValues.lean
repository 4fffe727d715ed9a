import LineLint.Proofs.PatternParts
import LineLint.Rules.Configuration

/-!
# Values written into a line

Which lines hold a value that belongs into the environment: the name of a secret that is set to a
quoted text, the local host with a port, a web address made of numbers, or the address of a
database with a password in it. Main statement: `Configuration.hardcodedValue_iff`. The matcher,
which tries one way after another to cut a line, finds exactly the lines that can be cut so.
-/

namespace LineLint.Rules.Configuration

open Pattern (Spells StartsWord)
open Text (NoWordBefore NoWordAfter isWord isBlank isDigit)

variable {line name taken after : List Char} {before : Option Char} {c : Char}

/-! ## What such a line holds -/

/-- The name of a kind of secret, in any case. -/
inductive IsSecretName (name : List Char) : Prop
  | word (word : String) (hword : word ∈ ["password", "passwd", "secret", "token"])
      (hname : Spells word name)
  | apiKey (api mark key : List Char) (hname : name = api ++ (mark ++ key))
      (hapi : Spells "api" api) (hmark : mark = [] ∨ mark = ['_'] ∨ mark = ['-'])
      (hkey : Spells "key" key)

/-- The name of a secret, which may stand within a word, is set to a quoted text. -/
inductive AssignsSecret (line : List Char) : Prop
  | intro (before name word gap space value after : List Char) (sign opening closing : Char)
      (hline : line = before ++ (name ++ (word ++ (gap ++ sign :: (space ++ opening ::
        (value ++ closing :: after))))))
      (hname : IsSecretName name) (hword : ∀ c ∈ word, isWord c = true)
      (hgap : ∀ c ∈ gap, isBlank c = true) (hsign : sign = ':' ∨ sign = '=')
      (hspace : ∀ c ∈ space, isBlank c = true) (hopening : isQuote opening = true)
      (hne : value ≠ []) (hvalue : ∀ c ∈ value, isQuote c = false)
      (hclosing : isQuote closing = true)

/-- The local host stands there as a word, with a port of two to five digits. -/
inductive HoldsLocalPort (line : List Char) : Prop
  | intro (before host port after : List Char) (hline : line = before ++ (host ++ (port ++ after)))
      (hbefore : NoWordBefore before) (hhost : Spells "localhost:" host)
      (hlow : 2 ≤ port.length) (hhigh : port.length ≤ 5) (hport : ∀ c ∈ port, isDigit c = true)
      (hafter : NoWordAfter after)

/-- One to three digits. -/
structure IsGroup (digits : List Char) : Prop where
  low : 1 ≤ digits.length
  high : digits.length ≤ 3
  digit : ∀ c ∈ digits, isDigit c = true

/-- A web address stands there whose host is four groups of digits. -/
inductive HoldsNumericHost (line : List Char) : Prop
  | intro (before scheme first second third fourth after : List Char)
      (hline : line = before ++ (scheme ++ (first ++ '.' :: (second ++ '.' :: (third ++ '.' ::
        (fourth ++ after))))))
      (hbefore : NoWordBefore before)
      (hscheme : Spells "http://" scheme ∨ Spells "https://" scheme)
      (hfirst : IsGroup first) (hsecond : IsGroup second) (hthird : IsGroup third)
      (hfourth : IsGroup fourth) (hafter : NoWordAfter after)

/-- The schemes under which databases are addressed. -/
def databaseSchemes : List String :=
  ["mongodb", "mongodb+srv", "postgres", "postgresql", "mysql", "redis"]

/-- The address of a database stands there with a user and a password. -/
inductive HoldsLogin (line : List Char) : Prop
  | intro (before scheme mark user password after : List Char) (database : String)
      (hline : line = before ++ (scheme ++ (mark ++ (user ++ ':' :: (password ++ '@' :: after)))))
      (hbefore : NoWordBefore before) (hdatabase : database ∈ databaseSchemes)
      (hscheme : Spells database scheme) (hmark : mark = "://".toList)
      (huser : user ≠ [])
      (huserChars : ∀ c ∈ user,
        isBlank c = false ∧ isQuote c = false ∧ c ≠ ':' ∧ c ≠ '@' ∧ c ≠ '/')
      (hpassword : password ≠ [])
      (hpasswordChars : ∀ c ∈ password, isBlank c = false ∧ isQuote c = false ∧ c ≠ '@' ∧ c ≠ '/')

/-! ## Secrets -/

/-- The part of the matcher that finds the name of a secret. -/
def secretName : Pattern :=
  .anyOf [.textFolded "password", .textFolded "passwd", .textFolded "secret",
    .sequence [.textFolded "api", .optional (.char fun c => c == '_' || c == '-'),
      .textFolded "key"],
    .textFolded "token"]

theorem matches_secretName : secretName.Matches before name after ↔ IsSecretName name := by
  simp only [secretName, Pattern.matches_anyOf, List.mem_cons, List.not_mem_nil, or_false,
    exists_eq_or_imp, exists_eq_left, Pattern.matches_sequence_cons, Pattern.matches_sequence_nil,
    Pattern.matches_textFolded, Pattern.matches_optional, Pattern.matches_char]
  constructor
  · rintro (h | h | h | ⟨api, _, rfl, hapi, mark, _, rfl, hmark, key, _, rfl, hkey, rfl⟩ | h)
    · exact .word "password" (by decide) h
    · exact .word "passwd" (by decide) h
    · exact .word "secret" (by decide) h
    · refine .apiKey api mark key (by simp) hapi ?_ hkey
      simp only [Bool.or_eq_true, beq_iff_eq] at hmark
      obtain ⟨c, rfl | rfl, rfl⟩ | rfl := hmark
      · exact .inr (.inl rfl)
      · exact .inr (.inr rfl)
      · exact .inl rfl
    · exact .word "token" (by decide) h
  · rintro (⟨word, hword, hname⟩ | ⟨api, mark, key, rfl, hapi, hmark, hkey⟩)
    · simp only [List.mem_cons, List.not_mem_nil, or_false] at hword
      obtain rfl | rfl | rfl | rfl := hword
      · exact .inl hname
      · exact .inr (.inl hname)
      · exact .inr (.inr (.inl hname))
      · exact .inr (.inr (.inr (.inr hname)))
    · refine .inr (.inr (.inr (.inl ⟨api, _, rfl, hapi, mark, key, rfl, ?_, key, [], by simp, hkey,
        rfl⟩)))
      obtain rfl | rfl | rfl := hmark
      · exact .inr rfl
      · exact .inl ⟨'_', rfl, rfl⟩
      · exact .inl ⟨'-', rfl, rfl⟩

theorem startsWord_secretName : StartsWord secretName := by
  have hwords : ∀ word ∈ ["password", "passwd", "secret", "token"],
      StartsWord (.textFolded word) := by
    intro word hword
    refine Pattern.startsWord_textFolded ?_
    revert word
    decide
  refine Pattern.startsWord_anyOf ?_
  simp only [List.forall_mem_cons]
  refine ⟨hwords _ (by decide), hwords _ (by decide), hwords _ (by decide), ?_,
    hwords _ (by decide), by simp⟩
  exact (Pattern.startsWord_textFolded (by decide)).sequence

theorem search_secretAssignment :
    secretAssignment.search line = true ↔ AssignsSecret line := by
  -- The name may start anywhere in a word: the boundary and the run before it ask for nothing.
  have hparts : secretAssignment = .sequence (.boundary :: .many isWord :: secretName ::
      [.many isWord, .many isBlank, .char fun c => c == ':' || c == '=', .many isBlank,
        .char isQuote, .oneOrMore (!isQuote ·), .char isQuote]) := rfl
  rw [hparts, Pattern.search_run_iff startsWord_secretName.sequence, Pattern.search_iff]
  simp only [Pattern.matches_sequence_cons, Pattern.matches_sequence_nil, matches_secretName,
    Pattern.matches_many, Pattern.matches_char, Pattern.matches_oneOrMore]
  constructor
  · rintro ⟨before, _, after, rfl, name, _, rfl, hname, word, _, rfl, hword, gap, _, rfl, hgap,
      _, _, rfl, ⟨sign, hsign, rfl⟩, space, _, rfl, hspace, _, _, rfl, ⟨opening, hopening, rfl⟩,
      value, _, rfl, ⟨hne, hvalue⟩, _, _, rfl, ⟨closing, hclosing, rfl⟩, rfl⟩
    refine ⟨before, name, word, gap, space, value, after, sign, opening, closing, by simp, hname,
      hword, hgap, by simpa using hsign, hspace, hopening, hne, ?_, hclosing⟩
    simpa using hvalue
  · rintro ⟨before, name, word, gap, space, value, after, sign, opening, closing, rfl, hname,
      hword, hgap, hsign, hspace, hopening, hne, hvalue, hclosing⟩
    exact ⟨before, _, after, by simp, name, _, rfl, hname, word, _, rfl, hword, gap, _, rfl, hgap,
      _, _, rfl, ⟨sign, by simpa using hsign, rfl⟩, space, _, rfl, hspace, _, _, rfl,
      ⟨opening, hopening, rfl⟩, value, [closing], rfl, ⟨hne, by simpa using hvalue⟩, _, _, rfl,
      ⟨closing, hclosing, rfl⟩, rfl⟩

/-! ## Addresses -/

/-- A boundary after something that ends in digits asks for the end of the word. -/
theorem atBoundary_digits {digits : List Char} (hend : digits <:+ taken) (hne : digits ≠ [])
    (hdigits : ∀ c ∈ digits, isDigit c = true) :
    Pattern.atBoundary (Pattern.lastOf before taken) after = true ↔ NoWordAfter after := by
  -- Digits are word characters, so a word goes on up to the boundary.
  obtain ⟨front, rfl⟩ := hend
  have hlast : (front ++ digits).getLast? = some (digits.getLast hne) := by
    rw [List.getLast?_append_of_ne_nil _ hne, List.getLast?_eq_some_getLast hne]
  exact Pattern.atBoundary_lastOf hlast
    (Text.isWord_of_isDigit (hdigits _ (List.getLast_mem hne)))

theorem search_localEndpoint : localEndpoint.search line = true ↔ HoldsLocalPort line := by
  have hstart : StartsWord (.textFolded "localhost:") := Pattern.startsWord_textFolded (by decide)
  rw [localEndpoint, Pattern.search_word_iff hstart.sequence]
  simp only [Pattern.matches_sequence_cons, Pattern.matches_sequence_nil,
    Pattern.matches_textFolded, Pattern.matches_between_char (show 2 ≤ 5 by decide),
    Pattern.matches_boundary]
  constructor
  · rintro ⟨before, _, after, rfl, hbefore, host, _, rfl, hhost, port, _, rfl,
      ⟨hlow, hhigh, hport⟩, _, _, rfl, ⟨rfl, hboundary⟩, rfl⟩
    have hne : port ≠ [] := List.ne_nil_of_length_pos (by omega)
    exact ⟨before, host, port, after, by simp, hbefore, hhost, hlow, hhigh, hport,
      (atBoundary_digits List.suffix_rfl hne hport).1 hboundary⟩
  · rintro ⟨before, host, port, after, rfl, hbefore, hhost, hlow, hhigh, hport, hafter⟩
    have hne : port ≠ [] := List.ne_nil_of_length_pos (by omega)
    exact ⟨before, _, after, by simp, hbefore, host, _, rfl, hhost, port, [], rfl,
      ⟨hlow, hhigh, hport⟩, [], [], rfl,
      ⟨rfl, (atBoundary_digits List.suffix_rfl hne hport).2 hafter⟩, rfl⟩

theorem matches_group :
    (Pattern.between 1 3 (.char isDigit)).Matches before taken after ↔ IsGroup taken := by
  rw [Pattern.matches_between_char (by decide)]
  constructor
  · rintro ⟨hlow, hhigh, hdigit⟩
    exact ⟨hlow, hhigh, hdigit⟩
  · rintro ⟨hlow, hhigh, hdigit⟩
    exact ⟨hlow, hhigh, hdigit⟩

theorem matches_dottedGroup :
    (Pattern.seq (.text ".") (.between 1 3 (.char isDigit))).Matches before taken after ↔
      ∃ digits, taken = '.' :: digits ∧ IsGroup digits := by
  simp only [Pattern.Matches, Pattern.matches_text, matches_group]
  constructor
  · rintro ⟨_, digits, rfl, rfl, hdigits⟩
    exact ⟨digits, rfl, hdigits⟩
  · rintro ⟨digits, rfl, hdigits⟩
    exact ⟨['.'], digits, rfl, rfl, hdigits⟩

theorem matches_dottedGroups :
    (Pattern.times 3 (.seq (.text ".") (.between 1 3 (.char isDigit)))).Matches before taken after ↔
      ∃ second third fourth, taken = '.' :: (second ++ '.' :: (third ++ '.' :: fourth)) ∧
        IsGroup second ∧ IsGroup third ∧ IsGroup fourth := by
  constructor
  · rintro ⟨_, _, rfl, hsecond, _, _, rfl, hthird, _, _, rfl, hfourth, rfl⟩
    obtain ⟨second, rfl, hsecond'⟩ := matches_dottedGroup.1 hsecond
    obtain ⟨third, rfl, hthird'⟩ := matches_dottedGroup.1 hthird
    obtain ⟨fourth, rfl, hfourth'⟩ := matches_dottedGroup.1 hfourth
    exact ⟨second, third, fourth, by simp, hsecond', hthird', hfourth'⟩
  · rintro ⟨second, third, fourth, rfl, hsecond, hthird, hfourth⟩
    exact ⟨'.' :: second, _, rfl, matches_dottedGroup.2 ⟨second, rfl, hsecond⟩,
      '.' :: third, _, rfl, matches_dottedGroup.2 ⟨third, rfl, hthird⟩,
      '.' :: fourth, [], by simp, matches_dottedGroup.2 ⟨fourth, rfl, hfourth⟩, rfl⟩

/-- The scheme of a web address, with or without the letter that makes it a secure one. -/
theorem matches_webScheme {ps : List Pattern} :
    (Pattern.sequence (.textFolded "http" :: .optional (.textFolded "s") :: .textFolded "://" ::
        ps)).Matches before taken after ↔
      ∃ scheme rest, taken = scheme ++ rest ∧
        (Spells "http://" scheme ∨ Spells "https://" scheme) ∧
        (Pattern.sequence ps).Matches (Pattern.lastOf before scheme) rest after := by
  have hplain : "http://" = "http" ++ "://" := by decide
  have hsecure : "https://" = "http" ++ ("s" ++ "://") := by decide
  simp only [Pattern.matches_sequence_cons, Pattern.matches_textFolded, Pattern.matches_optional,
    hplain, hsecure, Pattern.spells_append, Pattern.lastOf_append]
  constructor
  · rintro ⟨http, _, rfl, hhttp, mark, _, rfl, hmark | rfl, slashes, rest, rfl, hslashes, hrest⟩
    · exact ⟨http ++ (mark ++ slashes), rest, by simp,
        .inr ⟨http, _, rfl, hhttp, mark, _, rfl, hmark, hslashes⟩, by simpa using hrest⟩
    · exact ⟨http ++ slashes, rest, by simp, .inl ⟨http, _, rfl, hhttp, hslashes⟩,
        by simpa using hrest⟩
  · rintro ⟨_, rest, rfl, ⟨http, slashes, rfl, hhttp, hslashes⟩ |
      ⟨http, _, rfl, hhttp, mark, slashes, rfl, hmark, hslashes⟩, hrest⟩
    · exact ⟨http, slashes ++ rest, by simp, hhttp, [], slashes ++ rest, rfl, .inr rfl, slashes,
        rest, rfl, hslashes, by simpa using hrest⟩
    · exact ⟨http, mark ++ (slashes ++ rest), by simp, hhttp, mark, slashes ++ rest, rfl,
        .inl hmark, slashes, rest, rfl, hslashes, by simpa using hrest⟩

theorem search_numericHost : numericHost.search line = true ↔ HoldsNumericHost line := by
  have hstart : StartsWord (.textFolded "http") := Pattern.startsWord_textFolded (by decide)
  have hend : ∀ second third fourth : List Char,
      fourth <:+ '.' :: (second ++ '.' :: (third ++ '.' :: fourth)) := fun second third fourth =>
    ⟨'.' :: (second ++ '.' :: (third ++ ['.'])), by simp⟩
  rw [numericHost, Pattern.search_word_iff hstart.sequence]
  simp only [matches_webScheme]
  simp only [Pattern.matches_sequence_cons, Pattern.matches_sequence_nil, matches_group,
    matches_dottedGroups, Pattern.matches_boundary]
  constructor
  · rintro ⟨before, _, after, rfl, hbefore, scheme, _, rfl, hscheme, first, _, rfl, hfirst, _, _,
      rfl, ⟨second, third, fourth, rfl, hsecond, hthird, hfourth⟩, _, _, rfl, ⟨rfl, hboundary⟩,
      rfl⟩
    have hne : fourth ≠ [] := List.ne_nil_of_length_pos hfourth.low
    exact ⟨before, scheme, first, second, third, fourth, after, by simp, hbefore, hscheme, hfirst,
      hsecond, hthird, hfourth, (atBoundary_digits (hend _ _ _) hne hfourth.digit).1 hboundary⟩
  · rintro ⟨before, scheme, first, second, third, fourth, after, rfl, hbefore, hscheme, hfirst,
      hsecond, hthird, hfourth, hafter⟩
    have hne : fourth ≠ [] := List.ne_nil_of_length_pos hfourth.low
    exact ⟨before, _, after, by simp, hbefore, scheme, _, rfl, hscheme, first, _, rfl, hfirst, _,
      [], rfl, ⟨second, third, fourth, rfl, hsecond, hthird, hfourth⟩, [], [], rfl,
      ⟨rfl, (atBoundary_digits (hend _ _ _) hne hfourth.digit).2 hafter⟩, rfl⟩

/-! ## Addresses of databases -/

/-- The part of the matcher that finds the scheme of a database. -/
def databaseScheme : Pattern :=
  .anyOf [.seq (.textFolded "mongodb") (.optional (.textFolded "+srv")),
    .seq (.textFolded "postgres") (.optional (.textFolded "ql")), .textFolded "mysql",
    .textFolded "redis"]

theorem matches_databaseScheme :
    databaseScheme.Matches before taken after ↔
      ∃ database ∈ databaseSchemes, Spells database taken := by
  have hmongo : "mongodb" ++ "+srv" = "mongodb+srv" := by decide
  have hpostgres : "postgres" ++ "ql" = "postgresql" := by decide
  simp only [databaseScheme, Pattern.matches_anyOf, databaseSchemes, List.mem_cons,
    List.not_mem_nil, or_false, exists_eq_or_imp, exists_eq_left, Pattern.matches_ending,
    Pattern.matches_textFolded, hmongo, hpostgres, or_assoc]

theorem startsWord_databaseScheme : StartsWord databaseScheme := by
  refine Pattern.startsWord_anyOf ?_
  simp only [List.forall_mem_cons]
  exact ⟨(Pattern.startsWord_textFolded (by decide)).seq,
    (Pattern.startsWord_textFolded (by decide)).seq, Pattern.startsWord_textFolded (by decide),
    Pattern.startsWord_textFolded (by decide), by simp⟩

theorem isUserChar_iff :
    isUserChar c = true ↔
      isBlank c = false ∧ isQuote c = false ∧ c ≠ ':' ∧ c ≠ '@' ∧ c ≠ '/' := by
  simp only [isUserChar, Bool.not_eq_true', Bool.or_eq_false_iff, beq_eq_false_iff_ne, ne_eq,
    and_assoc]

theorem isPasswordChar_iff :
    isPasswordChar c = true ↔ isBlank c = false ∧ isQuote c = false ∧ c ≠ '@' ∧ c ≠ '/' := by
  simp only [isPasswordChar, Bool.not_eq_true', Bool.or_eq_false_iff, beq_eq_false_iff_ne, ne_eq,
    and_assoc]

theorem search_connectionAddress : connectionAddress.search line = true ↔ HoldsLogin line := by
  have hparts : connectionAddress = .sequence (.boundary :: databaseScheme ::
      [.textFolded "://", .oneOrMore isUserChar, .text ":", .oneOrMore isPasswordChar,
        .text "@"]) := rfl
  have hmark : ∀ letter ∈ "://".toList, letter.isAlpha = false := by simp
  rw [hparts, Pattern.search_word_iff startsWord_databaseScheme.sequence]
  simp only [Pattern.matches_sequence_cons, Pattern.matches_sequence_nil, matches_databaseScheme,
    Pattern.matches_textFolded, Pattern.spells_iff_of_not_isAlpha hmark,
    Pattern.matches_oneOrMore, Pattern.matches_text, isUserChar_iff, isPasswordChar_iff]
  constructor
  · rintro ⟨before, _, after, rfl, hbefore, scheme, _, rfl, ⟨database, hdatabase, hscheme⟩, mark, _,
      rfl, hmark, user, _, rfl, ⟨huser, huserChars⟩, _, _, rfl, rfl, password, _, rfl,
      ⟨hpassword, hpasswordChars⟩, _, _, rfl, rfl, rfl⟩
    exact ⟨before, scheme, mark, user, password, after, database, by simp, hbefore, hdatabase,
      hscheme, hmark, huser, huserChars, hpassword, hpasswordChars⟩
  · rintro ⟨before, scheme, mark, user, password, after, database, rfl, hbefore, hdatabase, hscheme,
      hmark, huser, huserChars, hpassword, hpasswordChars⟩
    exact ⟨before, _, after, by simp, hbefore, scheme, _, rfl, ⟨database, hdatabase, hscheme⟩, mark,
      _, rfl, hmark, user, _, rfl, ⟨huser, huserChars⟩, [':'], _, rfl, rfl, password, ['@'], rfl,
      ⟨hpassword, hpasswordChars⟩, _, [], rfl, rfl, rfl⟩

/-- The matcher finds a value in exactly the lines that hold one. -/
theorem hardcodedValue_iff (line : List Char) :
    hardcodedValue.search line = true ↔
      AssignsSecret line ∨ HoldsLocalPort line ∨ HoldsNumericHost line ∨ HoldsLogin line := by
  simp only [hardcodedValue, Pattern.search_anyOf, List.mem_cons, List.not_mem_nil, or_false,
    exists_eq_or_imp, exists_eq_left, search_secretAssignment, search_localEndpoint,
    search_numericHost, search_connectionAddress]

example : hardcodedValue.search "const myTOKEN_2 = 'a\"".toList = true := by decide

example : hardcodedValue.search "fetch('localhost:123456')".toList = false := by decide

end LineLint.Rules.Configuration
