import LineLint.Text.CharacterName.FromA
import LineLint.Text.CharacterName.FromC
import LineLint.Text.CharacterName.FromG
import LineLint.Text.CharacterName.FromM
import LineLint.Text.CharacterName.FromS
import LineLint.Text.Blank
import LineLint.Text.Decimal
import LineLint.Text.Lines

/-! # Names of characters

Every character of Unicode 14 has a name in capital letters, and some have others beside it. The
names of Hangul syllables are made of the names of their letters, those of unified ideographs of
their codes, and all others are listed. `isCharacterName` decides whether something is a name. In a
listed name the case of the letters does not matter.

A list is a tree of words. After a word stand, in parentheses, the words that can follow it, and
before them an exclamation mark if a name can also end there. A word that ends in two numbers with a
tilde between them stands for one word for each number from the first to the second. Numbers of four
digits and more are hexadecimal. -/

namespace LineLint.Text.CharacterName

/-! ## Listed names -/

/-- A word of names. -/
inductive Entry where
  | node (word : List Char) (ends : Bool) (following : List Entry)

namespace Entry

/-- The word of an entry, which may hold a range. -/
def word : Entry → List Char
  | node word _ _ => word

/-- Whether a name ends with the word. -/
def ends : Entry → Bool
  | node _ ends following => ends || following.isEmpty

/-- The words that can follow. -/
def following : Entry → List Entry
  | node _ _ following => following

end Entry

/-- The number that capital hexadecimal or decimal digits stand for. -/
def number? (base : Nat) (digits : List Char) : Option Nat :=
  if digits.all fun c => c.isDigit || ('A' ≤ c && c ≤ 'F') then
    (digits.mapM (digitIn? base)).map (ofDigits base)
  else none

/-- Whether a word is one of those that a word with a range stands for: `start` with its last
digits replaced by a number that is neither less than they are nor greater than `last`. -/
def inWordRange (start last word : List Char) : Bool :=
  let base := if 4 ≤ last.length then 16 else 10
  let kept := start.length - last.length
  word.length == start.length && word.take kept == start.take kept &&
    match number? base (start.drop kept), number? base (word.drop kept), number? base last with
    | some first, some n, some last => first ≤ n && n ≤ last
    | _, _, _ => false

/-- Whether an entry stands for a word. -/
def Entry.covers (e : Entry) (word : List Char) : Bool :=
  match e.word.span (· != '~') with
  | (start, _ :: last) => inWordRange start last word
  | (whole, []) => whole == word

/-- Whether words in a row are a name. -/
def isListed (entries : List Entry) : List (List Char) → Bool
  | [] => false
  | [word] => entries.any fun e => e.covers word && e.ends
  | word :: words => entries.any fun e => e.covers word && isListed e.following words

/-! ## Reading a list -/

/-- A list that is being read. -/
structure Reader where
  /-- The word that has been begun, in reverse. -/
  word : List Char := []
  /-- Whether a name ends with that word. -/
  ends : Bool := false
  /-- The entries next to that word, the last one first. -/
  entries : List Entry := []
  /-- The words around it, each with whether a name ends there and the entries before it. -/
  outer : List (List Char × Bool × List Entry) := []

namespace Reader

/-- The end of a word that nothing follows. -/
def finish (r : Reader) : Reader :=
  if r.word.isEmpty then r
  else { r with word := [], entries := .node r.word.reverse true [] :: r.entries }

/-- The next character. -/
def step (r : Reader) (c : Char) : Reader :=
  if c == '!' then { r with ends := true }
  else if c == '(' then { outer := (r.word, r.ends, r.entries) :: r.outer }
  else if c == ')' then
    let r := r.finish
    match r.outer with
    | [] => r
    | (word, ends, entries) :: outer =>
      { entries := .node word.reverse ends r.entries.reverse :: entries, outer }
  else if isBlank c then r.finish
  else { r with word := c :: r.word }

end Reader

/-- The entries of a list. -/
def readEntries (list : String) : List Entry :=
  (list.toList.foldl Reader.step {}).finish.entries.reverse

/-- The list of the names that start with a letter. -/
def listFrom (letter : Char) : String :=
  if letter < 'C' then namesFromA
  else if letter < 'G' then namesFromC
  else if letter < 'M' then namesFromG
  else if letter < 'S' then namesFromM
  else namesFromS

/-! ## Names that follow a rule -/

/-- The consonants that a Hangul syllable can start with. -/
def leads : List String :=
  ["G", "GG", "N", "D", "DD", "R", "M", "B", "BB", "S", "SS", "", "J", "JJ", "C", "K", "T", "P",
    "H"]

/-- The vowels of a Hangul syllable. -/
def vowels : List String :=
  ["A", "AE", "YA", "YAE", "EO", "E", "YEO", "YE", "O", "WA", "WAE", "OE", "YO", "U", "WEO", "WE",
    "WI", "YU", "EU", "YI", "I"]

/-- The consonants that a Hangul syllable can end with. -/
def tails : List String :=
  ["", "G", "GG", "GS", "N", "NJ", "NH", "D", "L", "LG", "LM", "LB", "LS", "LT", "LP", "LH", "M",
    "B", "BS", "S", "SS", "NG", "J", "C", "K", "T", "P", "H"]

/-- Whether a text is made of the letters of a Hangul syllable. -/
def isSyllable (text : List Char) : Bool :=
  leads.any fun lead => lead.toList.isPrefixOf text && vowels.any fun vowel =>
    let rest := text.drop lead.length
    vowel.toList.isPrefixOf rest && tails.any fun tail => tail.toList == rest.drop vowel.length

/-- The codes of the unified ideographs, as ascending ranges. -/
def ideographRanges : Array (Nat × Nat) := #[
  (0x3400, 0x4DBF), (0x4E00, 0x9FFF), (0x20000, 0x2A6DF), (0x2A700, 0x2B738), (0x2B740, 0x2B81D),
  (0x2B820, 0x2CEA1), (0x2CEB0, 0x2EBE0), (0x30000, 0x3134A)]

/-- Whether a text is the code of a unified ideograph, in four or five digits. -/
def isIdeographCode (text : List Char) : Bool :=
  (text.length == 4 || text.length == 5) &&
    (number? 16 text).any fun code => inRanges ideographRanges code

/-- What follows the start of a name. -/
def after? (start : String) (name : List Char) : Option (List Char) :=
  if start.toList.isPrefixOf name then some (name.drop start.length) else none

end CharacterName

open CharacterName in
/-- Whether a text is the name of a character. -/
def isCharacterName (name : List Char) : Bool :=
  match after? "HANGUL SYLLABLE " name, after? "CJK UNIFIED IDEOGRAPH-" name with
  | some letters, _ => isSyllable letters
  | none, some code => isIdeographCode code
  | none, none =>
    let name := name.map Char.toUpper
    name.head?.any fun letter => isListed (readEntries (listFrom letter)) (cut ' ' name)

end LineLint.Text
