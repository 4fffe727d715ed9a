import LineLint.Screen.EmojiNames
import LineLint.Text.Blank
import LineLint.Text.Case

/-! # Emoji written by name

`:cat:` stands for an emoji, in any case of the letters, and `:cat-text:` and `:cat-emoji:` for the
same emoji with a mark of how it is to be drawn. A name holds no blank and ends at the first colon
after it. What is not the name of an emoji stays as it is, with both of its colons. -/

namespace LineLint.Screen.Emoji

/-- The endings of a name, and the marks that they put after the emoji. -/
def endings : List (List Char × List Char) := [
  ("-emoji:".toList, ['\uFE0F']), ("-text:".toList, ['\uFE0E']), (":".toList, [])]

/-- The mark of the ending at the start of a text, and what follows the ending. -/
def ending? (text : List Char) : Option (List Char × List Char) :=
  endings.findSome? fun (word, mark) =>
    if word.isPrefixOf text then some (mark, text.drop word.length) else none

/-- The name at the start of a text, the mark of its ending, and what follows. -/
def name? : List Char → Option (List Char × List Char × List Char)
  | [] => none
  | c :: rest =>
    match ending? (c :: rest) with
    | some (mark, after) => some ([], mark, after)
    | none =>
      if Text.isBlank c then none
      else do
        let (name, mark, after) ← name? rest
        return (c :: name, mark, after)

/-- What stands for a name in colons: its emoji with the mark, or else what was written. -/
def spell (name mark written : List Char) : List Char :=
  match find? (Text.lower name) with
  | some emoji => emoji ++ mark
  | none => written

/-- Replaces the names in a text whose length the first number bounds. -/
def replaceFrom : Nat → List Char → List Char
  | 0, text => text
  | _, [] => []
  | fuel + 1, c :: rest =>
    if c == ':' then
      match name? rest with
      | none => c :: replaceFrom fuel rest
      | some (name, mark, after) =>
        spell name mark (c :: rest.take (rest.length - after.length)) ++ replaceFrom fuel after
    else c :: replaceFrom fuel rest

/-- The text with emoji in place of their names. -/
def replace (text : List Char) : List Char := replaceFrom text.length text

end LineLint.Screen.Emoji
