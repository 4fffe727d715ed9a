import LineLint.Text.Case
import LineLint.Text.Quoted

/-! # Codes

An escape can name any code point, also half of a surrogate pair, which is no character. So what is
written with escapes is a list of codes. It is a text if none of them is a half. -/

namespace LineLint.Text

/-- Whether a code is half of a surrogate pair. -/
def isHalf (code : Nat) : Bool := 0xD800 ≤ code && code < 0xE000

/-- The codes of a text. -/
def codes (text : List Char) : List Nat := text.map Char.toNat

/-- The text of some codes, with a replacement character for each half. -/
def ofCodes (codes : List Nat) : List Char :=
  codes.map fun code => if isHalf code then '\uFFFD' else Char.ofNat code

/-- The codes with a change made to each text between halves. `text` is the one that is being
collected, in reverse. -/
def mapTextsFrom (change : List Char → List Char) (text : List Char) : List Nat → List Nat
  | [] => codes (change text.reverse)
  | code :: rest =>
    if isHalf code then codes (change text.reverse) ++ code :: mapTextsFrom change [] rest
    else mapTextsFrom change (Char.ofNat code :: text) rest

/-- The codes in lower case. -/
def lowerCodes (codes : List Nat) : List Nat := mapTextsFrom lower [] codes

/-- A code between quotes. -/
def quoteCode (mark : Char) (code : Nat) : List Char :=
  if isHalf code then escapeCode code else quoteChar mark (Char.ofNat code)

/-- Codes in quotes. -/
def quotedCodes (codes : List Nat) : List Char :=
  let mark := quoteMark (ofCodes codes)
  mark :: (codes.flatMap (quoteCode mark) ++ [mark])

end LineLint.Text
