import LineLint.Json.Basic
import LineLint.Text.Decimal

/-! # JSON as text

The text is pure ASCII: all other characters are written as escapes, those past U+FFFF as two.
In the spread layout every item of a list or an object stands on a line of its own, two spaces
further in than the brackets around it; an empty list or object stays on one line. In the flat
layout nothing is broken. -/

namespace LineLint.Json

/-- How a document is laid out. -/
inductive Layout where
  | flat
  /-- Items stand on their own lines, this many levels in. -/
  | spread (depth : Nat)

/-- The layout of the items of a list or an object. -/
def Layout.inner : Layout → Layout
  | flat => flat
  | spread depth => spread (depth + 1)

/-- What stands before an item or a closing bracket. -/
def Layout.lineBreak : Layout → List Char
  | flat => []
  | spread depth => '\n' :: List.replicate (2 * depth) ' '

/-- What stands between two items. -/
def Layout.separator : Layout → List Char
  | flat => [',', ' ']
  | spread depth => ',' :: (spread depth).lineBreak

/-- The lower-case hexadecimal digit of a number below sixteen. -/
def hexDigit (n : Nat) : Char := Char.ofNat (if n < 10 then 0x30 + n else 0x57 + n)

/-- The escape of a 16-bit unit. -/
def escapeUnit (n : Nat) : List Char :=
  ['\\', 'u', hexDigit (n / 4096 % 16), hexDigit (n / 256 % 16), hexDigit (n / 16 % 16),
    hexDigit (n % 16)]

/-- A character as it stands in a string. -/
def escapeChar (c : Char) : List Char :=
  match c with
  | '"' => ['\\', '"']
  | '\\' => ['\\', '\\']
  | '\n' => ['\\', 'n']
  | '\r' => ['\\', 'r']
  | '\t' => ['\\', 't']
  | '\x08' => ['\\', 'b']
  | '\x0c' => ['\\', 'f']
  | c =>
    let n := c.toNat
    if 0x20 ≤ n && n ≤ 0x7E then [c]
    else if n < 0x10000 then escapeUnit n
    else escapeUnit (0xD800 + (n - 0x10000) / 0x400) ++ escapeUnit (0xDC00 + (n - 0x10000) % 0x400)

/-- A string in its quotes. -/
def quote (s : String) : List Char := '"' :: (s.toList.flatMap escapeChar ++ ['"'])

mutual

/-- The text of a document. -/
def write (layout : Layout) : Json → List Char
  | null => ['n', 'u', 'l', 'l']
  | bool true => ['t', 'r', 'u', 'e']
  | bool false => ['f', 'a', 'l', 's', 'e']
  | int n => Text.decimal n
  | decimal mantissa exponent => Text.decimal mantissa ++ 'e' :: Text.decimal exponent
  | string s => quote s
  | array [] => ['[', ']']
  | array (item :: items) =>
    '[' :: (layout.inner.lineBreak ++ write layout.inner item ++
      writeItems layout.inner items ++ layout.lineBreak ++ [']'])
  | object [] => ['{', '}']
  | object (field :: fields) =>
    '{' :: (layout.inner.lineBreak ++ writeField layout.inner field ++
      writeFields layout.inner fields ++ layout.lineBreak ++ ['}'])

/-- The items after the first one. -/
def writeItems (layout : Layout) : List Json → List Char
  | [] => []
  | item :: items => layout.separator ++ write layout item ++ writeItems layout items

/-- A name and its value. -/
def writeField (layout : Layout) : String × Json → List Char
  | (name, value) => quote name ++ ':' :: ' ' :: write layout value

/-- The fields after the first one. -/
def writeFields (layout : Layout) : List (String × Json) → List Char
  | [] => []
  | field :: fields => layout.separator ++ writeField layout field ++ writeFields layout fields

end

/-- The spread text of a document. -/
def pretty (document : Json) : String := String.ofList (write (.spread 0) document)

/-- The text of a document on one line. -/
def compact (document : Json) : String := String.ofList (write .flat document)

end LineLint.Json
