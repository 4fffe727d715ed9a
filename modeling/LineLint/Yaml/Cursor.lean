/-! # Positions in a YAML text

A cursor is the text that is left, with the line and the column it stands in and the number of
characters before it. All reading moves a cursor forward. -/

namespace LineLint.Yaml

/-- A place in a text: how many characters, lines and columns come before it. -/
structure Mark where
  index : Nat := 0
  line : Nat := 0
  column : Nat := 0
  deriving DecidableEq, Repr

/-- The text from some place on. -/
structure Cursor where
  rest : List Char
  /-- The number of characters of the whole text. -/
  size : Nat
  index : Nat := 0
  line : Nat := 0
  column : Nat := 0

/-- Characters that end a line. -/
def isBreak (c : Char) : Bool :=
  c == '\n' || c == '\r' || c.toNat == 0x85 || c.toNat == 0x2028 || c.toNat == 0x2029

/-- The mark that may stand before a text to show its encoding. It takes no column. -/
def byteOrderMark : Char := Char.ofNat 0xFEFF

namespace Cursor

/-- The start of a text. -/
def ofText (text : List Char) : Cursor := ⟨text, text.length, 0, 0, 0⟩

/-- The place of a cursor. -/
def mark (c : Cursor) : Mark := ⟨c.index, c.line, c.column⟩

/-- The number of steps that are enough for a loop over the text that is left. -/
def fuel (c : Cursor) : Nat := c.size - c.index + 1

/-- The next character; `none` at the end of the text. -/
def peek (c : Cursor) : Option Char := c.rest.head?

/-- The character after `n` others. -/
def peekAt (c : Cursor) (n : Nat) : Option Char := (c.rest.drop n).head?

/-- One character on. -/
def next (c : Cursor) : Cursor :=
  match c.rest with
  | [] => c
  | ch :: rest =>
    if isBreak ch then { c with rest, index := c.index + 1, line := c.line + 1, column := 0 }
    else
      let column := if ch == byteOrderMark then c.column else c.column + 1
      { c with rest, index := c.index + 1, column }

/-- `n` characters on. -/
def advance : Nat → Cursor → Cursor
  | 0, c => c
  | n + 1, c => advance n c.next

/-- The characters ahead that satisfy a test. -/
def run (p : Char → Bool) (c : Cursor) : List Char := c.rest.takeWhile p

/-- Past the characters that satisfy a test. -/
def skip (p : Char → Bool) (c : Cursor) : Cursor := c.advance (c.run p).length

/-- Past the characters that satisfy a test, with what they were. -/
def take (p : Char → Bool) (c : Cursor) : List Char × Cursor := (c.run p, c.skip p)

/-- Whether the text ends here or the next character satisfies a test. -/
def atEndOr (p : Char → Bool) (c : Cursor) : Bool := c.peek.all p

/-- Whether the next character satisfies a test. -/
def at? (p : Char → Bool) (c : Cursor) : Bool := c.peek.any p

/-- Past a line break, with the break as it counts in a text: a line feed, or one of the two
Unicode separators as it is. -/
def takeBreak (c : Cursor) : List Char × Cursor :=
  match c.rest with
  | '\r' :: '\n' :: _ => (['\n'], c.advance 2)
  | ch :: _ =>
    if isBreak ch then
      ((if ch.toNat == 0x2028 || ch.toNat == 0x2029 then [ch] else ['\n']), c.next)
    else ([], c)
  | [] => ([], c)

end Cursor

/-- A space or a tab. -/
def isInlineBlank (c : Char) : Bool := c == ' ' || c == '\t'

/-- A space or a line break. -/
def isSpaceOrBreak (c : Char) : Bool := c == ' ' || isBreak c

/-- What separates tokens. -/
def isSeparator (c : Char) : Bool := isInlineBlank c || isBreak c

/-- Characters of anchors and of the names of directives and tags. -/
def isNameChar (c : Char) : Bool := c.isAlphanum || c == '-' || c == '_'

namespace Cursor

/-- Whether the text ends, or a separator stands, `n` characters on. -/
def separatorAt (c : Cursor) (n : Nat) : Bool := (c.peekAt n).all isSeparator

/-- Whether the three characters of a document marker stand here on their own. -/
def atMarker (mark : Char) (c : Cursor) : Bool :=
  [mark, mark, mark].isPrefixOf c.rest && c.separatorAt 3

/-- Whether a marker that ends a document or starts one stands here. -/
def atDocumentMarker (c : Cursor) : Bool := c.atMarker '-' || c.atMarker '.'

end Cursor

end LineLint.Yaml
