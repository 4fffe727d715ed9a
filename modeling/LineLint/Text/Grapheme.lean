import LineLint.Text.Width

/-! # Graphemes

A terminal draws a character together with the marks that follow it. A joiner (U+200D) also draws
the next character into the same cells, and the mark U+FE0F makes an emoji of the last character,
which may need a second column. `width` is the number of columns of a text, `graphemes` cuts a text
where a terminal can, and `chop` and `fit` make texts that a number of columns can hold. -/

namespace LineLint.Text

/-- Joins the character before it and the one after it. -/
def joiner : Char := '\u200D'

/-- Makes an emoji of the character before it. -/
def emojiMark : Char := '\uFE0F'

/-- The number of columns that a text takes after `last`, the last character that takes columns
and has no emoji mark yet. `n` columns have been counted before. -/
def widthFrom (n : Nat) (last : Option Char) : List Char → Nat
  | [] => n
  | [c] =>
    if c == joiner then n
    else if c == emojiMark then n + if last.any widens then 1 else 0
    else n + charWidth c
  | c :: d :: rest =>
    if c == joiner then widthFrom n last rest
    else if c == emojiMark then widthFrom (n + if last.any widens then 1 else 0) none (d :: rest)
    else
      let width := charWidth c
      widthFrom (n + width) (if width == 0 then last else some c) (d :: rest)

/-- The number of columns that a text takes. -/
def width (text : List Char) : Nat := widthFrom 0 none text

/-- A stretch of text that is drawn as one, and the columns that it takes. -/
structure Grapheme where
  text : List Char
  width : Nat
  deriving DecidableEq, Repr

/-- Graphemes that are being collected, the last one first and each with its text in reverse. -/
structure Graphemes where
  collected : List Grapheme := []
  /-- The last character that takes columns, unless it has become an emoji. -/
  last : Option Char := none
  deriving DecidableEq, Repr

namespace Graphemes

/-- Starts a grapheme. -/
def start (g : Graphemes) (c : Char) (width : Nat) : Graphemes :=
  { g with collected := ⟨[c], width⟩ :: g.collected }

/-- Adds a character to the last grapheme, and columns. If there is none, starts one that takes no
column. -/
def extend (g : Graphemes) (c : Char) (columns : Nat) : Graphemes :=
  match g.collected with
  | [] => g.start c 0
  | last :: others =>
    { g with collected := ⟨c :: last.text, last.width + columns⟩ :: others }

/-- Adds a character that is no joiner. -/
def push (g : Graphemes) (c : Char) : Graphemes :=
  if c == emojiMark then
    if g.last.any widens then { g.extend c 1 with last := none } else g.extend c 0
  else
    let width := charWidth c
    if width == 0 then g.extend c 0 else { g.start c width with last := some c }

/-- Adds a text. -/
def append (g : Graphemes) : List Char → Graphemes
  | [] => g
  | [c] => if c == joiner then g.extend c 0 else g.push c
  | c :: d :: rest =>
    if c == joiner then
      if g.collected.isEmpty then (g.extend c 0).append (d :: rest)
      else ((g.extend c 0).extend d 0).append rest
    else (g.push c).append (d :: rest)

end Graphemes

/-- The graphemes of a text. -/
def graphemes (text : List Char) : List Grapheme :=
  ((({} : Graphemes).append text).collected.map fun g => { g with text := g.text.reverse }).reverse

/-- The pieces of some graphemes, each as wide as the limit allows. `piece` is the one that is being
filled, in reverse, and `used` its width. -/
def chopFrom (limit : Nat) (piece : List Char) (used : Nat) : List Grapheme → List (List Char)
  | [] => if used == 0 then [] else [piece.reverse]
  | g :: rest =>
    if limit < used + g.width then
      piece.reverse :: chopFrom limit g.text.reverse g.width rest
    else chopFrom limit (g.text.reverse ++ piece) (used + g.width) rest

/-- The pieces of a text, each as wide as the limit allows. -/
def chop (limit : Nat) (text : List Char) : List (List Char) :=
  chopFrom limit [] 0 (graphemes text)

/-- The start of some graphemes that takes a number of columns. A grapheme that would go past it
is replaced by a blank. -/
def takeColumns : Nat → List Grapheme → List Char
  | 0, _ | _, [] => []
  | columns, g :: rest =>
    if columns < g.width then [' '] else g.text ++ takeColumns (columns - g.width) rest

/-- A text, cut if it takes more than a number of columns. -/
def fit (columns : Nat) (text : List Char) : List Char :=
  if width text ≤ columns then text else takeColumns columns (graphemes text)

end LineLint.Text
