import LineLint.Screen.StyledText
import LineLint.Text.Blank

/-! # Breaking lines

A line that is wider than the screen is broken before a word. What happens to a word that is wider
than the screen is a matter of the `Overflow`: it starts on a line of its own, and is either broken
wherever the screen ends or cut there. -/

namespace LineLint.Screen

/-- What happens to a word that no line can hold. -/
inductive Overflow where
  /-- It goes on in the next line. -/
  | fold
  /-- It is cut, and an ellipsis stands for the rest. -/
  | ellipsis
  deriving DecidableEq, Repr

/-- The words of a line, each with the blanks after it and the first also with those before it. -/
def wordsWithBlanks : Nat → List Char → List (List Char)
  | 0, _ => []
  | fuel + 1, line =>
    let (before, rest) := line.span Text.isBlank
    let (word, rest) := rest.span (!Text.isBlank ·)
    let (after, rest) := rest.span Text.isBlank
    if word.isEmpty then [] else (before ++ word ++ after) :: wordsWithBlanks fuel rest

/-- A text without the blanks at its end. -/
def dropEndBlanks (text : List Char) : List Char :=
  (text.reverse.dropWhile Text.isBlank).reverse

/-- A line that is being broken. -/
structure Breaking where
  /-- The places where a new line starts, the last one first. -/
  breaks : List Nat := []
  /-- The place that has been reached. -/
  place : Nat := 0
  /-- The columns that the current line takes. -/
  used : Nat := 0
  deriving DecidableEq, Repr

namespace Breaking

/-- Starts a new line, unless there is nothing before it. -/
def newLine (b : Breaking) : Breaking :=
  if b.place == 0 then b else { b with breaks := b.place :: b.breaks }

/-- Places a text on the current line. -/
def put (b : Breaking) (text : List Char) : Breaking :=
  { b with place := b.place + text.length, used := b.used + Text.width text }

/-- Places a text on a new line. -/
def putOnNewLine (b : Breaking) (text : List Char) : Breaking :=
  { b.newLine with used := 0 }.put text

/-- Places a word together with its blanks. -/
def putWord (limit : Nat) (overflow : Overflow) (b : Breaking) (word : List Char) : Breaking :=
  let needed := Text.width (dropEndBlanks word)
  if b.used + needed ≤ limit then b.put word
  else if limit < needed then
    match overflow with
    | .fold => (Text.chop limit word).foldl putOnNewLine b
    | .ellipsis => b.putOnNewLine word
  else b.putOnNewLine word

end Breaking

/-- The places where a line is broken. -/
def breaks (limit : Nat) (overflow : Overflow) (line : List Char) : List Nat :=
  ((wordsWithBlanks line.length line).foldl (Breaking.putWord limit overflow) {}).breaks.reverse

namespace StyledText

/-- A text without the blanks at its end that make it longer than a limit. -/
def trimEnd (limit : Nat) (t : StyledText) : StyledText :=
  t.before (max limit (dropEndBlanks t.text).length)

/-- A line that is cut if it takes more than a number of columns. -/
def truncate (limit : Nat) (overflow : Overflow) (t : StyledText) : StyledText :=
  if Text.width t.text ≤ limit then t
  else
    let text := match overflow with
      | .fold => Text.fit limit t.text
      | .ellipsis => Text.fit (limit - 1) t.text ++ ['…']
    { t.before text.length with text }

/-- The lines that a text is shown in on a screen with a number of columns. -/
def wrap (limit : Nat) (overflow : Overflow) (t : StyledText) : List StyledText :=
  t.lines.flatMap fun line =>
    let line := line.expandTabs
    (line.divide (breaks limit overflow line.text)).map fun l =>
      (l.trimEnd limit).truncate limit overflow

end StyledText

end LineLint.Screen
