import LineLint.Screen.Style
import LineLint.Text.Grapheme

/-! # Text with styles

A text and the styles of some of its parts. A part may be empty, but only for as long as the text
stays whole: `divide` keeps of each part what lies in a piece and forgets what is empty there.

The screen shows a line in segments, one between any two places where a style starts or ends, and
counts the columns of each segment alone. -/

namespace LineLint.Screen

/-- A part of a text and its style. -/
structure Span where
  start : Nat
  stop : Nat
  style : List Char
  deriving DecidableEq, Repr

namespace Span

/-- What lies of a part between two places, counted from the first of them. -/
def between? (first last : Nat) (s : Span) : Option Span :=
  let start := max s.start first
  let stop := min s.stop last
  if start < stop then some ⟨start - first, stop - first, s.style⟩ else none

/-- What lies of a part before a place. -/
def before? (last : Nat) (s : Span) : Option Span :=
  if s.start < last then some { s with stop := min s.stop last } else none

/-- The part when that many characters are put in front of its text. -/
def shift (count : Nat) (s : Span) : Span :=
  { s with start := s.start + count, stop := s.stop + count }

end Span

/-- A text and the styles of some of its parts. -/
structure StyledText where
  text : List Char
  spans : List Span
  deriving DecidableEq, Repr

namespace StyledText

/-- Cuts a text that starts at a place of a longer one at further places of that one. -/
def divideFrom (spans : List Span) (first : Nat) (text : List Char) : List Nat → List StyledText
  | [] => [⟨text, spans.filterMap (Span.between? first (first + text.length))⟩]
  | place :: places =>
    let (piece, rest) := text.splitAt (place - first)
    ⟨piece, spans.filterMap (Span.between? first place)⟩ :: divideFrom spans place rest places

/-- The pieces of a text between some places. -/
def divide (t : StyledText) (places : List Nat) : List StyledText :=
  if places.isEmpty then [t] else divideFrom t.spans 0 t.text places

/-- Pieces as one text again. -/
def join (pieces : List StyledText) : StyledText :=
  pieces.foldr
    (fun p t => ⟨p.text ++ t.text, p.spans ++ t.spans.map (Span.shift p.text.length)⟩) ⟨[], []⟩

/-- The places where a character of a text starts. -/
def placesOf (c : Char) (text : List Char) : List Nat :=
  ((List.range text.length).zip text).filterMap fun (i, d) => if d == c then some i else none

/-- The lines of a text. -/
def lines (t : StyledText) : List StyledText :=
  (t.divide ((placesOf '\n' t.text).flatMap fun i => [i, i + 1])).filter (·.text != ['\n'])

/-- The text before a place. -/
def before (t : StyledText) (place : Nat) : StyledText :=
  if place < t.text.length then ⟨t.text.take place, t.spans.filterMap (Span.before? place)⟩ else t

/-- The text with blanks after it, in the styles of its end. -/
def extend (t : StyledText) (blanks : Nat) : StyledText :=
  ⟨t.text ++ List.replicate blanks ' ', t.spans.map fun s =>
    if t.text.length ≤ s.stop then { s with stop := s.stop + blanks } else s⟩

/-! ## Tabs -/

/-- The number of columns from one tab stop to the next. -/
def tabSize : Nat := 8

/-- Pieces that end in tabs, the last one perhaps not, with blanks up to the next tab stop instead
of the tabs. The first piece starts at a column. -/
def expandPieces (column : Nat) : List StyledText → List StyledText
  | [] => []
  | p :: rest =>
    if p.text.getLast? == some '\t' then
      let p := { p with text := p.text.dropLast ++ [' '] }
      let reached := column + Text.width p.text
      let blanks := (tabSize - reached % tabSize) % tabSize
      p.extend blanks :: expandPieces (reached + blanks) rest
    else p :: expandPieces (column + Text.width p.text) rest

/-- A line with blanks instead of its tabs. -/
def expandTabs (t : StyledText) : StyledText :=
  if t.text.contains '\t' then
    join (expandPieces 0 ((t.divide ((placesOf '\t' t.text).map (· + 1))).filter
      (!·.text.isEmpty)))
  else t

/-! ## Segments -/

/-- The places where a style starts or ends, in order. -/
def borders (t : StyledText) : List Nat :=
  (t.spans.flatMap fun s => [s.start, s.stop]).mergeSort

/-- The pieces of a text that starts at a place, between the places that follow. -/
def segmentsFrom (first : Nat) (text : List Char) : List Nat → List (List Char)
  | [] => [text]
  | place :: places =>
    if place ≤ first then segmentsFrom first text places
    else
      let (segment, rest) := text.splitAt (place - first)
      segment :: segmentsFrom place rest places

/-- The segments of a line. -/
def segments (t : StyledText) : List (List Char) := segmentsFrom 0 t.text t.borders

end StyledText

/-- The segments that some columns have room for. The last of them may be cut. -/
def cropSegments : Nat → List (List Char) → List Char
  | _, [] => []
  | columns, segment :: rest =>
    let width := Text.width segment
    if width < columns then segment ++ cropSegments (columns - width) rest
    else Text.fit columns segment

/-- What a line of some columns shows of some segments. -/
def showSegments (columns : Nat) (segments : List (List Char)) : List Char :=
  if (segments.map Text.width).foldl (· + ·) 0 ≤ columns then segments.flatten
  else cropSegments columns segments

end LineLint.Screen
