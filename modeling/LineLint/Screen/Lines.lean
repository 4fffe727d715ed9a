import LineLint.Screen.Markup
import LineLint.Screen.Wrap
import LineLint.Text.Lines

/-! # Lines on the screen

What a user sees, without its layout: each line as its words with one space between them, without
frames, and without the lines that are empty then. -/

namespace LineLint.Screen

open Markup (MarkupError)

/-- A character of which frames are made. -/
def isFrame (c : Char) : Bool := 0x2500 ≤ c.toNat && c.toNat ≤ 0x257F

/-- The words of a line with one space between them. A frame separates words. -/
def plainLine (line : List Char) : List Char :=
  Text.glue ' ' (Text.words (line.map fun c => if isFrame c then ' ' else c))

/-- The lines that are not empty. -/
def plainLines (lines : List (List Char)) : List String :=
  ((lines.map plainLine).filter (!·.isEmpty)).map String.ofList

/-- Lines with styles as a screen with a number of columns shows them. All styles have to be
readable. -/
def showLines (columns : Nat) (lines : List StyledText) : Except MarkupError (List (List Char)) :=
  if lines.any fun l => l.spans.any fun s => Style.parse s.style matches .error .badNumber then
    throw .badNumber
  else return lines.map fun l => showSegments columns l.segments

/-- The number of columns of the screen. -/
def screenWidth : Nat := 1000

/-- The number of columns inside of a frame around the whole screen. -/
def framedWidth : Nat := screenWidth - 4

/-- The lines of a text with tags on a screen with a number of columns. -/
def printWithin (columns : Nat) (markup : String) : Except MarkupError (List String) := do
  let text ← Markup.render markup.toList
  return plainLines (← showLines columns (text.wrap columns .fold))

/-- The lines of a text with tags on the screen. -/
def print (markup : String) : Except MarkupError (List String) := printWithin screenWidth markup

/-- The lines of a text with tags in a frame. -/
def printFramed (markup : String) : Except MarkupError (List String) :=
  printWithin framedWidth markup

/-- The lines that a run in text mode starts with. -/
def banner : List String := ["goldenlint", "golden rules fo"]

end LineLint.Screen
