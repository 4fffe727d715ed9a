import LineLint.Text.Quoted
import LineLint.Yaml.Cursor

/-! # What is wrong with a YAML text

A complaint says what cannot be understood and where, and perhaps what was being read and where that
began. Its message shows the lines at both places, each with a caret below the character that is
meant. A long line is cut to what stands near the caret. -/

namespace LineLint.Yaml

/-- What is wrong with a text. -/
structure Complaint where
  /-- What was being read. -/
  context : Option String := none
  /-- Where that began. -/
  since : Option Mark := none
  problem : String
  mark : Option Mark := none
  deriving DecidableEq, Repr

namespace Mark

/-- The number of characters on one side of the caret from which on a line is cut. -/
def reach : Nat := 37

/-- The number of characters on one side of the caret that a cut leaves. -/
def shown : Nat := 32

/-- What stands for the part that is cut off. -/
def ellipsis : List Char := " ... ".toList

/-- Characters at which the shown line ends. -/
def endsLine (c : Char) : Bool := isBreak c || c.toNat == 0

/-- The characters of a line on one side of the caret, nearest first, and whether more of them are
left out. -/
def near (side : List Char) : List Char × Bool :=
  let line := (side.takeWhile (!endsLine ·)).take reach
  if line.length < reach then (line, false) else (line.take shown, true)

/-- The line of a place with a caret below it. -/
def snippet (text : List Char) (m : Mark) : List Char :=
  let (before, cutBefore) := near (text.take m.index).reverse
  let (after, cutAfter) := near (text.drop m.index)
  let start := (if cutBefore then ellipsis else []) ++ before.reverse
  List.replicate 4 ' ' ++ start ++ after ++ (if cutAfter then ellipsis else []) ++
    '\n' :: List.replicate (4 + start.length) ' ' ++ ['^']

/-- A place with its line. -/
def describe (text : List Char) (m : Mark) : String :=
  s!"  in \"<unicode string>\", line {m.line + 1}, column {m.column + 1}:\n" ++
    String.ofList (m.snippet text)

end Mark

namespace Complaint

/-- Whether two places are told apart by line and column. -/
def differ (a b : Mark) : Bool := a.line != b.line || a.column != b.column

/-- The message about a text. The place where a context began is left out if it is the place of the
problem. -/
def message (c : Complaint) (text : List Char) : String :=
  let since := c.since.filter fun m => c.mark.all (differ m)
  "\n".intercalate (c.context.toList ++ (since.map (·.describe text)).toList ++ [c.problem] ++
    (c.mark.map (·.describe text)).toList)

/-- A problem at a place. -/
def here (problem : String) (mark : Mark) : Complaint := { problem, mark }

/-- A problem at a place, found while reading something that began at another. -/
def within (context : String) (since : Mark) (problem : String) (mark : Mark) : Complaint :=
  { context, since, problem, mark }

/-- How a message shows what comes next in a text. -/
def showNext (c : Cursor) : String :=
  String.ofList (Text.quoted [c.peek.getD (Char.ofNat 0)])

end Complaint

end LineLint.Yaml
