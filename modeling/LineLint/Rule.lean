import LineLint.Pattern
import LineLint.Text.Blank
import LineLint.Text.Lines
import LineLint.Text.Search
import LineLint.Violation

/-! # Rules

A rule is a table of checks with a name, a severity and a notion of comment. A line check looks at
each line that is not a comment, a file check once at the whole text. Each check has a gate, which
decides from the file's name and its whole text whether the check is made at all.

`Rule.validate` reports the line checks first, in the order of the lines and on one line in the
order of the table, and then the file checks in the order of the table. -/

namespace LineLint

/-- How a rule tells that a line is a comment. Neither way parses the language. -/
inductive CommentStyle where
  /-- Two slashes anywhere make the line a comment, also inside a string. -/
  | loose
  /-- The line starts, after its blanks, with one of `CommentStyle.openings`. -/
  | strict
  deriving DecidableEq, Repr

namespace CommentStyle

/-- What a comment or an import starts with. -/
def openings : List String := ["//", "/*", "*", "import "]

/-- Whether a line counts as a comment. -/
def hides : CommentStyle → List Char → Bool
  | loose, line => Text.contains ['/', '/'] line
  | strict, line => openings.any fun opening => opening.toList.isPrefixOf (Text.trim line)

def ofName? : String → Option CommentStyle
  | "loose" => some loose
  | "strict" => some strict
  | _ => none

end CommentStyle

/-- A condition on a file's name and text. -/
abbrev Gate := String → String → Bool

/-- What a line has to hold to be reported: a text, or something that a search can find. Any way
of searching a line will do, in particular that of a `Pattern`. -/
inductive LineTest where
  | literal (needle : String)
  | pattern (search : List Char → Bool)

/-- Whether a line passes the test. -/
def LineTest.holds : LineTest → List Char → Bool
  | .literal needle, line => Text.contains needle.toList line
  | .pattern search, line => search line

/-- What to tell the user. -/
structure Advice where
  message : String
  suggestion : String
  deriving DecidableEq, Repr

/-- Reports the lines that pass a test and hold none of the excuses. -/
structure LineCheck where
  test : LineTest
  advice : Advice
  excuses : List String := []
  gate : Gate := fun _ _ => true

/-- Whether the check reports a line. -/
def LineCheck.reports (c : LineCheck) (line : List Char) : Bool :=
  c.test.holds line && !Text.containsAny c.excuses line

/-- Reports a file whose text does not meet a requirement. -/
structure FileCheck where
  requirement : String → Bool
  advice : Advice
  gate : Gate := fun _ _ => true

/-- A row of a rule's table. -/
inductive Check where
  | line (c : LineCheck)
  | file (c : FileCheck)

namespace Check

def line? : Check → Option LineCheck
  | line c => some c
  | file _ => none

def file? : Check → Option FileCheck
  | line _ => none
  | file c => some c

end Check

/-- A named table of checks. -/
structure Rule where
  name : String
  description : String := ""
  comments : CommentStyle := .loose
  severity : Severity := .warning
  checks : List Check

namespace Rule

/-- The violation of this rule that gives an advice. -/
def violation (r : Rule) (file : String) (advice : Advice) (line : Option Int) : Violation :=
  { rule := r.name, file, message := advice.message, severity := r.severity, line,
    suggestion := some advice.suggestion }

/-- The line checks whose gate is open. -/
def lineChecks (r : Rule) (file content : String) : List LineCheck :=
  (r.checks.filterMap Check.line?).filter (·.gate file content)

/-- The file checks whose gate is open. -/
def fileChecks (r : Rule) (file content : String) : List FileCheck :=
  (r.checks.filterMap Check.file?).filter (·.gate file content)

/-- What the checks say of one line, given its index counted from zero. -/
def lineViolations (r : Rule) (file : String) (checks : List LineCheck) (line : List Char)
    (index : Nat) : List Violation :=
  if r.comments.hides line then []
  else (checks.filter (·.reports line)).map fun c => r.violation file c.advice (some (index + 1))

/-- What the rule says of a file. It says nothing of an empty text. -/
def validate (r : Rule) (file content : String) : List Violation :=
  if content.isEmpty then []
  else
    let lines := (Text.splitLines content.toList).zipIdx
    let checks := r.lineChecks file content
    (lines.flatMap fun (line, index) => r.lineViolations file checks line index) ++
      ((r.fileChecks file content).filter (!·.requirement content)).map
        fun c => r.violation file c.advice none

end Rule

end LineLint
