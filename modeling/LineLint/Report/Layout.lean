import LineLint.Triage

/-! # Parts of reports

What the reports share: their head, the text of a table cell, the place of a violation. A report
is a list of lines, and its text has a line feed between each two. -/

namespace LineLint.Report

/-- A text as it stands in a table cell: on one line, with its bars escaped. -/
def cell (text : String) : String :=
  String.ofList (text.toList.flatMap fun c =>
    if c = '|' then ['\\', '|'] else if c = '\n' then [' '] else [c])

/-- The file of a violation, with its line if it has one. -/
def place (v : Violation) : String :=
  match v.line with
  | some line => s!"{v.file}:{line}"
  | none => v.file

/-- The title, the time and one count. -/
def head (title generated label : String) (count : Nat) : List String :=
  [s!"# {title}", "", s!"**Generated**: {generated}", s!"**{label}**: {count}", ""]

/-- The items with their numbers, counted from one. -/
def numbered {α : Type} (items : List α) : List (Nat × α) :=
  items.zipIdx.map fun (item, index) => (index + 1, item)

/-- A field of a triaged violation, with its label. -/
inductive ItemField where
  | priority
  | effort
  | category

def ItemField.line (item : TriagedViolation) : ItemField → String
  | .priority => s!"**Priority**: {item.priority.name}"
  | .effort => s!"**Effort**: {item.effort.name}"
  | .category => s!"**Category**: {item.category.name}"

/-- The section of one violation. An empty suggestion is left out like a missing one. -/
def itemBlock (fields : List ItemField) (index : Nat) (item : TriagedViolation) : List String :=
  let v := item.violation
  [s!"### {index}. {v.rule}", "", s!"**File**: `{place v}`"] ++
    fields.map (·.line item) ++
    ["", s!"**Issue**: {v.message}", ""] ++
    (match v.suggestion with
      | some suggestion =>
        if suggestion.isEmpty then [] else [s!"**Suggestion**: {suggestion}", ""]
      | none => []) ++
    ["---", ""]

/-- The text of some lines. -/
def text (lines : List String) : String := "\n".intercalate lines

end LineLint.Report
