import LineLint.Lint.Result
import LineLint.Rules.Catalogue
import LineLint.Screen.Table
import LineLint.Triage

/-! # What commands show

Status lines, the violations of a result, the tables of a triage and the table of the rules. All
text goes through the tags, names of files included; so a name with brackets may lose them, and one
that closes a style that is not open cannot be shown at all. -/

namespace LineLint.Screen

open Markup (MarkupError)

/-! ## Status lines -/

def success (text : String) : Except MarkupError (List String) :=
  print s!"[success]✔[/success] {text}"

def caution (text : String) : Except MarkupError (List String) :=
  print s!"[warning]⚠[/warning] {text}"

def failure (text : String) : Except MarkupError (List String) :=
  print s!"[error]✖[/error] {text}"

def info (text : String) : Except MarkupError (List String) :=
  print s!"[info]ℹ[/info] {text}"

/-! ## Violations -/

/-- The style in which a severity is shown. -/
def severityStyle : Severity → String
  | .warning => "yellow"
  | .error => "red"

/-- The severity as it stands at the start of a line. -/
def severityTitle : Severity → String
  | .warning => "WARNING"
  | .error => "ERROR"

/-- Where in its file a violation is. -/
def place (v : Violation) : String :=
  match v.line with
  | some line => s!"L{line}"
  | none => "file"

/-- The line of a violation. -/
def finding (v : Violation) : String :=
  let style := severityStyle v.severity
  let title := severityTitle v.severity
  s!"  [{style}]● {title}[/{style}]  [dim]{place v}[/dim]  {v.message}  [dim]({v.rule})[/dim]"

/-- The lines of a violation and of what it suggests. -/
def violation (v : Violation) : Except MarkupError (List String) := do
  let found ← print (finding v)
  match v.suggestion with
  | none => return found
  | some advice =>
    if advice.isEmpty then return found
    else return found ++ (← print s!"    [dim]Suggestion:[/dim] {advice}")

/-- The lines of a file with its violations. -/
def fileGroup (file : String) (vs : List Violation) : Except MarkupError (List String) := do
  let title ← printFramed s!"[bold]{file}[/bold]  ({vs.length} issue(s))"
  return title ++ (← vs.mapM violation).flatten

/-- The lines of all violations, file by file. -/
def violations (r : LintResult) : Except MarkupError (List String) :=
  return (← r.byFile.mapM fun (file, vs) => fileGroup file vs).flatten

/-- The counts of a result. -/
def lintSummary (r : LintResult) : Except MarkupError (List String) :=
  let errors := r.count .error
  let warnings := r.count .warning
  return (← print "📋 Lint Summary") ++ (← printFramed
    (s!"[bold]Files: {r.filesScanned}[/bold]  [bold]Total: {r.violations.length}[/bold]  " ++
      s!"[red]Error: {errors}[/red]  [yellow]Warning: {warnings}[/yellow]"))

/-! ## Tables -/

/-- The rows of a table of counts. -/
def countRows (counts : List (String × Nat)) : List (List String) :=
  counts.map fun (name, count) => [name, toString count]

/-- The table of the numbers of a triage. -/
def overview (s : TriageSummary) : Except MarkupError (List String) :=
  table "📊 Overview" ["Metric", "Count"] (countRows [
    ("Total", s.total), ("Critical", s.critical.length), ("Errors", s.ofSeverity .error),
    ("Warnings", s.ofSeverity .warning), ("Quick wins", s.quickWins.length)])

/-- The line of a violation, or a dash if it has none. -/
def lineOrDash (v : Violation) : String :=
  match v.line with
  | none => "-"
  | some line => if line == 0 then "-" else toString line

/-- The table of what is quickly mended, if there is any. -/
def quickWins (s : TriageSummary) : Except MarkupError (List String) :=
  if s.quickWins.isEmpty then return []
  else table "⚡ Quick wins" ["File", "Line", "Message"] (s.quickWins.map fun i =>
    [i.violation.file, lineOrDash i.violation, i.violation.message])

/-- The last line of a triage, if something is critical. -/
def criticalNotice (s : TriageSummary) : Except MarkupError (List String) :=
  if s.critical.isEmpty then return []
  else caution s!"{s.critical.length} critical violation(s) need attention."

/-- All tables of a triage, with the most frequent rules up to a limit. -/
def triage (s : TriageSummary) (limit : Int) : Except MarkupError (List String) := do
  let top ← table "🏆 Top rules" ["Rule", "Violations"] (countRows (s.topRules limit))
  let categories ←
    table "📈 By category" ["Category", "Violations"] (countRows s.sortedCategories)
  return (← overview s) ++ top ++ categories ++ (← quickWins s) ++ (← criticalNotice s)

/-- The row of a rule. -/
def ruleRow (entry : CatalogueEntry) : List String :=
  [entry.key, entry.rule.name, if entry.enabled then "[green]on[/green]" else "[dim]off[/dim]",
    entry.rule.description]

/-- The table of all rules. -/
def rules (s : Settings) : Except MarkupError (List String) :=
  table "Rules" ["Key", "Name", "State", "Description"] (s.catalogue.map ruleRow)

end LineLint.Screen
