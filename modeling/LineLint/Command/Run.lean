import LineLint.Command.Request
import LineLint.Lint.Run
import LineLint.Report.Basic
import LineLint.Screen.Views
import LineLint.Text.Undecoded
import LineLint.Timestamp

/-! # Running a command

`run` takes a command line, the place and time at which it is given and the tree of files, and says
how the command ends, what it shows, what it warns of and which files there are then. A command
changes the tree only by writing the reports that it was asked for.

Text shown before a crash is kept, and so are the files written by then. What is shown and what is
written is UTF-8, so a name that holds other bytes can be in neither; JSON escapes such bytes. -/

namespace LineLint.Command

/-- Where and when a command is given. -/
structure Environment where
  cwd : Location
  /-- What a tilde stands for. -/
  home : Path
  /-- What a tilde with a name after it stands for. -/
  homes : List (String × Path) := []
  now : Timestamp
  deriving DecidableEq, Repr

/-- What has come of a command so far. -/
structure Session where
  tree : FileTree
  lines : List String := []
  warnings : List Warning := []
  /-- Whether names and words hold bytes that are no UTF-8. Only then do characters stand for such
  bytes. -/
  undecoded : Bool := false
  deriving DecidableEq, Repr

/-- Whether a text can be written as UTF-8. -/
def Session.encodes (s : Session) (text : String) : Bool := !s.undecoded || Text.isEncodable text

/-- Steps of a command that end it or give a value. -/
abbrev Run (α : Type) := ExceptT Ending (StateM Session) α

namespace Run

/-! ## Steps -/

/-- Shows lines, unless they cannot be shown. -/
def display (lines : Except Markup.MarkupError (List String)) : Run Unit :=
  match lines with
  | .ok lines => do
    if !lines.all (← get).encodes then throw (.crashed .encoding)
    modify fun s => { s with lines := s.lines ++ lines }
  | .error e => throw (.crashed (.markup e))

/-- Refuses a request for a reason that is shown. -/
def refuse {α : Type} (reason : String) : Run α := do
  display (Screen.failure reason)
  throw (.finished 2)

/-- Refuses a configuration file. The whole message has to be one that can be shown, but only its
start is shown. -/
def refuseConfig {α : Type} (source : Path) (fault : ConfigFault) : Run α :=
  match Screen.failure (LoadError.configMessage source fault) with
  | .ok _ => refuse (LoadError.configPreamble source)
  | .error e => throw (.crashed (.markup e))

/-- What is found in the tree as it is now. -/
def look {α : Type} (find : FileTree → Except AccessError α) : Run α := do
  match find (← get).tree with
  | .ok found => return found
  | .error e => throw (.crashed (.access e))

/-- Keeps warnings for later. -/
def warn (warnings : List Warning) : Run Unit :=
  modify fun s => { s with warnings := s.warnings ++ warnings }

/-- Makes the directory of a path together with those above it. A command can make fewer levels at
once than could be made without it, by `fewer`. -/
def makeDirectories (env : Environment) (fewer : Nat) (directory : Path) : Run Unit := do
  let (tree, made) := (← get).tree.makeDirectories (FileTree.maxLevels - fewer) env.cwd directory
  modify fun s => { s with tree }
  if let .error e := made then throw (.crashed (.access e))

/-- Gives the file of a path a text. If that cannot be written, the file is left empty. -/
def writeText (env : Environment) (file : Path) (text : String) : Run Unit := do
  let encodes := (← get).encodes text
  let bytes := if encodes then Text.Utf8.encode text.toList else []
  let tree ← look fun t => t.write env.cwd file bytes
  modify fun s => { s with tree }
  if !encodes then throw (.crashed .encoding)

/-! ## Parts of commands -/

/-- The formats in which a result can be shown. -/
inductive Format where
  | text
  | json
  deriving DecidableEq, Repr

/-- The format of a name. -/
def readFormat (name : String) : Run Format :=
  match name with
  | "text" => return .text
  | "json" => return .json
  | _ => refuse s!"Unknown format '{name}' – expected text or json."

/-- The path with its tilde replaced. -/
def expandHome (env : Environment) (p : Path) : Run Path :=
  match p.root, p.parts with
  | .relative, first :: rest =>
    match first.toList with
    | ['~'] => return env.home.join ⟨.relative, rest⟩
    | '~' :: name => match env.homes.lookup (String.ofList name) with
      | some home => return home.join ⟨.relative, rest⟩
      | none => throw (.crashed .unknownHome)
    | _ => return p
  | _, _ => return p

/-- The location that a word of the command line stands for, as a path. -/
def resolve (env : Environment) (p : Path) : Run Path := do
  let p ← expandHome env p
  return .absolute (← look fun t => t.resolve env.cwd p)

/-- The targets of a command line, all of which have to exist. -/
def resolveTargets (env : Environment) (targets : List Path) : Run (List Path) := do
  let resolved ← targets.mapM (resolve env)
  let missing ← resolved.filterM fun p => return !(← look fun t => t.exists? env.cwd p)
  if missing.isEmpty then return resolved
  else
    let names := ", ".intercalate (missing.map Path.toString)
    refuse s!"No such file or directory: {names}"

/-- The room that a command leaves for the nesting of a configuration. -/
def configRoom : Nat := Yaml.Document.wholeRoom - 10

/-- The project that a command is about, with its settings. -/
def openProject (env : Environment) (choice : ProjectChoice) : Run Project := do
  let root ← look fun t => t.resolve env.cwd (choice.directory.getD (.absolute env.cwd))
  match Settings.load configRoom (← get).tree env.cwd choice.config (.absolute root) with
  | .ok (settings, warnings) =>
    warn warnings
    return ⟨settings, root⟩
  | .error (.config source fault) => refuseConfig source fault
  | .error e => throw (.crashed (.load e))

/-- The result of a run over the files, as they are now. -/
def result (found : FileTree → Except Project.LintFailure (LintResult × List Warning)) :
    Run LintResult := do
  match found (← get).tree with
  | .ok (r, warnings) =>
    warn warnings
    return r
  | .error f =>
    warn f.warnings
    throw (.crashed (.access f.cause))

/-- Writes the report of a result. -/
def writeReport (env : Environment) (file : Path) (r : LintResult) : Run Unit := do
  makeDirectories env 9 file.parent
  writeText env file r.toJson.pretty

/-- The document of a result, as it is shown. -/
def document (r : LintResult) : String := r.toJson.pretty ++ "\n"

/-- Writes all reports of a triage. -/
def writeReports (env : Environment) (directory : Path) (s : TriageSummary) : Run Unit := do
  makeDirectories env 10 directory
  Report.all.forM fun report =>
    writeText env (directory.join (.parse report.fileName)) (report.render s env.now.toText)
  display (Screen.info s!"{Report.all.length} report(s) written to {directory}")

/-! ## Commands -/

/-- Lints the targets, or the whole project. -/
def lint (env : Environment) (targets : List Path) (choice : ProjectChoice) (format : String)
    (output : Option Path) : Run Unit := do
  let format ← readFormat format
  let targets ← resolveTargets env targets
  let project ← openProject env choice
  let r ← result fun t => project.lint t targets
  if let some file := output then writeReport env file r
  if format = .json then throw (.reported (document r) r.exitCode)
  display (.ok Screen.banner)
  if r.violations.isEmpty then
    display (Screen.success s!"{r.filesScanned} file(s) passed all golden rules.")
    throw (.finished 0)
  display (Screen.violations r)
  display (Screen.lintSummary r)
  if let some file := output then display (Screen.info s!"Report written to {file}")
  throw (.finished r.exitCode)

/-- Lints one file. -/
def checkFile (env : Environment) (file : Path) (choice : ProjectChoice) (format : String) :
    Run Unit := do
  let format ← readFormat format
  if !(← look fun t => t.isFile env.cwd file) then refuse s!"No such file: {file}"
  let project ← openProject env choice
  let target ← resolve env file
  let r ← result fun t => project.check t target
  if format = .json then throw (.reported (document r) r.exitCode)
  if r.violations.isEmpty then
    display (Screen.success s!"{file} passed all golden rules.")
    throw (.finished 0)
  display (Screen.violations r)
  throw (.finished r.exitCode)

/-- Triages the violations of the whole project. -/
def triage (env : Environment) (choice : ProjectChoice) (limit : Int) (reports : Option Path) :
    Run Unit := do
  display (.ok Screen.banner)
  let project ← openProject env choice
  let r ← result fun t => project.lint t []
  let s := TriageSummary.ofViolations [] r.violations
  if let some directory := reports then writeReports env directory s
  if s.total = 0 then
    display (Screen.success "No violations to triage.")
    throw (.finished 0)
  display (Screen.triage s limit)
  throw (.finished r.exitCode)

/-- Shows the rules. -/
def rules (env : Environment) (choice : ProjectChoice) : Run Unit := do
  let project ← openProject env choice
  display (Screen.rules project.settings)

/-- The steps of a request. -/
def ofRequest (env : Environment) : Request → Run Unit
  | .lint targets choice format output => lint env targets choice format output
  | .checkFile file choice format => checkFile env file choice format
  | .triage choice limit reports => triage env choice limit reports
  | .rules choice => rules env choice

end Run

/-! ## Whole command lines -/

/-- All that comes of a command. -/
structure Outcome where
  ending : Ending
  session : Session
  deriving DecidableEq, Repr

/-- Carries out a request. -/
def perform (env : Environment) (tree : FileTree) (request : Request)
    (undecoded : Bool := false) : Outcome :=
  match (Run.ofRequest env request).run { tree, undecoded } with
  | (.ok (), session) => ⟨.finished 0, session⟩
  | (.error ending, session) => ⟨ending, session⟩

/-- Carries out a command line. -/
def run (env : Environment) (tree : FileTree) (words : List String) (undecoded : Bool := false) :
    Outcome :=
  match Request.parse words with
  | .ok request => perform env tree request undecoded
  | .error ending => ⟨ending, { tree, undecoded }⟩

end LineLint.Command
