import LineLint.FileTree.Files
import LineLint.Lint.Result
import LineLint.Lint.Warning
import LineLint.Rules.Catalogue
import LineLint.Text.Utf8

/-! # Runs over a project

A project is a directory with settings. A run expands its targets to files, reads them one by one
and lints what it reads. A file is identified by its path from the project's root, with all links
resolved; a file outside the root keeps the path by which it was reached. A file that cannot be
read is passed over with a warning. A path that can be no path at all ends the run; the warnings
before it count all the same. -/

namespace LineLint

/-- A directory, without links in its location, and the settings that hold in it. -/
structure Project where
  settings : Settings
  root : Location
  deriving DecidableEq, Repr

namespace Project

/-- The root as a path. -/
def rootPath (p : Project) : Path := .absolute p.root

/-- The project at the location that a path stands for. -/
def open? (t : FileTree) (cwd : Location) (settings : Settings) (root : Path) :
    Except AccessError Project :=
  return ⟨settings, ← t.resolve cwd root⟩

/-- The files below a path that the settings want. -/
def filesIn (p : Project) (t : FileTree) (top : Path) : List Path :=
  t.filesBelow [] top p.settings.enters p.settings.wants

/-- All files of the project. -/
def files (p : Project) (t : FileTree) : List Path := p.filesIn t p.rootPath

/-- The files that a target stands for: those of a directory, or the target itself. -/
def expand (p : Project) (t : FileTree) (target : Path) : Except AccessError (List Path) := do
  let path := p.rootPath.join target
  if ← t.isDirectory [] path then return p.filesIn t path else return [path]

/-- The files that some targets stand for; no target at all means the whole project. -/
def targets (p : Project) (t : FileTree) : List Path → Except AccessError (List Path)
  | [] => .ok (p.files t)
  | paths => return (← paths.mapM (p.expand t)).flatten

/-- The name under which a file is reported. -/
def fileId (p : Project) (t : FileTree) (path : Path) : Except AccessError String :=
  match t.resolve [] path with
  | .ok location => .ok (((Path.absolute location).relativeTo? p.rootPath).getD path).toString
  | .error .badName => .ok path.toString
  | .error e => .error e

/-- What a run has to say of one file. -/
inductive FileOutcome where
  | unreadable (path : Path)
  | linted (violations : List Violation)
  deriving DecidableEq, Repr

/-- The text of a file: its bytes decoded leniently, with unified line breaks. -/
def decodeSource (bytes : List UInt8) : String :=
  String.ofList (Text.unifyBreaks (Text.Utf8.decodeLenient bytes))

/-- Reads and lints one file, whose path has to be one. -/
def lintFile (p : Project) (t : FileTree) (path : Path) : Except AccessError FileOutcome :=
  match t.read [] path with
  | .ok bytes => do
    return .linted (p.settings.lintText (← p.fileId t path) (decodeSource bytes))
  | .error .badName => .error .badName
  | .error _ => .ok (.unreadable path)

/-- The violations of an outcome. -/
def FileOutcome.violations : FileOutcome → List Violation
  | unreadable _ => []
  | linted violations => violations

/-- The warning of an outcome, if there is one. -/
def FileOutcome.warning? : FileOutcome → Option Warning
  | unreadable path => some (.unreadable path)
  | linted _ => none

/-- Whether the file was read. -/
def FileOutcome.scanned : FileOutcome → Bool
  | unreadable _ => false
  | linted _ => true

/-- A run that was ended. -/
structure LintFailure where
  cause : AccessError
  /-- The warnings up to then. -/
  warnings : List Warning := []
  deriving DecidableEq, Repr

/-- What some files come to, one after the other. -/
def lintFiles (p : Project) (t : FileTree) : List Path → Except LintFailure (List FileOutcome)
  | [] => .ok []
  | path :: rest =>
    match p.lintFile t path with
    | .error cause => .error { cause }
    | .ok outcome =>
      match p.lintFiles t rest with
      | .ok outcomes => .ok (outcome :: outcomes)
      | .error f => .error { f with warnings := outcome.warning?.toList ++ f.warnings }

/-- The result of a run that has come to some outcomes. -/
def resultOf (p : Project) (outcomes : List FileOutcome) : LintResult where
  violations := outcomes.flatMap (·.violations)
  filesScanned := outcomes.countP (·.scanned)
  timedRules := p.settings.activeRules.map (·.name)
  failOn := p.settings.failOn

/-- Lints some targets, or the whole project if there are none. -/
def lint (p : Project) (t : FileTree) (paths : List Path) :
    Except LintFailure (LintResult × List Warning) := do
  let files ← (p.targets t paths).mapError fun cause => { cause }
  let outcomes ← p.lintFiles t files
  return (p.resultOf outcomes, outcomes.filterMap (·.warning?))

/-- Lints one file or directory. -/
def check (p : Project) (t : FileTree) (path : Path) :
    Except LintFailure (LintResult × List Warning) :=
  p.lint t [path]

end Project

end LineLint
