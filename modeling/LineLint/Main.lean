import LineLint.Command.Run
import Std.Time.DateTime.PlainDateTime
import Std.Time.DateTime.Timestamp

/-! # The program

The command line is carried out by `Command.perform` on a tree of the files that exist. Their names
are read from standard input, one on each line, as `find` prints them; names are relative to the
working directory, and they and all words are UTF-8. Configuration files and paths on the command line are looked up without being
named there. In the end the files that the command has changed are written. -/

namespace LineLint.Main

/-- What stands at a path: a file that can be read, or else a directory if there is anything. -/
def entryAt (p : Path) : IO (Option Entry) := do
  try
    return some (.file (← IO.FS.readBinFile p.toString).toList)
  catch _ =>
    try
      let _ ← IO.FS.realPath p.toString
      return some .directory
    catch _ => return none

/-- The tree with an entry and the directories above it, if there is room for it. -/
def plant (t : FileTree) (p : Path) (entry : Entry) : FileTree :=
  let (t, _) := t.makeDirectories FileTree.maxLevels [] p.parent
  match t.walk .entry [] p with
  | .ok place => t.insert place.location entry
  | .error _ => t

/-- The tree with what stands at some paths. -/
def gather (t : FileTree) (paths : List Path) : IO FileTree :=
  paths.foldlM (fun t p => do return ((← entryAt p).map (plant t p)).getD t) t

/-- The places at which a configuration may be looked for, from a directory upwards. -/
def configPlaces (directory : Path) : List Path :=
  (List.range (directory.parts.length + 1)).flatMap fun n =>
    Settings.configNames.map fun name =>
      { directory with parts := directory.parts.take n ++ [name] }

/-- The paths that a project choice names. -/
def choicePaths (choice : Command.ProjectChoice) : List Path :=
  choice.config.toList ++ choice.directory.toList

/-- The paths that a request names. -/
def requestPaths : Command.Request → List Path
  | .lint targets choice _ output => targets ++ choicePaths choice ++ output.toList
  | .checkFile file choice _ => file :: choicePaths choice
  | .triage choice _ reports => choicePaths choice ++ reports.toList
  | .rules choice => choicePaths choice

/-- The directory that a request starts from, if it names one. -/
def requestDirectory? : Command.Request → Option Path
  | .lint _ choice _ _ | .checkFile _ choice _ | .triage choice _ _ | .rules choice =>
    choice.directory

/-- Whether a request is about files beside the configuration. -/
def looksAtFiles : Command.Request → Bool
  | .rules _ => false
  | _ => true

/-- The names on the lines of standard input. -/
partial def names (input : IO.FS.Stream) : IO (List Path) := do
  let line ← input.getLine
  if line.isEmpty then return []
  let name := line.toList.takeWhile (· != '\n')
  let others ← names input
  return if name.isEmpty then others else .parse (String.ofList name) :: others

/-- The present time. -/
def now : IO Timestamp := do
  let instant ← Std.Time.Timestamp.now
  let t := Std.Time.PlainDateTime.ofWallTime (.ofNanoseconds instant.toNanosecondsSinceUnixEpoch)
  return {
    year := t.date.year.toInt.toNat, month := t.date.month.toNat, day := t.date.day.toNat,
    hour := t.time.hour.toNat, minute := t.time.minute.toNat, second := t.time.second.toNat,
    microsecond := t.time.nanosecond.toNat / 1000, offset := some 0 }

/-- The name and the home of a user, from a line of the list of users. -/
def homeOf? (line : List Char) : Option (String × Path) :=
  match (Text.cut ':' line).map String.ofList with
  | [name, _, _, _, _, home, _] => some (name, .parse home)
  | _ => none

/-- The homes of all users, if they are listed. -/
def homes : IO (List (String × Path)) := do
  try
    return (Text.splitLines (← IO.FS.readFile "/etc/passwd").toList).filterMap homeOf?
  catch _ => return []

/-- Writes what a command has changed. -/
def store (before after : FileTree) : IO Unit :=
  after.toList.forM fun (location, entry) => do
    if before.entry? location != some entry then
      let path := (Path.absolute location).toString
      match entry with
      | .directory => IO.FS.createDirAll path
      | .file bytes => IO.FS.writeBinFile path ⟨bytes.toArray⟩
      | .link _ => pure ()

/-- How to use the program. -/
def help : String :=
  "Usage: linelint [-v] COMMAND [OPTIONS] < NAMES\n\n" ++
  "Line-based advisory linter for Bun/TypeScript projects.\n\n" ++
  "  lint [PATHS]     Lint project files and report advisory violations.\n" ++
  "  check-file FILE  Lint exactly one file, classified by its path under the project root.\n" ++
  "  triage           Categorise and prioritise violations across the project.\n" ++
  "  rules            List registered rules and whether they are enabled.\n\n" ++
  "  -c, --config FILE    -d, --dir DIRECTORY    -F, --format text|json\n" ++
  "  -o, --output FILE    -n, --limit NUMBER     -o, --output-dir DIRECTORY\n"

/-- What is said of a command line that cannot be understood. -/
def usageMessage : UsageError → String
  | .noSuchOption => "no such option"
  | .missingValue => "an option needs a value"
  | .unwantedValue => "an option takes no value"
  | .noCommand => "a command is missing"
  | .noSuchCommand => "no such command"
  | .missingArgument => "an argument is missing"
  | .extraArgument => "an argument is too much"
  | .notNumber => "a value is not a number"
  | .badPath => "a value is not a path"

/-- Tells the user how a command has ended. -/
def report (ending : Command.Ending) : IO UInt32 := do
  match ending with
  | .help => IO.print help
  | .misused e => IO.eprintln s!"Error: {usageMessage e}. Try --help."
  | .reported document _ => IO.print document
  | .crashed _ => IO.eprintln "Error: a file or its name cannot be used."
  | .finished _ => pure ()
  return UInt32.ofNat ending.exitCode

/-- Carries out a request on the files that exist. -/
def carryOut (request : Command.Request) : IO UInt32 := do
  let here ← IO.FS.realPath "."
  let cwd := Path.parse s!"{here}"
  let home := Path.parse ((← IO.getEnv "HOME").getD "/")
  let listed ← if looksAtFiles request then names (← IO.getStdin) else pure []
  let start := cwd.join ((requestDirectory? request).getD cwd)
  let tree ← gather .empty
    ((listed ++ requestPaths request).map cwd.join ++ configPlaces cwd ++ configPlaces start)
  let outcome := Command.perform ⟨cwd.parts, home, ← homes, ← now⟩ tree request
  outcome.session.warnings.forM fun warning => IO.eprintln warning.message
  outcome.session.lines.forM IO.println
  store tree outcome.session.tree
  report outcome.ending

end LineLint.Main

/-- The command line of the linter. -/
def main (words : List String) : IO UInt32 :=
  match LineLint.Command.Request.parse words with
  | .ok request => LineLint.Main.carryOut request
  | .error ending => LineLint.Main.report ending
