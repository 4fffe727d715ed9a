import LineLint.Command.Ending
import LineLint.Text.Decimal

/-! # What a command line asks for

The first positional word names the command, and the words after it belong to that command. Options
and positional words of a command may be mixed. Help is given as soon as the words can be taken
apart, whatever else they say. -/

namespace LineLint.Command

/-- Which project a command is about, and under which settings. -/
structure ProjectChoice where
  config : Option Path := none
  directory : Option Path := none
  deriving DecidableEq, Repr

/-- A command with all that it was given. -/
inductive Request where
  | lint (targets : List Path) (choice : ProjectChoice) (format : String) (output : Option Path)
  | checkFile (file : Path) (choice : ProjectChoice) (format : String)
  | triage (choice : ProjectChoice) (limit : Int) (reports : Option Path)
  | rules (choice : ProjectChoice)
  deriving DecidableEq, Repr

namespace Request

/-! ## Options -/

def helpOption : OptionSpec := ⟨"help", "--help", none, false⟩

/-- The options before the command. -/
def programOptions : List OptionSpec := [helpOption, ⟨"verbose", "--verbose", some 'v', false⟩]

/-- The options that choose a project. -/
def projectOptions : List OptionSpec :=
  [helpOption, ⟨"config", "--config", some 'c', true⟩, ⟨"directory", "--dir", some 'd', true⟩]

def formatOption : OptionSpec := ⟨"format", "--format", some 'F', true⟩

def outputOption : OptionSpec := ⟨"output", "--output", some 'o', true⟩

def limitOption : OptionSpec := ⟨"limit", "--limit", some 'n', true⟩

def reportsOption : OptionSpec := ⟨"reports", "--output-dir", some 'o', true⟩

/-- The number of rules that a triage shows unless it is told. -/
def defaultLimit : Int := 5

/-- The output format of a command unless it is told. -/
def defaultFormat : String := "text"

/-! ## Reading -/

/-- The words of a command, taken apart. -/
def split (specs : List OptionSpec) (mixed : Bool) (words : List String) :
    Except Ending Arguments :=
  match Arguments.parse specs mixed words {} with
  | .error e => .error (.misused e)
  | .ok a => if a.has helpOption.key then .error .help else .ok a

/-- The path that a word stands for; no path holds the null character. -/
def path (word : String) : Except Ending Path :=
  if word.toList.contains (Char.ofNat 0) then .error (.misused .badPath)
  else .ok (Path.parse word)

/-- The path that an option gives. -/
def pathOption (a : Arguments) (spec : OptionSpec) : Except Ending (Option Path) :=
  (a.option? spec.key).mapM path

/-- The project that the options choose. -/
def choice (a : Arguments) : Except Ending ProjectChoice := do
  return ⟨← (a.option? "config").mapM path, ← (a.option? "directory").mapM path⟩

def format (a : Arguments) : String := (a.option? formatOption.key).getD defaultFormat

/-- The number that the limit option gives. -/
def limit (a : Arguments) : Except Ending Int :=
  match a.option? limitOption.key with
  | none => .ok defaultLimit
  | some word => match Text.readWhole? word.toList with
    | some n => .ok n
    | none => .error (.misused .notNumber)

/-- The command takes no positional words. -/
def noWords (a : Arguments) : Except Ending Unit :=
  if a.positional.isEmpty then .ok () else .error (.misused .extraArgument)

def readLint (words : List String) : Except Ending Request := do
  let a ← split (projectOptions ++ [formatOption, outputOption]) true words
  return .lint (← a.positional.mapM path) (← choice a) (format a) (← pathOption a outputOption)

def readCheckFile (words : List String) : Except Ending Request := do
  let a ← split (projectOptions ++ [formatOption]) true words
  let choice ← choice a
  match a.positional with
  | [] => throw (.misused .missingArgument)
  | [file] => return .checkFile (← path file) choice (format a)
  | file :: _ =>
    let _ ← path file
    throw (.misused .extraArgument)

def readTriage (words : List String) : Except Ending Request := do
  let a ← split (projectOptions ++ [limitOption, reportsOption]) true words
  let request := Request.triage (← choice a) (← limit a) (← pathOption a reportsOption)
  noWords a
  return request

def readRules (words : List String) : Except Ending Request := do
  let a ← split projectOptions true words
  let request := Request.rules (← choice a)
  noWords a
  return request

/-- A word that is no command. If it looks like an option, the program's own options count. -/
def refuse (words : List String) : Ending :=
  match split programOptions false words with
  | .error ending => ending
  | .ok _ => .misused .noSuchCommand

/-- The request of a whole command line, or how the program ends without one. -/
def parse (words : List String) : Except Ending Request := do
  let a ← split programOptions false words
  match a.positional with
  | [] => throw (.misused .noCommand)
  | "lint" :: words => readLint words
  | "check-file" :: words => readCheckFile words
  | "triage" :: words => readTriage words
  | "rules" :: words => readRules words
  | words => throw (refuse words)

end Request

end LineLint.Command
