/-! # Command lines

A command line is a list of words. Options have a long or a short name; a long one may have its
value attached after an equals sign, short ones may be written together in one word. Two dashes
end the options. All other words are positional. -/

namespace LineLint

/-- Why a command line cannot be understood. -/
inductive UsageError where
  | noSuchOption
  | missingValue
  | unwantedValue
  | noCommand
  | noSuchCommand
  | missingArgument
  | extraArgument
  | notNumber
  | badPath
  deriving DecidableEq, Repr

/-- An option that a command knows. -/
structure OptionSpec where
  /-- The name under which values are kept. -/
  key : String
  long : String
  short : Option Char := none
  takesValue : Bool := true
  deriving DecidableEq, Repr

/-- A command line that has been taken apart. Later options come first. -/
structure Arguments where
  options : List (String × String) := []
  positional : List String := []
  deriving DecidableEq, Repr

namespace Arguments

def option? (a : Arguments) (key : String) : Option String := a.options.lookup key

def has (a : Arguments) (key : String) : Bool := (a.option? key).isSome

def setOption (a : Arguments) (key value : String) : Arguments :=
  { a with options := (key, value) :: a.options }

/-- Options of one word that starts with a single dash: those without a value, and perhaps one last
with the rest of the word as its value. Without such a rest it takes the next word. -/
structure ShortOptions where
  options : List (String × String) := []
  /-- The key of an option that still needs a value. -/
  open? : Option String := none

/-- Reads the letters of short options. -/
def shortOptions (specs : List OptionSpec) : List Char → Except UsageError ShortOptions
  | [] => return {}
  | c :: rest =>
    match specs.find? (·.short == some c) with
    | none => throw .noSuchOption
    | some spec =>
      if spec.takesValue then
        if rest.isEmpty then return { open? := some spec.key }
        else return { options := [(spec.key, String.ofList rest)] }
      else do
        let more ← shortOptions specs rest
        return { more with options := more.options ++ [(spec.key, "")] }

/-- What a word that starts with a dash says. -/
def readOption (specs : List OptionSpec) (word : String) : Except UsageError ShortOptions :=
  let chars := word.toList
  let name := chars.takeWhile (· != '=')
  let value := (chars.drop name.length).tail
  let attached := name.length < chars.length
  match specs.find? (·.long == String.ofList name) with
  | some spec =>
    if spec.takesValue then
      if attached then return { options := [(spec.key, String.ofList value)] }
      else return { open? := some spec.key }
    else if attached then throw .unwantedValue
    else return { options := [(spec.key, "")] }
  | none =>
    match chars with
    | '-' :: '-' :: _ => throw .noSuchOption
    | _ :: letters => shortOptions specs letters
    | [] => throw .noSuchOption

/-- Whether a word is an option: it starts with a dash and is more than one. -/
def isOption (word : String) : Bool :=
  word.toList.head? == some '-' && 1 < word.length

/-- Takes a command line apart. Unless `mixed`, the first positional word ends the options. -/
def parse (specs : List OptionSpec) (mixed : Bool) :
    List String → Arguments → Except UsageError Arguments
  | [], a => return a
  | word :: rest, a =>
    if word == "--" then return { a with positional := a.positional ++ rest }
    else if isOption word then
      match readOption specs word with
      | .error e => throw e
      | .ok short =>
        let a := { a with options := short.options ++ a.options }
        match short.open?, rest with
        | none, rest => parse specs mixed rest a
        | some key, value :: rest => parse specs mixed rest (a.setOption key value)
        | some _, [] => throw .missingValue
    else if mixed then parse specs mixed rest { a with positional := a.positional ++ [word] }
    else return { a with positional := a.positional ++ word :: rest }
  termination_by words => words.length

end Arguments

end LineLint
