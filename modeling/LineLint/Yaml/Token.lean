import LineLint.Yaml.Complaint

/-! # YAML tokens

The units of a YAML text. Nesting by indentation has already been turned into start and end
tokens, so that the tokens of a text form a bracketed structure. -/

namespace LineLint.Yaml

/-- Why a text yields no value. -/
inductive Fault where
  /-- The text is not a document. -/
  | malformed (c : Complaint)
  /-- An escape stands for no character. -/
  | badEscape
  /-- The code of an escape takes more than 31 bits. -/
  | hugeEscape
  /-- The collections are nested too deep. -/
  | tooDeep
  /-- A scalar that has to be a number is none. -/
  | badNumber
  /-- A scalar that has to be a number is empty. -/
  | emptyNumber
  /-- A scalar that has to be a boolean is a word with these codes. -/
  | badBool (word : List Nat)
  /-- A scalar that has to be a date is not written as one. -/
  | badMoment
  /-- A date or an offset that does not exist. -/
  | impossibleMoment
  /-- A mapping that has to be a date. -/
  | mappedMoment
  /-- A number has too many groups of base sixty. -/
  | tooManyGroups
  deriving DecidableEq, Repr

namespace Fault

/-- A problem at a place. -/
def here (problem : String) (mark : Mark) : Fault := .malformed (.here problem mark)

/-- A problem at a place, found while reading something that began at another. -/
def within (context : String) (since : Mark) (problem : String) (mark : Mark) : Fault :=
  .malformed (.within context since problem mark)

end Fault

/-- A scalar as it was written. -/
structure ScalarText where
  text : List Char := []
  /-- It stands without quotes and may be typed by its look. -/
  plain : Bool := true
  /-- What has really been written if that is no text, since some of the codes are halves of
  surrogate pairs. `text` has a replacement character for each of them. -/
  broken? : Option (List Nat) := none
  deriving DecidableEq, Repr

/-- A unit of a YAML text. -/
inductive Token where
  | version (major : Nat)
  | tagHandle (handle replacement : List Char)
  | reserved
  | documentStart
  | documentEnd
  | blockSequenceStart
  | blockMappingStart
  | blockEnd
  | flowSequenceStart
  | flowSequenceEnd
  | flowMappingStart
  | flowMappingEnd
  | blockEntry
  | flowEntry
  | key
  | value
  | reference (name : List Char)
  | anchor (name : List Char)
  | tag (handle : Option (List Char)) (suffix : List Char)
  | scalar (s : ScalarText)
  | streamEnd
  deriving DecidableEq, Repr

/-- How a message names a token. -/
def Token.name : Token → String
  | version _ | tagHandle _ _ | reserved => "<directive>"
  | documentStart => "<document start>"
  | documentEnd => "<document end>"
  | blockSequenceStart => "<block sequence start>"
  | blockMappingStart => "<block mapping start>"
  | blockEnd => "<block end>"
  | flowSequenceStart => "["
  | flowSequenceEnd => "]"
  | flowMappingStart => "\x7b"
  | flowMappingEnd => "\x7d"
  | blockEntry => "-"
  | flowEntry => ","
  | key => "?"
  | value => ":"
  | reference _ => "<alias>"
  | anchor _ => "<anchor>"
  | tag _ _ => "<tag>"
  | scalar _ => "<scalar>"
  | streamEnd => "<stream end>"

/-- A token with the places where it starts and ends. -/
structure Lexeme where
  token : Token
  start : Mark
  stop : Mark
  deriving DecidableEq, Repr

end LineLint.Yaml
