import LineLint.Rule

/-! # Configuration in the source

Secrets and hosts written into a line, and reads of the environment in a file that never names a
schema library. -/

namespace LineLint.Rules.Configuration

open Pattern

def isQuote (c : Char) : Bool := c == '\'' || c == '"' || c == '`'

/-- A word that holds the name of a secret, set to a quoted text. -/
def secretAssignment : Pattern :=
  sequence [boundary, many Text.isWord,
    anyOf [textFolded "password", textFolded "passwd", textFolded "secret",
      sequence [textFolded "api", optional (char fun c => c == '_' || c == '-'), textFolded "key"],
      textFolded "token"],
    many Text.isWord, many Text.isBlank, char fun c => c == ':' || c == '=', many Text.isBlank,
    char isQuote, oneOrMore (!isQuote ·), char isQuote]

/-- The local host with the number of an endpoint. -/
def localEndpoint : Pattern :=
  sequence [boundary, textFolded "localhost:", between 2 5 (char Text.isDigit), boundary]

/-- A web address whose host is four numbers. -/
def numericHost : Pattern :=
  let number := between 1 3 (char Text.isDigit)
  sequence [boundary, textFolded "http", optional (textFolded "s"), textFolded "://", number,
    times 3 (seq (text ".") number), boundary]

/-- A character of a user name in a connection address. -/
def isUserChar (c : Char) : Bool :=
  !(Text.isBlank c || isQuote c || c == ':' || c == '@' || c == '/')

/-- A character of a password in a connection address. -/
def isPasswordChar (c : Char) : Bool :=
  !(Text.isBlank c || isQuote c || c == '@' || c == '/')

/-- The address of a database with a user name and a password in it. -/
def connectionAddress : Pattern :=
  sequence [boundary,
    anyOf [seq (textFolded "mongodb") (optional (textFolded "+srv")),
      seq (textFolded "postgres") (optional (textFolded "ql")), textFolded "mysql",
      textFolded "redis"],
    textFolded "://", oneOrMore isUserChar, text ":", oneOrMore isPasswordChar, text "@"]

/-- A value that belongs into the environment. -/
def hardcodedValue : Pattern :=
  anyOf [secretAssignment, localEndpoint, numericHost, connectionAddress]

/-- A variable read from the environment. -/
def environmentAccess : Pattern :=
  sequence [boundary, text "process.env.", oneOrMore Text.isWord]

/-- One of the libraries, named as a whole word. -/
def schemaReference (libraries : List String) : Pattern :=
  sequence [boundary, anyOf (libraries.map text), boundary]

/-- Whether a text names one of the libraries. -/
def usesSchemaLibrary (libraries : List String) (content : String) : Bool :=
  (schemaReference libraries).search content.toList

def hardcodedAdvice : Advice where
  message := "Hardcoded configuration value detected"
  suggestion :=
    "Read the value from process.env (or Bun.env) and keep it out of source control."

def environmentAdvice : Advice where
  message := "Environment variable accessed without validation"
  suggestion :=
    "Parse process.env through a schema (e.g. zod) or use optional chaining with a default."

/-- The libraries that are known without any setting. -/
def defaultLibraries : List String := ["zod", "valibot", "yup", "joi"]

end Configuration

/-- The rule about secrets and the environment. -/
def configuration (libraries : List String) : Rule where
  name := "Configuration Management"
  description := "Detects hardcoded secrets and hosts, and environment reads that bypass " ++
    "schema validation."
  comments := .strict
  checks := [
    .line { test := .pattern Configuration.hardcodedValue, advice := Configuration.hardcodedAdvice,
            excuses := ["process.env", "Bun.env"] },
    .line { test := .pattern Configuration.environmentAccess,
            advice := Configuration.environmentAdvice, excuses := ["?."],
            gate := fun _ content => !Configuration.usesSchemaLibrary libraries content }]

end LineLint.Rules
