import LineLint.Classifier
import LineLint.Rule

/-! # Bun without its flags

Workers, database clients and package scripts that leave out the flags which save memory or
start-up time. -/

namespace LineLint.Rules.BunFlags

open Pattern

/-- The flag that lets a server open its database pool while it starts. -/
def preconnectFlag : String := "--sql-preconnect"

/-- A use of the built-in database client: the name on its own, or a constructor call. -/
def databaseClient : Pattern :=
  either (sequence [boundary, text "Bun.sql", boundary])
    (sequence [boundary, text "new", oneOrMore Text.isBlank, text "SQL("])

/-- A character of a script's name. -/
def isScriptNameChar (c : Char) : Bool := Text.isWord c || c == ':' || c == '.' || c == '-'

/-- An entry of a manifest that maps a script's name to a command of Bun. -/
def bunScript : Pattern :=
  sequence [text "\"", oneOrMore isScriptNameChar, text "\"", many Text.isBlank, text ":",
    many Text.isBlank, text "\"bun", char Text.isBlank]

def workerAdvice : Advice where
  message := "Worker created without smol optimization"
  suggestion := "Pass \x7b smol: true \x7d in the Worker options to reduce per-worker memory."

def databaseAdvice : Advice where
  message := s!"Database client in server file without {preconnectFlag}"
  suggestion :=
    s!"Start the server with `bun {preconnectFlag}` so the pool connects during startup."

def scriptAdvice : Advice where
  message := "Bun script without --smol or --hot flag"
  suggestion := "Add --smol for memory-constrained runs or --hot for development scripts."

/-- Server code that never mentions the flag. -/
def serverWithoutPreconnect (c : Classifier) : Gate := fun file content =>
  c.isServer file && !Text.contains preconnectFlag.toList content.toList

end BunFlags

/-- The rule about the flags of the Bun runtime. -/
def bunFlags (c : Classifier) : Rule where
  name := "Bun Optimizations"
  description := "Detects workers, database clients and package scripts that run without Bun's " ++
    "memory and startup flags."
  comments := .loose
  checks := [
    .line { test := .literal "new Worker(", advice := BunFlags.workerAdvice,
            excuses := ["smol: true"] },
    .line { test := .pattern BunFlags.databaseClient, advice := BunFlags.databaseAdvice,
            gate := BunFlags.serverWithoutPreconnect c },
    .line { test := .pattern BunFlags.bunScript, advice := BunFlags.scriptAdvice,
            excuses := ["--smol", "--hot"], gate := fun file _ => c.isManifest file }]

end LineLint.Rules
