import LineLint.Classifier
import LineLint.Rule

/-! # Deprecated patterns

Interfaces of older Node versions for which the platform has a better one, and manifests that do
not declare their package to consist of ES modules. -/

namespace LineLint.Rules.Deprecation

open Pattern

/-- What is deprecated, with what to use in its place. -/
def replacements : List (String × String) := [
  ("require(", "Use ES module `import` syntax."),
  ("module.exports", "Use `export` / `export default`."),
  ("__dirname", "Use `import.meta.dir`."),
  ("__filename", "Use `import.meta.path`."),
  ("new Buffer(", "Use `Buffer.from()` or `Buffer.alloc()`."),
  ("fs.exists(", "Use `Bun.file(path).exists()` or `fs.promises.access()`."),
  ("url.parse(", "Use the WHATWG `new URL()` constructor."),
  ("process.binding(", "Use the public module APIs instead of internal bindings.")]

/-- The manifest entry that declares ES modules. -/
def moduleType : Pattern :=
  sequence [text "\"type\"", many Text.isBlank, text ":", many Text.isBlank, text "\"module\""]

def message (needle : String) : String := s!"Deprecated pattern '{needle}' found"

def manifestAdvice : Advice where
  message := "package.json missing \"type\": \"module\""
  suggestion := "Add \"type\": \"module\" so Bun and Node treat .js files as ES modules."

end Deprecation

/-- The rule about deprecated interfaces and module types. -/
def deprecation (c : Classifier) : Rule where
  name := "Stay Updated"
  description := "Detects deprecated APIs and package manifests that do not declare ES module type."
  comments := .strict
  checks :=
    (Deprecation.replacements.map fun (needle, replacement) =>
      .line { test := .literal needle, advice := ⟨Deprecation.message needle, replacement⟩ }) ++
    [.file { requirement := fun content => Deprecation.moduleType.search content.toList,
             advice := Deprecation.manifestAdvice, gate := fun file _ => c.isManifest file }]

end LineLint.Rules
