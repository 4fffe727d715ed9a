import LineLint.Path

/-! # Warnings -/

namespace LineLint

/-- What a user is told beside the result. -/
inductive Warning where
  | configMissing (path : Path)
  | unreadable (path : Path)
  deriving DecidableEq, Repr

def Warning.message : Warning → String
  | configMissing path => s!"Config file {path} not found – using defaults"
  | unreadable path => s!"Failed to read {path} – skipping"

end LineLint
