import LineLint.Command.Arguments
import LineLint.Screen.Markup
import LineLint.Settings.Config

/-! # How a command ends

A command ends by showing its help, by refusing its command line, with an exit code, with a
document on the screen and an exit code, or because of a fault that it does not handle. -/

namespace LineLint.Command

/-- A fault that a command does not handle. -/
inductive Crash where
  | access (e : AccessError)
  | load (e : LoadError)
  | markup (e : Markup.MarkupError)
  /-- A path names the home of somebody who is not known. -/
  | unknownHome
  /-- A text holds a byte that is no UTF-8. -/
  | encoding
  deriving DecidableEq, Repr

/-- The end of a command. -/
inductive Ending where
  | help
  | misused (e : UsageError)
  | finished (exitCode : Nat)
  | reported (document : String) (exitCode : Nat)
  | crashed (fault : Crash)
  deriving DecidableEq, Repr

namespace Ending

/-- What the caller of the program is told. Two stands for a request that cannot be met. -/
def exitCode : Ending → Nat
  | help => 0
  | misused _ => 2
  | finished code => code
  | reported _ code => code
  | crashed _ => 1

end Ending

end LineLint.Command
