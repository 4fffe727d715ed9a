import LineLint.Text.Lines

/-! # Slash-separated paths

A path is read purely as text: empty components and single dots mean nothing and are left out,
double dots stay, since only a file tree can say where they lead. One or three and more slashes
at the start make a path absolute; exactly two are kept apart, as the standard allows. -/

namespace LineLint

/-- Where a path starts. -/
inductive PathRoot where
  | relative
  | slash
  | doubleSlash
  deriving DecidableEq, Repr

/-- A path as written, without the components that mean nothing. -/
structure Path where
  root : PathRoot
  parts : List String
  deriving DecidableEq, Repr

namespace Path

/-- The components between the slashes, without empty ones and single dots. -/
def components (text : List Char) : List (List Char) :=
  (Text.cut '/' text).filter fun part => !(part.isEmpty || part == ['.'])

/-- The root that the leading slashes of a text stand for. -/
def rootOf (text : List Char) : PathRoot :=
  match (text.takeWhile (· == '/')).length with
  | 0 => .relative
  | 2 => .doubleSlash
  | _ => .slash

/-- The path that a text denotes. -/
def parse (text : String) : Path :=
  ⟨rootOf text.toList, (components text.toList).map String.ofList⟩

/-- The absolute path of some components. -/
def absolute (parts : List String) : Path := ⟨.slash, parts⟩

def isAbsolute (p : Path) : Bool := p.root != .relative

/-- The components joined by slashes; a single dot for the empty relative path. -/
def toString (p : Path) : String :=
  let body := "/".intercalate p.parts
  match p.root with
  | .relative => if p.parts.isEmpty then "." else body
  | .slash => "/" ++ body
  | .doubleSlash => "//" ++ body

instance : ToString Path := ⟨toString⟩

/-- `q` seen from `p`; an absolute `q` stays as it is. -/
def join (p q : Path) : Path := if q.isAbsolute then q else { p with parts := p.parts ++ q.parts }

/-- The path without its last component. -/
def parent (p : Path) : Path := { p with parts := p.parts.dropLast }

/-- The last component, empty if there is none. -/
def name (p : Path) : String := p.parts.getLast?.getD ""

/-- The part of a file name from its last dot on; empty if that dot is first or last. -/
def suffixOf (name : String) : String :=
  let reversed := name.toList.reverse
  let extension := reversed.takeWhile (· != '.')
  match reversed.drop extension.length with
  | _ :: _ :: _ => if extension.isEmpty then "" else String.ofList ('.' :: extension.reverse)
  | _ => ""

def suffix (p : Path) : String := suffixOf p.name

/-- The path from `base` down to `p`, if `p` lies there. -/
def relativeTo? (p base : Path) : Option Path :=
  if p.root = base.root && base.parts.isPrefixOf p.parts then
    some ⟨.relative, p.parts.drop base.parts.length⟩
  else none

/-- Paths are ordered by their components, and those by code point. -/
def le (p q : Path) : Bool :=
  !q.parts.lex p.parts fun a b => a.toList.lex b.toList fun c d => c.toNat < d.toNat

end Path

end LineLint
