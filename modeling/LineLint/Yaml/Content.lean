import LineLint.Value
import LineLint.Yaml.KeyOrder

/-! # What a document holds

The nodes of a document become cells of a table, which refer to each other by their place. So a
value that stands at several places is there once, and one may hold itself. `value` reads the value
of a place off the table. It is cut at a depth: what lies deeper is an empty collection. -/

namespace LineLint.Yaml

/-- What a node has become. -/
inductive Cell where
  | scalar (v : Value)
  | list (items : List Nat)
  /-- A list of pairs. -/
  | pairs (entries : List (Nat × Nat))
  | map (entries : List (Nat × Nat))
  | set (keys : List Nat)

/-- The values without those that are the same as one before. -/
def distinctBy {α : Type} (same : α → α → Bool) (values : List α) : List α :=
  (values.foldl (fun kept v => if kept.any (same v) then kept else v :: kept) []).reverse

namespace Cell

/-- The value of a cell, given those of the places it refers to. -/
def value (below : Nat → Value) : Cell → Value
  | .scalar v => v
  | .list items => .list (items.map below)
  | .pairs entries => .list (entries.map fun (key, value) => .pair (below key) (below value))
  | .map entries => .map (entries.map fun (key, value) => (below key, below value))
  | .set keys => .set (keyOrder (distinctBy Value.sameKey (keys.map below)))

/-- The cell without what it refers to. -/
def emptied : Cell → Cell
  | .scalar v => .scalar v
  | .list _ => .list []
  | .pairs _ => .pairs []
  | .map _ => .map []
  | .set _ => .set []

end Cell

/-- A table of cells and the place of the outermost one. -/
structure Content where
  cells : Array Cell
  root : Nat

/-- A part of a document: what stands at a place, or an item of a list of pairs. -/
inductive Spot where
  | place (place : Nat)
  | pair (key value : Nat)
  deriving DecidableEq, Repr

namespace Content

/-- The cell at a place. -/
def cell (c : Content) (place : Nat) : Cell := c.cells.getD place (.scalar .null)

/-- The values of all places down to a depth. -/
def values (c : Content) : Nat → Array Value
  | 0 => c.cells.map fun cell => cell.emptied.value fun _ => .null
  | depth + 1 =>
    let below := c.values depth
    c.cells.map (Cell.value fun place => below.getD place .null)

/-- How deep a value goes. -/
def valueDepth : Nat := 4

/-- The value of a document. -/
def value (c : Content) : Value := (c.values valueDepth).getD c.root .null

/-- Whether two places hold the same key. -/
def sameKey (c : Content) (a b : Nat) : Bool :=
  match c.cell a, c.cell b with
  | .scalar v, .scalar w => v.sameKey w
  | _, _ => false

/-- The places of the keys, without those that hold the same key as one before. -/
def distinctKeys (c : Content) (keys : List Nat) : List Nat := distinctBy c.sameKey keys

/-- The hash of the key at a place. -/
def hashAt (c : Content) (place : Nat) : UInt64 :=
  match c.cell place with
  | .scalar v => keyHash v
  | _ => 0

/-- The places of the keys of a set in its order. -/
def setKeys (c : Content) (keys : List Nat) : List Nat := tableOrder c.hashAt (c.distinctKeys keys)

/-- Each key of a mapping, in the order in which they first stand, with its last value. -/
def lastEntries (c : Content) (entries : List (Nat × Nat)) : List (Nat × Nat) :=
  (c.distinctKeys (entries.map (·.1))).filterMap fun key =>
    (entries.reverse.find? fun entry => c.sameKey key entry.1).map fun entry => (key, entry.2)

/-! ## Parts -/

/-- The value under a name in the mapping at a place; the last one counts. -/
def field? (c : Content) (name : String) : Spot → Option Spot
  | .place place => match c.cell place with
    | .map entries => (entries.reverse.find? fun entry => match c.cell entry.1 with
        | .scalar (.text s) => s == name
        | _ => false).map fun entry => .place entry.2
    | _ => none
  | .pair _ _ => none

/-- The item of the list or the set at a place. -/
def item? (c : Content) (index : Nat) : Spot → Option Spot
  | .place place => match c.cell place with
    | .list items => items[index]?.map .place
    | .pairs entries => entries[index]?.map fun (key, value) => .pair key value
    | .set keys => (c.setKeys keys)[index]?.map .place
    | _ => none
  | .pair _ _ => none

end Content

end LineLint.Yaml
