import LineLint.Yaml.Content
import LineLint.Yaml.Node
import LineLint.Yaml.Scalar

/-! # The content of a YAML document

`Document.content` goes through the collections of a document in the order in which they are
reached, level by level. It merges mappings into others where they ask for it, reads each scalar
when it is first reached, and stops at the first node that has no value. -/

namespace LineLint.Yaml

open Scalar (standard)

/-- What the type of a node makes of its items. -/
inductive Shape where
  | scalar (read : Scalar.ScalarReader)
  | sequence
  | mapping
  | set
  /-- A sequence of mappings with one entry each; `kind` says what they are together. -/
  | pairs (kind : String)

namespace Node

/-- The type of a node: the given one, or the one that its look or its brackets show. -/
def type (n : Node) : Tag :=
  match n.tag, n.body with
  | some tag, _ => tag
  | none, .scalar s => if s.plain then Scalar.tagOf s.text else standard "str"
  | none, .sequence _ => standard "seq"
  | none, .mapping _ => standard "map"

/-- What a type makes of the items of a node; an unknown type makes nothing of them. -/
def shapeOf? (type : Tag) : Option Shape :=
  match Scalar.reader? type with
  | some read => some (.scalar read)
  | none =>
    if type == standard "seq" then some .sequence
    else if type == standard "map" then some .mapping
    else if type == standard "set" then some .set
    else if type == standard "omap" then some (.pairs "an ordered map")
    else if type == standard "pairs" then some (.pairs "pairs")
    else none

/-- What the type of a node makes of its items. -/
def shape? (n : Node) : Option Shape := shapeOf? n.type

/-- Another kind of node was expected. -/
def unexpected {α : Type} (n : Node) (wanted : String) : Except Fault α :=
  throw (.here s!"expected a {wanted} node, but found {n.body.kind}" n.mark)

end Node

namespace Document

/-- The node at a place. -/
def node (d : Document) (place : Nat) : Node := d.nodes.getD place ⟨none, .scalar {}, {}⟩

def setBody (d : Document) (place : Nat) (body : Body) : Document :=
  { d with nodes := d.nodes.modify place fun node => { node with body } }

/-- The entries of a mapping. -/
def entries? (d : Document) (place : Nat) : Option (List (Nat × Nat)) :=
  match (d.node place).body with
  | .mapping entries => some entries
  | _ => none

/-- The number of all entries. -/
def entryCount (d : Document) : Nat :=
  d.nodes.foldl (fun n node => match node.body with
    | .mapping entries => n + entries.length
    | _ => n) 0

/-! ## Scalars -/

/-- The text of a node that has to be a scalar. A mapping with a default entry counts as that
entry's value. Such entries may lead on to each other as far as there is room. -/
def scalarText : Nat → Document → Nat → Except Fault ScalarText
  | 0, _, _ => throw .tooDeep
  | fuel + 1, d, place =>
    let n := d.node place
    match n.body with
    | .scalar s => return s
    | .sequence _ => n.unexpected "scalar"
    | .mapping entries =>
      match entries.find? fun entry => (d.node entry.1).type == standard "value" with
      | some entry => scalarText fuel d entry.2
      | none => n.unexpected "scalar"

/-- The value of a node that has to be a scalar. A date has to be one itself. -/
def scalarValue (d : Document) (room : Nat) (read : Scalar.ScalarReader) (place : Nat) :
    Except Fault Value := do
  let n := d.node place
  let text ← scalarText room d place
  if n.type == standard "timestamp" && (d.entries? place).isSome then throw .mappedMoment
  read n.mark text

/-! ## Merging -/

/-- A mapping cannot take in what it asks for. -/
def cannotMerge {α : Type} (d : Document) (place source : Nat) (wanted : String) :
    Except Fault α :=
  let found := d.node source
  throw (.within "while constructing a mapping" (d.node place).mark
    s!"expected {wanted} for merging, but found {found.body.kind}" found.mark)

/-- Takes the entries of other mappings into a mapping, in front of its own. `index` is the place
among the entries that is looked at, `merged` what has been taken in so far, and `flatten` does
the same for a mapping that is taken in. -/
def takeIn (flatten : Document → Nat → Except Fault Document) (place : Nat) :
    Nat → Nat → List (Nat × Nat) → Document → Except Fault Document
  | 0, _, _, _ => throw .tooDeep
  | fuel + 1, index, merged, d => do
    let entries := (d.entries? place).getD []
    match entries[index]? with
    | none =>
      if merged.isEmpty then return d else return d.setBody place (.mapping (merged ++ entries))
    | some (key, value) =>
      let type := (d.node key).type
      if type == standard "merge" then do
        let d := d.setBody place (.mapping (entries.eraseIdx index))
        match (d.node value).body with
        | .mapping _ => do
          let d ← flatten d value
          takeIn flatten place fuel index (merged ++ (d.entries? value).getD []) d
        | .sequence sources => do
          let (d, taken) ← sources.foldlM (fun (d, taken) source => do
            if (d.entries? source).isNone then cannotMerge d place source "a mapping"
            let d ← flatten d source
            pure (d, (d.entries? source).getD [] ++ taken)) (d, [])
          takeIn flatten place fuel index (merged ++ taken) d
        | .scalar _ => cannotMerge d place value "a mapping or list of mappings"
      else if type == standard "value" then
        let node := { d.node key with tag := some (standard "str") }
        takeIn flatten place fuel (index + 1) merged
          { d with nodes := d.nodes.setIfInBounds key node }
      else takeIn flatten place fuel (index + 1) merged d

/-- Whether a key has a meaning for the mapping that it is in. -/
def isSpecial (d : Document) (key : Nat) : Bool :=
  let type := (d.node key).type
  type == standard "merge" || type == standard "value"

/-- Merges what a mapping asks for, as far as there is room. -/
def merge : Nat → Document → Nat → Except Fault Document
  | 0, _, _ => throw .tooDeep
  | depth + 1, d, place =>
    if ((d.entries? place).getD []).any fun entry => d.isSpecial entry.1 then
      takeIn (merge depth) place (2 * (d.entryCount + d.nodes.size + 1)) 0 [] d
    else return d

/-! ## Checking -/

/-- The cells that have been made, and the collections that are still to be filled. -/
structure Agenda where
  document : Document
  /-- How far nodes may lead on to each other. -/
  room : Nat
  cells : Array (Option Cell)
  waiting : Array Nat := #[]

namespace Agenda

/-- Nothing has been reached yet. -/
def ofDocument (d : Document) (room : Nat) : Agenda :=
  ⟨d, room, Array.replicate d.nodes.size none, #[]⟩

/-- Makes the cell of a place. -/
def put (a : Agenda) (place : Nat) (cell : Cell) : Agenda :=
  { a with cells := a.cells.setIfInBounds place (some cell) }

/-- A collection is reached, whose items come later. -/
def await (a : Agenda) (place : Nat) (cell : Cell) : Agenda :=
  { a.put place cell with waiting := a.waiting.push place }

/-- Makes sure that a node has a value. -/
def visit (a : Agenda) (place : Nat) : Except Fault Agenda :=
  if ((a.cells[place]?).bind id).isSome then return a
  else
    let n := a.document.node place
    match n.shape? with
    | none =>
      let shown := String.ofList (Text.quoted n.type)
      throw (.here s!"could not determine a constructor for the tag {shown}" n.mark)
    | some (.scalar read) =>
      return a.put place (.scalar (← a.document.scalarValue (a.room - 3) read place))
    | some .sequence => return a.await place (.list [])
    | some .mapping => return a.await place (.map [])
    | some .set => return a.await place (.set [])
    | some (.pairs _) => return a.await place (.pairs [])

/-- Whether what a node has become can be a key. -/
def isKey (a : Agenda) (place : Nat) : Bool :=
  match a.cells[place]? with
  | some (some (.scalar _)) => true
  | _ => false

/-- Visits the keys and values of a mapping, which starts at a mark. -/
def visitEntries (a : Agenda) (since : Mark) (entries : List (Nat × Nat)) :
    Except Fault Agenda :=
  entries.foldlM (fun a (key, value) => do
    let a ← a.visit key
    if !a.isKey key then
      throw (.within "while constructing a mapping" since "found unhashable key"
        (a.document.node key).mark)
    a.visit value) a

/-- The entries of a mapping after merging, all visited. -/
def visitMapping (a : Agenda) (place : Nat) : Except Fault (Agenda × List (Nat × Nat)) := do
  let n := a.document.node place
  if (a.document.entries? place).isNone then n.unexpected "mapping"
  let d ← merge (a.room + 1) a.document place
  let entries := (d.entries? place).getD []
  return (← visitEntries { a with document := d } n.mark entries, entries)

/-- The one entry of a mapping in a list of pairs. -/
def onlyEntry (d : Document) (kind : String) (since : Mark) (place : Nat) :
    Except Fault (Nat × Nat) :=
  let n := d.node place
  match n.body with
  | .mapping [entry] => return entry
  | .mapping entries =>
    let found := s!"{entries.length} items"
    throw (.within s!"while constructing {kind}" since
      s!"expected a single mapping item, but found {found}" n.mark)
  | body =>
    throw (.within s!"while constructing {kind}" since
      s!"expected a mapping of length 1, but found {body.kind}" n.mark)

/-- Visits the entries of a list of pairs. -/
def visitPairs (a : Agenda) (kind : String) (place : Nat) :
    Except Fault (Agenda × List (Nat × Nat)) := do
  let n := a.document.node place
  let .sequence items := n.body
    | throw (.within s!"while constructing {kind}" n.mark
        s!"expected a sequence, but found {n.body.kind}" n.mark)
  items.foldlM (fun (a, entries) item => do
    let entry ← onlyEntry a.document kind n.mark item
    let a ← (← a.visit entry.1).visit entry.2
    pure (a, entries ++ [entry])) (a, [])

/-- Fills a collection with what it holds. -/
def fill (a : Agenda) (place : Nat) : Except Fault Agenda := do
  let n := a.document.node place
  match n.shape? with
  | some .sequence =>
    let .sequence items := n.body | n.unexpected "sequence"
    return (← items.foldlM visit a).put place (.list items)
  | some .mapping =>
    let (a, entries) ← a.visitMapping place
    return a.put place (.map entries)
  | some .set =>
    let (a, entries) ← a.visitMapping place
    return a.put place (.set (entries.map (·.1)))
  | some (.pairs kind) =>
    let (a, entries) ← a.visitPairs kind place
    return a.put place (.pairs entries)
  | _ => return a

/-- Fills the collections that wait, then those that they have reached, and so on. -/
def fillAll : Nat → Agenda → Except Fault Agenda
  | 0, a => return a
  | fuel + 1, a =>
    if a.waiting.isEmpty then return a
    else do fillAll fuel (← a.waiting.foldlM fill { a with waiting := #[] })

end Agenda

/-- The content of a document, if all its nodes have values. -/
def content (d : Document) (room : Nat) : Except Fault Content := do
  let a ← (← (Agenda.ofDocument d room).visit d.root).fillAll (d.nodes.size + 1)
  return ⟨a.cells.map (·.getD (.scalar .null)), d.root⟩

end Document

/-- The content of the one document that a text holds, read in some room; a text without a document
holds null. -/
def read (room : Nat) (text : List Char) : Except Fault Content := do
  match ← Document.ofText? room text with
  | some d => d.content room
  | none => return ⟨#[.scalar .null], 0⟩

end LineLint.Yaml
