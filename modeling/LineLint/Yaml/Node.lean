import LineLint.Yaml.Lexer

/-! # Nodes of a YAML document

A document is a graph: an alias is a second way to a node, and a collection can hold itself. So
nodes stand in a table and refer to each other by their place in it. `Document.ofText?` reads
the one document that a text may hold.

A reader asks the lexer for one token at a time and looks no further ahead than it has to. So of two
faults in a text the one that comes to light first counts, be it one of spelling or one of
structure.

How deep collections may be nested is a matter of room. What is in a collection has less room than
what is around it, and a reader fails where the room that is left is too small for what it has to do
there. -/

namespace LineLint.Yaml

/-- The type that a node is given, explicitly or by its look. -/
abbrev Tag := List Char

/-- What a node consists of. -/
inductive Body where
  | scalar (s : ScalarText)
  | sequence (items : List Nat)
  | mapping (entries : List (Nat × Nat))
  deriving DecidableEq, Repr

/-- What kind of node it is. -/
def Body.kind : Body → String
  | scalar _ => "scalar"
  | sequence _ => "sequence"
  | mapping _ => "mapping"

/-- A node. Without a tag its type is found by its look. -/
structure Node where
  tag : Option Tag
  body : Body
  /-- Where it starts. -/
  mark : Mark
  deriving DecidableEq, Repr

/-- A table of nodes and the place of the outermost one. -/
structure Document where
  nodes : Array Node
  root : Nat
  deriving Repr

namespace Document

/-- The room that a document has when nothing is around it. -/
def wholeRoom : Nat := 983

/-- The state of a reader: the lexer, the room that is left, the nodes so far, the named ones among
them, and the handles of tags. -/
structure Reader where
  lexer : Lexer
  /-- What is left for further nesting. Each level takes away from it. -/
  room : Nat
  nodes : Array Node := #[]
  anchors : List (List Char × Nat) := []
  handles : List (List Char × List Char) := []

/-- Steps of a reader. -/
abbrev Read := StateT Reader (Except Fault)

namespace Read

/-! ## Room -/

/-- Fails unless there is as much room as is needed. -/
def demand (need : Nat) : Read Unit := do Lexer.demand need (← get).room

/-- Steps that have less room, by what is taken away. -/
def inside {α : Type} (taken : Nat) (steps : Read α) : Read α := do
  let room := (← get).room
  Lexer.demand taken room
  modify fun r => { r with room := room - taken }
  let a ← steps
  modify fun r => { r with room }
  return a

/-! ## Tokens -/

/-- The next token with its place. -/
def peek : Read Lexeme := do
  let r ← get
  let lexer ← r.lexer.fill r.room
  set { r with lexer }
  return lexer.head

/-- The next token. -/
def ahead : Read Token := return (← peek).token

/-- Takes the next token. -/
def next : Read Lexeme := do
  let found ← peek
  modify fun r => { r with lexer := r.lexer.take }
  return found

/-- Whether the next token is one of some. -/
def sees (ts : List Token) : Read Bool := return ts.contains (← ahead)

/-- The next token is not the one that has to come. -/
def unexpected {α : Type} (context : String) (since : Mark) (wanted : String) : Read α := do
  let found ← peek
  let name := String.ofList (Text.quoted found.token.name.toList)
  throw (.within context since s!"expected {wanted} {name}" found.start)

/-! ## The table -/

/-- A new node at the end of the table. -/
def add (node : Node) (name : Option (List Char)) : Read Nat := do
  let r ← get
  let place := r.nodes.size
  set { r with nodes := r.nodes.push node,
               anchors := (name.map fun name => (name, place)).toList ++ r.anchors }
  return place

/-- A node with nothing in it, which stands where one is left out. -/
def addEmpty (mark : Mark) : Read Nat := do
  demand 3
  add ⟨none, .scalar {}, mark⟩ none

/-- Fills in the body of a node. -/
def fill (place : Nat) (body : Body) : Read Unit :=
  modify fun r =>
    { r with nodes := r.nodes.modify place fun node => { node with body } }

/-- The place where a node of the table starts. -/
def markOf (place : Nat) : Read Mark := return ((← get).nodes[place]?.map (·.mark)).getD {}

/-- The node of a name, if there is one. -/
def named? (name : List Char) : Read (Option Nat) := return (← get).anchors.lookup name

/-! ## Properties -/

/-- The handles that need no directive. -/
def defaultHandles : List (List Char × List Char) :=
  [(['!'], ['!']), (['!', '!'], "tag:yaml.org,2002:".toList)]

/-- What stands before a node: its name and its tag, in either order, and where they start. -/
structure Properties where
  anchor : Option (List Char) := none
  tag : Option Tag := none
  mark : Option Mark := none

/-- A name before a node. -/
def takeAnchor : Read (Option (List Char × Mark)) := do
  match ← ahead with
  | .anchor name => return some (name, (← next).start)
  | _ => return none

/-- A tag before a node, as its handle and its suffix. -/
def takeTag : Read (Option ((Option (List Char) × List Char) × Mark)) := do
  match ← ahead with
  | .tag handle suffix => return some ((handle, suffix), (← next).start)
  | _ => return none

/-- The tag that a handle and a suffix denote. -/
def resolveTag (since mark : Mark) (handle : Option (List Char)) (suffix : List Char) :
    Read Tag := do
  match handle with
  | none => return suffix
  | some handle => match (← get).handles.lookup handle with
    | some start => return start ++ suffix
    | none =>
      let name := String.ofList (Text.quoted handle)
      throw (.within "while parsing a node" since s!"found undefined tag handle {name}" mark)

/-- The name and the tag of a node. -/
def properties : Read Properties := do
  let before ← takeAnchor
  let tag ← takeTag
  let anchor ← if before.isNone && tag.isSome then takeAnchor else pure before
  let mark := (before.map (·.2)).or (tag.map (·.2))
  let anchor := anchor.map (·.1)
  match tag with
  | none => return { anchor, mark }
  | some ((handle, suffix), place) =>
    let tag ← resolveTag (mark.getD place) place handle suffix
    return { anchor, tag := some tag, mark }

/-- A new node with its properties. Its name must not have been given before. -/
def enter (p : Properties) (mark : Mark) (body : Body) : Read Nat := do
  if let some name := p.anchor then
    if let some first := ← named? name then
      let shown := String.ofList (Text.quoted name)
      throw (.within s!"found duplicate anchor {shown}; first occurrence" (← markOf first)
        "second occurrence" mark)
  add ⟨p.tag.filter (· != ['!']), body, mark⟩ p.anchor

/-- The node that an alias stands for. -/
def aliased (name : List Char) : Read Nat := do
  let place ← next
  match ← named? name with
  | some node => return node
  | none =>
    let shown := String.ofList (Text.quoted name)
    throw (.here s!"found undefined alias {shown}" place.start)

/-- A scalar as its tag lets it be read: a plain one may be typed by its look. -/
def typed (tag : Option Tag) (s : ScalarText) : ScalarText :=
  if tag == some ['!'] then { s with plain := true } else { s with plain := s.plain && tag.isNone }

/-! ## Nodes

The first item or entry after a start token lies one deeper than those that follow: `lead` is one
for it and zero for them. -/

mutual

/-- A node. Block collections may start here if `inBlock`; a sequence may stand at the column of
its key if `dashes`. To find out what it is takes `lead` and two more, and what it holds has two
less than what is around it. -/
def node : Nat → Nat → Bool → Bool → Read Nat
  | 0, _, _, _ => throw .tooDeep
  | fuel + 1, lead, inBlock, dashes => do
    match ← inside (lead + 2) ahead with
    | .reference name => inside (lead + 2) (aliased name)
    | _ =>
      let p ← inside (lead + 2) properties
      let start ← inside (lead + 2) peek
      let mark := p.mark.getD start.start
      match start.token with
      | .scalar s => do
        let _ ← inside (lead + 2) next
        enter p mark (.scalar (typed p.tag s))
      | .flowSequenceStart => do
        let place ← enter p mark (.sequence [])
        let items ← inside 2 (do flowItems fuel 1 (← next).start)
        fill place (.sequence items)
        return place
      | .flowMappingStart => do
        let place ← enter p mark (.mapping [])
        let entries ← inside 2 (do flowEntries fuel 1 (← next).start)
        fill place (.mapping entries)
        return place
      | t =>
        if dashes && t == .blockEntry then do
          let place ← enter p mark (.sequence [])
          let items ← inside 2 (blockItems fuel 0 none)
          fill place (.sequence items)
          return place
        else if inBlock && t == .blockSequenceStart then do
          let place ← enter p mark (.sequence [])
          let items ← inside 2 (do blockItems fuel 1 (some (← next).start))
          fill place (.sequence items)
          return place
        else if inBlock && t == .blockMappingStart then do
          let place ← enter p mark (.mapping [])
          let entries ← inside 2 (do blockEntries fuel 1 (← next).start)
          fill place (.mapping entries)
          return place
        else if p.anchor.isSome || p.tag.isSome then
          enter p mark (.scalar { plain := p.tag.all (· == ['!']) })
        else
          let name := if inBlock then "block" else "flow"
          unexpected s!"while parsing a {name} node" mark "the node content, but found"

/-- The items of a sequence in lines. One in a block of its own has a start and an end token. -/
def blockItems : Nat → Nat → Option Mark → Read (List Nat)
  | 0, _, _ => throw .tooDeep
  | fuel + 1, lead, since => do
    match ← inside lead ahead with
    | .blockEntry => do
      let dash ← inside lead next
      let isEmpty ← inside lead (sees (if since.isSome then [.blockEntry, .blockEnd]
        else [.blockEntry, .key, .value, .blockEnd]))
      let item ← if isEmpty then inside lead (addEmpty dash.stop) else node fuel lead true false
      return item :: (← blockItems fuel 0 since)
    | t =>
      match since with
      | none => return []
      | some since =>
        if t == .blockEnd then do
          let _ ← next
          return []
        else unexpected "while parsing a block collection" since "<block end>, but found"

/-- The entries of a mapping in lines, and its end token. -/
def blockEntries : Nat → Nat → Mark → Read (List (Nat × Nat))
  | 0, _, _ => throw .tooDeep
  | fuel + 1, lead, since => do
    match ← inside lead ahead with
    | .key => do
      let mark ← inside lead next
      let isEmpty ← inside lead (sees [.key, .value, .blockEnd])
      let key ← if isEmpty then inside lead (addEmpty mark.stop) else node fuel lead true true
      let value ← blockValue fuel
      return (key, value) :: (← blockEntries fuel 0 since)
    | .blockEnd => do
      let _ ← next
      return []
    | _ => unexpected "while parsing a block mapping" since "<block end>, but found"

/-- The value of a key in a mapping in lines. -/
def blockValue : Nat → Read Nat
  | 0 => throw .tooDeep
  | fuel + 1 => do
    let found ← inside 1 peek
    if found.token == .value then
      let colon ← inside 1 next
      let isEmpty ← inside 1 (sees [.key, .value, .blockEnd])
      if isEmpty then inside 1 (addEmpty colon.stop) else node fuel 1 true true
    else inside 1 (addEmpty found.start)

/-- The items of a sequence in brackets, and the closing bracket. A key makes an item a mapping
with one entry. -/
def flowItems : Nat → Nat → Mark → Read (List Nat)
  | 0, _, _ => throw .tooDeep
  | fuel + 1, lead, since => do
    if ← inside lead (sees [.flowSequenceEnd]) then
      let _ ← next
      return []
    if lead == 0 then
      if ← sees [.flowEntry] then
        let _ ← next
      else unexpected "while parsing a flow sequence" since "',' or ']', but got"
    if ← inside lead (sees [.key]) then
      let place ← add ⟨none, .mapping [], (← peek).start⟩ none
      let entry ← inside 2 (flowPair fuel)
      fill place (.mapping [entry])
      return place :: (← flowItems fuel 0 since)
    else if ← inside lead (sees [.flowSequenceEnd]) then
      let _ ← next
      return []
    else
      let item ← node fuel lead false false
      return item :: (← flowItems fuel 0 since)

/-- The one entry of a mapping that is an item of a sequence in brackets. -/
def flowPair : Nat → Read (Nat × Nat)
  | 0 => throw .tooDeep
  | fuel + 1 => do
    let mark ← next
    let isEmpty ← sees [.value, .flowEntry, .flowSequenceEnd]
    let key ← if isEmpty then addEmpty mark.stop else node fuel 0 false false
    let value ← flowValue fuel .flowSequenceEnd
    let _ ← peek
    return (key, value)

/-- The entries of a mapping in braces, and the closing brace. -/
def flowEntries : Nat → Nat → Mark → Read (List (Nat × Nat))
  | 0, _, _ => throw .tooDeep
  | fuel + 1, lead, since => do
    if ← inside lead (sees [.flowMappingEnd]) then
      let _ ← next
      return []
    if lead == 0 then
      if ← sees [.flowEntry] then
        let _ ← next
      else unexpected "while parsing a flow mapping" since "',' or '\x7d', but got"
    if ← inside lead (sees [.key]) then
      let mark ← inside lead next
      let isEmpty ← inside lead (sees [.value, .flowEntry, .flowMappingEnd])
      let key ← if isEmpty then inside lead (addEmpty mark.stop) else node fuel lead false false
      let value ← flowValue fuel .flowMappingEnd
      return (key, value) :: (← flowEntries fuel 0 since)
    else if ← inside lead (sees [.flowMappingEnd]) then
      let _ ← next
      return []
    else
      let key ← node fuel lead false false
      let value ← inside 1 (do addEmpty (← peek).start)
      return (key, value) :: (← flowEntries fuel 0 since)

/-- The value of a key inside brackets or braces. -/
def flowValue : Nat → Token → Read Nat
  | 0, _ => throw .tooDeep
  | fuel + 1, close => do
    let found ← inside 1 peek
    if found.token == .value then
      let colon ← inside 1 next
      let isEmpty ← inside 1 (sees [.flowEntry, close])
      if isEmpty then inside 1 (addEmpty colon.stop) else node fuel 1 false false
    else inside 1 (addEmpty found.start)

end

/-! ## Documents -/

/-- What the directives before a document say. -/
structure Directives where
  versioned : Bool := false
  handles : List (List Char × List Char) := []

/-- The directives ahead. -/
def directives : Nat → Directives → Read Directives
  | 0, d => return d
  | fuel + 1, d => do
    let found ← peek
    match found.token with
    | .version major =>
      let _ ← next
      if d.versioned then throw (.here "found duplicate YAML directive" found.start)
      if major != 1 then
        throw (.here "found incompatible YAML document (version 1.* is required)" found.start)
      directives fuel { d with versioned := true }
    | .tagHandle handle replacement =>
      let _ ← next
      if (d.handles.lookup handle).isSome then
        let name := String.ofList (Text.quoted handle)
        throw (.here s!"duplicate tag handle {name}" found.start)
      directives fuel { d with handles := d.handles ++ [(handle, replacement)] }
    | .reserved =>
      let _ ← next
      directives fuel d
    | _ => return d

/-- Past the markers that end a document. -/
def skipEnds : Nat → Read Unit
  | 0 => return
  | fuel + 1 => do
    if ← sees [.documentEnd] then
      let _ ← next
      skipEnds fuel

/-- Past the directives of a document and the marker that starts it. -/
def openDocument (fuel : Nat) : Read Lexeme := do
  let d ← directives fuel {}
  let start ← peek
  if start.token != .documentStart then
    let name := String.ofList (Text.quoted start.token.name.toList)
    throw (.here s!"expected '<document start>', but found {name}" start.start)
  modify fun r => { r with handles := d.handles ++ defaultHandles }
  next

/-- A token that shows that the document has no content. -/
def endsDocument : Token → Bool
  | .version _ | .tagHandle _ _ | .reserved => true
  | .documentStart | .documentEnd | .streamEnd => true
  | _ => false

/-- A token that can stand before the content of a document. -/
def isOutside (t : Token) : Bool := endsDocument t && t != .documentEnd

/-- The outermost node of the first document, if there is a document. -/
def firstDocument (fuel : Nat) : Read (Option Nat) := do
  modify fun r => { r with handles := defaultHandles }
  let start ← ahead
  if start == .streamEnd then return none
  if isOutside start then
    let _ ← openDocument fuel
    let found ← peek
    if endsDocument found.token then return some (← addEmpty found.start)
  return some (← node fuel 1 true false)

/-- Makes sure that no second document follows. -/
def expectEnd (fuel root : Nat) : Read Unit := do
  skipEnds fuel
  let start ← peek
  if start.token != .streamEnd then
    let _ ← openDocument fuel
    throw (.within "expected a single document in the stream" (← markOf root)
      "but found another document" start.start)

/-- The one document of a text, if there is one. -/
def document (fuel : Nat) : Read (Option Document) := do
  match ← firstDocument fuel with
  | none => return none
  | some root =>
    expectEnd fuel root
    return some ⟨(← get).nodes, root⟩

end Read

/-- The document that a text holds, read in some room; `none` if it holds none. -/
def ofText? (room : Nat) (text : List Char) : Except Fault (Option Document) := do
  let lexer ← Lexer.ofText text
  return (← (Read.document (16 * (text.length + 2))).run { lexer, room }).1

end Document

end LineLint.Yaml
