import LineLint.Json.Reader
import LineLint.Text.Codes
import LineLint.Yaml.Token

/-! # Scalars in a YAML text

The five ways to write a scalar. Line breaks inside one are folded: a single break reads as a
space, and of several the first is dropped. Loops take the number of characters left as fuel,
since each round consumes at least one. `since` is where a scalar began, for complaints. -/

namespace LineLint.Yaml

/-! ## Quoted scalars -/

/-- What an escape of one character stands for. -/
def shortEscape? : Char → Option Char
  | '0' => some (Char.ofNat 0)
  | 'a' => some '\x07'
  | 'b' => some '\x08'
  | 't' => some '\t'
  | '\t' => some '\t'
  | 'n' => some '\n'
  | 'v' => some '\x0b'
  | 'f' => some '\x0c'
  | 'r' => some '\r'
  | 'e' => some '\x1b'
  | ' ' => some ' '
  | '"' => some '"'
  | '\\' => some '\\'
  | '/' => some '/'
  | 'N' => some (Char.ofNat 0x85)
  | '_' => some (Char.ofNat 0xA0)
  | 'L' => some (Char.ofNat 0x2028)
  | 'P' => some (Char.ofNat 0x2029)
  | _ => none

/-- The number of hexadecimal digits of an escape by code. -/
def codeLength? : Char → Option Nat
  | 'x' => some 2
  | 'u' => some 4
  | 'U' => some 8
  | _ => none

/-- The number that some hexadecimal digits stand for. -/
def hexNumber? (digits : List Char) : Option Nat :=
  (digits.mapM Json.hexValue?).map (Text.ofDigits 16)

/-- A quoted scalar cannot be read. -/
def quotedFault {α : Type} (since : Mark) (problem : String) (c : Cursor) : Except Fault α :=
  throw (.within "while scanning a quoted scalar" since problem c.mark)

/-- An escape in double quotes cannot be read. -/
def escapeFault {α : Type} (since : Mark) (problem : String) (c : Cursor) : Except Fault α :=
  throw (.within "while scanning a double-quoted scalar" since problem c.mark)

/-- The text ends inside quotes. -/
def unclosed {α : Type} (since : Mark) (c : Cursor) : Except Fault α :=
  quotedFault since "found unexpected end of stream" c

/-- The line breaks ahead, and the blanks around them. A document marker must not stand at the
start of a line. -/
def quotedBreaks (since : Mark) : Nat → Cursor → Except Fault (List Char × Cursor)
  | 0, c => unclosed since c
  | fuel + 1, c => do
    if c.atDocumentMarker then quotedFault since "found unexpected document separator" c
    let c := c.skip isInlineBlank
    if c.at? isBreak then
      let (lineBreak, c) := c.takeBreak
      let (more, c) ← quotedBreaks since fuel c
      return (lineBreak ++ more, c)
    else return ([], c)

/-- A line break and those after it, folded. -/
def foldedBreaks (since : Mark) (c : Cursor) : Except Fault (List Char × Cursor) := do
  let (lineBreak, c) := c.takeBreak
  let (more, c) ← quotedBreaks since c.fuel c
  if lineBreak != ['\n'] then return (lineBreak ++ more, c)
  else if more.isEmpty then return ([' '], c)
  else return (more, c)

/-- An escaped code, if it is one. -/
def escapedCode (code : Nat) : Except Fault Nat :=
  if 0x80000000 ≤ code then throw .hugeEscape
  else if 0x110000 ≤ code then throw .badEscape
  else return code

/-- An escape by code, whose letter has been read. -/
def escapeByCode (since : Mark) (length : Nat) (c : Cursor) : Except Fault (Nat × Cursor) := do
  let digits := (c.rest.take length).takeWhile fun ch => (Json.hexValue? ch).isSome
  if digits.length < length then
    let found := Complaint.showNext { c with rest := c.rest.drop digits.length }
    escapeFault since
      s!"expected escape sequence of {length} hexadecimal numbers, but found {found}" c
  return (← escapedCode ((hexNumber? digits).getD 0), c.advance length)

/-- The codes of an escape whose backslash has been read. -/
def escape (since : Mark) (c : Cursor) : Except Fault (List Nat × Cursor) := do
  match c.peek.bind shortEscape?, c.peek.bind codeLength? with
  | some value, _ => return ([value.toNat], c.next)
  | none, some length =>
    let (value, c) ← escapeByCode since length c.next
    return ([value], c)
  | none, none =>
    if c.at? isBreak then
      let (breaks, c) ← quotedBreaks since c.fuel c.takeBreak.2
      return (Text.codes breaks, c)
    else escapeFault since s!"found unknown escape character {Complaint.showNext c}" c

/-- The codes of the rest of a scalar in quotes, up to the closing quote. -/
def quotedRest (double : Bool) (since : Mark) : Nat → Cursor → Except Fault (List Nat × Cursor)
  | 0, c => unclosed since c
  | fuel + 1, c =>
    match c.rest with
    | [] => unclosed since c
    | ch :: rest =>
      if !double && ch == '\'' && rest.head? == some '\'' then do
        let (more, c) ← quotedRest double since fuel (c.advance 2)
        return (ch.toNat :: more, c)
      else if ch == (if double then '"' else '\'') then return ([], c.next)
      else if double && ch == '\\' then do
        let (value, c) ← escape since c.next
        let (more, c) ← quotedRest double since fuel c
        return (value ++ more, c)
      else if isSeparator ch then do
        let (blanks, c) := c.take isInlineBlank
        let (value, c) ←
          if c.peek.isNone then unclosed since c
          else if c.at? isBreak then foldedBreaks since c
          else pure (blanks, c)
        let (more, c) ← quotedRest double since fuel c
        return (Text.codes value ++ more, c)
      else do
        let (more, c) ← quotedRest double since fuel c.next
        return (ch.toNat :: more, c)

/-- A scalar with some codes. -/
def ScalarText.ofCodes (codes : List Nat) : ScalarText where
  text := Text.ofCodes codes
  plain := false
  broken? := if codes.any Text.isHalf then some codes else none

/-- The codes of a scalar. -/
def ScalarText.codes (s : ScalarText) : List Nat := s.broken?.getD (Text.codes s.text)

/-- A scalar in quotes. -/
def quoted (double : Bool) (c : Cursor) : Except Fault (ScalarText × Cursor) := do
  let (codes, c') ← quotedRest double c.mark c.fuel c.next
  return (.ofCodes codes, c')

/-! ## Block scalars -/

/-- What becomes of the line breaks at the end of a block scalar. -/
inductive Chomping where
  | strip
  | clip
  | keep
  deriving DecidableEq

def chomping? : Char → Option Chomping
  | '-' => some .strip
  | '+' => some .keep
  | _ => none

/-- A block scalar cannot be read. -/
def blockFault {α : Type} (since : Mark) (problem : String) (c : Cursor) : Except Fault α :=
  throw (.within "while scanning a block scalar" since problem c.mark)

/-- A digit that says how far a block is indented. -/
def increment (since : Mark) (c : Cursor) : Except Fault (Option Nat × Cursor) :=
  match c.peek with
  | some ch =>
    if ch == '0' then
      blockFault since "expected indentation indicator in the range 1-9, but found 0" c
    else if ch.isDigit then pure (some (ch.toNat - 0x30), c.next)
    else pure (none, c)
  | none => pure (none, c)

/-- A sign that says what becomes of the last line breaks. -/
def chompingSign (c : Cursor) : Option Chomping × Cursor :=
  match c.peek.bind chomping? with
  | some chomping => (some chomping, c.next)
  | none => (none, c)

/-- The sign and the digit of a block scalar, in either order. -/
def blockHeader (since : Mark) (c : Cursor) : Except Fault ((Chomping × Option Nat) × Cursor) := do
  let (before, c) := chompingSign c
  let (width, c) ← increment since c
  let (chomping, c) := match before, width with
    | none, some _ => chompingSign c
    | _, _ => (before, c)
  if c.atEndOr isSpaceOrBreak then return ((chomping.getD .clip, width), c)
  else
    let found := Complaint.showNext c
    blockFault since s!"expected chomping or indentation indicators, but found {found}" c

/-- The rest of a line that may hold a comment and nothing else. -/
def ignoredLine (context : String) (since : Mark) (c : Cursor) : Except Fault Cursor :=
  let c := c.skip (· == ' ')
  let c := if c.at? (· == '#') then c.skip (!isBreak ·) else c
  if c.atEndOr isBreak then return c.takeBreak.2
  else
    let found := Complaint.showNext c
    throw (.within context since s!"expected a comment or a line break, but found {found}" c.mark)

/-- Past the spaces before a column. -/
def skipIndent (column : Nat) (c : Cursor) : Cursor :=
  c.advance ((c.rest.take (column - c.column)).takeWhile (· == ' ')).length

/-- The empty lines ahead of a block that is indented to a column. -/
def blockBreaks (column : Nat) : Nat → Cursor → List (List Char) × Cursor
  | 0, c => ([], c)
  | fuel + 1, c =>
    let c := skipIndent column c
    if c.at? isBreak then
      let (lineBreak, c) := c.takeBreak
      let (more, c) := blockBreaks column fuel c
      (lineBreak :: more, c)
    else ([], c)

/-- The empty lines ahead of a block, and the greatest column that spaces reach in them. -/
def blockIndentation : Nat → Nat → Cursor → (List (List Char) × Nat) × Cursor
  | 0, deepest, c => (([], deepest), c)
  | fuel + 1, deepest, c =>
    if c.at? isBreak then
      let (lineBreak, c) := c.takeBreak
      let ((more, deepest), c) := blockIndentation fuel deepest c
      ((lineBreak :: more, deepest), c)
    else if c.at? (· == ' ') then
      let c := c.next
      blockIndentation fuel (max deepest c.column) c
    else (([], deepest), c)

/-- The lines of a block. `breaks` are the line breaks since the last line. -/
def blockLines (folded : Bool) (chomping : Chomping) (column : Nat) :
    Nat → List (List Char) → Cursor → List Char × Cursor
  | 0, _, c => ([], c)
  | fuel + 1, breaks, c =>
    let tight := !c.at? isInlineBlank
    let (line, c) := c.take (!isBreak ·)
    let (lineBreak, c) := c.takeBreak
    let (after, c) := blockBreaks column c.fuel c
    let start := breaks.flatten ++ line
    if c.column == column && c.peek.isSome then
      let joint :=
        if folded && lineBreak == ['\n'] && tight && !c.at? isInlineBlank then
          if after.isEmpty then [' '] else []
        else lineBreak
      let (more, c) := blockLines folded chomping column fuel after c
      (start ++ joint ++ more, c)
    else match chomping with
      | .strip => (start, c)
      | .clip => (start ++ lineBreak, c)
      | .keep => (start ++ lineBreak ++ after.flatten, c)

/-- A block scalar below a collection that is indented to `indent`. -/
def block (folded : Bool) (indent : Int) (c : Cursor) : Except Fault (ScalarText × Cursor) := do
  let since := c.mark
  let ((chomping, width), c) ← blockHeader since c.next
  let c ← ignoredLine "while scanning a block scalar" since c
  let least := (max (indent + 1) 1).toNat
  let fuel := c.fuel
  let ((breaks, column), c) := match width with
    | none =>
      let ((breaks, deepest), c) := blockIndentation fuel 0 c
      ((breaks, max least deepest), c)
    | some width =>
      let column := least + width - 1
      let (breaks, c) := blockBreaks column fuel c
      ((breaks, column), c)
  let (text, c) :=
    if c.column == column && c.peek.isSome then blockLines folded chomping column fuel breaks c
    else match chomping with
      | .keep => (breaks.flatten, c)
      | _ => ([], c)
  return ({ text, plain := false }, c)

/-! ## Plain scalars -/

/-- Whether a plain scalar ends before the next character. -/
def endsPlain (inFlow : Bool) (c : Cursor) : Bool :=
  match c.peek with
  | none => true
  | some ch =>
    isSeparator ch ||
    (ch == ':' && (c.separatorAt 1 ||
      (inFlow && (c.peekAt 1).any (",[]\x7b\x7d".toList.contains ·)))) ||
    (inFlow && ",?[]\x7b\x7d".toList.contains ch)

/-- The characters of a plain scalar up to the next blank or its end. -/
def plainWord (inFlow : Bool) : Nat → Cursor → List Char × Cursor
  | 0, c => ([], c)
  | fuel + 1, c =>
    if endsPlain inFlow c then ([], c)
    else
      let (more, rest) := plainWord inFlow fuel c.next
      (c.peek.toList ++ more, rest)

/-- The line breaks and spaces after a break inside a plain scalar; `none` if a document marker
stands at the start of a line. -/
def plainBreaks : Nat → Cursor → Option (List Char) × Cursor
  | 0, c => (some [], c)
  | fuel + 1, c =>
    if c.at? (· == ' ') then plainBreaks fuel c.next
    else if c.at? isBreak then
      let (lineBreak, c) := c.takeBreak
      if c.atDocumentMarker then (none, c)
      else
        let (more, c) := plainBreaks fuel c
        (more.map (lineBreak ++ ·), c)
    else (some [], c)

/-- What stands between two words of a plain scalar. -/
structure PlainGap where
  /-- The folded blanks; empty if the scalar cannot go on. -/
  text : List Char
  /-- A line ended, so that a key may follow. -/
  broken : Bool
  rest : Cursor

/-- The blanks after a word of a plain scalar. -/
def plainGap (c : Cursor) : PlainGap :=
  let (spaces, c) := c.take (· == ' ')
  if c.at? isBreak then
    let (lineBreak, c) := c.takeBreak
    if c.atDocumentMarker then ⟨[], true, c⟩
    else match plainBreaks c.fuel c with
      | (none, c) => ⟨[], true, c⟩
      | (some breaks, c) =>
        let start := if lineBreak != ['\n'] then lineBreak else if breaks.isEmpty then [' '] else []
        ⟨start ++ breaks, true, c⟩
  else ⟨spaces, false, c⟩

/-- The words of a plain scalar, and whether a key may follow it. -/
def plainWords (inFlow : Bool) (indent : Int) : Nat → Cursor → (List Char × Bool) × Cursor
  | 0, c => (([], false), c)
  | fuel + 1, c =>
    let (word, c) := plainWord inFlow c.fuel c
    let gap := plainGap c
    let next := gap.rest
    if gap.text.isEmpty || next.at? (· == '#') || (!inFlow && next.column < indent) ||
        endsPlain inFlow next then ((word, gap.broken), next)
    else
      let ((more, broken), c) := plainWords inFlow indent fuel next
      ((word ++ gap.text ++ more, broken), c)

/-- A plain scalar below a collection that is indented to `indent`, and whether a key may
follow. -/
def plain (inFlow : Bool) (indent : Int) (c : Cursor) : (ScalarText × Bool) × Cursor :=
  let ((text, broken), c) := plainWords inFlow (indent + 1) c.fuel c
  (({ text }, broken), c)

end LineLint.Yaml
