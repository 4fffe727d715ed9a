import LineLint.Text.Utf8
import LineLint.Yaml.ScalarText

/-! # From text to YAML tokens

The lexer walks over the text once. Two things make it more than a word splitter. Indentation is
turned into start and end tokens, for which the lexer keeps the open columns. And whether a word
is a key shows only at the colon behind it: until then the word is a pending key, and the tokens
that announce a key are put in before it afterwards. A pending key has to stay on one line and be
no longer than 1024 characters.

A text is read in some room, which limits how deep it can be nested: the reader gives the room that
is left where it asks for a token, and each kind of token needs some of it.

Tokens are read only when they are asked for. The next token is certain as soon as it is no pending
key, so `fill` reads on exactly while there is no token or the next one may still become a key. What
is wrong further on in the text comes to light when the lexer gets there. -/

namespace LineLint.Yaml

/-- A word that a colon may turn into a key. -/
structure PendingKey where
  /-- The number of tokens before it. -/
  token : Nat
  /-- It stands where only a key can stand. -/
  required : Bool
  mark : Mark

/-- The state of a walk over a text. -/
structure Lexer where
  cursor : Cursor
  /-- The tokens that have been read and not yet been taken. -/
  tokens : List Lexeme := []
  /-- The number of tokens that have been taken. -/
  taken : Nat := 0
  /-- The end of the text has been read. -/
  done : Bool := false
  /-- The number of open brackets and braces. -/
  flow : Nat := 0
  /-- The column of the innermost open block. -/
  indent : Int := -1
  /-- The columns of the blocks around it. -/
  outer : List Int := []
  /-- A key may start here. -/
  keyAllowed : Bool := true
  /-- The pending key of each bracket depth. -/
  pending : List (Nat × PendingKey) := []

namespace Lexer

/-- The greatest number of characters of a key before its colon. -/
def maxKeyLength : Nat := 1024

def inFlow (l : Lexer) : Bool := l.flow != 0

/-- The place that has been reached. -/
def mark (l : Lexer) : Mark := l.cursor.mark

/-- Leaves a token without extent. -/
def push (t : Token) (l : Lexer) : Lexer := { l with tokens := l.tokens ++ [⟨t, l.mark, l.mark⟩] }

/-- Puts a token without extent before those from a number on. -/
def insert (number : Nat) (t : Token) (mark : Mark) (l : Lexer) : Lexer :=
  let (before, after) := l.tokens.splitAt (number - l.taken)
  { l with tokens := before ++ ⟨t, mark, mark⟩ :: after }

/-- Goes on to a place, leaving a token for what lies in between. -/
def goTo (c : Cursor) (t : Token) (l : Lexer) : Lexer :=
  { l with cursor := c, tokens := l.tokens ++ [⟨t, l.mark, c.mark⟩] }

/-- Past `n` characters, leaving a token. -/
def emit (n : Nat) (t : Token) (l : Lexer) : Lexer := l.goTo (l.cursor.advance n) t

/-! ## Pending keys -/

/-- A key that has to be one has no colon. -/
def noColon {α : Type} (key : PendingKey) (l : Lexer) : Except Fault α :=
  throw (.within "while scanning a simple key" key.mark "could not find expected ':'" l.mark)

/-- A key that can no longer become one. -/
def isStale (l : Lexer) (key : PendingKey) : Bool :=
  key.mark.line != l.cursor.line || maxKeyLength < l.cursor.index - key.mark.index

/-- Drops the pending keys that can no longer become keys. -/
def dropStale (l : Lexer) : Except Fault Lexer :=
  match l.pending.find? fun entry => l.isStale entry.2 && entry.2.required with
  | some (_, key) => noColon key l
  | none => return { l with pending := l.pending.filter fun entry => !l.isStale entry.2 }

/-- Gives up the pending key of the current depth. -/
def dropPending (l : Lexer) : Except Fault Lexer :=
  match l.pending.lookup l.flow with
  | some key =>
    if key.required then noColon key l
    else return { l with pending := l.pending.filter (·.1 != l.flow) }
  | none => return l

/-- Notes that the next token may be a key. -/
def notePending (l : Lexer) : Except Fault Lexer := do
  if l.keyAllowed then
    let l ← l.dropPending
    let key : PendingKey := {
      token := l.taken + l.tokens.length, required := !l.inFlow && l.indent == l.cursor.column,
      mark := l.mark }
    return { l with pending := (l.flow, key) :: l.pending }
  else return l

/-! ## Indentation -/

/-- Closes the blocks that are indented further than a column. -/
def unindentTo (column : Int) : Nat → Lexer → Lexer
  | 0, l => l
  | fuel + 1, l =>
    if column < l.indent then
      unindentTo column fuel
        { (l.push .blockEnd) with indent := l.outer.headD (-1), outer := l.outer.tail }
    else l

/-- Closes the blocks that are indented further than a column; brackets suspend this. -/
def unindent (column : Int) (l : Lexer) : Lexer :=
  if l.inFlow then l else unindentTo column (l.outer.length + 1) l

/-- Opens a block at a place unless one is open in its column. The start token goes to a
number. -/
def indentTo (mark : Mark) (number : Nat) (start : Token) (l : Lexer) : Lexer :=
  if l.indent < mark.column then
    { l.insert number start mark with indent := mark.column, outer := l.indent :: l.outer }
  else l

/-! ## Directives and tags -/

/-- What is being read, and where it began. -/
structure Reading where
  doing : String
  since : Mark

namespace Reading

/-- Something else than what comes next was expected. -/
def unexpected {α : Type} (r : Reading) (wanted : String) (c : Cursor) : Except Fault α :=
  let found := Complaint.showNext c
  throw (.within r.doing r.since s!"expected {wanted}, but found {found}" c.mark)

/-- Refuses anything but the end of the text and what satisfies a test. -/
def expect (r : Reading) (wanted : String) (p : Char → Bool) (c : Cursor) :
    Except Fault Cursor :=
  if c.atEndOr p then return c else r.unexpected wanted c

/-- Refuses anything but one character, which is not passed. -/
def expectChar (r : Reading) (wanted : Char) (c : Cursor) : Except Fault Unit :=
  if c.at? (· == wanted) then return () else r.unexpected s!"'{wanted}'" c

end Reading

/-- A number of a directive. -/
def directiveNumber (r : Reading) (c : Cursor) : Except Fault (Nat × Cursor) := do
  let (digits, rest) := c.take Char.isDigit
  if digits.isEmpty then r.unexpected "a digit" c
  else if Text.maxDigits < digits.length then throw .badNumber
  else return (Text.ofDigits 10 (digits.map (·.toNat - 0x30)), rest)

/-- Characters of a tag. -/
def isTagChar (c : Char) : Bool := c.isAlphanum || "-;/?:@&=+$,_.!~*'()[]%".toList.contains c

/-- The bytes of the percent escapes ahead. -/
def percentBytes (r : Reading) : Nat → Cursor → Except Fault (List UInt8 × Cursor)
  | 0, c => return ([], c)
  | fuel + 1, c => do
    if !c.at? (· == '%') then return ([], c)
    let digits := (c.rest.drop 1).take 2
    let valid := digits.takeWhile fun ch => (Json.hexValue? ch).isSome
    if valid.length < 2 then
      let found := Complaint.showNext { c with rest := c.rest.drop (1 + valid.length) }
      throw (.within r.doing r.since
        s!"expected URI escape sequence of 2 hexadecimal numbers, but found {found}" c.next.mark)
    let (more, c) ← percentBytes r fuel (c.advance 3)
    return (UInt8.ofNat ((hexNumber? digits).getD 0) :: more, c)

/-- The characters of a tag, with percent escapes resolved. -/
def tagChars (r : Reading) : Nat → Cursor → Except Fault (List Char × Cursor)
  | 0, c => return ([], c)
  | fuel + 1, c =>
    if c.at? (· == '%') then do
      let (bytes, rest) ← percentBytes r c.fuel c
      let some text := Text.Utf8.decode? bytes
        | throw (.within r.doing r.since "the escaped bytes are no text" c.mark)
      let (more, c) ← tagChars r fuel rest
      return (text ++ more, c)
    else if c.at? isTagChar then do
      let (more, rest) ← tagChars r fuel c.next
      return (c.peek.toList ++ more, rest)
    else return ([], c)

/-- A tag without its handle. `name` says what it is part of. -/
def tagSuffix (name : String) (since : Mark) (c : Cursor) :
    Except Fault (List Char × Cursor) := do
  if c.at? isTagChar then tagChars ⟨s!"while scanning a {name}", since⟩ c.fuel c
  else Reading.unexpected ⟨s!"while parsing a {name}", since⟩ "URI" c

/-- The handle of a tag: one exclamation mark, or a name between two. -/
def tagHandle (name : String) (since : Mark) (c : Cursor) :
    Except Fault (List Char × Cursor) := do
  let r : Reading := ⟨s!"while scanning a {name}", since⟩
  r.expectChar '!' c
  if c.next.at? (· == ' ') then return (['!'], c.next)
  let (word, c) := c.next.take isNameChar
  r.expectChar '!' c
  return ('!' :: word ++ ['!'], c.next)

/-- The rest of a version directive. -/
def versionDirective (r : Reading) (c : Cursor) : Except Fault (Token × Cursor) := do
  let (major, c) ← directiveNumber r (c.skip (· == ' '))
  if !c.at? (· == '.') then r.unexpected "a digit or '.'" c
  let (_, c) ← directiveNumber r c.next
  return (.version major, ← r.expect "a digit or ' '" isSpaceOrBreak c)

/-- The rest of a directive that defines a handle. -/
def handleDirective (r : Reading) (c : Cursor) : Except Fault (Token × Cursor) := do
  let (handle, c) ← tagHandle "directive" r.since (c.skip (· == ' '))
  r.expectChar ' ' c
  let (replacement, c) ← tagSuffix "directive" r.since (c.skip (· == ' '))
  return (.tagHandle handle replacement, ← r.expect "' '" isSpaceOrBreak c)

/-- A directive, from its percent sign to the end of its line. -/
def directive (c : Cursor) : Except Fault (Token × Cursor) := do
  let r : Reading := ⟨"while scanning a directive", c.mark⟩
  let (name, c) := c.next.take isNameChar
  if name.isEmpty then r.unexpected "alphabetic or numeric character" c
  let c ← r.expect "alphabetic or numeric character" isSpaceOrBreak c
  let (token, c) ←
    if name == "YAML".toList then versionDirective r c
    else if name == "TAG".toList then handleDirective r c
    else pure (Token.reserved, c.skip (!isBreak ·))
  return (token, ← ignoredLine r.doing r.since c)

/-- An anchor or an alias, as `name` says. -/
def anchorName (name : String) (c : Cursor) : Except Fault (List Char × Cursor) := do
  let r : Reading := ⟨s!"while scanning an {name}", c.mark⟩
  let (word, c) := c.next.take isNameChar
  if word.isEmpty then r.unexpected "alphabetic or numeric character" c
  return (word, ← r.expect "alphabetic or numeric character"
    (fun ch => isSeparator ch || "?:,]\x7d%@`".toList.contains ch) c)

/-- A tag. -/
def tag (c : Cursor) : Except Fault (Token × Cursor) := do
  let since := c.mark
  let (token, c) ←
    if (c.peekAt 1) == some '<' then do
      let (suffix, c) ← tagSuffix "tag" since (c.advance 2)
      Reading.expectChar ⟨"while parsing a tag", since⟩ '>' c
      pure (Token.tag none suffix, c.next)
    else if c.separatorAt 1 then pure (Token.tag none ['!'], c.next)
    else do
      let hasHandle := (c.next.run (!isSpaceOrBreak ·)).contains '!'
      let (handle, c) ← if hasHandle then tagHandle "tag" since c else pure (['!'], c.next)
      let (suffix, c) ← tagSuffix "tag" since c
      pure (Token.tag (some handle) suffix, c)
  return (token, ← Reading.expect ⟨"while scanning a tag", since⟩ "' '" isSpaceOrBreak c)

/-! ## One token -/

/-- A document marker or a directive: all blocks end, and no key may follow. -/
def closeAll (l : Lexer) : Except Fault Lexer := do
  let l ← (l.unindent (-1)).dropPending
  return { l with keyAllowed := false }

/-- The end of the text. -/
def finish (l : Lexer) : Except Fault Lexer := do
  let l ← l.closeAll
  return { l.push .streamEnd with pending := [], done := true }

/-- A document marker. -/
def documentMarker (t : Token) (l : Lexer) : Except Fault Lexer := do
  return (← l.closeAll).emit 3 t

/-- A bracket or brace that opens a collection. -/
def openFlow (t : Token) (l : Lexer) : Except Fault Lexer := do
  let l ← l.notePending
  return { l.emit 1 t with flow := l.flow + 1, keyAllowed := true }

/-- A bracket or brace that closes a collection, if one is open. -/
def closeFlow (t : Token) (l : Lexer) : Except Fault Lexer := do
  let l ← l.dropPending
  return { l.emit 1 t with flow := l.flow - 1, keyAllowed := false }

def flowEntry (l : Lexer) : Except Fault Lexer := do
  let l ← l.dropPending
  return { l.emit 1 .flowEntry with keyAllowed := true }

/-- An indicator that may open a block. Outside brackets it needs a place where a key could start;
`things` names what it announces. -/
def blockIndicator (things : String) (start t : Token) (keyAllowed : Bool) (l : Lexer) :
    Except Fault Lexer := do
  if !l.inFlow && !l.keyAllowed then throw (.here s!"{things} are not allowed here" l.mark)
  let l := if l.inFlow then l else l.indentTo l.mark (l.taken + l.tokens.length) start
  let l ← l.dropPending
  return { l.emit 1 t with keyAllowed }

/-- The colon of a value. It turns a pending key into a key. -/
def valueIndicator (l : Lexer) : Except Fault Lexer := do
  match l.pending.lookup l.flow with
  | some key =>
    let l := { l with pending := l.pending.filter (·.1 != l.flow) }.insert key.token .key key.mark
    let l := if l.inFlow then l else l.indentTo key.mark key.token .blockMappingStart
    return { l.emit 1 .value with keyAllowed := false }
  | none => l.blockIndicator "mapping values" .blockMappingStart .value (!l.inFlow)

/-- A word that may be a key. -/
def word (read : Cursor → Except Fault (Token × Cursor)) (l : Lexer) : Except Fault Lexer := do
  let l ← l.notePending
  let (t, c) ← read l.cursor
  return { l.goTo c t with keyAllowed := false }

/-- A scalar in quotes. -/
def quotedScalar (double : Bool) (c : Cursor) : Except Fault (Token × Cursor) := do
  let (s, c) ← quoted double c
  return (.scalar s, c)

def blockScalar (folded : Bool) (l : Lexer) : Except Fault Lexer := do
  let l ← l.dropPending
  let (s, c) ← block folded l.indent l.cursor
  return { l.goTo c (.scalar s) with keyAllowed := true }

def plainScalar (l : Lexer) : Except Fault Lexer := do
  let l ← l.notePending
  let ((s, keyAllowed), c) := plain l.inFlow l.indent l.cursor
  return { l.goTo c (.scalar s) with keyAllowed }

/-- Past blanks, comments and line breaks. After a line break a key may start, outside
brackets. -/
def skipBlank : Nat → Lexer → Lexer
  | 0, l => l
  | fuel + 1, l =>
    let c := l.cursor.skip (· == ' ')
    let c := if c.at? (· == '#') then c.skip (!isBreak ·) else c
    if c.at? isBreak then
      skipBlank fuel { l with cursor := c.takeBreak.2, keyAllowed := l.keyAllowed || !l.inFlow }
    else { l with cursor := c }

/-- Past all that stands before the next token, and past the mark of an encoding. -/
def skipToToken (l : Lexer) : Lexer :=
  let c := l.cursor
  let c := if c.index == 0 && c.peek == some byteOrderMark then c.next else c
  { l with cursor := c }.skipBlank c.fuel

/-- Whether a plain scalar can start here. -/
def startsPlain (l : Lexer) : Bool :=
  match l.cursor.peek with
  | none => false
  | some ch =>
    (!isSeparator ch && !("-?:,[]\x7b\x7d#&*!|>'\"%@`".toList.contains ch)) ||
    (!l.cursor.separatorAt 1 && (ch == '-' || (!l.inFlow && (ch == '?' || ch == ':'))))

/-- The token that starts with a character. -/
def readToken (ch : Char) (l : Lexer) : Except Fault Lexer :=
  let c := l.cursor
  let indicates := l.inFlow || c.separatorAt 1
  if ch == '%' && c.column == 0 then do
    let l ← l.closeAll
    let (t, c) ← directive l.cursor
    return l.goTo c t
  else if c.column == 0 && c.atMarker '-' then l.documentMarker .documentStart
  else if c.column == 0 && c.atMarker '.' then l.documentMarker .documentEnd
  else if ch == '[' then l.openFlow .flowSequenceStart
  else if ch == '{' then l.openFlow .flowMappingStart
  else if ch == ']' then l.closeFlow .flowSequenceEnd
  else if ch == '}' then l.closeFlow .flowMappingEnd
  else if ch == ',' then l.flowEntry
  else if ch == '-' && c.separatorAt 1 then
    l.blockIndicator "sequence entries" .blockSequenceStart .blockEntry true
  else if ch == '?' && indicates then
    l.blockIndicator "mapping keys" .blockMappingStart .key (!l.inFlow)
  else if ch == ':' && indicates then l.valueIndicator
  else if ch == '*' then
    l.word fun c => do
      let (name, c) ← anchorName "alias" c
      return (.reference name, c)
  else if ch == '&' then
    l.word fun c => do
      let (name, c) ← anchorName "anchor" c
      return (.anchor name, c)
  else if ch == '!' then l.word tag
  else if ch == '|' && !l.inFlow then l.blockScalar false
  else if ch == '>' && !l.inFlow then l.blockScalar true
  else if ch == '\'' then l.word (quotedScalar false)
  else if ch == '"' then l.word (quotedScalar true)
  else if l.startsPlain then l.plainScalar
  else
    let found := Complaint.showNext c
    throw (.malformed {
      context := some "while scanning for the next token",
      problem := s!"found character {found} that cannot start any token", mark := some c.mark })

/-! ## Reading ahead -/

/-- Fails unless there is as much room as is needed. -/
def demand (need room : Nat) : Except Fault Unit :=
  if room < need then throw .tooDeep else return ()

/-- Whether the text has been read to its end and ends in a line break. -/
def endsInBreak (l : Lexer) : Bool :=
  l.cursor.peek.isNone && l.cursor.column == 0 && l.cursor.line != 0

/-- The room that it took to read the token from `before` to `after`, whose first character is
`ch`. -/
def effort (ch : Option Char) (before after : Lexer) : Nat :=
  match after.tokens.getLast?.map Lexeme.token with
  | some .flowSequenceStart | some .flowMappingStart => if before.keyAllowed then 8 else 7
  | some .flowEntry | some .blockEntry | some .key | some .value => 6
  | some .streamEnd => if !before.inFlow && -1 < before.indent then 7 else 6
  | some (.scalar _) =>
    if ch.any fun ch => ch == '|' || ch == '>' then 9
    else if ch.any fun ch => ch == '"' || ch == '\'' then 8
    else if after.endsInBreak then 8 else 7
  | _ => 7

/-- Reads one token, and those that go with it, in some room. -/
def step (room : Nat) (l : Lexer) : Except Fault Lexer := do
  demand 5 room
  let l ← l.skipToToken.dropStale
  let l := l.unindent l.cursor.column
  let ch := l.cursor.peek
  let after ← match ch with
    | none => l.finish
    | some ch => l.readToken ch
  demand (effort ch l after) room
  return after

/-- Reads on until the next token is certain. -/
def fillFrom (room : Nat) : Nat → Lexer → Except Fault Lexer
  | 0, l => return l
  | fuel + 1, l => do
    if l.done then return l
    else if l.tokens.isEmpty then fillFrom room fuel (← l.step room)
    else
      demand 3 room
      let l ← l.dropStale
      if l.pending.any (·.2.token == l.taken) then fillFrom room fuel (← l.step room) else return l

/-- Reads on until the next token is certain. What is nested deep leaves little room for that. -/
def fill (room : Nat) (l : Lexer) : Except Fault Lexer := do
  demand 2 room
  fillFrom room (l.cursor.fuel + 1) l

/-- The next token, which has to be there. -/
def head (l : Lexer) : Lexeme := l.tokens.headD ⟨.streamEnd, l.mark, l.mark⟩

/-- Takes the next token away. -/
def take (l : Lexer) : Lexer := { l with tokens := l.tokens.tail, taken := l.taken + 1 }

end Lexer

/-- Whether a character may stand in a YAML text at all. -/
def isPrintable (c : Char) : Bool :=
  let n := c.toNat
  n == 9 || n == 0xA || n == 0xD || (0x20 ≤ n && n ≤ 0x7E) || n == 0x85 ||
    (0xA0 ≤ n && n ≤ 0xFFFD) || 0x10000 ≤ n

/-- The start of a text, unless it holds characters that no YAML text can hold. -/
def Lexer.ofText (text : List Char) : Except Fault Lexer :=
  if text.all isPrintable then return { cursor := .ofText text }
  else throw (.malformed { problem := "special characters are not allowed" })

end LineLint.Yaml
