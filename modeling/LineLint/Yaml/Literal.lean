import LineLint.Text.Codes
import LineLint.Text.Shortest
import LineLint.Text.Utf8
import LineLint.Yaml.Content

/-! # How a message shows a value

A message about a configuration shows the values that it complains about. A value is shown in one
line: texts in quotes, collections in brackets and braces, and three dots in place of a collection
within itself. Of a long line only the start and the end are shown. -/

namespace LineLint.Yaml

namespace Literal

/-- The number of digits from which on a number is not shown. -/
def maxDigits : Nat := 4300

/-- What is shown instead of a value that cannot be shown. -/
def unprintable : List Char := "<unprintable object>".toList

/-- Texts with a comma between them. -/
def commas (texts : List (List Char)) : List Char := ", ".toList.intercalate texts

/-- Numbers with a comma between them. -/
def numbers (ns : List Nat) : List Char := commas (ns.map Text.digits)

/-- A byte between quotes. -/
def byte (mark : Char) (b : UInt8) : List Char :=
  if b.toNat < 0x80 then Text.quoteChar mark (Char.ofNat b.toNat) else Text.escapeCode b.toNat

/-- Bytes in quotes. -/
def bytes (bs : List UInt8) : List Char :=
  let mark := Text.quoteMark (bs.map fun b => Char.ofNat b.toNat)
  'b' :: mark :: (bs.flatMap (byte mark) ++ [mark])

/-- A span of time, as days and the seconds that remain. -/
def span (seconds : Int) : List Char :=
  let days := seconds.fdiv 86400
  let rest := seconds.fmod 86400
  let parts := (if days == 0 then [] else ["days=".toList ++ Text.decimal days]) ++
    (if rest == 0 then [] else ["seconds=".toList ++ Text.decimal rest])
  "datetime.timedelta(".toList ++ commas parts ++ [')']

/-- An offset from universal time. -/
def zone (offset : Int) : List Char :=
  if offset == 0 then "datetime.timezone.utc".toList
  else "datetime.timezone(".toList ++ span offset ++ [')']

/-- A point in time, without the second and its fraction if they are zero. -/
def moment (t : Timestamp) : List Char :=
  let fine := if t.microsecond != 0 then [t.second, t.microsecond]
    else if t.second != 0 then [t.second] else []
  let offset := match t.offset with
    | none => []
    | some offset => ", tzinfo=".toList ++ zone offset
  "datetime.datetime(".toList ++ numbers ([t.year, t.month, t.day, t.hour, t.minute] ++ fine) ++
    offset ++ [')']

/-- A value that is no collection. -/
def scalar? : Value → Option (List Char)
  | .null => some "None".toList
  | .bool b => some (if b then "True" else "False").toList
  | .int n => if Nat.pow 10 maxDigits ≤ n.natAbs then none else some (Text.decimal n)
  | .float x => some (Text.shortest x)
  | .nan => some "nan".toList
  | .text s => some (Text.quoted s.toList)
  | .brokenText codes => some (Text.quotedCodes codes)
  | .bytes bs => some (bytes bs)
  | .date year month day => some ("datetime.date(".toList ++ numbers [year, month, day] ++ [')'])
  | .moment t => some (moment t)
  | .list _ | .pair _ _ | .map _ | .set _ => none

/-- A list of shown items in brackets. -/
def list (items : List (List Char)) : List Char := '[' :: (commas items ++ [']'])

/-- Two shown values in parentheses. -/
def pair (first second : List Char) : List Char := '(' :: (commas [first, second] ++ [')'])

/-- Shown entries in braces. -/
def map (entries : List (List Char × List Char)) : List Char :=
  '\x7b' :: (commas (entries.map fun (key, value) => key ++ ": ".toList ++ value) ++ ['\x7d'])

/-- Shown keys in braces. -/
def set (keys : List (List Char)) : List Char :=
  if keys.isEmpty then "set()".toList else '\x7b' :: (commas keys ++ ['\x7d'])

/-- The value of a place on one line, down to a depth. `opened` are the collections around it. -/
def place? (c : Content) : Nat → List Nat → Nat → Option (List Char)
  | 0, _, _ => none
  | depth + 1, opened, place =>
    let below := place? c depth (place :: opened)
    let inside := opened.contains place
    match c.cell place with
    | .scalar v => scalar? v
    | .list items => if inside then some "[...]".toList else (items.mapM below).map list
    | .pairs entries =>
      if inside then some "[...]".toList
      else (entries.mapM fun (key, value) => return pair (← below key) (← below value)).map list
    | .map entries =>
      if inside then some "\x7b...\x7d".toList
      else ((c.lastEntries entries).mapM fun (key, value) =>
        return (← below key, ← below value)).map map
    | .set keys => ((c.setKeys keys).mapM below).map set

/-- How deep a value can be to be shown. -/
def maxDepth : Nat := 979

/-- A part of a document on one line. -/
def spot? (c : Content) : Spot → Option (List Char)
  | .place place => place? c maxDepth [] place
  | .pair key value => return pair (← place? c maxDepth [] key) (← place? c maxDepth [] value)

/-- The name of the kind of a value. -/
def scalarKind : Value → String
  | .null => "null"
  | .bool _ => "bool"
  | .int _ => "int"
  | .float _ | .nan => "float"
  | .text _ | .brokenText _ => "text"
  | .bytes _ => "bytes"
  | .date _ _ _ => "date"
  | .moment _ => "moment"
  | .list _ => "list"
  | .pair _ _ => "pair"
  | .map _ => "map"
  | .set _ => "set"

/-- The name of the kind of what stands at a place. -/
def cellKind : Cell → String
  | .scalar v => scalarKind v
  | .list _ | .pairs _ => "list"
  | .map _ => "map"
  | .set _ => "set"

/-! ## Cutting -/

/-- The number of bytes of a line that is shown whole. -/
def maxBytes : Nat := 50

/-- As many characters from the start of a text as take at most some bytes. -/
def takeBytes : Nat → List Char → List Char
  | _, [] => []
  | room, c :: rest =>
    if c.utf8Size ≤ room then c :: takeBytes (room - c.utf8Size) rest else []

/-- The start and the end of a line that is too long. -/
def cut (text : List Char) : List Char :=
  if (Text.Utf8.encode text).length ≤ maxBytes then text
  else takeBytes (maxBytes / 2) text ++ "...".toList ++
    (takeBytes (maxBytes / 2 - 1) text.reverse).reverse

end Literal

/-- The name of the kind of a part of a document. -/
def Content.kind (c : Content) : Spot → String
  | .place place => Literal.cellKind (c.cell place)
  | .pair _ _ => "pair"

/-- How a message shows a part of a document. -/
def Content.literal (c : Content) (spot : Spot) : List Char :=
  Literal.cut ((Literal.spot? c spot).getD Literal.unprintable)

end LineLint.Yaml
