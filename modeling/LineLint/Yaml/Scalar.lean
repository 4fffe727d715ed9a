import LineLint.Text.Case
import LineLint.Text.Lines
import LineLint.Timestamp
import LineLint.Value
import LineLint.Yaml.Node
import LineLint.Yaml.ScalarText

/-! # Typed scalars

`tagOf` finds the type of a plain scalar by its look, and one reader per type turns a text into a
value. The readers accept more than `tagOf` does, because a scalar may be given a type explicitly.
Numbers may hold underscores, and groups of base sixty between colons. -/

namespace LineLint.Yaml.Scalar

/-- The tag of a type of the standard. -/
def standard (name : String) : Tag := "tag:yaml.org,2002:".toList ++ name.toList

/-! ## Numbers by look -/

def isDigitOrMark (c : Char) : Bool := c.isDigit || c == '_'

/-- Digits and underscores, of which the first satisfies a test. -/
def isNumeral (first : Char → Bool) : List Char → Bool
  | [] => false
  | c :: rest => first c && rest.all isDigitOrMark

/-- A group of base sixty. -/
def isSixty : List Char → Bool
  | [c] => c.isDigit
  | [c, d] => '0' ≤ c && c ≤ '5' && d.isDigit
  | _ => false

/-- A numeral and at least one group of base sixty after it. -/
def isSexagesimal (first : Char → Bool) (text : List Char) : Bool :=
  match Text.cut ':' text with
  | numeral :: group :: groups => isNumeral first numeral && (group :: groups).all isSixty
  | _ => false

/-- An integer: binary, octal, decimal, hexadecimal or sexagesimal. -/
def isInt (text : List Char) : Bool :=
  let isNonzero := fun (c : Char) => '1' ≤ c && c ≤ '9'
  let isRun := fun (p : Char → Bool) (run : List Char) =>
    !run.isEmpty && run.all fun c => p c || c == '_'
  match (Text.splitSign text).2 with
  | ['0'] => true
  | '0' :: 'b' :: rest => isRun (fun c => c == '0' || c == '1') rest
  | '0' :: 'x' :: rest => isRun (fun c => (Json.hexValue? c).isSome) rest
  | '0' :: rest => isRun (fun c => '0' ≤ c && c ≤ '7') rest
  | rest => isNumeral isNonzero rest || isSexagesimal isNonzero rest

/-- Nothing, or an exponent, which has to have a sign. -/
def isExponent : List Char → Bool
  | [] => true
  | e :: sign :: rest =>
    (e == 'e' || e == 'E') && (sign == '-' || sign == '+') && !rest.isEmpty &&
      rest.all Char.isDigit
  | _ => false

/-- A number with a point, infinity, or what is no number. -/
def isFloat (text : List Char) : Bool :=
  let (before, after) := (Text.splitSign text).2.span (· != '.')
  match after with
  | [] => false
  | _ :: fraction =>
    let (digits, rest) := fraction.span isDigitOrMark
    if before.isEmpty then
      (text.head? == some '.' && isNumeral Char.isDigit digits && isExponent rest) ||
        ["inf", "Inf", "INF"].contains (String.ofList fraction) ||
        (text.head? == some '.' && ["nan", "NaN", "NAN"].contains (String.ofList fraction))
    else
      (isNumeral Char.isDigit before && isExponent rest) ||
        (isSexagesimal Char.isDigit before && rest.isEmpty)

/-! ## Dates -/

/-- Between `least` and `most` digits at the start of a text. -/
def takeDigits (least most : Nat) (text : List Char) : Option (Nat × List Char) :=
  let run := (text.take most).takeWhile Char.isDigit
  if run.length < least then none
  else some (Text.ofDigits 10 (run.map (·.toNat - 0x30)), text.drop run.length)

/-- The rest of a text after a character it has to start with. -/
def takeChar (c : Char) : List Char → Option (List Char)
  | d :: rest => if d == c then some rest else none
  | [] => none

/-- A fraction of a second, in millionths. -/
def takeFraction : List Char → Nat × List Char
  | '.' :: rest =>
    let (run, rest) := rest.span Char.isDigit
    let digits := (run ++ List.replicate 6 '0').take 6
    (Text.ofDigits 10 (digits.map (·.toNat - 0x30)), rest)
  | rest => (0, rest)

/-- An offset from universal time, in seconds; nothing may follow it. -/
def readZone (text : List Char) : Option (Option Int) :=
  if text.isEmpty then some none
  else match text.dropWhile isInlineBlank with
    | ['Z'] => some (some 0)
    | c :: rest =>
      if c == '+' || c == '-' then do
        let (hour, rest) ← takeDigits 1 2 rest
        let minute ← match rest with
          | [] => pure 0
          | rest => do
            let (minute, rest) ← takeDigits 2 2 (← takeChar ':' rest)
            guard rest.isEmpty
            pure minute
        let seconds : Int := hour * 3600 + minute * 60
        return some (if c == '-' then -seconds else seconds)
      else none
    | [] => none

/-- A point in time, and whether a time of day is part of it. -/
def readMoment? (text : List Char) : Option (Timestamp × Bool) := do
  let (year, rest) ← takeDigits 4 4 text
  let (month, rest) ← takeDigits 1 2 (← takeChar '-' rest)
  let (day, rest) ← takeDigits 1 2 (← takeChar '-' rest)
  match rest with
  | [] => return (⟨year, month, day, 0, 0, 0, 0, none⟩, false)
  | c :: after =>
    guard (c == 'T' || c == 't' || isInlineBlank c)
    let rest := if isInlineBlank c then rest.dropWhile isInlineBlank else after
    let (hour, rest) ← takeDigits 1 2 rest
    let (minute, rest) ← takeDigits 2 2 (← takeChar ':' rest)
    let (second, rest) ← takeDigits 2 2 (← takeChar ':' rest)
    let (microsecond, rest) := takeFraction rest
    let offset ← readZone rest
    return (⟨year, month, day, hour, minute, second, microsecond, offset⟩, true)

/-- A date with all its digits, or a point in time. -/
def isMoment (text : List Char) : Bool :=
  match readMoment? text with
  | some (_, timed) => timed || text.length == 10
  | none => false

/-! ## Types by look -/

def boolWords : List String :=
  ["yes", "Yes", "YES", "no", "No", "NO", "true", "True", "TRUE", "false", "False", "FALSE",
    "on", "On", "ON", "off", "Off", "OFF"]

def nullWords : List String := ["~", "null", "Null", "NULL", ""]

/-- The type of a plain scalar. A line feed at the end of the text does not count. -/
def tagOf (text : List Char) : Tag :=
  let text := if text.length != 1 && text.getLast? == some '\n' then text.dropLast else text
  let word := String.ofList text
  standard <|
    if boolWords.contains word then "bool"
    else if isFloat text then "float"
    else if isInt text then "int"
    else if word == "<<" then "merge"
    else if nullWords.contains word then "null"
    else if isMoment text then "timestamp"
    else if word == "=" then "value"
    else if ["!", "&", "*"].contains word then "yaml"
    else "str"

/-! ## Values -/

def withoutMarks (text : List Char) : List Char := text.filter (· != '_')

/-- The number of some groups of base sixty. -/
def sexagesimal (groups : List Int) : Int := groups.foldl (fun n group => n * 60 + group) 0

/-- The sum of groups of base sixty, least first, each times its weight. The weight has to be a
floating-point number too. -/
def sexagesimalSum : Nat → Float → List Float → Except Fault Float
  | _, sum, [] => return sum
  | weight, sum, group :: groups =>
    let factor := Float.ofNat weight
    if factor.isInf then throw .tooManyGroups
    else sexagesimalSum (weight * 60) (sum + group * factor) groups

/-- An integer in any of its notations. -/
def readInt (text : List Char) : Except Fault Value := do
  let text := withoutMarks text
  if text.isEmpty then throw .emptyNumber
  let (sign, text) := Text.splitSign text
  let read := fun (base : Nat) (text : List Char) =>
    match Text.readIntIn? base text with
    | some n => pure n
    | none => throw Fault.badNumber
  let n ← match text with
    | [] => throw .emptyNumber
    | ['0'] => pure 0
    | '0' :: 'b' :: rest => read 2 rest
    | '0' :: 'x' :: rest => read 16 rest
    | '0' :: _ => read 8 text
    | _ =>
      if text.contains ':' then do
        return .int (sign * sexagesimal (← (Text.cut ':' text).mapM (read 10)))
      else read 10 text
  return .int (sign * n)

/-- A number with or without a point and an exponent. -/
def readDecimal (text : List Char) : Option Float := do
  let (sign, text) := Text.splitSign (Text.trimSpace text)
  let signed := fun (x : Float) => if sign < 0 then -x else x
  let word := String.ofList text
  if word == "inf" || word == "infinity" then return signed (1 / 0)
  if word == "nan" then return 0 / 0
  let (before, rest) := text.span Text.isDigit
  let (after, rest) := match rest with
    | '.' :: rest => rest.span Text.isDigit
    | rest => ([], rest)
  let digits ← (before ++ after).mapM Text.digitValue?
  guard !digits.isEmpty
  let exponent ← match rest with
    | [] => pure 0
    | 'e' :: rest => do
      let (sign, rest) := Text.splitSign rest
      let digits ← rest.mapM Text.digitValue?
      guard !digits.isEmpty
      pure (sign * Text.ofDigits 10 digits)
    | _ => none
  return signed (Value.ofDecimal (Text.ofDigits 10 digits) (exponent - after.length))

/-- A number with a point in any of its notations. -/
def readFloat (text : List Char) : Except Fault Value := do
  let text := (withoutMarks text).map Char.toLower
  if text.isEmpty then throw .emptyNumber
  let (sign, text) := Text.splitSign text
  let signed := fun (x : Float) => Value.float (if sign < 0 then -x else x)
  let read := fun (text : List Char) =>
    match readDecimal text with
    | some x => pure x
    | none => throw Fault.badNumber
  if text == ".inf".toList then return signed (1 / 0)
  else if text == ".nan".toList then return .nan
  else if text.contains ':' then
    return signed (← sexagesimalSum 1 0 (← (Text.cut ':' text).mapM read).reverse)
  else return signed (← read text)

/-- A boolean written as a word in any case. -/
def readBool (s : ScalarText) : Except Fault Value :=
  let word := String.ofList (Text.lower s.text)
  if ["yes", "true", "on"].contains word then return .bool true
  else if ["no", "false", "off"].contains word then return .bool false
  else throw (.badBool (Text.lowerCodes s.codes))

/-- A date or a point in time that exists. -/
def readMoment (text : List Char) : Except Fault Value :=
  let line := if text.getLast? == some '\n' then text.dropLast else text
  match readMoment? line with
  | none => throw .badMoment
  | some (t, timed) =>
    if !t.isValid then throw .impossibleMoment
    else return if timed then .moment t else .date t.year t.month t.day

/-- The value of a character of the base 64 alphabet. -/
def base64Value? (c : Char) : Option Nat :=
  let n := c.toNat
  if 0x41 ≤ n && n ≤ 0x5A then some (n - 0x41)
  else if 0x61 ≤ n && n ≤ 0x7A then some (n - 0x47)
  else if 0x30 ≤ n && n ≤ 0x39 then some (n + 4)
  else if c == '+' then some 62
  else if c == '/' then some 63
  else none

/-- The bytes of a text in base 64. `held` are the values read of a group of four and `pads` the
padding seen since the last one. Characters outside the alphabet are passed over, and what follows
the padding is ignored. -/
def base64 : List Nat → Nat → List Char → Option (List UInt8)
  | held, _, [] => if held.isEmpty then some [] else none
  | held, pads, c :: rest =>
    if c == '=' then
      if 2 ≤ held.length then
        if 4 ≤ held.length + pads + 1 then some [] else base64 held (pads + 1) rest
      else base64 held pads rest
    else match base64Value? c with
      | none => base64 held pads rest
      | some value =>
        let byte := fun (n : Nat) => UInt8.ofNat (n % 256)
        match held with
        | [] => base64 [value] 0 rest
        | [a] => (base64 [a, value] 0 rest).map (byte (a * 4 + value / 16) :: ·)
        | [a, b] => (base64 [a, b, value] 0 rest).map (byte (b * 16 + value / 4) :: ·)
        | _ :: _ :: d :: _ => (base64 [] 0 rest).map (byte (d * 64 + value) :: ·)

/-- Bytes written in base 64, by a node at a place. -/
def readBytes (mark : Mark) (text : List Char) : Except Fault Value :=
  if text.all (·.toNat < 0x80) then
    match base64 [] 0 text with
    | some bytes => return .bytes bytes
    | none => throw (.here "failed to decode base64 data: incorrect length or padding" mark)
  else throw (.here "failed to convert base64 data into ascii: ordinal not in range(128)" mark)

/-- A text, unless what has been written is none. -/
def readText (s : ScalarText) : Value :=
  match s.broken? with
  | some codes => .brokenText codes
  | none => .text (String.ofList s.text)

/-- How to read a scalar that a node at a place gives. -/
abbrev ScalarReader := Mark → ScalarText → Except Fault Value

/-- The readers of scalars, by tag. -/
def readers : List (String × ScalarReader) := [
  ("null", fun _ _ => pure .null), ("bool", fun _ s => readBool s),
  ("int", fun _ s => readInt s.text), ("float", fun _ s => readFloat s.text),
  ("binary", fun mark s => readBytes mark s.text), ("timestamp", fun _ s => readMoment s.text),
  ("str", fun _ s => pure (readText s))]

/-- The reader for a tag, if scalars can have it. -/
def reader? (tag : Tag) : Option ScalarReader :=
  readers.findSome? fun (name, read) => if standard name == tag then some read else none

end LineLint.Yaml.Scalar
