import LineLint.Json.Basic
import LineLint.Text.Decimal

/-! # Reading JSON

A reader of the standard grammar. Every function takes the text that is left and returns what it
read with the rest. No character takes more than two nested steps, which is the fuel that `parse?`
hands out. -/

namespace LineLint.Json

/-- The text without blanks at its start. -/
def skipBlank : List Char → List Char :=
  List.dropWhile fun c => c == ' ' || c == '\n' || c == '\r' || c == '\t'

/-- The value of a hexadecimal digit. -/
def hexValue? (c : Char) : Option Nat :=
  let n := c.toNat
  if 0x30 ≤ n && n ≤ 0x39 then some (n - 0x30)
  else if 0x41 ≤ n && n ≤ 0x46 then some (n - 0x37)
  else if 0x61 ≤ n && n ≤ 0x66 then some (n - 0x57)
  else none

/-- Four hexadecimal digits. -/
def readUnit : List Char → Option (Nat × List Char)
  | a :: b :: c :: d :: rest => do
    let a ← hexValue? a
    let b ← hexValue? b
    let c ← hexValue? c
    let d ← hexValue? d
    return (a * 4096 + b * 256 + c * 16 + d, rest)
  | _ => none

/-- The character of a unit that was escaped, or of two that form a pair. -/
def joinUnits (unit : Nat) (rest : List Char) : Option (Char × List Char) :=
  if 0xD800 ≤ unit && unit < 0xDC00 then
    match rest with
    | '\\' :: 'u' :: rest => do
      let (low, rest) ← readUnit rest
      if 0xDC00 ≤ low && low < 0xE000 then
        return (Char.ofNat (0x10000 + (unit - 0xD800) * 0x400 + (low - 0xDC00)), rest)
      else none
    | _ => none
  else if 0xDC00 ≤ unit && unit < 0xE000 then none
  else some (Char.ofNat unit, rest)

/-- What a short escape stands for. -/
def shortEscape? : Char → Option Char
  | '"' => some '"'
  | '\\' => some '\\'
  | '/' => some '/'
  | 'b' => some '\x08'
  | 'f' => some '\x0c'
  | 'n' => some '\n'
  | 'r' => some '\r'
  | 't' => some '\t'
  | _ => none

/-- The rest of a string whose opening quote has been read. -/
def readString : Nat → List Char → Option (List Char × List Char)
  | 0, _ => none
  | _ + 1, [] => none
  | _ + 1, '"' :: rest => some ([], rest)
  | fuel + 1, '\\' :: 'u' :: rest => do
    let (unit, rest) ← readUnit rest
    let (c, rest) ← joinUnits unit rest
    let (s, rest) ← readString fuel rest
    return (c :: s, rest)
  | fuel + 1, '\\' :: c :: rest => do
    let c ← shortEscape? c
    let (s, rest) ← readString fuel rest
    return (c :: s, rest)
  | fuel + 1, c :: rest => do
    guard (0x20 ≤ c.toNat && c != '\\')
    let (s, rest) ← readString fuel rest
    return (c :: s, rest)

/-- The longest run of ASCII digits, which must not be empty. -/
def readDigits (text : List Char) : Option (List Nat × List Char) :=
  let run := text.takeWhile Char.isDigit
  if run.isEmpty then none
  else some (run.map (·.toNat - 0x30), text.dropWhile Char.isDigit)

/-- The digits after a decimal point, if there is one. -/
def readFraction : List Char → Option (Option (List Nat) × List Char)
  | '.' :: rest => do
    let (digits, rest) ← readDigits rest
    return (some digits, rest)
  | rest => some (none, rest)

/-- The exponent, if there is one. -/
def readExponent : List Char → Option (Option Int × List Char)
  | c :: rest =>
    if c == 'e' || c == 'E' then do
      let (sign, rest) := Text.splitSign rest
      let (digits, rest) ← readDigits rest
      return (some (sign * Text.ofDigits 10 digits), rest)
    else some (none, c :: rest)
  | [] => some (none, [])

/-- A number. -/
def readNumber (text : List Char) : Option (Json × List Char) := do
  let (sign, rest) : Int × List Char := match text with
    | '-' :: rest => (-1, rest)
    | rest => (1, rest)
  let (digits, rest) ← readDigits rest
  guard (digits.head? != some 0 || digits.length == 1)
  let (fraction, rest) ← readFraction rest
  let (exponent, rest) ← readExponent rest
  match fraction, exponent with
  | none, none => return (int (sign * Text.ofDigits 10 digits), rest)
  | _, _ =>
    let fraction := fraction.getD []
    return (decimal (sign * Text.ofDigits 10 (digits ++ fraction))
      (exponent.getD 0 - fraction.length), rest)

mutual

/-- A value. -/
def readValue : Nat → List Char → Option (Json × List Char)
  | 0, _ => none
  | fuel + 1, text =>
    match skipBlank text with
    | 'n' :: 'u' :: 'l' :: 'l' :: rest => some (null, rest)
    | 't' :: 'r' :: 'u' :: 'e' :: rest => some (bool true, rest)
    | 'f' :: 'a' :: 'l' :: 's' :: 'e' :: rest => some (bool false, rest)
    | '"' :: rest => do
      let (s, rest) ← readString fuel rest
      return (string (String.ofList s), rest)
    | '[' :: rest =>
      match skipBlank rest with
      | ']' :: rest => some (array [], rest)
      | rest => do
        let (items, rest) ← readItems fuel rest
        return (array items, rest)
    | '{' :: rest =>
      match skipBlank rest with
      | '}' :: rest => some (object [], rest)
      | rest => do
        let (fields, rest) ← readFields fuel rest
        return (object fields, rest)
    | rest => readNumber rest

/-- The items of a list and its closing bracket. -/
def readItems : Nat → List Char → Option (List Json × List Char)
  | 0, _ => none
  | fuel + 1, text => do
    let (item, rest) ← readValue fuel text
    match skipBlank rest with
    | ',' :: rest =>
      let (items, rest) ← readItems fuel rest
      return (item :: items, rest)
    | ']' :: rest => return ([item], rest)
    | _ => none

/-- The fields of an object and its closing brace. -/
def readFields : Nat → List Char → Option (List (String × Json) × List Char)
  | 0, _ => none
  | fuel + 1, text =>
    match skipBlank text with
    | '"' :: rest => do
      let (name, rest) ← readString fuel rest
      match skipBlank rest with
      | ':' :: rest =>
        let (value, rest) ← readValue fuel rest
        match skipBlank rest with
        | ',' :: rest =>
          let (fields, rest) ← readFields fuel rest
          return ((String.ofList name, value) :: fields, rest)
        | '}' :: rest => return ([(String.ofList name, value)], rest)
        | _ => none
      | _ => none
    | _ => none

end

/-- The document that a text holds, if it holds exactly one. -/
def parse? (text : String) : Option Json := do
  let text := text.toList
  let (document, rest) ← readValue (2 * (text.length + 1)) text
  guard (skipBlank rest).isEmpty
  return document

end LineLint.Json
