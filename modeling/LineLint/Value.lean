import LineLint.Binary
import LineLint.Json.Basic
import LineLint.Timestamp

/-! # Values of a configuration document

What a document can hold once its scalars have been given their types. A mapping keeps its keys in
the order of the document; where a key is repeated the last entry counts. -/

namespace LineLint

/-- A typed value. -/
inductive Value where
  | null
  | bool (b : Bool)
  | int (n : Int)
  | float (x : Float)
  /-- What the word for "not a number" stands for. It is one and the same wherever it stands. -/
  | nan
  | text (s : String)
  /-- What has been written as a text but is none: some of its codes are halves of surrogate
  pairs. -/
  | brokenText (codes : List Nat)
  | bytes (b : List UInt8)
  | date (year month day : Nat)
  | moment (t : Timestamp)
  | list (items : List Value)
  | pair (first second : Value)
  | map (entries : List (Value × Value))
  | set (items : List Value)

namespace Value

/-- Whether a value counts as nothing: null, false, zero and whatever is empty. -/
def isBlank : Value → Bool
  | null => true
  | bool b => !b
  | int n => n == 0
  | float x => x == 0
  | text s => s.isEmpty
  | bytes b => b.isEmpty
  | list items => items.isEmpty
  | map entries => entries.isEmpty
  | set items => items.isEmpty
  | nan | brokenText _ | date _ _ _ | moment _ | pair _ _ => false

/-- The whole number that a boolean or a whole number stands for. -/
def whole? : Value → Option Int
  | bool b => some (if b then 1 else 0)
  | int n => some n
  | _ => none

/-- Whether a floating-point number is a whole number. -/
def isWhole (x : Float) (n : Int) : Bool := (Binary.ofFloat? x).any (·.isInt n)

/-- Whether two scalars are one and the same key: numbers and booleans by their number, points in
time by their instant, all others by kind and content. -/
def sameKey : Value → Value → Bool
  | null, null => true
  | nan, nan => true
  | text s, text t => s == t
  | brokenText s, brokenText t => s == t
  | bytes a, bytes b => a == b
  | date y m d, date y' m' d' => y == y' && m == m' && d == d'
  | moment t, moment u => t.offset.isSome == u.offset.isSome && t.instant == u.instant
  | float x, float y => x == y
  | float x, b => b.whole?.any (isWhole x)
  | a, float y => a.whole?.any (isWhole y)
  | a, b => match a.whole?, b.whole? with
    | some m, some n => m == n
    | _, _ => false

/-- The number that a decimal numeral comes closest to. -/
def ofDecimal (mantissa exponent : Int) : Float :=
  let size := exponent.natAbs
  let x :=
    if mantissa == 0 then 0
    else if exponent < 0 then
      if mantissa.natAbs.log2 + 400 < size then 0
      else OfScientific.ofScientific mantissa.natAbs true size
    else if 400 < size then 1 / 0
    else OfScientific.ofScientific mantissa.natAbs false size
  if mantissa < 0 then -x else x

mutual

/-- The value of a JSON document. -/
def ofJson : Json → Value
  | .null => null
  | .bool b => bool b
  | .int n => int n
  | .decimal mantissa exponent => float (ofDecimal mantissa exponent)
  | .string s => text s
  | .array items => list (ofItems items)
  | .object fields => map (ofFields fields)

/-- The values of the items of a list. -/
def ofItems : List Json → List Value
  | [] => []
  | item :: items => ofJson item :: ofItems items

/-- The value of a field under its name. -/
def ofField : String × Json → Value × Value
  | (name, value) => (text name, ofJson value)

/-- The entries of an object. -/
def ofFields : List (String × Json) → List (Value × Value)
  | [] => []
  | field :: fields => ofField field :: ofFields fields

end

end Value

end LineLint
