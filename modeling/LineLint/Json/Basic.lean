/-! # JSON values

A value keeps its fields in the order in which they were written. Numbers without a fraction and
an exponent are integers; all others keep their decimal digits. -/

namespace LineLint

/-- A JSON document. -/
inductive Json where
  | null
  | bool (b : Bool)
  | int (n : Int)
  /-- The number `mantissa * 10 ^ exponent`. -/
  | decimal (mantissa exponent : Int)
  | string (s : String)
  | array (items : List Json)
  | object (fields : List (String × Json))
  deriving Repr

namespace Json

/-- A string, or null where there is none. -/
def ofString? : Option String → Json
  | some s => string s
  | none => null

/-- An integer, or null where there is none. -/
def ofInt? : Option Int → Json
  | some n => int n
  | none => null

def strings (items : List String) : Json := array (items.map string)

/-- The field of an object; the last one counts if the name is repeated. -/
def field? (name : String) : Json → Option Json
  | object fields => (fields.reverse.find? (·.1 == name)).map (·.2)
  | _ => none

end Json

end LineLint
