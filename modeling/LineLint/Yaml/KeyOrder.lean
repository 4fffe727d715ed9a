import LineLint.Hash
import LineLint.Text.Codes
import LineLint.Value

/-! # The order of a set

The keys of a set do not keep the order of the document. Each key has a hash, which says where in a
table it belongs; a key whose place is taken goes to the next free one of a sequence of places.
`tableOrder` is the order of the places. -/

namespace LineLint.Yaml

/-! ## Places -/

/-- The least number of places in a table. -/
def leastTable : Nat := 8

/-- The least power of two, from a given one on, that is greater than a number. -/
def powerAbove (least : Nat) : Nat → Nat → Nat
  | 0, _ => least
  | fuel + 1, n => if least ≤ n then powerAbove (2 * least) fuel n else least

/-- The number of places for some keys: more than twice as many, unless they are few. -/
def tableSize (keys : Nat) : Nat :=
  if keys * 5 < (leastTable - 1) * 3 then leastTable else powerAbove leastTable keys (2 * keys)

/-- The number of places after a place that are tried before jumping to another. -/
def nearby : Nat := 9

/-- The first free place of a sequence of at most `fuel` places, with those near them, or else the
end of the table. -/
def freePlace (taken : Array Bool) : Nat → Nat → Nat → Nat
  | 0, _, _ => taken.size
  | fuel + 1, place, jump =>
    let tries := if place + nearby < taken.size then nearby + 1 else 1
    match (List.range tries).find? fun k => !taken.getD (place + k) true with
    | some k => place + k
    | none =>
      let jump := jump / 32
      freePlace taken fuel ((place * 5 + 1 + jump) % taken.size) jump

/-- Gives each key its place, one after the other. -/
def placeAll {α : Type} (hash : α → UInt64) : Array Bool → List α → List (Nat × α)
  | _, [] => []
  | taken, key :: keys =>
    let code := (hash key).toNat
    let place := freePlace taken (2 * taken.size + 64) (code % taken.size) code
    (place, key) :: placeAll hash (taken.setIfInBounds place true) keys

/-- The keys in the order of their places. -/
def tableOrder {α : Type} (hash : α → UInt64) (keys : List α) : List α :=
  let placed := placeAll hash (Array.replicate (tableSize keys.length) false) keys
  (placed.mergeSort fun a b => a.1 ≤ b.1).map (·.2)

/-! ## Hashes of keys -/

/-- The last bytes of a number, the least significant first. -/
def littleBytes : Nat → Nat → List UInt8
  | 0, _ => []
  | width + 1, n => UInt8.ofNat (n % 256) :: littleBytes width (n / 256)

/-- The last bytes of a number, the most significant first. -/
def bigBytes (width n : Nat) : List UInt8 := (littleBytes width n).reverse

/-- The bytes of codes: one, two or four for each, as the greatest of them needs. -/
def codeBytes (codes : List Nat) : List UInt8 :=
  let width := if codes.all (· < 0x100) then 1 else if codes.all (· < 0x10000) then 2 else 4
  codes.flatMap (littleBytes width)

/-- The bytes of a day. -/
def dateBytes (year month day : Nat) : List UInt8 :=
  bigBytes 2 year ++ bigBytes 1 month ++ bigBytes 1 day

/-- The days, seconds and millionths of a second that a number of the last makes. -/
def spanWords (micros : Int) : List UInt64 :=
  let seconds := micros.fdiv 1000000
  [Hash.ofInt (seconds.fdiv 86400), Hash.ofInt (seconds.fmod 86400),
    Hash.ofInt (micros.fmod 1000000)]

/-- The number of days before the first day of all. -/
def daysBeforeFirst : Int := 365

/-- The hash of a point in time. With an offset it is that of the instant. -/
def momentHash (t : Timestamp) : UInt64 :=
  match t.offset with
  | some _ => Hash.ofWords (spanWords (t.instant - daysBeforeFirst * 86400 * 1000000))
  | none => Hash.ofBytes (dateBytes t.year t.month t.day ++
      [t.hour, t.minute, t.second].flatMap (bigBytes 1) ++ bigBytes 3 t.microsecond)

/-- The hash of a key. Equal keys have equal hashes. -/
def keyHash : Value → UInt64
  | .bool b => Hash.ofInt (if b then 1 else 0)
  | .int n => Hash.ofInt n
  | .float x => match Binary.ofFloat? x with
    | some b => Hash.ofFraction b.negative b.mantissa b.exponent
    | none => Hash.ofInfinity (x < 0)
  | .text s => Hash.ofBytes (codeBytes (Text.codes s.toList))
  | .brokenText codes => Hash.ofBytes (codeBytes codes)
  | .bytes bs => Hash.ofBytes bs
  | .date year month day => Hash.ofBytes (dateBytes year month day)
  | .moment t => momentHash t
  | .null | .nan | .list _ | .pair _ _ | .map _ | .set _ => 0

/-- The keys of a set in its order. -/
def keyOrder (keys : List Value) : List Value := tableOrder keyHash keys

end LineLint.Yaml
