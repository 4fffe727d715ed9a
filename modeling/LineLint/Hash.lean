/-! # Hashes

`Hash.ofBytes` is the hash SipHash with one round for each word and three rounds at the end, under
the key zero. `Hash.ofWords` mixes a few words into one. `Hash.ofFraction` is a number modulo a
Mersenne prime, so that it does not matter how the number is written. -/

namespace LineLint.Hash

/-- Moves the bits of a word to the left, and those that fall off to its end. -/
def rotate (x : UInt64) (bits : UInt64) : UInt64 := (x <<< bits) ||| (x >>> (64 - bits))

/-- The four words that are mixed with each other. -/
structure State where
  a : UInt64
  b : UInt64
  c : UInt64
  d : UInt64
  deriving DecidableEq, Repr

namespace State

/-- The words at the start, for the key zero. -/
def start : State :=
  ⟨0x736f6d6570736575, 0x646f72616e646f6d, 0x6c7967656e657261, 0x7465646279746573⟩

/-- One round. -/
def mix (s : State) : State :=
  let a := s.a + s.b
  let c := s.c + s.d
  let b := rotate s.b 13 ^^^ a
  let d := rotate s.d 16 ^^^ c
  let a := rotate a 32
  let c := c + b
  let a := a + d
  ⟨a, rotate b 17 ^^^ c, rotate c 32, rotate d 21 ^^^ a⟩

/-- Takes in one word. -/
def absorb (s : State) (word : UInt64) : State :=
  let s := { s with d := s.d ^^^ word }.mix
  { s with a := s.a ^^^ word }

/-- The hash after the last word. -/
def finish (s : State) : UInt64 :=
  let s := { s with c := s.c ^^^ 0xff }.mix.mix.mix
  s.a ^^^ s.b ^^^ s.c ^^^ s.d

end State

/-- The word of at most eight bytes, the least significant first. -/
def word (bytes : List UInt8) : UInt64 :=
  bytes.foldr (fun byte n => n <<< 8 ||| byte.toUInt64) 0

/-- Takes in the bytes, eight at a time, and at last what is left together with the length. -/
def absorbAll (length : Nat) : State → List UInt8 → State
  | s, a :: b :: c :: d :: e :: f :: g :: h :: rest =>
    absorbAll length (s.absorb (word [a, b, c, d, e, f, g, h])) rest
  | s, rest => s.absorb (word rest ||| (UInt64.ofNat (length % 256) <<< 56))

/-- The hash of some bytes; no bytes at all have the hash zero. -/
def ofBytes (bytes : List UInt8) : UInt64 :=
  if bytes.isEmpty then 0 else (absorbAll bytes.length .start bytes).finish

/-- The hash of some words. -/
def ofWords (words : List UInt64) : UInt64 :=
  let mixed := words.foldl
    (fun n word => rotate (n + word * 14029467366897019727) 31 * 11400714785074694791)
    2870177450012600261
  mixed + (UInt64.ofNat words.length ^^^ 2870177450012600261 ^^^ 3527539)

/-- The exponent of the Mersenne prime. -/
def primeExponent : Nat := 61

/-- The prime that numbers are reduced by. -/
def prime : Nat := Nat.pow 2 primeExponent - 1

/-- The hash of a number of which the size is reduced. No number has the hash minus one. -/
def signed (negative : Bool) (size : Nat) : UInt64 :=
  if !negative then UInt64.ofNat size
  else if size == 1 then 0 - 2
  else 0 - UInt64.ofNat size

/-- The hash of the number `mantissa * 2 ^ exponent` or of its negative. -/
def ofFraction (negative : Bool) (mantissa : Nat) (exponent : Int) : UInt64 :=
  signed negative (mantissa * Nat.pow 2 (exponent.emod primeExponent).toNat % prime)

/-- The hash of a whole number. -/
def ofInt (n : Int) : UInt64 := ofFraction (n < 0) n.natAbs 0

/-- The hash of infinity, or of its negative. -/
def ofInfinity (negative : Bool) : UInt64 := signed negative 314159

end LineLint.Hash
