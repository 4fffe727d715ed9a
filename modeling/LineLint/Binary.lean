/-! # Floating-point numbers as fractions

A finite floating-point number is a whole number times a power of two. In this form it can be
compared with whole numbers and with decimal fractions without any rounding. -/

namespace LineLint

/-- The number `mantissa * 2 ^ exponent`, or its negative. -/
structure Binary where
  negative : Bool
  mantissa : Nat
  exponent : Int
  deriving DecidableEq, Repr

namespace Binary

/-- The least exponent of a number in double precision. -/
def leastExponent : Int := -1074

/-- The mantissa from which on a number is not subnormal. -/
def leadingBit : Nat := Nat.pow 2 52

/-- The fraction that a finite number is. -/
def ofFloat? (x : Float) : Option Binary :=
  let bits := x.toBits.toNat
  let negative := Nat.pow 2 63 ≤ bits
  let biased : Nat := bits / leadingBit % Nat.pow 2 11
  let fraction := bits % leadingBit
  if biased == 2047 then none
  else if biased == 0 then some ⟨negative, fraction, leastExponent⟩
  else some ⟨negative, fraction + leadingBit, (biased : Int) - 1 + leastExponent⟩

/-- Whether a number is a whole number. -/
def isInt (b : Binary) (n : Int) : Bool :=
  let m : Int := if b.negative then -b.mantissa else b.mantissa
  match b.exponent with
  | .ofNat e => m * Nat.pow 2 e == n
  | .negSucc e => m == n * Nat.pow 2 (e + 1)

/-- The value of a number without its sign, times `4 * 2 ^ -exponent` where the exponent is
negative, so that it is whole, and so are the ends of the interval around it. -/
def scaled (b : Binary) : Nat := 4 * b.mantissa * Nat.pow 2 b.exponent.toNat

/-- The factor of `scaled`. -/
def scale (b : Binary) : Nat := 4 * Nat.pow 2 (-b.exponent).toNat

/-- Half the distance to the next greater number, scaled. -/
def above (b : Binary) : Nat := 2 * Nat.pow 2 b.exponent.toNat

/-- Half the distance to the next smaller number, scaled. Below a power of two numbers lie twice as
dense. -/
def below (b : Binary) : Nat :=
  if b.mantissa == leadingBit && leastExponent < b.exponent then Nat.pow 2 b.exponent.toNat
  else b.above

/-- Whether a fraction rounds to a number: it lies between the two middles around it, which count
if the mantissa is even. -/
def attracts (b : Binary) (num den : Nat) : Bool :=
  let x := num * b.scale
  let low := (b.scaled - b.below) * den
  let high := (b.scaled + b.above) * den
  if b.mantissa % 2 == 0 then low ≤ x && x ≤ high else low < x && x < high

end Binary

end LineLint
