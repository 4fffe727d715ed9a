import LineLint.Binary
import LineLint.Text.Decimal

/-! # Floating-point numbers in decimal

`shortest` writes a number with the fewest digits that read back as the same number, and of several
such texts the one nearest to it. Numbers between a ten-thousandth and ten to the sixteenth are
written with a point, all others with an exponent. -/

namespace LineLint.Text

/-- A decimal numeral: `digits * 10 ^ exponent`. -/
structure Numeral where
  digits : Nat
  exponent : Int
  deriving DecidableEq, Repr

/-- The numeral as a fraction. -/
def Numeral.fraction (d : Numeral) : Nat × Nat :=
  (d.digits * Nat.pow 10 d.exponent.toNat, Nat.pow 10 (-d.exponent).toNat)

/-- More than the number of places after the point up to the first digit of any number. -/
def maxPlaces : Nat := 400

/-- The number of digits before the point; if there are none, less than zero by the zeros after
it. -/
def magnitude (b : Binary) : Int :=
  (digits (b.scaled * Nat.pow 10 maxPlaces / b.scale)).length - maxPlaces

/-- The greatest numeral with an exponent that is not greater than a number. -/
def roundDown (b : Binary) (exponent : Int) : Numeral :=
  ⟨b.scaled * Nat.pow 10 (-exponent).toNat / (b.scale * Nat.pow 10 exponent.toNat), exponent⟩

/-- The distance between a number and a numeral, times a factor that depends on the exponent
alone. -/
def distance (b : Binary) (d : Numeral) : Nat :=
  let (num, den) := d.fraction
  (num * b.scale - b.scaled * den) + (b.scaled * den - num * b.scale)

/-- The numeral with an exponent that reads as a number and is nearest to it. -/
def numeralAt? (b : Binary) (exponent : Int) : Option Numeral :=
  let low := roundDown b exponent
  let high : Numeral := { low with digits := low.digits + 1 }
  let fits := fun (d : Numeral) => b.attracts d.fraction.1 d.fraction.2
  match fits low, fits high with
  | true, true =>
    if distance b low < distance b high then some low
    else if distance b high < distance b low then some high
    else if low.digits % 2 == 0 then some low
    else some high
  | true, false => some low
  | false, true => some high
  | false, false => none

/-- The greatest number of digits that a number needs. -/
def maxShortest : Nat := 17

/-- The shortest numeral of a number other than zero. -/
def shortestNumeral (b : Binary) : Numeral :=
  let exponents := (List.range maxShortest).map fun (n : Nat) => magnitude b - (n + 1)
  (exponents.findSome? (numeralAt? b)).getD ⟨0, 0⟩

/-- The digits of a numeral without zeros at the end, and the place of the point among them. -/
def pointed (d : Numeral) : List Char × Int :=
  let text := digits d.digits
  (((text.reverse.dropWhile (· == '0'))).reverse, text.length + d.exponent)

/-- A numeral with a point. -/
def positional (text : List Char) (point : Int) : List Char :=
  let zeros := fun (n : Int) => List.replicate n.toNat '0'
  if point ≤ 0 then '0' :: '.' :: zeros (-point) ++ text
  else if text.length ≤ point then text ++ zeros (point - text.length) ++ ['.', '0']
  else text.take point.toNat ++ '.' :: text.drop point.toNat

/-- A numeral with one digit before its point, and an exponent of at least two digits. -/
def scientific (text : List Char) (point : Int) : List Char :=
  let fraction := if 1 < text.length then '.' :: text.drop 1 else []
  let power := point - 1
  text.take 1 ++ fraction ++ 'e' :: (if power < 0 then '-' else '+') :: padded 2 power.natAbs

/-- The text of a number. -/
def shortest (x : Float) : List Char :=
  match Binary.ofFloat? x with
  | none => if x.isNaN then "nan".toList else if x < 0 then "-inf".toList else "inf".toList
  | some b =>
    let (text, point) := if b.mantissa == 0 then (['0'], 1) else pointed (shortestNumeral b)
    let body :=
      if -4 < point && point ≤ 16 then positional text point else scientific text point
    if b.negative then '-' :: body else body

end LineLint.Text
