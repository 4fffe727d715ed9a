import LineLint.Text.Blank
import LineLint.Text.Lines
import LineLint.Text.Word

/-! # Whole numbers in decimal

`decimal` writes a number, `ofDigits` reads digits back. `readIntIn?` reads a numeral in one of the
bases two, eight, ten and sixteen: white space around it, a sign, the mark of the base, and digits
of any script. `readWhole?` reads what people type for a count: ASCII digits with single underscores
between them, perhaps a fraction that is zero, and perhaps zeros in front, even of a minus sign. -/

namespace LineLint.Text

/-- The character of a number below ten. -/
def digitChar (n : Nat) : Char := Char.ofNat (0x30 + n)

/-- The decimal digits of a number, without leading zeros. -/
def digits (n : Nat) : List Char :=
  if n < 10 then [digitChar n] else digits (n / 10) ++ [digitChar (n % 10)]
  termination_by n

/-- A number in decimal, with a minus sign if it is negative. -/
def decimal : Int → List Char
  | .ofNat n => digits n
  | .negSucc n => '-' :: digits (n + 1)

/-- The digits of a number, padded with zeros on the left. -/
def padded (width n : Nat) : List Char :=
  let text := digits n
  List.replicate (width - text.length) '0' ++ text

/-- The number that some digit values stand for in a base. -/
def ofDigits (base : Nat) (values : List Nat) : Nat :=
  values.foldl (fun n value => n * base + value) 0

/-- Splits a sign off the start of a number. -/
def splitSign : List Char → Int × List Char
  | '-' :: rest => (-1, rest)
  | '+' :: rest => (1, rest)
  | rest => (1, rest)

/-- The value of a digit of any script or of a letter in a base of at most 36. -/
def digitIn? (base : Nat) (c : Char) : Option Nat :=
  let value? := match digitValue? c with
    | some value => some value
    | none =>
      let n := c.toLower.toNat
      if 0x61 ≤ n && n ≤ 0x7A then some (n - 0x57) else none
  value?.filter (· < base)

/-- The rest of a numeral after the mark of its base, which may be left out. -/
def dropBaseMark (base : Nat) : List Char → List Char
  | '0' :: c :: rest =>
    let mark := if base == 2 then 'b' else if base == 8 then 'o' else 'x'
    if base != 10 && c.toLower == mark then rest else '0' :: c :: rest
  | rest => rest

/-- The greatest number of digits of a decimal numeral that is read. -/
def maxDigits : Nat := 4300

/-- The number that a numeral stands for in a base. -/
def readIntIn? (base : Nat) (text : List Char) : Option Int := do
  let (sign, rest) := splitSign (trimSpace text)
  let values ← (dropBaseMark base rest).mapM (digitIn? base)
  guard (!values.isEmpty && (base != 10 || values.length ≤ maxDigits))
  return sign * ofDigits base values

/-! ## Typed numbers -/

/-- Whether a numeral goes on, after zeros in front of it, with a character other than a zero. -/
def startsNumeral (c : Char) : Bool := ('1' ≤ c && c ≤ '9') || c == '-'

/-- What is left of a numeral after zeros and underscores, of which `last` has been the last one. It
stays if nothing or a point comes after it. -/
def afterZeros (last : Char) : List Char → Option (List Char)
  | [] => some [last]
  | c :: rest =>
    if c == '0' || c == '_' then afterZeros c rest
    else if startsNumeral c then some (c :: rest)
    else if c == '.' then some (last :: c :: rest)
    else none

/-- A numeral without the zeros in front of its sign or of its digits. -/
def dropZeros : List Char → Option (List Char)
  | [] => none
  | c :: rest =>
    if c == '0' then afterZeros c rest else if startsNumeral c then some (c :: rest) else none

/-- A numeral without a plus sign, which stands in front of digits only. -/
def dropPlus : List Char → Option (List Char)
  | '+' :: '-' :: _ => none
  | '+' :: rest => some rest
  | rest => some rest

/-- A numeral without a fraction that is zero. -/
def dropZeroFraction (text : List Char) : List Char :=
  match text.span (· != '.') with
  | (whole, _ :: fraction) =>
    if !fraction.isEmpty && fraction.all (· == '0') then whole else text
  | _ => text

/-- A numeral without its underscores, if each stands alone between two other characters. -/
def dropUnderscores (text : List Char) : List Char :=
  if (cut '_' text).all (!·.isEmpty) then text.filter (· != '_') else text

/-- The number that digits of ASCII stand for if there is no zero in front of others. -/
def readPlain? (text : List Char) : Option Nat := do
  guard (text.all Char.isDigit && !text.isEmpty && (text.head? != some '0' || text.length == 1))
  return ofDigits 10 (text.map (·.toNat - 0x30))

/-- The whole number that somebody has typed. -/
def readWhole? (text : List Char) : Option Int := do
  let numeral := dropUnderscores (dropZeroFraction (← dropZeros (← dropPlus (trimSpace text))))
  guard (numeral.length ≤ maxDigits)
  match numeral with
  | '-' :: digits => return -(← readPlain? digits)
  | digits => return ← readPlain? digits

theorem digitChar_isDigit {n : Nat} (h : n < 10) : (digitChar n).isDigit = true := by
  have : ∀ m < 10, (digitChar m).isDigit = true := by decide
  exact this n h

theorem digits_ne_nil (n : Nat) : digits n ≠ [] := by
  unfold digits
  split <;> simp

theorem isDigit_of_mem_digits (n : Nat) : ∀ c ∈ digits n, c.isDigit = true := by
  rw [digits]
  split
  · simpa using digitChar_isDigit (by assumption)
  · intro c hc
    rcases List.mem_append.1 hc with hc | hc
    · exact isDigit_of_mem_digits (n / 10) c hc
    · rw [List.mem_singleton.1 hc]
      exact digitChar_isDigit (Nat.mod_lt n (by omega))
  termination_by n

end LineLint.Text
