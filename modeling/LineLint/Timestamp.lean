import LineLint.Text.Decimal

/-! # Points in time

A point in time of the Gregorian calendar with an optional offset from universal time, and its
text: date and time joined by a T, six digits of a second if there is a fraction of one, and an
offset with seconds only if it has some. -/

namespace LineLint

/-- A day and a time on it. The offset is in seconds; without one the time is local. -/
structure Timestamp where
  year : Nat
  month : Nat
  day : Nat
  hour : Nat := 0
  minute : Nat := 0
  second : Nat := 0
  microsecond : Nat := 0
  offset : Option Int := none
  deriving DecidableEq, Repr

/-- Why some numbers give no point in time. -/
inductive TimestampFault where
  /-- There are too few units or too many. -/
  | wrongCount
  /-- A number is too large to be a unit or an offset at all. -/
  | outOfRange
  /-- There is no such day, time or offset. -/
  | impossible
  deriving DecidableEq, Repr

namespace Timestamp

def isLeapYear (year : Nat) : Bool :=
  (year % 4 == 0 && year % 100 != 0) || year % 400 == 0

/-- The number of days of a month. -/
def daysIn (year month : Nat) : Nat :=
  if month == 2 then if isLeapYear year then 29 else 28
  else if month == 4 || month == 6 || month == 9 || month == 11 then 30
  else 31

/-- The day exists. Years have four digits. -/
def isDate (year month day : Nat) : Bool :=
  1 ≤ year && year ≤ 9999 && 1 ≤ month && month ≤ 12 && 1 ≤ day && day ≤ daysIn year month

/-- The day and the time exist, and the offset is less than a day. -/
def isValid (t : Timestamp) : Bool :=
  isDate t.year t.month t.day && t.hour < 24 && t.minute < 60 && t.second < 60 &&
    t.microsecond < 1000000 && t.offset.all (·.natAbs < 86400)

/-- Whether a number fits in a signed word of 32 bits, as every unit of a point in time has to. -/
def isWord (n : Int) : Bool := -2147483648 ≤ n && n < 2147483648

/-- The seconds of the greatest number of days that a span of time can have. -/
def maxSpan : Int := 999999999 * 86400

/-- An offset that is less than a day. -/
def checkOffset (offset : Int) : Except TimestampFault Unit :=
  if offset < -maxSpan || maxSpan + 86400 ≤ offset then .error .outOfRange
  else if 86400 ≤ offset.natAbs then .error .impossible
  else .ok ()

/-- The point in time given by year, month, day and as many of the smaller units as are known. -/
def ofUnits (units : List Int) (offset : Option Int) : Except TimestampFault Timestamp := do
  offset.forM checkOffset
  if 8 < units.length then throw .wrongCount
  if !((units.take 7).all isWord) then throw .outOfRange
  if units.length < 3 then throw .wrongCount
  match units ++ List.replicate (7 - units.length) 0 with
  | [year, month, day, hour, minute, second, microsecond] =>
    let t : Timestamp := ⟨year.toNat, month.toNat, day.toNat, hour.toNat, minute.toNat,
      second.toNat, microsecond.toNat, offset⟩
    if units.all (0 ≤ ·) && t.isValid then return t else throw .impossible
  | _ => throw .wrongCount

/-- The number of days before a day, counted from the start of the year zero. -/
def dayNumber (year month day : Nat) : Nat :=
  let months := (List.range (month - 1)).map fun m => daysIn year (m + 1)
  let leap := (year + 3) / 4 - (year + 99) / 100 + (year + 399) / 400
  365 * year + leap + months.foldl (· + ·) 0 + (day - 1)

/-- The millionths of a second from a fixed instant to a point in time. Without an offset the time
counts as universal. -/
def instant (t : Timestamp) : Int :=
  let seconds : Int := (dayNumber t.year t.month t.day * 24 + t.hour) * 3600 + t.minute * 60 +
    t.second
  (seconds - t.offset.getD 0) * 1000000 + t.microsecond

/-- The text of an offset. -/
def offsetText (offset : Int) : List Char :=
  let seconds := offset.natAbs
  (if offset < 0 then '-' else '+') :: Text.padded 2 (seconds / 3600) ++
    ':' :: Text.padded 2 (seconds / 60 % 60) ++
    (if seconds % 60 == 0 then [] else ':' :: Text.padded 2 (seconds % 60))

/-- The text of a point in time. -/
def toText (t : Timestamp) : String :=
  String.ofList (Text.padded 4 t.year ++ '-' :: Text.padded 2 t.month ++ '-' ::
    Text.padded 2 t.day ++ 'T' :: Text.padded 2 t.hour ++ ':' :: Text.padded 2 t.minute ++ ':' ::
    Text.padded 2 t.second ++
    (if t.microsecond == 0 then [] else '.' :: Text.padded 6 t.microsecond) ++
    (match t.offset with
      | none => []
      | some offset => offsetText offset))

end Timestamp

end LineLint
