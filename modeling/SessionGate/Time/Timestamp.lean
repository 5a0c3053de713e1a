import SessionGate.Text.Blank

/-! Points in time of the Gregorian calendar in UTC, and their text in the form of RFC 3339. -/

namespace SessionGate

/-- A point in time by its calendar date and clock time in UTC. The sixtieth second is a leap
second. -/
structure Timestamp where
  year : Int
  month : Nat
  day : Nat
  hour : Nat
  minute : Nat
  second : Nat
  nanosecond : Nat
  deriving DecidableEq, Repr

namespace Timestamp

/-- A year is a leap year when four divides it, unless a hundred does and four hundred does not. -/
def isLeapYear (year : Int) : Bool :=
  year % 4 == 0 && (year % 100 != 0 || year % 400 == 0)

/-- The number of days in a month. -/
def daysInMonth (year : Int) (month : Nat) : Nat :=
  if month == 2 then (if isLeapYear year then 29 else 28)
  else if month == 4 || month == 6 || month == 9 || month == 11 then 30
  else 31

/-- The first year that can be told. -/
def firstYear : Int := -262143

/-- The last year that can be told. -/
def lastYear : Int := 262142

/-- The day after a date. -/
def nextDay (year : Int) (month day : Nat) : Int × Nat × Nat :=
  -- Only the last day of a month changes the month, and only December the year.
  if day < daysInMonth year month then (year, month, day + 1)
  else if month < 12 then (year, month + 1, 1)
  else (year + 1, 1, 1)

/-- The day before a date. -/
def previousDay (year : Int) (month day : Nat) : Int × Nat × Nat :=
  if 1 < day then (year, month, day - 1)
  else if 1 < month then (year, month - 1, daysInMonth year (month - 1))
  else (year - 1, 12, 31)

/-- The same point with its clock moved by less than a day of minutes. -/
def shiftMinutes (point : Timestamp) (minutes : Int) : Timestamp :=
  let total : Int := point.hour * 60 + point.minute + minutes
  -- The remainder is never negative, so it tells the clock on whichever day it falls.
  let within := total.emod 1440
  let moved := { point with hour := (within / 60).toNat, minute := (within % 60).toNat }
  if total < 0 then
    let (year, month, day) := previousDay point.year point.month point.day
    { moved with year, month, day }
  else if 1440 ≤ total then
    let (year, month, day) := nextDay point.year point.month point.day
    { moved with year, month, day }
  else moved

/-- The point one second later, leap seconds not counted. -/
def nextSecond (point : Timestamp) : Timestamp :=
  -- A leap second is followed by the next minute, as the second before it is.
  if point.second < 59 then { point with second := point.second + 1 }
  else shiftMinutes { point with second := 0 } 1

/-- The point a number of seconds later. -/
def addSeconds (point : Timestamp) : Nat → Timestamp
  | 0 => point
  | count + 1 => nextSecond (addSeconds point count)

/-- The numbers by which points are ordered, the weightiest first. -/
def weights (point : Timestamp) : List Int :=
  [point.year, point.month, point.day, point.hour, point.minute, point.second, point.nanosecond]

/-- A list of numbers is not after another when it is not greater at their first difference. -/
def notAfter : List Int → List Int → Bool
  -- The weightiest number that differs decides, and those behind it are not looked at.
  | a :: as, b :: bs => a < b || (a == b && notAfter as bs)
  | [], _ => true
  | _ :: _, [] => false

/-- A point is not after another one. -/
def le (first second : Timestamp) : Bool := notAfter first.weights second.weights

/-- A number with zeros before it up to a width. -/
def padded (width value : Nat) : List Char :=
  let digits := Nat.toDigits 10 value
  List.replicate (width - digits.length) '0' ++ digits

/-- Years of four digits stand alone; all others carry their sign. -/
def yearText (year : Int) : List Char :=
  -- The sign keeps longer years from being read as four digits and a rest.
  if 0 ≤ year && year ≤ 9999 then padded 4 year.toNat
  else (if year < 0 then '-' else '+') :: padded 4 year.natAbs

/-- A fraction of a second has no digits, three, six or nine, the fewest that tell it. -/
def fractionText (nanosecond : Nat) : List Char :=
  -- Groups of three zeros are left out from the end.
  if nanosecond == 0 then []
  else if nanosecond % 1000000 == 0 then '.' :: padded 3 (nanosecond / 1000000)
  else if nanosecond % 1000 == 0 then '.' :: padded 6 (nanosecond / 1000)
  else '.' :: padded 9 nanosecond

/-- The text of a point in time, in UTC. -/
def chars (point : Timestamp) : List Char :=
  yearText point.year ++ '-' :: padded 2 point.month ++ '-' :: padded 2 point.day ++
    'T' :: padded 2 point.hour ++ ':' :: padded 2 point.minute ++ ':' :: padded 2 point.second ++
    fractionText point.nanosecond ++ ['Z']

/-- The text of a point in time, in UTC. -/
def render (point : Timestamp) : String := String.ofList point.chars

/-- A decimal digit. -/
def isDigit (c : Char) : Bool := '0' ≤ c && c ≤ '9'

/-- The number that digits spell. -/
def numberOf (digits : List Char) : Nat :=
  digits.foldl (fun value c => value * 10 + (c.toNat - 48)) 0

/-- A number of one digit up to `width` digits, after any blanks. -/
def number? (width : Nat) (chars : List Char) : Option (Nat × List Char) :=
  let rest := chars.dropWhile Text.isBlank
  let digits := (rest.take width).takeWhile isDigit
  if digits.isEmpty then none else some (numberOf digits, rest.drop digits.length)

/-- A year: four digits at most, or a sign and any number of them. -/
def year? (chars : List Char) : Option (Int × List Char) :=
  match chars.dropWhile Text.isBlank with
  -- Only a sign allows more than four digits.
  | '+' :: rest => do
    let digits := rest.takeWhile isDigit
    if digits.isEmpty then none
    else some (numberOf digits, rest.drop digits.length)
  | '-' :: rest => do
    let digits := rest.takeWhile isDigit
    if digits.isEmpty then none
    else some (-numberOf digits, rest.drop digits.length)
  | rest => do
    let (value, rest) ← number? 4 rest
    return (value, rest)

/-- A mark that must come next. -/
def mark? (wanted : Char) : List Char → Option (List Char)
  | c :: rest => if c == wanted then some rest else none
  | [] => none

/-- The fraction of a second in nanoseconds; digits past the ninth are dropped. -/
def fraction? : List Char → Option (Nat × List Char)
  | '.' :: rest =>
    let digits := rest.takeWhile isDigit
    if digits.isEmpty then none
    else
      -- Nine digits tell nanoseconds; fewer are filled up to that width.
      let kept := digits.take 9
      some (numberOf kept * Nat.pow 10 (9 - kept.length), rest.drop digits.length)
  | chars => some (0, chars)

/-- Two digits that come next. -/
def twoDigits? : List Char → Option (Nat × List Char)
  | a :: b :: rest =>
    if isDigit a && isDigit b then some (numberOf [a, b], rest) else none
  | _ => none

/-- The distance from UTC in minutes: a name of UTC itself, or hours and minutes with a sign. -/
def offset? (chars : List Char) : Option (Int × List Char) :=
  match chars.dropWhile Text.isBlank with
  | c :: rest =>
    -- A name of UTC needs no distance.
    if (c :: rest.take 2).map Text.lowerChar == "utc".toList then some (0, rest.drop 2)
    else if c == 'Z' || c == 'z' then some (0, rest)
    else do
      -- The minus may be the hyphen of the keyboard or the mathematical sign.
      let sign : Int ←
        if c == '+' then some 1
        else if c == '-' || c == Char.ofNat 0x2212 then some (-1)
        else none
      let (hours, rest) ← twoDigits? rest
      -- The colon between hours and minutes may be missing.
      let rest := rest.dropWhile fun c => c == ':' || Text.isBlank c
      let (minutes, rest) ← twoDigits? rest
      if 60 ≤ minutes || 24 ≤ hours then none
      else some (sign * (hours * 60 + minutes), rest)
  | [] => none

/-- The separator between date and time. -/
def isDateEnd (c : Char) : Bool := c == 'T' || c == 't' || c == ' '

/-- Reads a point in time. Blanks may stand before each number, and a time with an offset is
moved to UTC. -/
def read? (text : String) : Option Timestamp := do
  let (year, rest) ← year? text.toList
  let rest ← mark? '-' (rest.dropWhile Text.isBlank)
  let (month, rest) ← number? 2 rest
  let rest ← mark? '-' (rest.dropWhile Text.isBlank)
  let (day, rest) ← number? 2 rest
  let rest ← match rest with
    | c :: rest => if isDateEnd c then some rest else none
    | [] => none
  let (hour, rest) ← number? 2 rest
  let rest ← mark? ':' (rest.dropWhile Text.isBlank)
  let (minute, rest) ← number? 2 rest
  let rest ← mark? ':' (rest.dropWhile Text.isBlank)
  let (second, rest) ← number? 2 rest
  let (nanosecond, rest) ← fraction? rest
  let (offset, rest) ← offset? rest
  -- Nothing but blanks may follow.
  if !rest.all Text.isBlank then none
  -- The fields are within their ranges, a sixtieth second being a leap second.
  if month == 0 || 12 < month || day == 0 || daysInMonth year month < day then none
  if 23 < hour || 59 < minute || 60 < second then none
  if year < firstYear || lastYear < year then none
  -- Moving to UTC may change the date, so the range of years is checked again.
  let point := shiftMinutes ⟨year, month, day, hour, minute, second, nanosecond⟩ (-offset)
  if point.year < firstYear || lastYear < point.year then none
  return point

end Timestamp

end SessionGate
