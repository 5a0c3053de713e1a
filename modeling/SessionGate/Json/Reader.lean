import SessionGate.Text.Hex

/-! Reading JSON from bytes, left to right, with the kind of the first fault met. -/

namespace SessionGate.Json

/-- Why a JSON text could not be read: its value does not fit what was wanted, it is not JSON,
or it ends too early. -/
inductive Fault where
  | mismatched
  | malformed
  | truncated
  deriving DecidableEq, Repr

/-- A reader takes a value from the front of the bytes that remain. -/
abbrev Reader := StateT (List UInt8) (Except Fault)

namespace Reader

/-- Ends the reading with a fault. -/
def fail {α : Type} (fault : Fault) : Reader α := fun _ => .error fault

/-- Blanks between the marks of a JSON text. -/
def isSpace (byte : UInt8) : Bool :=
  byte == 0x20 || byte == 0x0A || byte == 0x09 || byte == 0x0D

/-- A decimal digit. -/
def isDigit (byte : UInt8) : Bool :=
  0x30 ≤ byte && byte ≤ 0x39

/-- The value of a decimal digit. -/
def digitValue (byte : UInt8) : Nat := byte.toNat - 0x30

/-- The next byte, left in place. -/
def peek : Reader (Option UInt8) := fun bytes => .ok (bytes.head?, bytes)

/-- Passes over the next byte. -/
def skip : Reader Unit := fun bytes => .ok ((), bytes.drop 1)

/-- The next byte that is not a blank, left in place, the blanks before it being passed. -/
def peekMark : Reader (Option UInt8) := fun bytes =>
  -- The blanks stay passed over even if the byte behind them is left in place.
  let rest := bytes.dropWhile isSpace
  .ok (rest.head?, rest)

/-- The next byte, or a truncated text. -/
def next : Reader UInt8 := fun
  | byte :: rest => .ok (byte, rest)
  | [] => .error .truncated

/-- Passes over the rest of a word such as `null`. -/
def word : List UInt8 → Reader Unit
  | [] => pure ()
  | wanted :: rest => do
    -- A text that ends within the word is truncated rather than malformed.
    let byte ← next
    if byte == wanted then word rest else fail .malformed

/-- The digits at the front. -/
def digitRun : Reader (List UInt8) := fun bytes =>
  .ok (bytes.takeWhile isDigit, bytes.dropWhile isDigit)

/-- The rest of `null` after its first letter. -/
def nullTail : Reader Unit := word [0x75, 0x6C, 0x6C]

/-- The rest of `true` after its first letter. -/
def trueTail : Reader Unit := word [0x72, 0x75, 0x65]

/-- The rest of `false` after its first letter. -/
def falseTail : Reader Unit := word [0x61, 0x6C, 0x73, 0x65]

/-- The largest integer that is kept digit by digit. -/
def wordLimit : Nat := Nat.pow 2 64 - 1

/-- The largest exponent that is kept digit by digit. -/
def exponentLimit : Nat := Nat.pow 2 31 - 1

/-- A natural number rounded to fifty-three binary digits, a tie to the even neighbour. -/
def roundBinary (value : Nat) : Nat :=
  if value < Nat.pow 2 53 then value
  else
    -- The unit is the weight of the last of the fifty-three digits.
    let unit := Nat.pow 2 (Nat.log2 value - 52)
    let quotient := value / unit
    let remainder := value % unit
    if 2 * remainder > unit || (2 * remainder == unit && quotient % 2 == 1) then
      (quotient + 1) * unit
    else quotient * unit

/-- A decimal number is too large when its double-precision value would be infinite. -/
def exceedsDouble (significand : Nat) (exponent : Int) : Bool :=
  if exponent ≤ 0 then false
  -- No power of ten above this one is finite, so only zero survives it.
  else if exponent > 308 then significand != 0
  else
    -- Both factors are rounded first, and the product is infinite from half a unit above the
    -- largest.
    roundBinary significand * roundBinary (Nat.pow 10 exponent.toNat) ≥
      Nat.pow 2 1024 - Nat.pow 2 970

/-- A number as the reader keeps it: an integer of one machine word, or some other number. -/
inductive Number where
  | integer (value : Int)
  | other
  deriving DecidableEq, Repr

/-- A number that is no integer, checked against the range of a double. -/
def otherNumber (significand : Nat) (exponent : Int) : Reader Number :=
  if exceedsDouble significand exponent then fail .malformed else pure .other

/-- The value of a run of digits, or nothing as soon as it passes a limit. -/
def boundedValue (limit : Nat) : Nat → List UInt8 → Option Nat
  | value, [] => some value
  | value, digit :: rest =>
    -- The rest of the digits is not read once the limit is passed.
    let grown := value * 10 + digitValue digit
    if grown > limit then none else boundedValue limit grown rest

/-- The exponent part of a number, from the letter that starts it. -/
def exponentPart (significand : Nat) (start : Int) : Reader Number := do
  skip
  let sign ← peek
  let positive := sign != some 0x2D
  if sign == some 0x2B || sign == some 0x2D then skip
  let first ← next
  -- A sign or the letter alone is no exponent.
  if !isDigit first then fail .malformed
  let digits ← digitRun
  match boundedValue exponentLimit 0 (first :: digits) with
  | none =>
    -- A negative exponent of any size makes zero, and so does a zero significand.
    if significand != 0 && positive then fail .malformed else pure .other
  | some exponent =>
    otherNumber significand (if positive then start + exponent else start - exponent)

/-- As many leading digits as one machine word can take, and how many of them there are. -/
def leadingValue : Nat → Nat → List UInt8 → Nat × Nat
  | value, count, [] => (value, count)
  | value, count, digit :: rest =>
    -- What no longer fits is counted as a power of ten and not as digits.
    let grown := value * 10 + digitValue digit
    if grown > wordLimit then (value, count) else leadingValue grown (count + 1) rest

/-- A number ends, or its exponent follows. -/
def afterFraction (significand : Nat) (exponent : Int) : Reader Number := do
  match ← peek with
  | some 0x65 | some 0x45 => exponentPart significand exponent
  | _ => otherNumber significand exponent

/-- The fraction of a number, from its point. -/
def fractionPart (significand : Nat) (start : Int) : Reader Number := do
  skip
  let digits ← digitRun
  if digits.isEmpty then
    -- A point must have a digit behind it, which may still be missing at the end of the text.
    match ← peek with
    | some _ => fail .malformed
    | none => fail .truncated
  let (grown, count) := leadingValue significand 0 digits
  afterFraction grown (start - count)

/-- What follows the digits of the integer part. -/
def afterDigits (positive : Bool) (digits : List UInt8) : Reader Number := do
  let (significand, count) := leadingValue 0 0 digits
  let extra := digits.length - count
  match ← peek with
  | some 0x2E => fractionPart significand extra
  | some 0x65 | some 0x45 => exponentPart significand extra
  | _ =>
    -- A number past one machine word is kept as no integer, even if it has no fraction.
    if extra > 0 then otherNumber significand extra
    else if positive then pure (.integer significand)
    -- Minus zero is no integer, nor is a negative number below the least machine integer.
    else if significand == 0 || significand > Nat.pow 2 63 then pure .other
    else pure (.integer (-significand))

/-- A number without its sign. -/
def unsigned (positive : Bool) : Reader Number := do
  let first ← next
  if first == 0x30 then
    -- No digit may follow a leading zero.
    match ← peek with
    | some byte => if isDigit byte then fail .malformed else afterDigits positive [first]
    | none => afterDigits positive [first]
  else if isDigit first then
    let digits ← digitRun
    afterDigits positive (first :: digits)
  else fail .malformed

/-- The number written by four hexadecimal digits. -/
def fourDigits (a b c d : UInt8) : Option Nat := do
  let a ← Text.hexValue? (Char.ofNat a.toNat)
  let b ← Text.hexValue? (Char.ofNat b.toNat)
  let c ← Text.hexValue? (Char.ofNat c.toNat)
  let d ← Text.hexValue? (Char.ofNat d.toNat)
  return ((a * 16 + b) * 16 + c) * 16 + d

/-- The four digits of a numeric escape. -/
def escapeNumber : Reader Nat := fun
  | a :: b :: c :: d :: rest =>
    match fourDigits a b c d with
    | some value => .ok (value, rest)
    | none => .error .malformed
  | _ => .error .truncated

/-- A numeric escape stands for a character, or for half of one that the next escape completes. -/
def numericEscape : Reader (List UInt8) := do
  let high ← escapeNumber
  -- A second half may not come first.
  if 0xDC00 ≤ high && high ≤ 0xDFFF then fail .malformed
  else if 0xD800 ≤ high && high ≤ 0xDBFF then
    -- A first half is nothing by itself, so the next escape must be the second half.
    let slash ← next
    if slash != 0x5C then fail .malformed
    let letter ← next
    if letter != 0x75 then fail .malformed
    let low ← escapeNumber
    if low < 0xDC00 || 0xDFFF < low then fail .malformed
    return String.utf8EncodeChar
      (Char.ofNat (0x10000 + (high - 0xD800) * 1024 + (low - 0xDC00)))
  else return String.utf8EncodeChar (Char.ofNat high)

/-- The byte that a short escape stands for. -/
def shortEscape (letter : UInt8) : Option UInt8 :=
  if letter == 0x22 || letter == 0x5C || letter == 0x2F then some letter
  else if letter == 0x62 then some 0x08
  else if letter == 0x66 then some 0x0C
  else if letter == 0x6E then some 0x0A
  else if letter == 0x72 then some 0x0D
  else if letter == 0x74 then some 0x09
  else none

/-- What an escape stands for, after its backslash. -/
def escape : Reader (List UInt8) := do
  let letter ← next
  if letter == 0x75 then numericEscape
  else
    match shortEscape letter with
    | some byte => return [byte]
    | none => fail .malformed

/-- The bytes of a string up to its closing quote, newest part first; `fuel` bounds their number. -/
def stringBytes : Nat → List (List UInt8) → Reader (List (List UInt8))
  | 0, _ => fail .truncated
  | fuel + 1, parts => do
    let byte ← next
    if byte == 0x22 then return parts
    else if byte == 0x5C then
      let part ← escape
      stringBytes fuel (part :: parts)
    -- Control characters may stand in a string only as escapes.
    else if byte < 0x20 then fail .malformed
    else stringBytes fuel ([byte] :: parts)

/-- A string after its opening quote. -/
def stringTail : Reader String := do
  let remaining ← get
  let parts ← stringBytes (remaining.length + 1) []
  -- The bytes are judged as a whole once the string is closed.
  match Text.ofUtf8? parts.reverse.flatten with
  | some text => return text
  | none => fail .malformed

/-- An escape that is passed over unread: its form is checked, not what it stands for. -/
def passEscape : Reader Unit := do
  let letter ← next
  if letter == 0x75 then
    let _ ← escapeNumber
  else if (shortEscape letter).isNone then fail .malformed

/-- Passes over a string after its opening quote. -/
def passStringBytes : Nat → Reader Unit
  | 0 => fail .truncated
  | fuel + 1 => do
    let byte ← next
    if byte == 0x22 then return ()
    else if byte == 0x5C then
      passEscape
      passStringBytes fuel
    else if byte < 0x20 then fail .malformed
    else passStringBytes fuel

/-- Passes over a string after its opening quote. -/
def passString : Reader Unit := do
  passStringBytes ((← get).length + 1)

/-- Passes over at least one digit. -/
def passDigits : Reader Unit := do
  let digits ← digitRun
  if digits.isEmpty then fail .malformed

/-- Passes over an exponent from its letter. -/
def passExponent : Reader Unit := do
  skip
  let sign ← peek
  if sign == some 0x2B || sign == some 0x2D then skip
  passDigits

/-- Passes over a number without its sign; its range is not looked at. -/
def passNumber : Reader Unit := do
  -- The integer part has no leading zero.
  match ← peek with
  | some 0x30 => do
    skip
    match ← peek with
    | some byte => if isDigit byte then fail .malformed
    | none => pure ()
  | _ => passDigits
  match ← peek with
  | some 0x2E => do
    skip
    passDigits
    match ← peek with
    | some 0x65 | some 0x45 => passExponent
    | _ => pure ()
  | some 0x65 | some 0x45 => passExponent
  | _ => pure ()

/-- What a value that is passed over is inside of. -/
inductive Frame where
  | list
  | object
  deriving DecidableEq, Repr

/-- A value that is passed over: a finished one, or the opening of a list or object. -/
def passStart : Reader (Option Frame) := do
  match ← peekMark with
  | none => fail .truncated
  | some 0x6E => do skip; nullTail; return none
  | some 0x74 => do skip; trueTail; return none
  | some 0x66 => do skip; falseTail; return none
  | some 0x2D => do skip; passNumber; return none
  | some 0x22 => do skip; passString; return none
  | some 0x5B => do skip; return some .list
  | some 0x7B => do skip; return some .object
  | some byte =>
    if isDigit byte then do
      passNumber
      return none
    else fail .malformed

/-- The name of a field that is passed over, with its colon. -/
def passName : Reader Unit := do
  match ← peekMark with
  | some 0x22 => skip
  | some _ => fail .malformed
  | none => fail .truncated
  passString
  match ← peekMark with
  | some 0x3A => skip
  | some _ => fail .malformed
  | none => fail .truncated

/-- Closes every list and object that ends here, and finds whether another value follows in the
innermost open one. `more` holds once a value has been passed in it, so that a comma may follow. -/
def passClose (more : Bool) : List Frame → Reader (List Frame)
  | [] => return []
  | frame :: outer => do
    match ← peekMark with
    | none => fail .truncated
    | some byte =>
      -- A comma is a separator only after a value.
      if byte == 0x2C && more then
        skip
        return frame :: outer
      else if (byte == 0x5D && frame == .list) || (byte == 0x7D && frame == .object) then
        skip
        passClose true outer
      -- An opening may be followed by its first value, which is read elsewhere.
      else if more then fail .malformed
      else return frame :: outer

/-- Passes over values until everything opened is closed; `fuel` bounds their number. -/
def passValues : Nat → List Frame → Reader Unit
  | 0, _ => fail .truncated
  | fuel + 1, frames => do
    let opened ← passStart
    let frames ← match opened with
      | some frame => passClose false (frame :: frames)
      | none => passClose true frames
    match frames with
    -- Nothing is left open, so the value that was asked for has ended.
    | [] => return ()
    | .list :: _ => passValues fuel frames
    | .object :: _ => do
      passName
      passValues fuel frames

/-- Passes over one value of any kind. -/
def passValue : Reader Unit := do
  passValues ((← get).length + 1) []

/-- A value of another kind than the wanted one: a simple one is read through before it is
found not to fit, a list or object is not entered. -/
def misfit {α : Type} : Reader α := do
  match ← peek with
  | some 0x6E => do skip; nullTail
  | some 0x74 => do skip; trueTail
  | some 0x66 => do skip; falseTail
  | some 0x2D => do
    skip
    let _ ← unsigned false
  | some 0x22 => do
    skip
    let _ ← stringTail
  -- What a list or an object holds cannot change the fault.
  | some 0x5B | some 0x7B => pure ()
  | some byte =>
    if isDigit byte then
      let _ ← unsigned true
    else fail .malformed
  | none => fail .malformed
  fail .mismatched

/-- Nothing but blanks may follow the value. -/
def finish : Reader Unit := do
  match ← peekMark with
  | some _ => fail .malformed
  | none => return ()

end Reader

end SessionGate.Json
