import SessionGate.Text.Utf8

/-! Bytes as hexadecimal text, written small and read in either case. -/

namespace SessionGate.Text

/-- The small hexadecimal digit of a number below sixteen. -/
def hexDigit (value : Nat) : Char :=
  -- The digits and the letters are two runs of characters that do not touch.
  if value < 10 then Char.ofNat (48 + value) else Char.ofNat (87 + value)

/-- The capital hexadecimal digit of a number below sixteen. -/
def hexDigitCapital (value : Nat) : Char :=
  if value < 10 then Char.ofNat (48 + value) else Char.ofNat (55 + value)

/-- The value of a hexadecimal digit of either case. -/
def hexValue? (c : Char) : Option Nat :=
  let point := c.toNat
  if 48 ≤ point && point ≤ 57 then some (point - 48)
  else if 97 ≤ point && point ≤ 102 then some (point - 87)
  else if 65 ≤ point && point ≤ 70 then some (point - 55)
  else none

/-- The two digits of a byte. -/
def hexByte (byte : UInt8) : List Char :=
  [hexDigit (byte.toNat / 16), hexDigit (byte.toNat % 16)]

/-- Bytes are written as two digits each, the high half first. -/
def hex (bytes : List UInt8) : String :=
  String.ofList (bytes.flatMap hexByte)

/-- The digits of a number in base sixteen, without leading zeros. -/
def hexNumber (value : Nat) : String :=
  String.ofList (Nat.toDigits 16 value)

/-- Why a text is not the hexadecimal form of the wanted number of bytes. -/
inductive HexFault where
  | oddLength
  | wrongLength
  | badDigit (byte : UInt8) (position : Nat)
  deriving DecidableEq, Repr

/-- A character between quotes, with marks that would not show written as escapes. -/
def quotedByte (byte : UInt8) : String :=
  let point := byte.toNat
  let inner :=
    -- The characters with an escape of their own come before all others that would not show.
    if point == 0 then "\\0"
    else if point == 9 then "\\t"
    else if point == 10 then "\\n"
    else if point == 13 then "\\r"
    else if point == 39 then "\\\x27"
    else if point == 92 then "\\\\"
    else if point < 32 || (127 ≤ point && point ≤ 160) || point == 173 then
      "\\u\x7b" ++ hexNumber point ++ "\x7d"
    else String.singleton (Char.ofNat point)
  "\x27" ++ inner ++ "\x27"

/-- The wording of a fault. -/
def HexFault.message : HexFault → String
  | .oddLength => "Odd number of digits"
  | .wrongLength => "Invalid string length"
  | .badDigit byte position =>
    "Invalid character " ++ quotedByte byte ++ " at position " ++ toString position

/-- The bytes that pairs of digits spell, the first wrong digit being named by its place. -/
def hexPairs (position : Nat) : List UInt8 → Except HexFault (List UInt8)
  | high :: low :: rest =>
    match hexValue? (Char.ofNat high.toNat), hexValue? (Char.ofNat low.toNat) with
    -- The first wrong digit of the text wins, so the high half is judged before the low one.
    | none, _ => .error (.badDigit high position)
    | some _, none => .error (.badDigit low (position + 1))
    | some a, some b => do
      let bytes ← hexPairs (position + 2) rest
      return UInt8.ofNat (a * 16 + b) :: bytes
  -- A single byte cannot be left over, since the length was found even.
  | _ => .ok []

/-- The bytes of a text of exactly twice `width` digits: an odd length is reported before a
wrong one, and a wrong one before a wrong digit. -/
def ofHex (width : Nat) (text : String) : Except HexFault (List UInt8) :=
  let bytes := utf8 text
  -- Lengths are judged before digits, and parity before the wanted length.
  if bytes.length % 2 ≠ 0 then .error .oddLength
  else if bytes.length / 2 ≠ width then .error .wrongLength
  else hexPairs 0 bytes

end SessionGate.Text
