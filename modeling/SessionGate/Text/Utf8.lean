/-! Text as UTF-8 bytes, read back strictly or with every broken sequence replaced. -/

namespace SessionGate.Text

/-- The UTF-8 bytes of a text. -/
def utf8 (text : String) : List UInt8 :=
  text.toList.flatMap String.utf8EncodeChar

/-- The length of a text in UTF-8 bytes. -/
def utf8Length (text : String) : Nat :=
  (utf8 text).length

/-- A continuation byte carries six bits below the mark `10`. -/
def isContinuation (byte : UInt8) : Bool :=
  0x80 ≤ byte && byte ≤ 0xBF

/-- The six payload bits of a continuation byte. -/
def payload (byte : UInt8) : Nat :=
  byte.toNat % 64

/-- The lowest and the highest second byte that may follow a leading byte. -/
def secondRange (lead : UInt8) : UInt8 × UInt8 :=
  -- These four keep out overlong forms, surrogates and numbers above the last character.
  if lead == 0xE0 then (0xA0, 0xBF)
  else if lead == 0xED then (0x80, 0x9F)
  else if lead == 0xF0 then (0x90, 0xBF)
  else if lead == 0xF4 then (0x80, 0x8F)
  else (0x80, 0xBF)

/-- A second byte fits its leading byte when it is in the range left to it. -/
def fitsSecond (lead second : UInt8) : Bool :=
  (secondRange lead).1 ≤ second && second ≤ (secondRange lead).2

/-- The character that a leading byte starts, if the bytes after it complete one,
and how many of those bytes belong to it or to its broken form. -/
def readChar (lead : UInt8) (rest : List UInt8) : Option Char × Nat :=
  if lead < 0x80 then (some (Char.ofNat lead.toNat), 0)
  -- The leading bytes C0 and C1 could only begin overlong forms.
  else if 0xC2 ≤ lead && lead ≤ 0xDF then
    match rest with
    | second :: _ =>
      if isContinuation second then
        (some (Char.ofNat (lead.toNat % 32 * 64 + payload second)), 1)
      else (none, 0)
    | [] => (none, 0)
  else if 0xE0 ≤ lead && lead ≤ 0xEF then
    match rest with
    | second :: third :: _ =>
      if !fitsSecond lead second then (none, 0)
      else if !isContinuation third then (none, 1)
      else
        (some (Char.ofNat (lead.toNat % 16 * 4096 + payload second * 64 + payload third)), 2)
    -- What may still begin a character counts as one broken sequence with its leading byte.
    | [second] => (none, if fitsSecond lead second then 1 else 0)
    | [] => (none, 0)
  else if 0xF0 ≤ lead && lead ≤ 0xF4 then
    match rest with
    | second :: third :: fourth :: _ =>
      if !fitsSecond lead second then (none, 0)
      else if !isContinuation third then (none, 1)
      else if !isContinuation fourth then (none, 2)
      else
        (some (Char.ofNat (lead.toNat % 8 * 262144 + payload second * 4096 +
          payload third * 64 + payload fourth)), 3)
    | [second, third] =>
      (none, if !fitsSecond lead second then 0 else if isContinuation third then 2 else 1)
    | [second] => (none, if fitsSecond lead second then 1 else 0)
    | [] => (none, 0)
  else (none, 0)

/-- The characters of a byte sequence, a broken one standing as nothing in its place. -/
def readChars : List UInt8 → List (Option Char)
  | [] => []
  | lead :: rest =>
    -- Every step uses up its leading byte, so the rest is always shorter.
    let (char, taken) := readChar lead rest
    char :: readChars (rest.drop taken)
termination_by bytes => bytes.length
decreasing_by simp only [List.length_drop, List.length_cons]; omega

/-- The text that the bytes spell, if every sequence of them is a character. -/
def ofUtf8? (bytes : List UInt8) : Option String :=
  ((readChars bytes).mapM id).map String.ofList

/-- The text that the bytes spell, each broken sequence shown as U+FFFD. -/
def ofUtf8Repaired (bytes : List UInt8) : String :=
  String.ofList ((readChars bytes).map fun char => char.getD (Char.ofNat 0xFFFD))

end SessionGate.Text
