import SessionGate.Identifier.UserId
import SessionGate.Text.Blank
import SessionGate.Text.Hex

/-! Identifiers of sessions: sixteen bytes, written as a UUID. -/

namespace SessionGate

/-- Sixteen bytes that identify a session. -/
structure SessionId where
  bytes : Vector UInt8 16
  deriving DecidableEq

namespace SessionId

/-- The numbers of bytes in the groups of the hyphenated form. -/
def groups : List Nat := [4, 2, 2, 2, 6]

/-- The digits of the bytes group by group, a hyphen between the groups. -/
def hyphenated : List Nat → List UInt8 → List Char
  | [], _ => []
  -- The last group has no hyphen after it.
  | [size], bytes => (bytes.take size).flatMap Text.hexByte
  | size :: next :: rest, bytes =>
    (bytes.take size).flatMap Text.hexByte ++ '-' :: hyphenated (next :: rest) (bytes.drop size)

/-- The hyphenated form with small digits. -/
def chars (id : SessionId) : List Char := hyphenated groups id.bytes.toList

/-- The hyphenated form with small digits. -/
def render (id : SessionId) : String := String.ofList id.chars

/-- The bytes that pairs of digits spell, to the end of the text. -/
def pairs : List Char → Option (List UInt8)
  | [] => some []
  | high :: low :: rest => do
    let a ← Text.hexValue? high
    let b ← Text.hexValue? low
    let bytes ← pairs rest
    return UInt8.ofNat (a * 16 + b) :: bytes
  | [_] => none

/-- The digits of the groups of the hyphenated form, the hyphens taken out. -/
def joinGroups : List Nat → List Char → Option (List Char)
  | [], chars => if chars.isEmpty then some [] else none
  | [size], chars => if chars.length == 2 * size then some chars else none
  | size :: next :: rest, chars => do
    match chars.drop (2 * size) with
    -- Each group but the last must end in a hyphen at its very place.
    | '-' :: tail => do
      let digits ← joinGroups (next :: rest) tail
      return chars.take (2 * size) ++ digits
    | _ => none

/-- A session identifier of sixteen bytes. -/
def ofBytes? (bytes : List UInt8) : Option SessionId :=
  if size : bytes.toArray.size = 16 then some ⟨⟨bytes.toArray, size⟩⟩ else none

/-- The bytes of thirty-two digits. -/
def ofDigits? (digits : List Char) : Option SessionId := (pairs digits).bind ofBytes?

/-- The bytes of the hyphenated form. -/
def ofHyphenated? (chars : List Char) : Option SessionId :=
  (joinGroups groups chars).bind ofDigits?

/-- The mark of the form as a uniform resource name, in small letters. -/
def resourceMark : List Char := "urn:uuid:".toList

/-- Reads the hyphenated form, alone, in braces or as a uniform resource name, or the digits
alone; digits and mark may be of either case. -/
def ofChars? (chars : List Char) : Option SessionId :=
  -- The four forms have four lengths, so the length alone selects the form.
  if chars.length == 32 then ofDigits? chars
  else if chars.length == 36 then ofHyphenated? chars
  else if chars.length == 38 && chars.head? == some (Char.ofNat 0x7B) &&
      chars.getLast? == some (Char.ofNat 0x7D) then
    ofHyphenated? (chars.drop 1).dropLast
  else if chars.length == 45 && (chars.take 9).map Text.lowerChar == resourceMark then
    ofHyphenated? (chars.drop 9)
  else none

/-- Reads a session identifier. -/
def parse (text : String) : Except IdentifierFault SessionId :=
  match ofChars? text.toList with
  | some id => .ok id
  | none => .error .notUuid

/-- Reads a session identifier, if the text is one. -/
def parse? (text : String) : Option SessionId := ofChars? text.toList

/-- A text may stand where a session identifier is wanted. -/
def accepts (text : String) : Bool := (parse? text).isSome

/-- Identifiers are ordered by their bytes. -/
def le (first second : SessionId) : Bool :=
  -- The first byte is the weightiest, as in the text of the identifier.
  !(second.bytes.toList.map UInt8.toNat).lex (first.bytes.toList.map UInt8.toNat) (· < ·)

/-- The identifier with a number in its last six bytes and the mark of a random UUID. -/
def numbered (number : Nat) : SessionId :=
  ⟨#v[0, 0, 0, 0, 0, 0, 0x40, 0, 0x80, 0, UInt8.ofNat (number / Nat.pow 2 40),
    UInt8.ofNat (number / Nat.pow 2 32), UInt8.ofNat (number / Nat.pow 2 24),
    UInt8.ofNat (number / Nat.pow 2 16), UInt8.ofNat (number / Nat.pow 2 8), UInt8.ofNat number]⟩

end SessionId

end SessionGate
