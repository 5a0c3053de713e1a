import SessionGate.Text.Hex

/-! Percent-encoding: which characters each part of a URL leaves as they are, and decoding. -/

namespace SessionGate.Url

/-- A set of ASCII characters that are written as percent escapes. All others outside ASCII are
escaped everywhere. -/
abbrev EscapeSet := Char → Bool

/-- Control characters are escaped in every part. -/
def controls : EscapeSet := fun c => c.toNat < 0x20 || c.toNat == 0x7F

/-- What a fragment escapes. -/
def inFragment : EscapeSet := fun c =>
  controls c || [' ', Char.ofNat 0x22, '<', '>', Char.ofNat 0x60].contains c

/-- What a path escapes. -/
def inPath : EscapeSet := fun c =>
  inFragment c || ['#', '?', Char.ofNat 0x7B, Char.ofNat 0x7D].contains c

/-- What one segment of a path escapes, so that it stays one. -/
def inSegment : EscapeSet := fun c => inPath c || c == '/' || c == '%'

/-- What one segment of a path escapes where a backslash, too, would end it. -/
def inSpecialSegment : EscapeSet := fun c => inSegment c || c == '\\'

/-- What a user name or a password escapes. -/
def inUserInfo : EscapeSet := fun c =>
  inPath c || ['/', ':', ';', '=', '@', '[', '\\', ']', '^', '|'].contains c

/-- What a query escapes. -/
def inQuery : EscapeSet := fun c =>
  controls c || [' ', Char.ofNat 0x22, '#', '<', '>'].contains c

/-- What a query escapes in the schemes of the web. -/
def inSpecialQuery : EscapeSet := fun c => inQuery c || c == Char.ofNat 0x27

/-- A byte as a percent escape. -/
def escapeByte (byte : UInt8) : List Char :=
  ['%', Text.hexDigitCapital (byte.toNat / 16), Text.hexDigitCapital (byte.toNat % 16)]

/-- A character as it is, or each of its bytes as an escape. -/
def encodeChar (escaped : EscapeSet) (c : Char) : List Char :=
  -- Escapes stand for bytes, so a character outside ASCII needs several.
  if c.toNat < 0x80 && !escaped c then [c] else (String.utf8EncodeChar c).flatMap escapeByte

/-- A text with the characters of a set escaped. -/
def encode (escaped : EscapeSet) (chars : List Char) : List Char :=
  chars.flatMap (encodeChar escaped)

/-- The bytes of a text whose percent escapes stand for bytes; other percent signs stay. -/
def decodeBytes : List UInt8 → List UInt8
  | 0x25 :: high :: low :: rest =>
    match Text.hexValue? (Char.ofNat high.toNat), Text.hexValue? (Char.ofNat low.toNat) with
    | some a, some b => UInt8.ofNat (a * 16 + b) :: decodeBytes rest
    -- A percent sign without two digits stands for itself.
    | _, _ => 0x25 :: decodeBytes (high :: low :: rest)
  | byte :: rest => byte :: decodeBytes rest
  | [] => []

/-- The bytes that a text with percent escapes stands for. -/
def decode (chars : List Char) : List UInt8 :=
  decodeBytes (chars.flatMap String.utf8EncodeChar)

/-- A character of a form's value: letters, digits and four marks stay, a blank becomes a plus. -/
def formChar (c : Char) : List Char :=
  if c.isAlphanum || ['*', '-', '.', '_'].contains c then [c]
  else if c == ' ' then ['+']
  else (String.utf8EncodeChar c).flatMap escapeByte

/-- One name and value of a form. -/
def formPair (name value : String) : String :=
  String.ofList (name.toList.flatMap formChar ++ '=' :: value.toList.flatMap formChar)

end SessionGate.Url
