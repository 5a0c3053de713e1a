/-! White space and control characters, and the text left when its blank ends are cut off. -/

namespace SessionGate.Text

/-- A character is blank when Unicode gives it the property White_Space. -/
def isBlank (c : Char) : Bool :=
  let point := c.toNat
  (9 ≤ point && point ≤ 13) || point == 0x20 || point == 0x85 || point == 0xA0 ||
    point == 0x1680 || (0x2000 ≤ point && point ≤ 0x200A) || point == 0x2028 ||
    point == 0x2029 || point == 0x202F || point == 0x205F || point == 0x3000

/-- A control character is one of the general category Cc. -/
def isControl (c : Char) : Bool :=
  let point := c.toNat
  point ≤ 0x1F || (0x7F ≤ point && point ≤ 0x9F)

/-- The characters between the first and the last that are not blank. -/
def trimChars (chars : List Char) : List Char :=
  ((chars.dropWhile isBlank).reverse.dropWhile isBlank).reverse

/-- The text without the blank characters at its two ends. -/
def trim (text : String) : String :=
  String.ofList (trimChars text.toList)

/-- A capital letter of the Latin alphabet becomes the small one and all else stays. -/
def lowerChar (c : Char) : Char :=
  if 'A' ≤ c && c ≤ 'Z' then Char.ofNat (c.toNat + 32) else c

/-- The text with its Latin capitals made small. -/
def lower (text : String) : String :=
  String.ofList (text.toList.map lowerChar)

end SessionGate.Text
