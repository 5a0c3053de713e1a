import SessionGate.Text.Hex

/-! JSON values and their compact text: no blanks, fields in the order given, and only the
characters escaped that a string may not hold. -/

namespace SessionGate

/-- A JSON value whose numbers are integers and whose fields keep their order. -/
inductive Json where
  | null
  | boolean (value : Bool)
  | number (value : Int)
  | text (value : String)
  | list (items : List Json)
  | object (fields : List (String × Json))

namespace Json

/-- A character as it stands inside a JSON string. -/
def escapeChar (c : Char) : List Char :=
  let point := c.toNat
  -- The seven short escapes come before the numeric one, which serves the other control
  -- characters.
  if point == 0x22 then ['\\', Char.ofNat 0x22]
  else if point == 0x5C then ['\\', '\\']
  else if point == 0x08 then ['\\', 'b']
  else if point == 0x09 then ['\\', 't']
  else if point == 0x0A then ['\\', 'n']
  else if point == 0x0C then ['\\', 'f']
  else if point == 0x0D then ['\\', 'r']
  else if point < 0x20 then
    ['\\', 'u', '0', '0', Text.hexDigit (point / 16), Text.hexDigit (point % 16)]
  else [c]

/-- A string between its quotes. -/
def quote (text : String) : List Char :=
  Char.ofNat 0x22 :: text.toList.flatMap escapeChar ++ [Char.ofNat 0x22]

/-- An integer in decimal digits, a minus sign before a negative one. -/
def digits (value : Int) : List Char :=
  -- Zero has no sign.
  if value < 0 then '-' :: Nat.toDigits 10 value.natAbs else Nat.toDigits 10 value.natAbs

mutual

/-- The compact text of a value. -/
def chars : Json → List Char
  | .null => "null".toList
  | .boolean true => "true".toList
  | .boolean false => "false".toList
  | .number value => digits value
  | .text value => quote value
  | .list items => '[' :: itemChars items ++ [']']
  | .object fields => Char.ofNat 0x7B :: fieldChars fields ++ [Char.ofNat 0x7D]

/-- The items of a list, separated by commas. -/
def itemChars : List Json → List Char
  | [] => []
  | [item] => chars item
  | item :: next :: rest => chars item ++ ',' :: itemChars (next :: rest)

/-- The fields of an object, separated by commas. -/
def fieldChars : List (String × Json) → List Char
  | [] => []
  | [(name, value)] => quote name ++ ':' :: chars value
  | (name, value) :: next :: rest =>
    quote name ++ ':' :: chars value ++ ',' :: fieldChars (next :: rest)

end

/-- The compact text of a value. -/
def render (value : Json) : String :=
  String.ofList value.chars

/-- An optional value is written as itself or as null. -/
def ofOption {α : Type} (write : α → Json) : Option α → Json
  | some value => write value
  | none => .null

end Json

end SessionGate
