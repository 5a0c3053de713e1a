import SessionGate.Json.Reader
import SessionGate.Json.Value

/-! The shapes of value a document may ask for, and reading a value of a given shape. -/

namespace SessionGate.Json

/-- A field of a record: the names it goes by, what stands for it when an object or a list
leaves it out, and what its value is. -/
structure Field (σ : Type) where
  names : List String
  ifAbsent : Option Json
  ifListEnds : Option Json
  value : σ

/-- The values that a document accepts in one place. -/
inductive Shape where
  | text (accepts : String → Bool)
  | flag
  | integer (low high : Int)
  | choice (names : List String)
  | optional (shape : Shape)
  | record (fields : List (Field Shape))

/-- A field that must be there. -/
def Field.required {σ : Type} (name : String) (value : σ) : Field σ :=
  ⟨[name], none, none, value⟩

/-- A field that has a value of its own when it is left out. -/
def Field.withDefault {σ : Type} (name : String) (absent : Json) (value : σ) : Field σ :=
  ⟨[name], some absent, some absent, value⟩

/-- Any text. -/
def Shape.anyText : Shape := .text fun _ => true

namespace Reader

/-- A string that is accepted. -/
def textValue (accepts : String → Bool) : Reader Json := do
  match ← peekMark with
  | none => fail .truncated
  | some 0x22 => do
    skip
    let text ← stringTail
    -- The string is read to its end before it is judged, so broken text is the earlier fault.
    if accepts text then return .text text else fail .mismatched
  | some _ => misfit

/-- A truth value. -/
def flagValue : Reader Json := do
  match ← peekMark with
  | none => fail .truncated
  | some 0x74 => do skip; trueTail; return .boolean true
  | some 0x66 => do skip; falseTail; return .boolean false
  | some _ => misfit

/-- An integer between two bounds; a number with a fraction or an exponent is none. -/
def integerValue (low high : Int) : Reader Json := do
  let first ← peekMark
  let found ← match first with
    | none => fail .truncated
    | some byte =>
      -- A minus belongs to the number, and whether it is an integer shows at its end.
      if byte == 0x2D then do
        skip
        unsigned false
      else if isDigit byte then unsigned true
      else misfit
  match found with
  | .integer value =>
    if low ≤ value && value ≤ high then return .number value else fail .mismatched
  | .other => fail .mismatched

/-- The colon after a field's name. -/
def colon : Reader Unit := do
  match ← peekMark with
  | some 0x3A => skip
  | some _ => fail .malformed
  | none => fail .truncated

/-- One of a list of names, alone or as the name of a field that holds null. -/
def choiceValue (names : List String) : Reader Json := do
  match ← peekMark with
  | none => fail .truncated
  | some 0x22 => textValue names.contains
  -- The longer form is an object whose only field is named for the choice and holds null.
  | some 0x7B => do
    skip
    let name ← textValue names.contains
    colon
    match ← peekMark with
    | none => fail .truncated
    | some 0x6E => do skip; nullTail
    | some _ => misfit
    match ← peekMark with
    | some 0x7D => do skip; return name
    -- What is neither a string nor an object is refused unread.
    | some _ => fail .malformed
    | none => fail .truncated
  | some _ => fail .malformed

/-- Null, or a value. -/
def optionalValue (read : Reader Json) : Reader Json := do
  match ← peekMark with
  | some 0x6E => do skip; nullTail; return .null
  | _ => read

/-- Another item of a list follows. -/
def moreItems (first : Bool) : Reader Bool := do
  match ← peekMark with
  | none => fail .truncated
  | some 0x5D => return false
  | some byte =>
    -- The first item has no comma before it.
    if first then return true
    else if byte == 0x2C then
      skip
      match ← peekMark with
      -- A comma promises another item.
      | some 0x5D => fail .malformed
      | some _ => return true
      | none => fail .truncated
    else fail .malformed

/-- The fields of a record written as a list, in their order. -/
def itemsOf (first : Bool) : List (Field (Reader Json)) → Reader (List Json)
  | [] => return []
  | field :: rest => do
    if ← moreItems first then
      let value ← field.value
      return value :: (← itemsOf false rest)
    else
      -- Items are told apart by place alone, so only the last fields can be left out.
      match field.ifListEnds with
      | some value => return value :: (← itemsOf first rest)
      | none => fail .mismatched

/-- The end of a list all of whose wanted items were read. -/
def closeList : Reader Unit := do
  match ← peekMark with
  | some 0x5D => skip
  | some _ => fail .malformed
  | none => fail .truncated

/-- Another field of an object follows; its name's opening quote is next. -/
def moreFields (first : Bool) : Reader Bool := do
  match ← peekMark with
  | none => fail .truncated
  | some 0x7D => return false
  | some byte =>
    if first then
      -- A name is a string, so nothing else may begin a field.
      if byte == 0x22 then return true else fail .malformed
    else if byte == 0x2C then
      skip
      match ← peekMark with
      | some 0x22 => return true
      | some _ => fail .malformed
      | none => fail .truncated
    else fail .malformed

/-- The fields of an object in any order, each kept in its field's place. A second value for a
field does not fit, and unknown fields are passed over; `fuel` bounds the number of fields. -/
def fieldsOf (fields : List (Field (Reader Json))) :
    Nat → Bool → List (Option Json) → Reader (List (Option Json))
  | 0, _, _ => fail .truncated
  | fuel + 1, first, found => do
    if ← moreFields first then
      skip
      let name ← stringTail
      match fields.findIdx? fun field => field.names.contains name with
      -- An unknown name has a value all the same, which is checked for its form.
      | none => do
        colon
        passValue
        fieldsOf fields fuel false found
      | some place =>
        -- The second value is not looked at.
        if (found.getD place none).isSome then fail .mismatched
        else
          match fields[place]? with
          | none => fail .mismatched
          | some field => do
            colon
            let value ← field.value
            fieldsOf fields fuel false (found.set place (some value))
    else return found

/-- Every field has a value, given or standing for its absence. -/
def complete : List (Field (Reader Json)) → List (Option Json) → Reader (List Json)
  | [], _ => return []
  | field :: rest, found => do
    -- A value that was read comes before the one that stands for its absence.
    let value ← match found.head?.join <|> field.ifAbsent with
      | some value => pure value
      | none => fail .mismatched
    return value :: (← complete rest found.tail)

/-- A field is written under its first name. -/
def named (fields : List (Field (Reader Json))) (values : List Json) : Json :=
  .object ((fields.map fun field => field.names.headD "").zip values)

/-- A record, written as an object or as a list of its fields' values. -/
def recordValue (fields : List (Field (Reader Json))) : Reader Json := do
  match ← peekMark with
  | none => fail .truncated
  | some 0x5B => do
    skip
    let values ← itemsOf true fields
    closeList
    return named fields values
  | some 0x7B => do
    skip
    let found ← fieldsOf fields ((← get).length + 1) true (fields.map fun _ => none)
    -- Missing fields are found before the closing brace is passed.
    let values ← complete fields found
    skip
    return named fields values
  | some _ => misfit

end Reader

mutual

/-- The reader of a shape. -/
def Shape.reader : Shape → Reader Json
  | .text accepts => Reader.textValue accepts
  | .flag => Reader.flagValue
  | .integer low high => Reader.integerValue low high
  | .choice names => Reader.choiceValue names
  | .optional shape => Reader.optionalValue shape.reader
  | .record fields => Reader.recordValue (fieldReaders fields)

/-- The readers of a record's fields. -/
def fieldReaders : List (Field Shape) → List (Field (Reader Json))
  | [] => []
  | ⟨names, ifAbsent, ifListEnds, value⟩ :: rest =>
    ⟨names, ifAbsent, ifListEnds, value.reader⟩ :: fieldReaders rest

end

/-- A value of the shape, and nothing after it. -/
def Shape.read (shape : Shape) (bytes : List UInt8) : Except Fault Json := do
  -- What follows the value is looked at only if the value fits.
  let (value, rest) ← shape.reader bytes
  let _ ← Reader.finish rest
  return value

/-- The values of an object's fields in their order. -/
def fieldValues : Json → List Json
  | .object fields => fields.map fun field => field.2
  | _ => []

/-- A text, if the value is one. -/
def text? : Json → Option String
  | .text value => some value
  | _ => none

/-- A truth value, if the value is one. -/
def flag? : Json → Option Bool
  | .boolean value => some value
  | _ => none

/-- An integer, if the value is one. -/
def integer? : Json → Option Int
  | .number value => some value
  | _ => none

/-- Null, or a value that can be taken as wanted. -/
def optional? {α : Type} (take : Json → Option α) : Json → Option (Option α)
  | .null => some none
  | value => (take value).map some

end SessionGate.Json
