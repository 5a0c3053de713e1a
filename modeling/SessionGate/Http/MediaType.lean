import SessionGate.Text.Blank

/-! Media types: a type, a subtype with or without a suffix after a plus, and parameters. -/

namespace SessionGate

/-- A media type without its parameters, in small letters. -/
structure MediaType where
  type : List Char
  subtype : List Char
  ending : Option (List Char)
  deriving DecidableEq, Repr

namespace MediaType

/-- A character of a name. -/
def isToken (c : Char) : Bool :=
  c.isAlphanum || ['!', '#', '$', '%', '&', Char.ofNat 0x27, '*', '+', '-', '.', '^', '_',
    Char.ofNat 0x60, '|', '~'].contains c

/-- A character that may stand between quotes. -/
def isQuotable (c : Char) : Bool := 31 < c.toNat && c.toNat != 127

/-- What follows a value between quotes, the opening quote being read: another parameter, or
nothing. A quote right after the opening one does not close the value. -/
def afterQuoted? (chars : List Char) : Option (List Char) :=
  match chars with
  | [] => none
  | first :: rest =>
    -- The first character is taken whatever it is, so a closing quote must come later.
    if !isQuotable first then none
    else
      let value := rest.takeWhile fun c => isQuotable c && c != Char.ofNat 0x22
      match rest.drop value.length with
      | [] => none
      | close :: rest =>
        if close != Char.ofNat 0x22 then none
        else
          match rest.dropWhile (· == ' ') with
          | [] => some []
          | ';' :: rest => some rest
          | _ => none

/-- What follows a value without quotes: another parameter, or nothing. -/
def afterPlain? (chars : List Char) : Option (List Char) :=
  match chars.dropWhile isToken with
  | [] => some []
  -- A value may be missing only at the end of the text.
  | ';' :: rest => if chars.takeWhile isToken == [] then none else some rest
  | _ => none

/-- What follows the value of a parameter. -/
def afterValue? (chars : List Char) : Option (List Char) :=
  match chars with
  | [] => some []
  | first :: rest => if first == Char.ofNat 0x22 then afterQuoted? rest else afterPlain? chars

/-- What follows a parameter, blanks before it not counting. -/
def afterParameter? (chars : List Char) : Option (List Char) :=
  let chars := chars.dropWhile (· == ' ')
  -- A semicolon at the end promises nothing.
  if chars.isEmpty then some []
  else
    let name := chars.takeWhile isToken
    match chars.drop name.length with
    | '=' :: value => if name.isEmpty then none else afterValue? value
    | _ => none

/-- A text is a list of parameters, divided by semicolons; each one read makes the rest
shorter. -/
def areParameters : Nat → List Char → Bool
  | 0, chars => chars.isEmpty
  | fuel + 1, chars =>
    if chars.isEmpty then true
    else
      match afterParameter? chars with
      | none => false
      | some rest => areParameters fuel rest

/-- The subtype and its suffix: a plus that does not come first divides them, the last one if
there are several. -/
def splitEnding (subtype : List Char) : List Char × Option (List Char) :=
  let ending := (subtype.reverse.takeWhile (· != '+')).reverse
  let before := subtype.take (subtype.length - ending.length - 1)
  -- Without a plus the ending would be the whole subtype.
  if ending.length < subtype.length && !before.isEmpty then (before, some ending)
  else (subtype, none)

/-- Reads a media type. -/
def read? (text : String) : Option MediaType :=
  let chars := text.toList
  let type := chars.takeWhile isToken
  match chars.drop type.length with
  | '/' :: rest =>
    let subtype := rest.takeWhile isToken
    let (name, ending) := splitEnding (subtype.map Text.lowerChar)
    let found : MediaType := ⟨type.map Text.lowerChar, name, ending⟩
    if type.isEmpty then none
    else
      match rest.drop subtype.length with
      | [] => some found
      | ';' :: parameters =>
        -- Parameters do not change the type, but they must be well formed.
        if !subtype.isEmpty && areParameters parameters.length parameters then some found
        else none
      | _ => none
  | _ => none

/-- A media type of JSON documents. -/
def isJson (mediaType : MediaType) : Bool :=
  mediaType.type == "application".toList &&
    -- A suffix tells how a document of some other kind is written.
    (mediaType.subtype == "json".toList || mediaType.ending == some "json".toList)

end MediaType

end SessionGate
