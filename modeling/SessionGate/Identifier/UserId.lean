import SessionGate.Text.Blank
import SessionGate.Text.Utf8

/-! Identifiers of users: issued elsewhere, kept as they are, and fit to stand in broker names. Why
a text is no identifier. -/

namespace SessionGate

/-- What is wrong with the text of an identifier. -/
inductive IdentifierFault where
  | empty
  | tooLong (most found : Nat)
  | forbiddenCharacter
  | notUuid
  deriving DecidableEq, Repr

/-- The wording of a fault. -/
def IdentifierFault.message : IdentifierFault → String
  | .empty => "identifier must not be empty"
  | .tooLong most found =>
    "identifier too long: at most " ++ toString most ++ " bytes, got " ++ toString found
  | .forbiddenCharacter => "identifier contains whitespace or control characters"
  | .notUuid => "invalid UUID format"

/-- The most bytes a user identifier may have, which leaves room for the suffixes of names. -/
def UserId.maxLength : Nat := 128

/-- What keeps a text from being a user identifier: that it is empty comes before its length,
and its length before its characters. -/
def UserId.fault? (text : String) : Option IdentifierFault :=
  -- Emptiness is told first, and length before characters, so a long blank text is too long.
  if text.isEmpty then some .empty
  else if UserId.maxLength < Text.utf8Length text then
    some (.tooLong UserId.maxLength (Text.utf8Length text))
  else if text.toList.any fun c => Text.isBlank c || Text.isControl c then
    some .forbiddenCharacter
  else none

/-- A user identifier: a text with no fault. -/
structure UserId where
  text : String
  sound : UserId.fault? text = none
  deriving DecidableEq

namespace UserId

/-- Takes a text as a user identifier, or tells its first fault. -/
def parse (text : String) : Except IdentifierFault UserId :=
  -- The reading keeps the evidence that the text has no fault.
  match found : fault? text with
  | none => .ok ⟨text, found⟩
  | some fault => .error fault

/-- Takes a text as a user identifier, if it is one. -/
def parse? (text : String) : Option UserId := (parse text).toOption

/-- A text may stand where a user identifier is wanted. -/
def accepts (text : String) : Bool := (fault? text).isNone

/-- Identifiers are ordered by their characters, which is the order of their bytes, too. -/
def order (first second : UserId) : Ordering := compare first.text second.text

end UserId

end SessionGate
