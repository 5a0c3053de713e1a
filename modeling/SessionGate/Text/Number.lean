/-! Numbers written in decimal digits. -/

namespace SessionGate.Text

/-- Why a text tells no number. -/
inductive NumberFault where
  | empty
  | notDigit
  | tooLarge
  deriving DecidableEq, Repr

/-- The wording for a text that tells no number. -/
def NumberFault.message : NumberFault → String
  | .empty => "cannot parse integer from empty string"
  | .notDigit => "invalid digit found in string"
  | .tooLarge => "number too large to fit in target type"

/-- The number that digits spell after those that spelled `value`, up to a largest number. The
first character that is no digit or leads beyond that number tells the fault. -/
def readDigits (largest : Nat) : Nat → List Char → Except NumberFault Nat
  | value, [] => .ok value
  | value, c :: rest =>
    if '0' ≤ c ∧ c ≤ '9' then
      -- The bound is checked at every digit, so a wrong character behind it goes unseen.
      let next := value * 10 + (c.toNat - 48)
      if next ≤ largest then readDigits largest next rest else .error .tooLarge
    else .error .notDigit

/-- The number of a text of digits, which may have a plus before them. -/
def readNumber (largest : Nat) (text : String) : Except NumberFault Nat :=
  match text.toList with
  | [] => .error .empty
  -- A sign alone is not empty, and so its fault is the missing digit.
  | ['+'] => .error .notDigit
  | '+' :: digits => readDigits largest 0 digits
  | digits => readDigits largest 0 digits

end SessionGate.Text
