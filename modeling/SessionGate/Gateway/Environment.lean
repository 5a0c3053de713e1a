import SessionGate.Text.Blank
import SessionGate.Text.Number

/-! Variables from which settings are read: blanks around a value do not count, and a blank value
is as good as none. -/

namespace SessionGate

/-- Why settings cannot be read: a variable is missing, or its value cannot be used. -/
inductive SettingsError where
  | missing (name : String)
  | invalid (name reason : String)
  deriving DecidableEq

/-- The wording of a fault of settings. -/
def SettingsError.message : SettingsError → String
  | .missing name => "missing required configuration: " ++ name
  | .invalid name reason => "invalid value for " ++ name ++ ": " ++ reason

/-- Variables with their values. -/
abbrev Environment := String → Option String

namespace Environment

/-- The value of a variable without the blanks around it, if anything is left of it. -/
def get? (environment : Environment) (name : String) : Option String :=
  ((environment name).map Text.trim).filter fun value => !value.isEmpty

/-- The value of a variable that must be set. -/
def require (environment : Environment) (name : String) : Except SettingsError String :=
  match environment.get? name with
  | some value => .ok value
  | none => .error (.missing name)

/-- The number that a variable tells, if it is set. -/
def number? (environment : Environment) (name : String) (largest : Nat) :
    Except SettingsError (Option Nat) :=
  match environment.get? name with
  -- A variable that is not set is no fault here, while one that tells no number is.
  | none => .ok none
  | some value =>
    match Text.readNumber largest value with
    | .ok number => .ok (some number)
    | .error fault => .error (.invalid name fault.message)

/-- The number that a variable tells, or another one if it is not set. -/
def numberOr (environment : Environment) (name : String) (largest default : Nat) :
    Except SettingsError Nat :=
  (environment.number? name largest).map fun number => number.getD default

end Environment

end SessionGate
