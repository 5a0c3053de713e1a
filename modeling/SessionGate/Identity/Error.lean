import SessionGate.Problem

/-! Why the identity service gave no answer, or a refusal. -/

namespace SessionGate

/-- What went wrong at the identity service. -/
inductive IdentityError where
  | unavailable (reason : String)
  | rejected (problem : Problem)
  | undecodable (reason : String)
  | internal (reason : String)
  deriving DecidableEq

namespace IdentityError

/-- The wording of an identity fault. -/
def message : IdentityError → String
  | .unavailable reason => "identity service unavailable: " ++ reason
  | .rejected problem => "identity service rejected request: " ++ problem.describe
  | .undecodable reason => "invalid identity service response: " ++ reason
  | .internal reason => "internal error: " ++ reason

/-- The same call may succeed later. -/
def isRetriable : IdentityError → Bool
  | .unavailable _ => true
  | _ => false

/-- The HTTP status that tells an identity fault; a refusal keeps its own. -/
def httpStatus : IdentityError → Nat
  | .rejected problem => problem.status
  | .unavailable _ | .undecodable _ => 502
  | .internal _ => 500

end IdentityError

end SessionGate
