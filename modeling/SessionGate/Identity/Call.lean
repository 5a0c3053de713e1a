import SessionGate.Identity.Documents
import SessionGate.Identity.Error

/-! What is asked of the identity service. -/

namespace SessionGate

/-- A question to the identity service, or an order. -/
inductive IdentityCall where
  | validateToken (token : String) (user : UserId)
  | getUser (user : UserId)
  | revokeAuthorization (user : UserId)
  | revokeToken (user : UserId) (tokenId : String)
  deriving DecidableEq

namespace IdentityCall

/-- What a call finds out. -/
def Result : IdentityCall → Type
  | .validateToken _ _ => TokenValidation
  | .getUser _ => UserProfile
  | .revokeAuthorization _ | .revokeToken _ _ => Unit

/-- What a call is answered with. -/
abbrev Answer (call : IdentityCall) : Type := Except IdentityError call.Result

/-- The user that a call concerns. -/
def user : IdentityCall → UserId
  | .validateToken _ user | .getUser user | .revokeAuthorization user | .revokeToken user _ => user

/-- The name of a call. -/
def name : IdentityCall → String
  | .validateToken _ _ => "validate_token"
  | .getUser _ => "get_user"
  | .revokeAuthorization _ => "revoke_authorization"
  | .revokeToken _ _ => "revoke_token"

/-- The texts a call is made with. -/
def arguments : IdentityCall → List String
  | .validateToken token user => [token, user.text]
  | .getUser user | .revokeAuthorization user => [user.text]
  | .revokeToken user tokenId => [user.text, tokenId]

end IdentityCall

end SessionGate
