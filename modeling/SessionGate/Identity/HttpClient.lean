import SessionGate.Http.Outgoing
import SessionGate.Identity.Call
import SessionGate.Url.Parser
import SessionGate.Url.Segments

/-! Asking the identity service over HTTP. -/

namespace SessionGate

/-- Where the identity service is. -/
structure IdentitySettings where
  baseUrl : String
  timeoutSeconds : Nat
  deriving DecidableEq

/-- The settings when none are given. -/
def IdentitySettings.default : IdentitySettings := ⟨"http://users-service:8000", 10⟩

/-- The identity service at a URL that can have paths. -/
structure HttpIdentity where
  base : Url
  deriving DecidableEq

namespace HttpIdentity

/-- The service that settings name, if its URL can have paths. -/
def ofSettings [Url.DomainLookup] (settings : IdentitySettings) :
    Except IdentityError HttpIdentity :=
  match Url.parse settings.baseUrl with
  | .error fault => .error (.internal ("invalid base URL: " ++ fault.message))
  | .ok base =>
    if base.cannotBeBase then .error (.internal ("base URL cannot have paths: " ++ base.render))
    else .ok ⟨base⟩

/-- The segments that lead to what a call is about. -/
def segments : IdentityCall → List String
  | .validateToken _ _ => ["tokens", "validate"]
  | .getUser user => ["users", user.text]
  | .revokeAuthorization user => ["users", user.text, "status"]
  | .revokeToken _ tokenId => ["tokens", "revoke", tokenId]

/-- The place that a refusal without a problem document is said to come from. -/
def place (call : IdentityCall) : String :=
  String.join ((segments call).map fun segment => "/" ++ segment)

/-- The URL of a call. The owner of a token to be revoked stands in the query. -/
def endpoint (service : HttpIdentity) (call : IdentityCall) : Url :=
  -- Segments are escaped one by one, so a name cannot lead to another resource.
  let url := service.base.popIfEmpty.push (segments call)
  match call with
  | .revokeToken user _ => url.addQueryPair "user_id" user.text
  | _ => url

/-- The method of a call. -/
def method : IdentityCall → String
  | .validateToken _ _ => "POST"
  | .getUser _ => "GET"
  | .revokeAuthorization _ => "PATCH"
  | .revokeToken _ _ => "DELETE"

/-- The document that a call is described by. -/
def document : IdentityCall → Option Json
  | .validateToken token user => some (TokenValidation.request token user.text)
  | .revokeAuthorization _ => some (UserProfile.statusUpdate false)
  | .getUser _ | .revokeToken _ _ => none

/-- The request that a call is made by. -/
def request (service : HttpIdentity) (call : IdentityCall) : Outgoing :=
  ⟨method call, service.endpoint call, none, (document call).map Json.render⟩

/-- The status that tells of success. -/
def success : IdentityCall → Nat
  | .revokeToken _ _ => 204
  | _ => 200

/-- The problem that a refusal tells; one without a status has that of the reply, and a body that
is no problem document is quoted. -/
def refusal (place : String) (status : Nat) (body : String) : Problem :=
  match (Problem.shape.read (Text.utf8 body)).toOption.bind Problem.ofJson? with
  -- A status of zero means that the document told none.
  | some problem => if problem.status = 0 then { problem with status } else problem
  | none => .externalServiceError status ("users-service returned error: " ++ body) place

/-- Takes a reply that tells of success. A client error is a refusal, and all else means that the
service is not available. -/
def expect (call : IdentityCall) : Except SendFault Reply → Except IdentityError Reply
  | .error fault =>
    .error (.unavailable ("failed to connect to users-service: " ++ fault.message))
  | .ok reply =>
    let body := Text.ofUtf8Repaired reply.body
    -- Each call has one status that tells of success; no other is taken for it.
    if reply.status = success call then .ok reply
    -- A refusal is for good, and so it is kept apart from a service that fails.
    else if 400 ≤ reply.status ∧ reply.status < 500 then
      .error (.rejected (refusal (place call) reply.status body))
    else
      .error (.unavailable ("users-service returned status " ++ toString reply.status ++ ": " ++
        body))

/-- The value that the body of a reply tells. -/
def decode {α : Type} (what : String) (shape : Json.Shape) (take : Json → Option α)
    (reply : Reply) : Except IdentityError α :=
  match (shape.read reply.body).toOption.bind take with
  | some value => .ok value
  | none => .error (.undecodable (what ++ ": error decoding response body"))

/-- What a call finds out by its reply. -/
def result : (call : IdentityCall) → Reply → call.Answer
  | .validateToken _ _ => decode "token validation" TokenValidation.shape TokenValidation.ofJson?
  | .getUser _ => decode "user profile" UserProfile.shape UserProfile.ofJson?
  | .revokeAuthorization _ | .revokeToken _ _ => fun _ => .ok ()

/-- Makes a call by one request. -/
def perform (service : HttpIdentity) (call : IdentityCall) : SendProgram call.Answer := do
  let sent ← (service.request call).send
  -- The body is read only if the status tells of success.
  return (expect call sent).bind (result call)

end HttpIdentity

end SessionGate
