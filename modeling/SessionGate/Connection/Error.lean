import SessionGate.Broker.Error
import SessionGate.Identity.Error
import SessionGate.Store.Call
import SessionGate.Time.Duration

/-! Why a connection or a session change did not come about. -/

namespace SessionGate

/-- What went wrong in the connection service. -/
inductive ConnectionError where
  | validation (reason : String)
  | unauthorized (reason : String)
  | forbidden (reason : String)
  | sessionNotFound (session : SessionId)
  | sessionNotInProgress (session : SessionId) (current : SessionStatus)
  | connectInProgress (user : UserId)
  | provisionTimeout (limit : Duration)
  | identity (cause : IdentityError)
  | broker (cause : BrokerError)
  | store (cause : StoreError)
  | internal (reason : String)
  deriving DecidableEq

namespace ConnectionError

/-- A store's fault about one session is told as a fault about that session. -/
def ofStore : StoreError → ConnectionError
  | .notFound session => .sessionNotFound session
  | .notInProgress session current => .sessionNotInProgress session current
  -- All other faults say nothing about a session, and are kept as the store's own.
  | cause => .store cause

/-- The wording of a fault of the connection service. -/
def message : ConnectionError → String
  | .validation reason => "validation failed: " ++ reason
  | .unauthorized reason => "unauthorized: " ++ reason
  | .forbidden reason => "forbidden: " ++ reason
  | .sessionNotFound session => "session with ID " ++ session.render ++ " not found"
  | .sessionNotInProgress session current =>
    "cannot update status: session " ++ session.render ++ " is " ++ current.name ++
      ", not IN_PROGRESS"
  | .connectInProgress user =>
    "another connect for user " ++ user.text ++ " is in progress, retry shortly"
  | .provisionTimeout limit => "provisioning did not finish within " ++ limit.describe
  | .identity cause => cause.message
  | .broker cause => "broker error: " ++ cause.message
  | .store cause => "storage error: " ++ cause.message
  | .internal reason => "internal error: " ++ reason

/-- The HTTP status that tells a fault. -/
def httpStatus : ConnectionError → Nat
  | .validation _ => 400
  | .unauthorized _ => 401
  | .forbidden _ => 403
  | .sessionNotFound _ => 404
  | .sessionNotInProgress _ _ => 409
  | .connectInProgress _ => 503
  | .provisionTimeout _ => 504
  | .identity cause => cause.httpStatus
  | .broker cause => cause.httpStatus
  | .store _ | .internal _ => 500

/-- The same request may succeed later. -/
def isRetriable : ConnectionError → Bool
  | .identity cause => cause.isRetriable
  | .broker cause => cause.isRetriable
  -- Of a store's faults only the database itself may recover.
  | .store (.database _) | .connectInProgress _ | .provisionTimeout _ => true
  | _ => false

end ConnectionError

end SessionGate
