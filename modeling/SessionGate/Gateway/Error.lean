import SessionGate.Connection.Error

/-! Faults as the gateway's clients get them told. -/

namespace SessionGate

/-- Why the gateway refuses a request or cannot answer it. -/
inductive GatewayError where
  | badRequest (detail : String)
  | unauthorized (detail : String)
  | forbidden (detail : String)
  | notFound (detail : String)
  | sessionNotInProgress (detail : String)
  | rejected (problem : Problem)
  | badGateway (detail : String)
  | gatewayTimeout (detail : String)
  | unavailable (detail : String)
  | internal (detail : String)
  deriving DecidableEq

namespace GatewayError

/-- A status is a number of three digits that does not begin with a zero. -/
def isStatus (status : Nat) : Bool := 100 ≤ status && status ≤ 999

/-- The status of a fault. The refusal of another service keeps its own, if that is a status. -/
def status : GatewayError → Nat
  | .badRequest _ => 400
  | .unauthorized _ => 401
  | .forbidden _ => 403
  | .notFound _ => 404
  | .sessionNotInProgress _ => 409
  -- What is no status cannot be answered with, and then the other service is at fault.
  | .rejected problem => if isStatus problem.status then problem.status else 502
  | .badGateway _ => 502
  | .gatewayTimeout _ => 504
  | .unavailable _ => 503
  | .internal _ => 500

/-- The wording of a fault. -/
def message : GatewayError → String
  | .badRequest detail => "bad request: " ++ detail
  | .unauthorized detail => "unauthorized: " ++ detail
  | .forbidden detail => "forbidden: " ++ detail
  | .notFound detail => "not found: " ++ detail
  | .sessionNotInProgress detail => "session not in progress: " ++ detail
  | .rejected problem => "upstream rejected request: " ++ problem.describe
  | .badGateway detail => "bad gateway: " ++ detail
  | .gatewayTimeout detail => "gateway timeout: " ++ detail
  | .unavailable detail => "service unavailable: " ++ detail
  | .internal detail => "internal error: " ++ detail

/-- The problem document of a fault, without the place it occurred at unless the refusal of
another service names one. -/
def toProblem : GatewayError → Problem
  | .badRequest detail => .ofStatus 400 "Bad Request" detail ""
  | .unauthorized detail => .ofStatus 401 "Unauthorized" detail ""
  | .forbidden detail => .ofStatus 403 "Forbidden" detail ""
  | .notFound detail => .ofStatus 404 "Not Found" detail ""
  | .sessionNotInProgress detail => .sessionNotInProgress detail ""
  -- The refusal stays as it is but for a status that cannot be told.
  | .rejected problem => { problem with status := (GatewayError.rejected problem).status }
  | .badGateway detail => .ofStatus 502 "Bad Gateway" detail ""
  | .gatewayTimeout detail => .ofStatus 504 "Gateway Timeout" detail ""
  | .unavailable detail => .ofStatus 503 "Service Unavailable" detail ""
  | .internal detail => .ofStatus 500 "Internal Server Error" detail ""

/-- What clients get told of a fault of the connection service. What concerns storage and settings
stays inside. -/
def ofConnection : ConnectionError → GatewayError
  | .validation reason => .badRequest reason
  | .unauthorized reason => .unauthorized reason
  | .forbidden reason => .forbidden reason
  | .sessionNotFound session => .notFound (ConnectionError.sessionNotFound session).message
  | .sessionNotInProgress _ _ =>
    .sessionNotInProgress "cannot update status: session is not IN_PROGRESS"
  | .connectInProgress user => .unavailable (ConnectionError.connectInProgress user).message
  | .provisionTimeout limit => .gatewayTimeout (ConnectionError.provisionTimeout limit).message
  | .identity (.rejected problem) => .rejected problem
  | .identity (.internal reason) => .internal reason
  | .identity cause => .badGateway cause.message
  -- A fault of the broker itself is told; one of our own settings is not.
  | .broker cause =>
    if cause.httpStatus = 502 then .badGateway cause.message
    else .internal "broker configuration error"
  -- The wording of a database may tell more than clients should know.
  | .store _ => .internal "storage error"
  | .internal reason => .internal reason

end GatewayError

end SessionGate
