/-! Why the broker could not be provisioned or published to. -/

namespace SessionGate

/-- What went wrong at the broker. -/
inductive BrokerError where
  | unexpectedStatus (operation : String) (status : Nat) (body : String)
  | transport (reason : String)
  | channel (reason : String)
  | teardownIncomplete (user : String) (cause : BrokerError)
  | publishExhausted (exchange : String) (attempts : Nat) (lastError : String)
  | settings (reason : String)
  deriving DecidableEq

namespace BrokerError

/-- The wording of a broker's fault. -/
def message : BrokerError → String
  | .unexpectedStatus operation status body =>
    operation ++ " failed with status " ++ toString status ++ ": " ++ body
  | .transport reason => "broker transport error: " ++ reason
  | .channel reason => "broker channel error: " ++ reason
  | .teardownIncomplete user _ => "failed to complete topology deletion for " ++ user
  | .publishExhausted exchange attempts lastError =>
    "failed to publish to " ++ exchange ++ " after " ++ toString attempts ++ " attempts: " ++
      lastError
  | .settings reason => "broker configuration error: " ++ reason

/-- The same call may succeed later. -/
def isRetriable : BrokerError → Bool
  -- These faults lie between the gate and the broker, and not in what was asked.
  | .transport _ | .channel _ => true
  | _ => false

/-- The HTTP status that tells a broker's fault. -/
def httpStatus : BrokerError → Nat
  | .settings _ => 500
  | _ => 502

end BrokerError

end SessionGate
