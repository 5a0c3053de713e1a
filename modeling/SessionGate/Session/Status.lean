/-! The status of a session, and which changes of it are allowed. -/

namespace SessionGate

/-- A session is in progress until it is completed or abandoned. -/
inductive SessionStatus where
  | inProgress
  | completed
  | timeout
  deriving DecidableEq, Repr

namespace SessionStatus

/-- The name a status is stored and told by. -/
def name : SessionStatus → String
  | .inProgress => "IN_PROGRESS"
  | .completed => "COMPLETED"
  | .timeout => "TIMEOUT"

/-- Every status there is. -/
def all : List SessionStatus := [.inProgress, .completed, .timeout]

/-- The status of a name. -/
def ofName? (name : String) : Option SessionStatus :=
  -- Names are told apart letter by letter, so no other case of them is a status.
  all.find? fun status => status.name == name

/-- The wording for a name that is no status. -/
def unknownMessage (name : String) : String := "unknown session status: " ++ name

/-- A session of this status has ended. -/
def isTerminal : SessionStatus → Bool
  | .inProgress => false
  | .completed | .timeout => true

/-- The statuses that a session of this status may change to. -/
def targets : SessionStatus → List SessionStatus
  | .inProgress => [.completed, .timeout]
  | .completed | .timeout => []

/-- A session may change from one status to another. -/
def mayBecome (source target : SessionStatus) : Bool := source.targets.contains target

/-- A client that connects now rejoins a session of this status. -/
def acceptsReconnect (status : SessionStatus) : Bool := status == .inProgress

end SessionStatus

end SessionGate
