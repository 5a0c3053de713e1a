import SessionGate.Session.Basic

/-! Documents that only the gateway's clients exchange with it. -/

namespace SessionGate

/-- A session as clients see it: without its token, and with the time of completion only when it
is completed. -/
def Session.toClientJson (session : Session) : Json :=
  .object ([("session_id", session.id.toJson), ("user_id", session.user.toJson),
    ("session_status", session.status.toJson),
    ("dispatcher_status", .text session.dispatcherStatus),
    ("created_at", session.createdAt.toJson)] ++
    -- A time that is not there yet is left out rather than told as null.
    (session.completedAt.map fun point => ("completed_at", point.toJson)).toList)

/-- How far the dispatcher has got, as a client tells it. -/
structure DispatcherReport where
  status : String
  deriving DecidableEq

namespace DispatcherReport

/-- The shape of a report, whose status may be left out. -/
def shape : Json.Shape := .record [.withDefault "status" (.text "") .anyText]

/-- The report that a document of the shape tells. -/
def ofJson? (document : Json) : Option DispatcherReport :=
  match document.fieldValues with
  | [.text status] => some ⟨status⟩
  | _ => none

end DispatcherReport

/-- The version that the gateway tells. -/
def gatewayVersion : String := "0.1.0"

/-- What the gateway tells about its own state. -/
def healthReport (status : String) : Json :=
  .object [("status", .text status), ("version", .text gatewayVersion)]

end SessionGate
