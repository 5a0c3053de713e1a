import SessionGate.Identifier.SessionId
import SessionGate.Identifier.UserId
import SessionGate.Json.Shape
import SessionGate.Session.Status
import SessionGate.Time.Timestamp

/-! Sessions as they are stored, and their documents. -/

namespace SessionGate

/-- A user's session. -/
structure Session where
  id : SessionId
  user : UserId
  tokenId : String
  status : SessionStatus
  dispatcherStatus : String
  createdAt : Timestamp
  completedAt : Option Timestamp
  deriving DecidableEq

/-- The dispatcher status of every new session. -/
def Session.pending : String := "PENDING"

/-- A text that stands for a session identifier. -/
def SessionId.shape : Json.Shape := .text SessionId.accepts

/-- A text that stands for a user identifier. -/
def UserId.shape : Json.Shape := .text UserId.accepts

/-- The name of a status. -/
def SessionStatus.shape : Json.Shape := .choice (SessionStatus.all.map SessionStatus.name)

/-- A text that stands for a point in time. -/
def Timestamp.shape : Json.Shape := .text fun text => (Timestamp.read? text).isSome

/-- The text of a session identifier. -/
def SessionId.toJson (id : SessionId) : Json := .text id.render

/-- The text of a user identifier. -/
def UserId.toJson (user : UserId) : Json := .text user.text

/-- The name of a status. -/
def SessionStatus.toJson (status : SessionStatus) : Json := .text status.name

/-- The text of a point in time. -/
def Timestamp.toJson (point : Timestamp) : Json := .text point.render

/-- The session identifier of a text. -/
def SessionId.ofJson? (value : Json) : Option SessionId := value.text?.bind SessionId.parse?

/-- The user identifier of a text. -/
def UserId.ofJson? (value : Json) : Option UserId := value.text?.bind UserId.parse?

/-- The status of a name. -/
def SessionStatus.ofJson? (value : Json) : Option SessionStatus :=
  value.text?.bind SessionStatus.ofName?

/-- The point in time of a text. -/
def Timestamp.ofJson? (value : Json) : Option Timestamp := value.text?.bind Timestamp.read?

namespace Session

/-- A session whose status is in progress. -/
def isActive (session : Session) : Bool := session.status == .inProgress

/-- The document of a session. -/
def toJson (session : Session) : Json :=
  .object [("session_id", session.id.toJson), ("user_id", session.user.toJson),
    ("token_id", .text session.tokenId), ("session_status", session.status.toJson),
    ("dispatcher_status", .text session.dispatcherStatus),
    ("created_at", session.createdAt.toJson),
    ("completed_at", Json.ofOption Timestamp.toJson session.completedAt)]

/-- The shape of a session's document. The time of completion may be left out of an object, but
not of a list. -/
def shape : Json.Shape :=
  -- A list has no names to tell which item is missing, so there the time stands as null.
  .record [.required "session_id" SessionId.shape, .required "user_id" UserId.shape,
    .required "token_id" .anyText, .required "session_status" SessionStatus.shape,
    .required "dispatcher_status" .anyText, .required "created_at" Timestamp.shape,
    ⟨["completed_at"], some .null, none, .optional Timestamp.shape⟩]

/-- The session that a document of the shape tells. -/
def ofJson? (document : Json) : Option Session :=
  match document.fieldValues with
  | [id, user, tokenId, status, dispatcherStatus, createdAt, completedAt] => do
    return {
      id := ← SessionId.ofJson? id
      user := ← UserId.ofJson? user
      tokenId := ← tokenId.text?
      status := ← SessionStatus.ofJson? status
      dispatcherStatus := ← dispatcherStatus.text?
      createdAt := ← Timestamp.ofJson? createdAt
      completedAt := ← Json.optional? Timestamp.ofJson? completedAt }
  | _ => none

end Session

end SessionGate
