import SessionGate.Json.Shape

/-! Problem documents of RFC 7807, in which every failure is told. -/

namespace SessionGate

/-- A problem document. -/
structure Problem where
  kind : String
  title : String
  status : Nat
  detail : String
  instancePath : String
  deriving DecidableEq, Repr

namespace Problem

/-- The media type of problem documents. -/
def mediaType : String := "application/problem+json"

/-- The kind of problem that a status change on an ended session is. -/
def notInProgressKind : String := "https://connection-service.com/session-not-in-progress"

/-- The kind of problem that an undecodable refusal by another service is. -/
def externalServiceKind : String := "https://connection-service.com/external-service-error"

/-- The kind of problem that a status alone tells. -/
def kindOfStatus (status : Nat) : String :=
  "https://connection-service.com/errors/" ++ toString status

/-- A problem of the kind that its status tells. -/
def ofStatus (status : Nat) (title detail instancePath : String) : Problem :=
  ⟨kindOfStatus status, title, status, detail, instancePath⟩

/-- A status change was asked of a session that is in progress no more. -/
def sessionNotInProgress (detail instancePath : String) : Problem :=
  ⟨notInProgressKind, "Session Not In Progress", 409, detail, instancePath⟩

/-- Another service refused with something that is no problem document. -/
def externalServiceError (status : Nat) (detail instancePath : String) : Problem :=
  ⟨externalServiceKind, "External Service Error", status, detail, instancePath⟩

/-- The problem with the place it occurred at. -/
def withInstance (problem : Problem) (instancePath : String) : Problem :=
  { problem with instancePath }

/-- A problem in one line. -/
def describe (problem : Problem) : String := problem.title ++ ": " ++ problem.detail

/-- The document of a problem. -/
def toJson (problem : Problem) : Json :=
  .object [("type", .text problem.kind), ("title", .text problem.title),
    ("status", .number problem.status), ("detail", .text problem.detail),
    ("instance", .text problem.instancePath)]

/-- The shape of a problem document, each of whose members may be left out. -/
def shape : Json.Shape :=
  -- An empty document is a problem of status zero without any wording.
  .record [.withDefault "type" (.text "") .anyText, .withDefault "title" (.text "") .anyText,
    .withDefault "status" (.number 0) (.integer 0 65535),
    .withDefault "detail" (.text "") .anyText, .withDefault "instance" (.text "") .anyText]

/-- The problem that a document of the shape tells. -/
def ofJson? (document : Json) : Option Problem :=
  match document.fieldValues with
  -- The shape has the five members in this order and of these kinds.
  | [.text kind, .text title, .number status, .text detail, .text instancePath] =>
    some ⟨kind, title, status.toNat, detail, instancePath⟩
  | _ => none

end Problem

end SessionGate
