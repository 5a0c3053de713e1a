import SessionGate.Broker.Names
import SessionGate.Session.Basic
import SessionGate.Time.Duration

/-! What clients send to open and to change sessions, what they get back, and what is announced. -/

namespace SessionGate

/-- A client asks to be connected. -/
structure ConnectRequest where
  user : String
  token : String
  deriving DecidableEq

/-- The broker account that a client uses. -/
structure BrokerCredentials where
  username : String
  password : String
  host : String
  port : Nat
  deriving DecidableEq

/-- A client was connected. -/
structure ConnectResponse where
  status : String
  message : String
  session : SessionId
  credentials : BrokerCredentials
  inputsFormat : String
  outputsFormat : String
  modelType : String
  deriving DecidableEq

/-- A session was changed. -/
structure StatusResponse where
  message : String
  session : SessionId
  status : String
  deriving DecidableEq

/-- A new session is announced. -/
structure ConnectionNotification where
  user : String
  session : SessionId
  email : String
  inputsFormat : String
  outputsFormat : String
  modelType : String
  deriving DecidableEq

namespace ConnectRequest

/-- The document of a request. -/
def toJson (request : ConnectRequest) : Json :=
  .object [("user_id", .text request.user), ("token", .text request.token)]

/-- The shape of a request, both of whose fields may be left out. -/
def shape : Json.Shape :=
  .record [.withDefault "user_id" (.text "") .anyText, .withDefault "token" (.text "") .anyText]

/-- The request that a document of the shape tells. -/
def ofJson? (document : Json) : Option ConnectRequest :=
  match document.fieldValues with
  | [.text user, .text token] => some ⟨user, token⟩
  | _ => none

end ConnectRequest

namespace BrokerCredentials

/-- The document of credentials. -/
def toJson (credentials : BrokerCredentials) : Json :=
  .object [("username", .text credentials.username), ("password", .text credentials.password),
    ("host", .text credentials.host), ("port", .number credentials.port)]

/-- The shape of credentials. -/
def shape : Json.Shape :=
  .record [.required "username" .anyText, .required "password" .anyText,
    .required "host" .anyText, .required "port" (.integer 0 65535)]

/-- The credentials that a document of the shape tells. -/
def ofJson? (document : Json) : Option BrokerCredentials :=
  match document.fieldValues with
  | [.text username, .text password, .text host, .number port] =>
    some ⟨username, password, host, port.toNat⟩
  | _ => none

end BrokerCredentials

namespace ConnectResponse

/-- What a client is told about a session opened for it. -/
def newSessionMessage : String := "Client connected to new session"

/-- What a client is told about a session it comes back to. -/
def reconnectMessage : String := "Client reconnected to existing session"

/-- The document of a response. -/
def toJson (response : ConnectResponse) : Json :=
  .object [("status", .text response.status), ("message", .text response.message),
    ("session_id", response.session.toJson), ("credentials", response.credentials.toJson),
    ("inputs_format", .text response.inputsFormat),
    ("outputs_format", .text response.outputsFormat), ("model_type", .text response.modelType)]

/-- The shape of a response. -/
def shape : Json.Shape :=
  .record [.required "status" .anyText, .required "message" .anyText,
    .required "session_id" SessionId.shape, .required "credentials" BrokerCredentials.shape,
    .required "inputs_format" .anyText, .required "outputs_format" .anyText,
    .required "model_type" .anyText]

/-- The response that a document of the shape tells. -/
def ofJson? (document : Json) : Option ConnectResponse :=
  match document.fieldValues with
  | [.text status, .text message, session, credentials, .text inputsFormat, .text outputsFormat,
      .text modelType] => do
    return {
      status, message, inputsFormat, outputsFormat, modelType
      session := ← SessionId.ofJson? session
      credentials := ← BrokerCredentials.ofJson? credentials }
  | _ => none

end ConnectResponse

namespace StatusResponse

/-- A session moved to a status. -/
def transitioned (session : SessionId) (status : SessionStatus) : StatusResponse :=
  ⟨"Session status updated to " ++ status.name, session, status.name⟩

/-- The dispatcher status of a session was recorded. -/
def dispatcher (session : SessionId) (status : String) : StatusResponse :=
  ⟨"Dispatcher status updated", session, status⟩

/-- The document of a response. -/
def toJson (response : StatusResponse) : Json :=
  .object [("message", .text response.message), ("session_id", response.session.toJson),
    ("status", .text response.status)]

/-- The shape of a response. -/
def shape : Json.Shape :=
  .record [.required "message" .anyText, .required "session_id" SessionId.shape,
    .required "status" .anyText]

/-- The response that a document of the shape tells. -/
def ofJson? (document : Json) : Option StatusResponse :=
  match document.fieldValues with
  | [.text message, session, .text status] => do
    return { message, status, session := ← SessionId.ofJson? session }
  | _ => none

end StatusResponse

namespace ConnectionNotification

/-- The document of a notification. -/
def toJson (notification : ConnectionNotification) : Json :=
  .object [("user_id", .text notification.user), ("session_id", notification.session.toJson),
    ("email", .text notification.email), ("inputs_format", .text notification.inputsFormat),
    ("outputs_format", .text notification.outputsFormat),
    ("model_type", .text notification.modelType)]

/-- The shape of a notification. -/
def shape : Json.Shape :=
  .record [.required "user_id" .anyText, .required "session_id" SessionId.shape,
    .required "email" .anyText, .required "inputs_format" .anyText,
    .required "outputs_format" .anyText, .required "model_type" .anyText]

/-- The notification that a document of the shape tells. -/
def ofJson? (document : Json) : Option ConnectionNotification :=
  match document.fieldValues with
  | [.text user, session, .text email, .text inputsFormat, .text outputsFormat,
      .text modelType] => do
    return { user, email, inputsFormat, outputsFormat, modelType,
             session := ← SessionId.ofJson? session }
  | _ => none

end ConnectionNotification

/-- The settings of the connection service. -/
structure ConnectionSettings where
  publicHost : String
  publicPort : Nat
  notificationExchange : String
  provisionTimeout : Duration
  deriving DecidableEq

/-- The settings when none are given. -/
def ConnectionSettings.default : ConnectionSettings :=
  ⟨"rabbitmq", 5672, BrokerNames.connectionExchange, .ofSeconds 60⟩

end SessionGate
