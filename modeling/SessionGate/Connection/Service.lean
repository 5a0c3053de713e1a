import SessionGate.Connection.Call
import SessionGate.Connection.Documents
import SessionGate.Connection.Lifecycle
import SessionGate.Credential

/-! The connection service: connecting clients, and reading and changing their sessions. -/

namespace SessionGate

/-- What a request comes to while its caller waits: an answer, or work that goes on whether or not
anybody waits for its answer. -/
inductive Handling (α : Type) where
  | answered (result : α)
  | handedOff (work : ServiceProgram α)

/-- Changes the answer of a request, now or when it comes. -/
def Handling.map {α β : Type} (change : α → β) : Handling α → Handling β
  | .answered result => .answered (change result)
  | .handedOff work => .handedOff (change <$> work)

/-- Carries a request through to its answer. -/
def Handling.finish {α : Type} : Handling α → ServiceProgram α
  | .answered result => return result
  | .handedOff work => work

/-- A client that may be connected: its user, the identifier of its token, and its profile. -/
structure Admission where
  user : UserId
  tokenId : String
  profile : UserProfile
  deriving DecidableEq

/-- The connection service, by its key and its settings. -/
structure ConnectionService where
  key : CredentialKey
  settings : ConnectionSettings
  deriving DecidableEq

namespace ConnectionService

/-- The user of a request, if it names a user and a token at all. -/
def parseRequest (user token : String) : Except ConnectionError UserId :=
  -- A blank user is told as missing, and both are looked for before the user is judged.
  if (Text.trim user).isEmpty then .error (.validation "user_id is required")
  else if (Text.trim token).isEmpty then .error (.validation "token is required")
  else
    match UserId.parse user with
    | .ok user => .ok user
    | .error fault => .error (.validation ("invalid user_id: " ++ fault.message))

/-- Has a token validated and the user looked up. A client is admitted if its token is valid and
can be revoked later, and if its user is authorized. -/
def authenticate (user : UserId) (token : String) :
    ServiceSteps (Except ConnectionError Admission) := do
  match ← (ServiceCall.identity (.validateToken token user)).make with
  | .error fault => return .error (.identity fault)
  | .ok validation =>
    -- The verdict comes first; what else the validation tells counts only for a valid token.
    if validation.isValid = false then
      return .error (.unauthorized ("token is not valid for user " ++ user.text))
    else
      -- Without an identifier the token could never be revoked, so it is not good enough.
      match validation.tokenId.filter fun id : String => !id.isEmpty with
      | none =>
        return .error (.identity (.undecodable "token validation did not include a token_id"))
      | some tokenId =>
        match ← (ServiceCall.identity (.getUser user)).make with
        | .error fault => return .error (.identity fault)
        | .ok profile =>
          -- A valid token shows who the client is, and not what it may do.
          if profile.isAuthorized = false then
            return .error (.forbidden ("user " ++ user.text ++ " is not authorized to connect"))
          else return .ok ⟨user, tokenId, profile⟩

/-- The announcement of a new session. -/
def notification (session : Session) (profile : UserProfile) : ConnectionNotification :=
  ⟨session.user.text, session.id, profile.email, profile.inputsFormat, profile.outputsFormat,
    profile.modelType⟩

/-- Sets up the broker resources of a new session, and then announces it. -/
def provision (service : ConnectionService) (session : Session) (profile : UserProfile)
    (password : String) : ServiceSteps (Except ConnectionError Unit) := do
  match ← (ServiceCall.topology (.setUp session.user password)).make with
  | .error fault => return .error (.broker fault)
  | .ok () =>
    -- Nothing is announced before the account that clients are told about exists.
    let body := (notification session profile).toJson.render
    let published ← (ServiceCall.publish service.settings.notificationExchange body).make
    return published.mapError .broker

/-- Provisions a new session within the time that the settings allow. -/
def provisionInTime (service : ConnectionService) (session : Session) (profile : UserProfile)
    (password : String) : ServiceProgram (Except ConnectionError Unit) := do
  let limit := service.settings.provisionTimeout
  -- The deadline counts from here on, so time spent waiting for the lock is not held against it.
  let deadline ← (ServiceCall.momentAfter limit).make.unhurried
  match ← (service.provision session profile password).before deadline with
  | some provisioned => return provisioned
  | none => return .error (.provisionTimeout limit)

/-- Takes away the broker resources of a user, whether or not that succeeds. -/
def tearDown (user : UserId) : ServiceSteps Unit := do
  let _ ← (ServiceCall.topology (.tearDown user)).make
  return ()

/-- Undoes what was done for a session that could not be provisioned. -/
def rollBack (session : Session) : ServiceSteps Unit := do
  -- The account goes first, so that nobody can use it once its session is gone.
  tearDown session.user
  (discardSession session.id).steps

/-- What a client is told about its session. -/
def response (service : ConnectionService) (session : Session) (profile : UserProfile)
    (password message : String) : ConnectResponse where
  status := "success"
  message := message
  session := session.id
  credentials :=
    ⟨session.user.text, password, service.settings.publicHost, service.settings.publicPort⟩
  inputsFormat := profile.inputsFormat
  outputsFormat := profile.outputsFormat
  modelType := profile.modelType

/-- Opens a session for a client, or takes the one in progress, while the user is locked. A new
session is provisioned, and removed again if that fails. -/
def openSession (service : ConnectionService) (admission : Admission) :
    ServiceProgram (Except ConnectionError ConnectResponse) := do
  match ← (openOrResume admission.user admission.tokenId).steps.unhurried with
  | .error fault => return .error fault
  | .ok (session, origin) =>
    let profile := admission.profile
    -- The password follows from the session, so a client that comes back gets the same one.
    let password := service.key.derive session.id admission.user
    match origin with
    | .resumed =>
      return .ok (service.response session profile password ConnectResponse.reconnectMessage)
    | .created =>
      match ← service.provisionInTime session profile password with
      | .ok () =>
        return .ok (service.response session profile password ConnectResponse.newSessionMessage)
      | .error fault =>
        -- Undoing stands under no deadline, since a half-made session must not stay.
        (rollBack session).unhurried
        return .error fault

/-- Connects an admitted client under the lock of its user. -/
def connectLocked (service : ConnectionService) (admission : Admission) :
    ServiceProgram (Except ConnectionError ConnectResponse) := do
  match ← (ServiceCall.lockUser admission.user).make.unhurried with
  | .error fault => return .error (.ofStore fault)
  | .ok () =>
    -- The lock is given up whatever comes of it.
    let result ← service.openSession admission
    (ServiceCall.unlockUser admission.user).make.unhurried
    return result

/-- Connects a client. Once it is admitted, the work goes on without its caller. -/
def connect (service : ConnectionService) (user token : String) :
    ServiceProgram (Handling (Except ConnectionError ConnectResponse)) := do
  match parseRequest user token with
  | .error fault => return .answered (.error fault)
  | .ok user =>
    match ← (authenticate user token).unhurried with
    | .error fault => return .answered (.error fault)
    -- From here on a caller that goes away does not leave half a session behind.
    | .ok admission => return .handedOff (service.connectLocked admission)

/-- Looks a session up. -/
def getSession (id : SessionId) : ServiceSteps (Except ConnectionError Session) := do
  return (← (ServiceCall.store (.session id)).make).mapError .ofStore

/-- Revokes a user's authorization and the token that opened a session, if there is one. -/
def revoke (session : Session) : ServiceSteps (Except ConnectionError Unit) := do
  match ← (ServiceCall.identity (.revokeAuthorization session.user)).make with
  | .error fault => return .error (.identity fault)
  | .ok () =>
    -- A session without a token has none to revoke.
    if session.tokenId.isEmpty then return .ok ()
    else
      let revoked ← (ServiceCall.identity (.revokeToken session.user session.tokenId)).make
      return revoked.mapError .identity

/-- Ends a session as completed; its broker resources go, and its user may not come back. -/
def complete (id : SessionId) : ServiceSteps (Except ConnectionError StatusResponse) := do
  match ← (endSession id .completed).steps with
  | .error fault => return .error fault
  | .ok session =>
    -- The session has ended, so leftovers at the broker do not undo that.
    tearDown session.user
    -- The status stays even if the revocation fails, and the failure is told.
    return (← revoke session).map fun _ => .transitioned id .completed

/-- Ends a session as timed out; its broker resources go. -/
def timeOut (id : SessionId) : ServiceSteps (Except ConnectionError StatusResponse) := do
  match ← (endSession id .timeout).steps with
  | .error fault => return .error fault
  | .ok session =>
    -- A client that was only slow keeps its authorization and may come back.
    tearDown session.user
    return .ok (.transitioned id .timeout)

/-- Records how far the dispatcher has got with a session. -/
def setDispatcherStatus (id : SessionId) (status : String) :
    ServiceSteps (Except ConnectionError StatusResponse) := do
  -- The report is kept without its blank ends, and one that is all blank is none.
  let status := Text.trim status
  if status.isEmpty then return .error (.validation "status is required")
  else
    match ← (ServiceCall.store (.setDispatcherStatus id status)).make with
    | .error fault => return .error (.ofStore fault)
    | .ok () => return .ok (.dispatcher id status)

/-- Finds out whether the session store can be reached. -/
def checkReady : ServiceSteps (Except ConnectionError Unit) := do
  return (← (ServiceCall.store .ping).make).mapError .ofStore

end ConnectionService

end SessionGate
