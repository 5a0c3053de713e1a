import SessionGate.Connection.Service
import SessionGate.Gateway.Documents
import SessionGate.Gateway.Origin
import SessionGate.Gateway.Response
import SessionGate.Gateway.Route
import SessionGate.Gateway.Settings
import SessionGate.Url.Percent

/-! The gateway: it answers requests by asking the connection service. -/

namespace SessionGate

/-- A gateway in front of a connection service. -/
structure Gateway where
  service : ConnectionService
  origins : OriginPolicy
  maxBodyBytes : Nat

namespace Gateway

/-- The gateway that settings describe. -/
def ofSettings (service : ConnectionService) (settings : GatewaySettings) : Gateway :=
  ⟨service, .ofList settings.origins, settings.maxBodyBytes⟩

/-- The answer to a path whose escapes stand for no text. -/
def unreadablePath : Response :=
  let mark := String.singleton (Char.ofNat 0x60)
  .make 400 (.text ("Invalid URL: Invalid UTF-8 in " ++ mark ++ "session_id" ++ mark))

/-- Answers by the session that a part of a path names, if it names one. -/
def withSession (segment : String) (answer : SessionId → ServiceProgram Response) :
    ServiceProgram Response :=
  -- Escapes are undone first, so an identifier may be written with any of them.
  match Text.ofUtf8? (Url.decode segment.toList) with
  | none => return unreadablePath
  | some name =>
    match SessionId.parse name with
    | .error _ => return .ofError (.badRequest ("invalid session ID: " ++ name))
    | .ok session => answer session

/-- Answers by what the connection service says about a session. -/
def withService {α : Type} (segment : String) (toJson : α → Json)
    (steps : SessionId → ServiceSteps (Except ConnectionError α)) : ServiceProgram Response :=
  withSession segment fun session => do
    return .ofResult toJson (← (steps session).unhurried)

/-- Connects the client that a request is about. -/
def connect (gateway : Gateway) (request : Request) (longest : Nat) :
    ServiceProgram (Handling Response) := do
  -- A body that cannot be taken is a bad request, whatever else the client may be.
  match request.readJson longest ConnectRequest.shape ConnectRequest.ofJson? with
  | .error fault => return .answered (.ofError (.badRequest fault.message))
  | .ok wanted =>
    let handling ← gateway.service.connect wanted.user wanted.token
    return handling.map (.ofResult ConnectResponse.toJson)

/-- Records the report of a dispatcher about a session. -/
def recordReport (request : Request) (longest : Nat) (session : SessionId) :
    ServiceProgram Response := do
  match request.readJson longest DispatcherReport.shape DispatcherReport.ofJson? with
  | .error fault => return .ofError (.badRequest fault.message)
  | .ok report =>
    let recorded ← (ConnectionService.setDispatcherStatus session report.status).unhurried
    return .ofResult StatusResponse.toJson recorded

/-- Tells whether requests can be served. -/
def ready : ServiceProgram Response := do
  match ← ConnectionService.checkReady.unhurried with
  | .ok () => return .ofJson (healthReport "ready")
  -- Clients need not know how the database failed.
  | .error _ => return .ofError (.unavailable "database is not reachable")

/-- Answers a request at its place with a method that is served there, reading no more than so
many bytes of its body. -/
def serve (gateway : Gateway) (request : Request) (longest : Nat) :
    Route → ServiceProgram (Handling Response)
  | .health => return .answered (.ofJson (healthReport "healthy"))
  | .ready => Handling.answered <$> ready
  | .connect => gateway.connect request longest
  | .session segment =>
    Handling.answered <$> withService segment Session.toClientJson ConnectionService.getSession
  | .complete segment =>
    Handling.answered <$> withService segment StatusResponse.toJson ConnectionService.complete
  | .timeOut segment =>
    Handling.answered <$> withService segment StatusResponse.toJson ConnectionService.timeOut
  | .dispatcherStatus segment =>
    Handling.answered <$> withSession segment (recordReport request longest)

/-- Answers a request by its place and method. -/
def dispatch (gateway : Gateway) (request : Request) (longest : Nat) :
    Option Route → ServiceProgram (Handling Response)
  | none => return .answered (.ofError (.notFound "no such endpoint"))
  | some route =>
    -- The place is looked at before the method, so an unknown one is never a wrong method.
    if route.serves request.method then gateway.serve request longest route
    else return .answered .notServed

/-- What is told about the place of a request whatever the answer: the methods of a place that
does not serve the one asked for, and no body where only headers are wanted. -/
def frame (request : Request) (route : Option Route) (response : Response) : Response :=
  -- Even an answer that was given before the place was asked tells the methods of the place.
  let refused := route.filter fun place : Route => !place.serves request.method
  let told := response.withHeaders (refused.map fun place : Route => ("allow", place.allow)).toList
  if request.method = "HEAD" then told.withoutContent else told

/-- Answers a request. Too long a body is refused before all else, and a browser's question about
what pages may ask is answered wherever it goes. -/
def respond (gateway : Gateway) (request : Request) : ServiceProgram (Handling Response) := do
  let route := Route.ofPath? request.path
  -- A body that is too long by its own announcement is not read at all.
  match request.admittedLength? gateway.maxBodyBytes with
  | none => return .answered (frame request route .tooLarge)
  | some longest =>
    let shared := gateway.origins.headers request
    -- Such a question is about the gateway as a whole, so the place is not asked.
    if request.method = "OPTIONS" then
      let answer := (Response.make 200 .empty).withHeaders (shared ++ OriginPolicy.preflightHeaders)
      return .answered (frame request route answer)
    else
      let handling ← gateway.dispatch request longest route
      -- The place is told in the problem itself, and only if nobody else has told one.
      return handling.map fun response =>
        frame request route ((response.locate request.path).withHeaders shared)

end Gateway

end SessionGate
