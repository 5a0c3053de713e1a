import SessionGate.Identity.HttpClient
import SessionGate.Proofs.Connection.Abandonment
import SessionGate.Proofs.Gateway.Problems

/-! What clients are told when the identity service refuses a request that is made for them. -/

namespace SessionGate

open ServiceExchange

/-- The fault with which the identity service answered, if it did. -/
def ServiceCall.identityFault? : (call : ServiceCall) → call.Answer → Option IdentityError
  | .identity _, .error fault => some fault
  | _, _ => none

/-- The fault that an exchange tells of the identity service. -/
def identityFault? (exchange : Exchange ServiceCall ServiceCall.Answer) : Option IdentityError :=
  exchange.wanted.identityFault? exchange.given

/-- The fault that an exchange tells of the identity service, which is asked without a deadline. -/
def ServiceExchange.identityFault? : ServiceExchange → Option IdentityError
  | ⟨.unhurried call, given⟩ => call.identityFault? given
  | ⟨.before _ _, _⟩ => none

/-- Only a question to the identity service is answered with a fault of it. -/
theorem identityFault?_eq_none {wanted : Timed ServiceCall} (other : ¬ wanted.Inquires)
    (given : wanted.Answer ServiceCall.Answer) :
    ServiceExchange.identityFault? ⟨wanted, given⟩ = none := by
  -- Of the calls without a deadline only those to the identity service can be answered with such a
  -- fault.
  match wanted with
  | .before _ _ => rfl
  | .unhurried (.identity call) => exact absurd ⟨call, rfl⟩ other
  | .unhurried (.store _) | .unhurried (.lockUser _) | .unhurried (.unlockUser _)
  | .unhurried (.topology _) | .unhurried (.publish _ _) | .unhurried (.momentAfter _) => rfl

/-- What a request to the connection service has come to by a fault of the identity service. -/
def FailedBy {α : Type} (fault : IdentityError) (result : Except ConnectionError α) : Prop :=
  result = .error (.identity fault)

namespace ConnectionService

/-- Whatever keeps the identity service from letting a client in is told. -/
theorem authenticate_heeds (user : UserId) (token : String) :
    (authenticate user token).Heeds SessionGate.identityFault? FailedBy := by
  -- The validation is asked first, and the profile only once the token is known to be the user's.
  intro given
  match given with
  | .error fault =>
    refine ⟨trivial, fun other told => ?_⟩
    cases told
    exact rfl
  | .ok validation =>
    refine ⟨?_, nofun⟩
    dsimp only [Program.bind]
    -- A token that is not valid, or has no identifier, ends it without another question.
    split
    · trivial
    split
    · trivial
    intro given
    match given with
    | .error fault =>
      refine ⟨trivial, fun other told => ?_⟩
      cases told
      exact rfl
    | .ok profile =>
      refine ⟨?_, nofun⟩
      dsimp only [Program.bind]
      -- Whether the profile is authorized is decided without another question.
      split <;> trivial

/-- Whatever keeps the identity service from a revocation is told. -/
theorem revoke_heeds (session : Session) :
    (revoke session).Heeds SessionGate.identityFault? FailedBy := by
  intro given
  -- The user is barred first, and the token is revoked only if that came to a good end.
  match given with
  | .error fault =>
    refine ⟨trivial, fun other told => ?_⟩
    cases told
    exact rfl
  | .ok () =>
    refine ⟨?_, nofun⟩
    dsimp only [Program.bind]
    -- A session without a token has nothing more to be revoked.
    split
    · trivial
    intro given
    match given with
    | .error fault =>
      refine ⟨trivial, fun other told => ?_⟩
      cases told
      exact rfl
    | .ok () => exact ⟨trivial, nofun⟩

/-- A request to complete a session fails by whatever keeps its user from being barred. -/
theorem complete_heeds (id : SessionId) :
    (complete id).Heeds SessionGate.identityFault? FailedBy := by
  -- Only the revocation comes to the identity service; the session is closed before it.
  refine Program.Heeds.ask (fun given => rfl) fun given => ?_
  match given with
  | .error fault => trivial
  | .ok session =>
    refine Program.Heeds.ask (fun given => rfl) fun given => ?_
    refine (revoke_heeds session).map fun fault result failed => ?_
    rw [failed]
    rfl

/-- A question to anybody but the identity service. -/
def Spares (call : ServiceCall) : Prop := ∀ inquiry, call ≠ .identity inquiry

/-- Without a deadline the identity service is still asked nothing. -/
theorem spares_unhurried {α : Type} {program : ServiceSteps α} (spares : program.Asks Spares) :
    program.unhurried.Asks fun wanted => ¬ wanted.Inquires := by
  -- A call without its deadline is the call that was made.
  refine spares.unhurried.mono fun wanted plain inquires => ?_
  obtain ⟨call, other, rfl⟩ := plain
  obtain ⟨inquiry, same⟩ := inquires
  exact other inquiry (Timed.unhurried.inj same)

/-- Up to a deadline the identity service is still asked nothing. -/
theorem spares_before {α : Type} {program : ServiceSteps α} (spares : program.Asks Spares)
    (deadline : Instant) : (program.before deadline).Asks fun wanted => ¬ wanted.Inquires := by
  -- A call to the identity service carries no deadline.
  refine (spares.before deadline).mono fun wanted plain inquires => ?_
  obtain ⟨call, -, rfl⟩ := plain
  obtain ⟨inquiry, same⟩ := inquires
  cases same

/-- What is asked of the store is not asked of the identity service. -/
theorem steps_spare {α : Type} (program : StoreProgram α) : program.steps.Asks Spares := by
  -- The induction is on the program, each step of which is a call to the store.
  induction program with
  | done value => trivial
  | ask wanted next ih => exact ⟨nofun, ih⟩

/-- Provisioning a session takes the broker and the publisher. -/
theorem provision_spares (service : ConnectionService) (session : Session) (profile : UserProfile)
    (password : String) : (service.provision session profile password).Asks Spares := by
  -- The user's topology is created before the announcement is published, and neither concerns the
  -- identity service.
  refine ⟨nofun, fun given => ?_⟩
  match given with
  | .error fault => trivial
  | .ok () => exact ⟨nofun, fun _ => trivial⟩

/-- An admitted client is connected without another question to the identity service. -/
theorem connectLocked_spares (service : ConnectionService) (admission : Admission) :
    (service.connectLocked admission).Asks fun wanted => ¬ wanted.Inquires := by
  -- The clock, the broker and the exchanges are asked within the deadline, and nobody else.
  have inTime (session : Session) (password : String) :
      (service.provisionInTime session admission.profile password).Asks
        fun wanted => ¬ wanted.Inquires := by
    refine ⟨nofun, fun deadline => ?_⟩
    refine (spares_before (service.provision_spares session admission.profile password)
      deadline).bind fun provisioned => ?_
    cases provisioned <;> trivial
  -- To open a session the store is asked, and what comes after is provisioning or its undoing.
  have opened : (service.openSession admission).Asks fun wanted => ¬ wanted.Inquires := by
    refine (spares_unhurried (steps_spare (openOrResume admission.user admission.tokenId))).bind
      fun found => ?_
    match found with
    | .error fault => trivial
    | .ok (session, .resumed) => trivial
    | .ok (session, .created) =>
      refine (inTime session _).bind fun provisioned => ?_
      match provisioned with
      | .ok () => trivial
      | .error fault =>
        -- What was begun is taken back, for which the identity service is not needed, either.
        exact ⟨nofun, fun _ => ⟨nofun, fun _ => trivial⟩⟩
  -- The lock is taken first and given up last.
  refine ⟨nofun, fun given => ?_⟩
  match given with
  | .error fault => trivial
  | .ok () => exact opened.bind fun _ => ⟨nofun, fun _ => trivial⟩

/-- A client that is being connected is refused by whatever keeps the identity service from letting
it in. -/
theorem connect_heeds (service : ConnectionService) (name token : String) :
    (service.connect name token).Heeds ServiceExchange.identityFault?
      fun fault handling => handling.Yields (FailedBy fault) := by
  -- Only authentication asks the identity service before the client is let in or refused.
  unfold connect
  cases parseRequest name token with
  | error fault => trivial
  | ok user =>
    have asked : (authenticate user token).unhurried.Heeds ServiceExchange.identityFault?
        FailedBy := (authenticate_heeds user token).unhurried fun _ _ => rfl
    refine asked.bind (Program.Yields.trivial _) (fun fault admitted failed => ?_) ?_
    · rw [failed]
      exact rfl
    · intro admitted _
      cases admitted <;> trivial

/-- What a client that is let in has handed off asks the identity service nothing more. -/
theorem connect_leaves (service : ConnectionService) (name token : String) :
    (service.connect name token).Yields fun handling =>
      handling.finish.Heeds ServiceExchange.identityFault? FailedBy := by
  -- What is handed off is done under the user's lock, where the identity service is not asked.
  unfold connect
  cases parseRequest name token with
  | error fault => trivial
  | ok user =>
    refine (Program.Yields.trivial _).bind fun admitted _ => ?_
    cases admitted with
    | error fault => trivial
    | ok admission =>
      exact .of_asks (service.connectLocked_spares admission) fun _ given other =>
        identityFault?_eq_none other given

end ConnectionService

namespace Gateway

variable {gateway : Gateway} {request : Request} {longest : Nat} {route : Route}
  {segment : String}

/-- An answer with the status by which a fault of the identity service is told. -/
def Bears (fault : IdentityError) (response : Response) : Prop :=
  response.status = (GatewayError.ofConnection (.identity fault)).status

/-- Whatever the identity service refuses while a client waits, or in what the client has handed
off, is told. -/
structure Careful (program : ServiceProgram (Handling Response)) : Prop where
  heeds : program.Heeds ServiceExchange.identityFault? fun fault handling =>
    handling.Yields (Bears fault)
  later : program.Yields fun handling =>
    handling.finish.Heeds ServiceExchange.identityFault? Bears

/-- A fault of the identity service is told with its status. -/
theorem bears_ofResult {α : Type} (toJson : α → Json) {fault : IdentityError}
    {result : Except ConnectionError α} (failed : FailedBy fault result) :
    Bears fault (.ofResult toJson result) := by
  -- A failed request is answered with its fault, which bears the status.
  rw [failed]
  exact rfl

/-- What is answered at once is told with care if every fault is told in it. -/
theorem careful_answered {program : ServiceProgram Response}
    (heeds : program.Heeds ServiceExchange.identityFault? Bears) :
    Careful (Handling.answered <$> program) :=
  -- No work is left when the answer is given.
  ⟨heeds.map fun _ _ bears => bears,
    (Program.Yields.trivial program).bind fun _ _ => trivial⟩

/-- What is answered without a question is told with care. -/
theorem careful_done (handled : Response) : Careful (.done (.answered handled)) :=
  -- Nothing is asked, now or later.
  ⟨trivial, trivial⟩

/-- A change of answers that leaves their status loses no care. -/
theorem Careful.map {program : ServiceProgram (Handling Response)} {change : Response → Response}
    (careful : Careful program) (same : ∀ response, (change response).status = response.status) :
    Careful (program.bind fun handling => .done (handling.map change)) := by
  -- What is told at once and what is told by the work left over are changed alike.
  constructor
  · exact careful.heeds.map fun fault handling bears =>
      Handling.Yields.map bears fun response status => (same response).trans status
  · refine careful.later.bind fun handling heeds => ?_
    cases handling with
    | answered response => trivial
    | handedOff work =>
      exact Program.Heeds.map heeds fun fault response status => (same response).trans status

/-- Where a session is named, its place heeds what is asked for it. -/
theorem withSession_heeds {answer : SessionId → ServiceProgram Response}
    (heeds : ∀ session, (answer session).Heeds ServiceExchange.identityFault? Bears) :
    (withSession segment answer).Heeds ServiceExchange.identityFault? Bears := by
  -- Two refusals of the name ask nobody, and then the place's own answer is given.
  unfold withSession
  split
  · trivial
  split
  · trivial
  · exact heeds _

/-- What the connection service comes to is told with the faults that it heeds. -/
theorem heeds_after {α : Type} (toJson : α → Json)
    {program : ServiceSteps (Except ConnectionError α)}
    (heeds : program.Heeds identityFault? FailedBy) :
    (program.unhurried.bind fun result => .done (.ofResult toJson result)).Heeds
      ServiceExchange.identityFault? Bears := by
  -- Deadlines do not change what is heeded, and the answer is made of the result.
  have asked : program.unhurried.Heeds ServiceExchange.identityFault? FailedBy :=
    heeds.unhurried fun _ _ => rfl
  exact asked.map fun fault result failed => bears_ofResult toJson failed

/-- What the connection service says about a session is told with the faults that it heeds. -/
theorem withService_heeds {α : Type} (toJson : α → Json)
    {steps : SessionId → ServiceSteps (Except ConnectionError α)}
    (heeds : ∀ session, (steps session).Heeds identityFault? FailedBy) :
    (withService segment toJson steps).Heeds ServiceExchange.identityFault? Bears :=
  -- The name only picks the session, and the steps heed for each.
  withSession_heeds fun session => heeds_after toJson (heeds session)

/-- What asks nobody but the store heeds every fault of the identity service. -/
theorem heeds_of_spares {α : Type} {program : ServiceSteps (Except ConnectionError α)}
    (spares : program.Asks ConnectionService.Spares) :
    program.Heeds identityFault? FailedBy := by
  -- A call that asks the store, or anyone else but the identity service, is answered with no fault
  -- of it.
  refine .of_asks spares fun wanted given other => ?_
  cases wanted with
  | identity inquiry => exact absurd rfl (other inquiry)
  | _ => rfl

/-- The report of a dispatcher concerns the store alone. -/
theorem recordReport_heeds (session : SessionId) :
    (recordReport request longest session).Heeds ServiceExchange.identityFault? Bears := by
  unfold recordReport
  split
  · -- The report is read first, and an unreadable one asks nobody.
    trivial
  next report _ =>
    have spares : (ConnectionService.setDispatcherStatus session report.status).Asks
        ConnectionService.Spares := by
      unfold ConnectionService.setDispatcherStatus
      dsimp only
      split
      · trivial
      · refine ⟨nofun, fun given => ?_⟩
        cases given <;> trivial
    generalize ConnectionService.setDispatcherStatus session report.status = recording at spares ⊢
    exact heeds_after StatusResponse.toJson (heeds_of_spares spares)

/-- A client is told what keeps the identity service from letting it in. -/
theorem careful_connect : Careful (gateway.connect request longest) := by
  unfold connect
  -- The credentials are read first; then the connection heeds, and so does the work that it leaves.
  split
  · exact careful_done _
  next wanted _ =>
    have heeds := gateway.service.connect_heeds wanted.user wanted.token
    have later := gateway.service.connect_leaves wanted.user wanted.token
    generalize gateway.service.connect wanted.user wanted.token = connecting at heeds later ⊢
    constructor
    · exact heeds.map fun fault handling failed => failed.map fun result => bears_ofResult _
    · refine later.bind fun handling heeds => ?_
      cases handling with
      | answered result => trivial
      | handedOff work =>
        exact Program.Heeds.map heeds fun fault result failed => bears_ofResult _ failed

/-- Every place tells what the identity service refuses. -/
theorem careful_serve : Careful (gateway.serve request longest route) := by
  -- Each place answers at once but the one where clients connect.
  cases route with
  | health => exact careful_done _
  | ready =>
    refine careful_answered (.ask (fun given => rfl) fun given => ?_)
    cases given <;> trivial
  | connect => exact careful_connect
  | session segment =>
    exact careful_answered (withService_heeds _ fun _ => heeds_of_spares ⟨nofun, fun _ => trivial⟩)
  | complete segment =>
    exact careful_answered (withService_heeds _ ConnectionService.complete_heeds)
  | timeOut segment =>
    refine careful_answered (withService_heeds _ fun session => heeds_of_spares ?_)
    refine (ConnectionService.steps_spare (endSession session .timeout)).bind fun ended => ?_
    cases ended with
    | error fault => trivial
    | ok session => exact ⟨nofun, fun _ => trivial⟩
  | dispatcherStatus segment => exact careful_answered (withSession_heeds recordReport_heeds)

/-- The place of a request, and what is told at every place, change no status. -/
theorem frame_status (place : Option Route) (response : Response) :
    (frame request place
      ((response.locate request.path).withHeaders (gateway.origins.headers request))).status =
      response.status := by
  -- Locating a problem fills in its place, and the headers are put around it.
  have located : (response.locate request.path).status = response.status := by
    rw [Response.locate]
    split
    · split <;> rfl
    · rfl
  unfold frame
  dsimp only
  split <;> exact located

/-- Whatever is answered, the gateway tells what the identity service refuses. -/
theorem careful_respond : Careful (gateway.respond request) := by
  unfold respond
  generalize Route.ofPath? request.path = place
  -- A request too long or late is refused with care, and any other is dispatched to its place.
  split
  · exact careful_done _
  next longest _ =>
    split
    · exact careful_done _
    have dispatched : Careful (gateway.dispatch request longest place) := by
      unfold dispatch
      split
      · exact careful_done _
      · split
        · exact careful_serve
        · exact careful_done _
    exact dispatched.map (frame_status place)

/-- A client whose request was refused by the identity service is answered with the status of the
refusal. -/
theorem answer_heeds :
    (gateway.answer request).Heeds ServiceExchange.identityFault? Bears := by
  -- The work left over is finished before the answer is told.
  have careful : Careful (gateway.respond request) := careful_respond
  exact careful.heeds.bind careful.later (fun _ _ bears => bears.finish) fun _ heeds => heeds

end Gateway

namespace HttpIdentity

variable {σ : Type} {web : Surroundings Outgoing (fun _ => Except SendFault Reply) σ}
  {before after : σ} {sends : List (Exchange Outgoing fun _ => Except SendFault Reply)}
  {service : HttpIdentity} {call : IdentityCall} {given : call.Answer} {request : Outgoing}
  {reply : Reply}

/-- A reply with the status of a client error is a refusal. -/
theorem rejected_of_reply (ran : (service.perform call).Runs web before sends given after)
    (sent : ⟨request, .ok reply⟩ ∈ sends) (refused : 400 ≤ reply.status ∧ reply.status < 500) :
    given = .error
      (.rejected (refusal (place call) reply.status (Text.ofUtf8Repaired reply.body))) := by
  -- A refusal has another status than the one that the call expects.
  have other : reply.status ≠ success call := by
    have known : success call = 200 ∨ success call = 204 := by
      cases call <;> simp [success]
    omega
  have expected : expect call (.ok reply) = .error
      (.rejected (refusal (place call) reply.status (Text.ofUtf8Repaired reply.body))) := by
    simp only [expect, if_neg other, if_pos refused]
  -- The call sends one request and reads the reply to it.
  obtain ⟨first, result, middle, second, asked, rest, rfl⟩ := Program.runs_bind.mp ran
  obtain ⟨rfl, rfl, -⟩ := Program.runs_done.mp rest
  rw [List.append_nil] at sent
  unfold Outgoing.send at asked
  split at asked
  next =>
    obtain ⟨told, between, later, -, onward, rfl⟩ := Program.runs_ask.mp asked
    obtain ⟨rfl, rfl, -⟩ := Program.runs_done.mp onward
    -- One request is sent, so this reply is the one to it.
    cases List.mem_singleton.mp sent
    rw [expected]
    rfl
  -- Where the address cannot be made nothing is sent, so there is no such reply.
  next =>
    obtain ⟨rfl, -, -⟩ := Program.runs_done.mp asked
    cases sent

end HttpIdentity

/-- The status of an error. -/
def IsErrorStatus (status : Nat) : Prop := 400 ≤ status ∧ status ≤ 599

/-- A refusal is told with an error status, unless the document that tells it is a problem with
another status. -/
theorem status_of_refusal (place body : String) {status : Nat}
    (refused : 400 ≤ status ∧ status < 500) :
    IsErrorStatus (GatewayError.rejected (HttpIdentity.refusal place status body)).status ∨
      ∃ problem, Problem.shape.decode? Problem.ofJson? body = some problem ∧
        GatewayError.isStatus problem.status = true ∧ ¬ IsErrorStatus problem.status ∧
        (GatewayError.rejected (HttpIdentity.refusal place status body)).status =
          problem.status := by
  -- A status in the range of refusals is one that can be told.
  have own : GatewayError.isStatus status = true := by
    simp [GatewayError.isStatus]
    omega
  have range : IsErrorStatus status := ⟨refused.1, by omega⟩
  -- The document is read first: none leaves the status of the refusal, and so does one that states
  -- none.
  unfold HttpIdentity.refusal
  cases told : (Problem.shape.read (Text.utf8 body)).toOption.bind Problem.ofJson? with
  | none =>
    left
    simp only [GatewayError.status, Problem.externalServiceError, own, if_true]
    exact range
  | some problem =>
    by_cases none : problem.status = 0
    · left
      simp only [if_pos none, GatewayError.status, own, if_true]
      exact range
    · simp only [if_neg none, GatewayError.status]
      split
      next known =>
        by_cases error : IsErrorStatus problem.status
        · exact .inl error
        · exact .inr ⟨problem, told, known, error, rfl⟩
      next => exact .inl ⟨by decide, by decide⟩

namespace Gateway

variable {gateway : Gateway} {request : Request} {σ τ : Type}
  {env : Surroundings (Timed ServiceCall) (Timed.Answer ServiceCall.Answer) σ} {state : σ}
  {log : List ServiceExchange} {response : Response}
  {web : Surroundings Outgoing (fun _ => Except SendFault Reply) τ} {before after : τ}
  {sends : List (Exchange Outgoing fun _ => Except SendFault Reply)} {identity : HttpIdentity}
  {call : IdentityCall} {given : call.Answer} {outgoing : Outgoing} {reply : Reply}

/-- Where the identity service refuses what is asked of it for a client, the client is answered with
an error, unless the refusal tells a problem with a status of its own that is none. -/
theorem refusals_are_errors_unless_disguised
    (answered : gateway.Answers request env state log response)
    (member : told (.identity call) given ∈ log)
    (ran : (identity.perform call).Runs web before sends given after)
    (sent : ⟨outgoing, .ok reply⟩ ∈ sends) (refused : 400 ≤ reply.status ∧ reply.status < 500) :
    IsErrorStatus response.status ∨
      ∃ problem, Problem.shape.decode? Problem.ofJson? (Text.ofUtf8Repaired reply.body) =
          some problem ∧
        GatewayError.isStatus problem.status = true ∧ ¬ IsErrorStatus problem.status ∧
        response.status = problem.status := by
  -- A late answer is an error of its own, and any other was carried through and heeds the refusal.
  cases answered with
  | late => exact .inl ⟨by decide, by decide⟩
  | told carried =>
    have rejected := HttpIdentity.rejected_of_reply ran sent refused
    rw [rejected] at member
    have bears := answer_heeds.of_runs carried member rfl
    rw [show response.status = _ from bears]
    exact status_of_refusal _ _ refused

/-- The identity service at a host of its own. -/
def identityHost : HttpIdentity where
  base :=
    { scheme := "http".toList, username := [], password := none
      host := some (.domain "users-service".toList), port := some 8000, path := .rooted ['/']
      guarded := false, query := none, fragment := none }

/-- A reply that forbids, with a body. -/
def forbidding (body : String) : Reply := ⟨403, Text.utf8 body⟩

/-- Collaborators that do what they are asked, but for an identity service that forbids it. -/
def forbidden (body : String) : (wanted : Timed ServiceCall) → Backing Management →
    wanted.Answer ServiceCall.Answer × Backing Management
  | .unhurried (.identity call), state =>
    ((HttpIdentity.expect call (.ok (forbidding body))).bind (HttpIdentity.result call), state)
  | wanted, state => Backing.complyTimed ⟨none, none⟩ (.ok ()) wanted state

/-- A request to connect a client with a token. -/
def connecting : Request :=
  ⟨"POST", "/users/connect", [("content-type", "application/json")],
    Text.utf8 (ConnectRequest.toJson ⟨"u1", "tok"⟩).render⟩

/-- What the identity service is asked first about the client. -/
def validation : IdentityCall := .validateToken "tok" ⟨"u1", by decide⟩

/-- To connect the client, its token is validated first. -/
theorem first?_connecting :
    (ofAnyone.answer connecting).first? = some (.unhurried (.identity validation)) := by
  -- The first step of a connect is the validation of its token.
  decide +kernel

/-- The identity service was asked over HTTP, and forbade it. -/
theorem forbidden_runs (body : String) (state : Backing Management) :
    (identityHost.perform validation).Runs (fun _ _ told _ => told = .ok (forbidding body)) ()
      [⟨identityHost.request validation, .ok (forbidding body)⟩]
      (forbidden body (.unhurried (.identity validation)) state).1 () := by
  -- The address of the identity service can be asked, so the request is sent and answered.
  have askable : (identityHost.request validation).isAskable = true := by decide +kernel
  refine Program.runs_bind.mpr ⟨_, .ok (forbidding body), (), [], ?_,
    Program.runs_done.mpr ⟨rfl, rfl, rfl⟩, (List.append_nil _).symm⟩
  rw [Outgoing.send, if_pos askable]
  exact Program.runs_ask.mpr ⟨_, (), [], rfl, Program.runs_done.mpr ⟨rfl, rfl, rfl⟩, rfl⟩

/-- What was exchanged for the client. -/
def forbiddenLog (body : String) : List ServiceExchange :=
  (ofAnyone.answer connecting).transcript (forbidden body) .untouched

/-- What the client is answered. -/
def forbiddenAnswer (body : String) : Response :=
  ((ofAnyone.answer connecting).run (forbidden body) .untouched).1

/-- The client was answered after its token was refused. -/
theorem answers_forbidden (body : String) :
    ofAnyone.Answers connecting (.of (forbidden body)) .untouched (forbiddenLog body)
        (forbiddenAnswer body) ∧
      told (.identity validation) (forbidden body (.unhurried (.identity validation)) .untouched).1 ∈
        forbiddenLog body :=
  -- The surroundings carry the program through, and its first call is in the log.
  ⟨.told (Program.runs_of (forbidden body) (ofAnyone.answer connecting) .untouched),
    Program.mem_transcript_of_first? first?_connecting (forbidden body) .untouched⟩

/-- A refusal without a document is told as one. -/
theorem refusal_without_document_is_error :
    (ofAnyone.Answers connecting (.of (forbidden "")) .untouched (forbiddenLog "")
        (forbiddenAnswer "") ∧
      told (.identity validation) (forbidden "" (.unhurried (.identity validation)) .untouched).1 ∈
        forbiddenLog "") ∧
    (identityHost.perform validation).Runs (fun _ _ told _ => told = .ok (forbidding "")) ()
      [⟨identityHost.request validation, .ok (forbidding "")⟩]
      (forbidden "" (.unhurried (.identity validation)) .untouched).1 () ∧
    (400 ≤ (forbidding "").status ∧ (forbidding "").status < 500) ∧
    IsErrorStatus (forbiddenAnswer "").status := by
  -- The run is that of a validation which the service forbids.
  obtain ⟨answered, member⟩ := answers_forbidden ""
  have ran := forbidden_runs "" .untouched
  have range : 400 ≤ (forbidding "").status ∧ (forbidding "").status < 500 :=
    ⟨by decide, by decide⟩
  -- The empty body is no document, so there is no problem that could disguise the refusal.
  have undecodable :
      Problem.shape.decode? Problem.ofJson? (Text.ofUtf8Repaired (forbidding "").body) = none := by
    decide +kernel
  refine ⟨⟨answered, member⟩, ran, range, ?_⟩
  refine (refusals_are_errors_unless_disguised answered member ran List.mem_cons_self
    range).resolve_right fun disguised => ?_
  obtain ⟨problem, decoded, -⟩ := disguised
  cases undecodable.symm.trans decoded

/-- The problem document that tells of a success. -/
def disguise : String := (Problem.toJson ⟨"", "", 200, "", ""⟩).render

/-- A refusal in a problem document that tells of a success is told as a success. -/
theorem refusal_is_disguised_as_success :
    (ofAnyone.Answers connecting (.of (forbidden disguise)) .untouched (forbiddenLog disguise)
        (forbiddenAnswer disguise) ∧
      told (.identity validation)
          (forbidden disguise (.unhurried (.identity validation)) .untouched).1 ∈
        forbiddenLog disguise) ∧
    (identityHost.perform validation).Runs (fun _ _ told _ => told = .ok (forbidding disguise)) ()
      [⟨identityHost.request validation, .ok (forbidding disguise)⟩]
      (forbidden disguise (.unhurried (.identity validation)) .untouched).1 () ∧
    (forbidding disguise).status = 403 ∧ (forbiddenAnswer disguise).status = 200 :=
  -- The document states 200, and this is the status that is told.
  ⟨answers_forbidden disguise, forbidden_runs disguise .untouched, rfl, by decide +kernel⟩

end Gateway

end SessionGate
