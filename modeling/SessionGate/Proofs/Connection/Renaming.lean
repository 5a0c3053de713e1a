import SessionGate.Proofs.Broker.Isolation
import SessionGate.Proofs.Connection.Undoing

/-! Two connects that make sessions of different identifiers go on side by side: they differ only
in the identifier and in the password that follows from it. -/

namespace SessionGate

open ServiceExchange

/-- Collaborators over a broker under administration, each of which may fail at any call. -/
abbrev Backing.mayFail (options : TopologyOptions) :
    Surroundings (Timed ServiceCall) (Timed.Answer ServiceCall.Answer) (Backing Management) :=
  Backing.answers (Topology.manager options) fun _ => True

/-- A call that may be about a new session. -/
def ServiceCall.mayConcernNew : ServiceCall → Bool
  | .store (.create _ _) | .store (.delete _) | .topology (.setUp _ _) | .publish _ _ => true
  | _ => false

/-- Exchanges that are the same, but for the identifier of a new session. -/
inductive ServiceExchange.Renamed (service : ConnectionService) (first second : SessionId) :
    ServiceExchange → ServiceExchange → Prop where
  | kept {exchange : ServiceExchange} (old : exchange.wanted.wanted.mayConcernNew = false) :
      Renamed service first second exchange exchange
  | created {user : UserId} {tokenId : String} {session : Session} (named : session.id = first) :
      Renamed service first second (told (.store (.create user tokenId)) (.ok session))
        (told (.store (.create user tokenId)) (.ok { session with id := second }))
  | uncreated {user : UserId} {tokenId : String} {fault : StoreError} :
      Renamed service first second (told (.store (.create user tokenId)) (.error fault))
        (told (.store (.create user tokenId)) (.error fault))
  | setUp (deadline : Instant) (session : Session) (user : UserId)
      (given : Option (Except BrokerError Unit)) (named : session.id = first)
      (owner : session.user = user) :
      Renamed service first second ⟨.before deadline (service.setUpOf session user), given⟩
        ⟨.before deadline (service.setUpOf { session with id := second } user), given⟩
  | announced (deadline : Instant) (session : Session) (profile : UserProfile)
      (given : Option (Except BrokerError Unit)) (named : session.id = first) :
      Renamed service first second
        ⟨.before deadline (service.announcementOf session profile), given⟩
        ⟨.before deadline (service.announcementOf { session with id := second } profile), given⟩
  | deleted {given : Except StoreError Unit} :
      Renamed service first second (told (.store (.delete first)) given)
        (told (.store (.delete second)) given)

/-- Outcomes that are the same, but for the identifier of a new session and its password. -/
inductive ServiceOutcome.Renamed (service : ConnectionService) (first second : SessionId) :
    ServiceOutcome → ServiceOutcome → Prop where
  | kept {outcome : ServiceOutcome}
      (old : ∀ response, outcome.response? = some response →
        response.message = ConnectResponse.reconnectMessage) :
      Renamed service first second outcome outcome
  | opened {admission : Admission} {session : Session} (named : session.id = first) :
      Renamed service first second
        (.connected (.ok (service.responseTo admission session ConnectResponse.newSessionMessage)))
        (.connected (.ok (service.responseTo admission { session with id := second }
          ConnectResponse.newSessionMessage)))

variable {service : ConnectionService} {first second : SessionId}

/-- Where the identifiers are the same, so are the exchanges. -/
theorem ServiceExchange.Renamed.eq {id : SessionId} {exchange other : ServiceExchange}
    (renamed : exchange.Renamed service id id other) : exchange = other := by
  -- Each kind of exchange differs in the identifier alone.
  cases renamed with
  | created named =>
    subst named
    rfl
  | setUp _ _ _ _ named _ | announced _ _ _ _ named =>
    subst named
    rfl
  | kept | uncreated | deleted => rfl

/-- Where the identifiers are the same, so are the outcomes. -/
theorem ServiceOutcome.Renamed.eq {id : SessionId} {outcome other : ServiceOutcome}
    (renamed : outcome.Renamed service id id other) : outcome = other := by
  -- Only a connect that was opened tells the identifier.
  cases renamed with
  | kept => rfl
  | opened named =>
    subst named
    rfl

namespace ServiceStage

/-- The question to which a stage waits for an answer. -/
def question? (service : ConnectionService) : ServiceStage → Option (Timed ServiceCall)
  | .identifying user token => some (.unhurried (.identity (.validateToken token user)))
  | .profiling user _ => some (.unhurried (.identity (.getUser user)))
  | .locking admission => some (.unhurried (.lockUser admission.user))
  | .looking admission => some (.unhurried (.store (.activeSession admission.user)))
  | .creating admission =>
    some (.unhurried (.store (.create admission.user admission.tokenId)))
  | .timing _ _ => some (.unhurried (.momentAfter service.settings.provisionTimeout))
  | .settingUp admission session deadline =>
    some (.before deadline (service.setUpOf session admission.user))
  | .announcing admission session deadline =>
    some (.before deadline (service.announcementOf session admission.profile))
  | .tearingDown _ session _ | .dismantling _ _ session =>
    some (.unhurried (.topology (.tearDown session.user)))
  | .discarding _ session _ => some (.unhurried (.store (.delete session.id)))
  | .unlocking user _ => some (.unhurried (.unlockUser user))
  | .ending id target => some (.unhurried (.store (.transition id target)))
  | .disbarring _ session => some (.unhurried (.identity (.revokeAuthorization session.user)))
  | .revoking _ session =>
    some (.unhurried (.identity (.revokeToken session.user session.tokenId)))
  | .recording id status => some (.unhurried (.store (.setDispatcherStatus id status)))
  | .reading id => some (.unhurried (.store (.session id)))
  | .finished _ => none

variable {stage beside ahead : ServiceStage} {exchange : ServiceExchange}

/-- A step is an exchange about the question of its stage. -/
theorem Step.question (step : Step service stage exchange ahead) :
    stage.question? service = some exchange.wanted := by
  -- Each step asks what its stage asks.
  cases step <;> rfl

/-- A computation at a stage that has not finished asks the question of the stage. -/
theorem Tracks.question {wanted : Timed ServiceCall}
    {next : wanted.Answer ServiceCall.Answer → ServiceProgram ServiceOutcome}
    (tracks : Tracks service stage (.ask wanted next)) :
    stage.question? service = some wanted := by
  -- There is some answer to every question.
  obtain ⟨given, -, -⟩ := @Backing.answers_responsive ⟨none, none⟩ wanted .untouched
  obtain ⟨ahead, step, -⟩ := tracks.2 given
  exact step.question

/-- The stages after a session has been ended. No session is made there, so none is renamed. -/
inductive Closing : ServiceStage → Prop where
  | dismantling (id : SessionId) (target : SessionStatus) (session : Session) :
      Closing (.dismantling id target session)
  | disbarring (id : SessionId) (session : Session) : Closing (.disbarring id session)
  | revoking (id : SessionId) (session : Session) : Closing (.revoking id session)

/-- Stages that are the same, but for the identifier of a new session. -/
inductive Renamed (service : ConnectionService) (first second : SessionId) :
    ServiceStage → ServiceStage → Prop where
  | closing {stage : ServiceStage} (closing : stage.Closing) :
      Renamed service first second stage stage
  | timing {admission : Admission} {session : Session} (named : session.id = first)
      (owner : session.user = admission.user) :
      Renamed service first second (.timing admission session)
        (.timing admission { session with id := second })
  | settingUp {admission : Admission} {session : Session} {deadline : Instant}
      (named : session.id = first) (owner : session.user = admission.user) :
      Renamed service first second (.settingUp admission session deadline)
        (.settingUp admission { session with id := second } deadline)
  | announcing {admission : Admission} {session : Session} {deadline : Instant}
      (named : session.id = first) :
      Renamed service first second (.announcing admission session deadline)
        (.announcing admission { session with id := second } deadline)
  | tearingDown {admission : Admission} {session : Session} {fault : ConnectionError}
      (named : session.id = first) :
      Renamed service first second (.tearingDown admission session fault)
        (.tearingDown admission { session with id := second } fault)
  | discarding {admission : Admission} {session : Session} {fault : ConnectionError}
      (named : session.id = first) :
      Renamed service first second (.discarding admission session fault)
        (.discarding admission { session with id := second } fault)
  | unlocking {user : UserId} {result other : Except ConnectionError ConnectResponse}
      (same : (ServiceOutcome.connected result).Renamed service first second (.connected other)) :
      Renamed service first second (.unlocking user result) (.unlocking user other)
  | finished {outcome other : ServiceOutcome} (same : outcome.Renamed service first second other) :
      Renamed service first second (.finished outcome) (.finished other)

/-- The questions whose answers depend neither on the sessions nor on the locks. -/
def Unbound : Timed ServiceCall → Prop
  | .unhurried (.identity _) | .unhurried (.unlockUser _) | .unhurried (.topology _)
  | .unhurried (.momentAfter _) | .unhurried (.store (.delete _))
  | .before _ (.topology (.setUp _ _)) | .before _ (.publish _ _) => True
  | _ => False

/-- Whatever step one of two stages takes, there is an exchange with which the other one can only
step beside it. -/
theorem Renamed.step (renamed : Renamed service first second stage beside)
    (step : Step service stage exchange ahead) :
    ∃ other, exchange.Renamed service first second other ∧ Unbound exchange.wanted ∧
      beside.question? service = some other.wanted ∧
      ∀ place, Step service beside other place → Renamed service first second ahead place := by
  -- The cases are the stages, with the steps that each can take: beside it only the step of the
  -- same kind can be taken.
  cases renamed with
  | closing closing =>
    -- Nothing is renamed, and the next stage follows from the answer.
    refine ⟨exchange, ?_⟩
    cases closing with
    | dismantling =>
      cases step with
      | dismantled =>
        refine ⟨.kept rfl, trivial, rfl, fun place step => ?_⟩
        cases step
        exact .closing (.disbarring _ _)
      | timedOut =>
        refine ⟨.kept rfl, trivial, rfl, fun place step => ?_⟩
        cases step
        exact .finished (.kept nofun)
    | disbarring =>
      cases step with
      -- Whether a token is there to be revoked is the same beside it.
      | disbarred nonempty =>
        refine ⟨.kept rfl, trivial, rfl, fun place step => ?_⟩
        cases step with
        | disbarred => exact .closing (.revoking _ _)
        | tokenless empty => cases nonempty.symm.trans empty
      | tokenless empty =>
        refine ⟨.kept rfl, trivial, rfl, fun place step => ?_⟩
        cases step with
        | disbarred nonempty => cases nonempty.symm.trans empty
        | tokenless => exact .finished (.kept nofun)
      | undisbarred =>
        refine ⟨.kept rfl, trivial, rfl, fun place step => ?_⟩
        cases step
        exact .finished (.kept nofun)
    | revoking =>
      cases step with
      | revoked | unrevoked =>
        refine ⟨.kept rfl, trivial, rfl, fun place step => ?_⟩
        cases step
        exact .finished (.kept nofun)
  -- From here on the stages name the session, and each call that names it is asked under the other
  -- name.
  | timing named owner =>
    cases step with
    | timed =>
      refine ⟨_, .kept rfl, trivial, rfl, fun place step => ?_⟩
      cases step
      exact .settingUp named owner
  | settingUp named owner =>
    cases step with
    | setUp =>
      refine ⟨_, .setUp _ _ _ (some (.ok ())) named owner, trivial, rfl, fun place step => ?_⟩
      cases step
      exact .announcing named
    | setUpFailed =>
      refine ⟨_, .setUp _ _ _ (some (.error _)) named owner, trivial, rfl, fun place step => ?_⟩
      cases step
      exact .tearingDown named
    | setUpCut =>
      refine ⟨_, .setUp _ _ _ none named owner, trivial, rfl, fun place step => ?_⟩
      cases step
      exact .tearingDown named
  | announcing named =>
    cases step with
    -- The body of the announcement names the session, and its answer does not.
    | announced =>
      refine ⟨_, .announced _ _ _ (some (.ok ())) named, trivial, rfl, fun place step => ?_⟩
      cases step
      exact .unlocking (.opened named)
    | announcementFailed =>
      refine ⟨_, .announced _ _ _ (some (.error _)) named, trivial, rfl, fun place step => ?_⟩
      cases step
      exact .tearingDown named
    | announcementCut =>
      refine ⟨_, .announced _ _ _ none named, trivial, rfl, fun place step => ?_⟩
      cases step
      exact .tearingDown named
  | tearingDown named =>
    cases step with
    | tornDown =>
      refine ⟨_, .kept rfl, trivial, rfl, fun place step => ?_⟩
      cases step
      exact .discarding named
  | discarding named =>
    cases step with
    | discarded =>
      -- The row that is deleted is the one that was made under the other name.
      subst named
      refine ⟨_, .deleted, trivial, rfl, fun place step => ?_⟩
      cases step
      exact .unlocking (.kept nofun)
  | unlocking same =>
    cases step with
    | unlocked =>
      refine ⟨_, .kept rfl, trivial, rfl, fun place step => ?_⟩
      cases step
      exact .finished same
  | finished same => exact absurd step Step.not_finished

/-- Computations at two such stages go on side by side. -/
theorem Renamed.paired {program other : ServiceProgram ServiceOutcome}
    (renamed : Renamed service first second stage beside) (tracks : Tracks service stage program)
    (follows : Tracks service beside other) :
    program.Paired (fun exchange other =>
        ServiceExchange.Renamed service first second exchange other ∧ Unbound exchange.wanted)
      (ServiceOutcome.Renamed service first second) other := by
  -- Both are followed stage by stage, and end together, since what has finished asks nothing.
  induction program generalizing stage beside other with
  | done outcome =>
    cases show stage = .finished outcome from tracks
    cases renamed with
    | closing closing => cases closing
    | finished same =>
      match other with
      | .done value =>
        cases show ServiceStage.finished _ = .finished value from follows
        exact same
      | .ask wanted next => cases follows.1
  | ask wanted next ih =>
    match other with
    | .done value =>
      cases show beside = .finished value from follows
      cases renamed with
      | closing closing => cases closing
      | finished same => cases tracks.1
    | .ask asked after =>
      intro given
      obtain ⟨ahead, step, onward⟩ := tracks.2 given
      obtain ⟨⟨wanted, told⟩, same, unbound, question, leads⟩ := renamed.step step
      -- Both ask the question of their stage.
      cases follows.question.symm.trans question
      obtain ⟨place, step, later⟩ := follows.2 told
      exact ⟨told, ⟨same, unbound⟩, ih given (leads place step) onward later⟩

end ServiceStage

section Answers

open Management ServiceStage

variable {options : TopologyOptions} {exchange other : ServiceExchange}
  {start origin : Management} {before after state : Backing Management}

/-- An order to the broker's management that is answered here can be answered beside. -/
theorem Topology.Beside.answered {order other : TopologyCall} {p q : UserId → String}
    {given : Except BrokerError Unit} (beside : Topology.Beside options p q order other)
    (answered : (ServiceCall.topology order).Answered (Topology.manager options) (fun _ => True)
      before given after)
    (held : InStep p q start origin before.broker state.broker) :
    ∃ final, (ServiceCall.topology other).Answered (Topology.manager options) (fun _ => True)
        state given final ∧ InStep p q start origin after.broker final.broker := by
  -- The broker beside goes along with the order, and the rest of the backing stays.
  obtain ⟨broker, managed, rfl⟩ := answered
  obtain ⟨final, managed, held⟩ := beside.answers managed held
  exact ⟨{ state with broker := final }, ⟨final, managed, rfl⟩, held⟩

/-- What does not depend on the sessions and the locks can be answered alike in every state. -/
theorem ServiceExchange.Renamed.keeps (renamed : exchange.Renamed service first second other)
    (unbound : Unbound exchange.wanted)
    (answered : Backing.mayFail options exchange.wanted before exchange.given after)
    (held : InStep (service.key.derive first) (service.key.derive second) start origin before.broker
      state.broker) :
    ∃ final, Backing.mayFail options other.wanted state other.given final ∧
      InStep (service.key.derive first) (service.key.derive second) start origin after.broker
        final.broker := by
  cases renamed with
  | kept old =>
    match exchange with
    -- What is asked of these two is answered without a look at the broker.
    | ⟨.unhurried (.identity _), _⟩ | ⟨.unhurried (.momentAfter _), _⟩ =>
      cases answered
      exact ⟨state, rfl, held⟩
    | ⟨.unhurried (.unlockUser _), _⟩ =>
      cases answered
      exact ⟨_, rfl, held⟩
    -- The user's own part of the broker is the same beside it, so it is torn down alike.
    | ⟨.unhurried (.topology (.tearDown _)), _⟩ =>
      exact Topology.tearDown_beside.answered answered held
  | setUp deadline session user given named owner =>
    subst named owner
    -- A set-up that is answered has been carried out, and one that is cut off up to some point.
    match given with
    | some given => exact Topology.setUp_beside.answered answered held
    | none =>
      obtain ⟨broker, abandoned, rfl⟩ := answered
      obtain ⟨final, abandoned, held⟩ := Topology.setUp_beside.abandons abandoned held
      exact ⟨{ state with broker := final }, ⟨final, abandoned, rfl⟩, held⟩
  | announced deadline session profile given named =>
    match given with
    | some given =>
      cases answered
      exact ⟨state, rfl, held⟩
    | none =>
      -- An announcement that was given up may have been made, which changes nothing here.
      rcases answered with rfl | ⟨given, rfl⟩
      · exact ⟨state, Or.inl rfl, held⟩
      · exact ⟨state, Or.inl rfl, held⟩
  | @deleted given =>
    -- A deletion succeeds or fails here and there, whether or not there is something to delete.
    rcases answered with ⟨fresh, table, -, deleted, rfl⟩ | ⟨-, missed, rfl⟩
    · cases deleted
      exact ⟨_, Or.inl ⟨fresh, _, trivial, rfl, rfl⟩, held⟩
    · cases missed with
      | unreached _ reason => exact ⟨state, Or.inr ⟨trivial, .unreached _ reason, rfl⟩, held⟩
  | created | uncreated => exact unbound.elim

end Answers

end SessionGate
