import SessionGate.Proofs.Connection.Admitting
import SessionGate.Proofs.Connection.Faults

/-! Requests that are made again once all collaborators are well. A request that could have been
served, and has failed with a fault that may pass, is served then, unless it has ended its session
before it failed. -/

namespace SessionGate

/-- The fault that a request comes to, if it fails. -/
def ServiceOutcome.failure? : ServiceOutcome → Option ConnectionError
  | .connected (.error fault) | .changed (.error fault) | .found (.error fault) => some fault
  | .connected (.ok _) | .changed (.ok _) | .found (.ok _) => none

namespace Collaborators

variable {M α : Type} (well : Collaborators M) (service : ConnectionService)

/-- What a request comes to when all collaborators are well. -/
def serve (request : ServiceRequest) (state : Backing M) : ServiceOutcome :=
  ((request.program service).run well.replyTimed state).1

/-- What stands under no deadline is carried out like its questions. -/
theorem run_unhurried (program : ServiceSteps α) (state : Backing M) :
    program.unhurried.run well.replyTimed state = program.run well.reply state := by
  -- The induction is on the program, and each question is answered as it is without a deadline.
  induction program generalizing state with
  | done value => rfl
  | ask wanted next ih => exact ih _ _

/-- Nothing is late when all collaborators are well. -/
theorem run_before (program : ServiceSteps α) (deadline : Instant) (state : Backing M) :
    (program.before deadline).run well.replyTimed state =
      (some (program.run well.reply state).1, (program.run well.reply state).2) := by
  -- Every question is answered before the deadline, so none is given up.
  induction program generalizing state with
  | done value => rfl
  | ask wanted next ih =>
    rw [Program.before_ask]
    exact ih _ _

/-- A question is answered, and the rest is carried out. -/
theorem run_ask {call : ServiceCall} (next : call.Answer → ServiceSteps α) (state : Backing M) :
    (Program.ask call next).run well.reply state =
      (next (well.reply call state).1).run well.reply (well.reply call state).2 :=
  -- An answer does not depend on what is asked later.
  rfl

/-- A request that only carries something out comes to what comes of it. -/
theorem run_outcome (steps : ServiceSteps α) (outcome : α → ServiceOutcome) (state : Backing M) :
    ((steps.unhurried.bind fun result => .done (outcome result)).run well.replyTimed state).1 =
      outcome (steps.run well.reply state).1 := by
  -- The questions are answered first, and the outcome is made of what they come to.
  rw [Program.run_bind, run_unhurried]
  rfl

section Endings

variable (id : SessionId) (state : Backing M)

/-- What the identity service answers when all that belongs to a session is to be revoked. -/
def revoke (session : Session) : Except ConnectionError Unit := do
  (well.identity (.revokeAuthorization session.user)).mapError .identity
  if session.tokenId.isEmpty then return ()
  else (well.identity (.revokeToken session.user session.tokenId)).mapError .identity

/-- What a request to end a session comes to, given the session of the identifier. -/
def conclude (target : SessionStatus) : Option Session → Except ConnectionError StatusResponse
  | none => .error (.sessionNotFound id)
  | some old =>
    if old.status = .inProgress then
      (if target = .completed then well.revoke old else .ok ()).map fun _ => .transitioned id target
    else .error (.sessionNotInProgress id old.status)

/-- Revoking comes to what the identity service answers. -/
theorem run_revoke (session : Session) :
    (ConnectionService.revoke session).run well.reply state = (well.revoke session, state) := by
  -- The authorization is revoked first, and the token only if the session has one.
  rw [show ConnectionService.revoke session =
    .ask (.identity (.revokeAuthorization session.user)) _ from rfl, run_ask]
  simp only [reply, revoke]
  cases well.identity (.revokeAuthorization session.user) with
  | error fault => rfl
  | ok answered =>
    dsimp only [Program.bind]
    cases session.tokenId.isEmpty with
    | true => rfl
    | false => rfl

/-- A request to complete a session comes to what the session lets it come to. -/
theorem serve_complete :
    well.serve service (.complete id) state =
      .changed (well.conclude id .completed (state.table.find? id)) := by
  refine (well.run_outcome _ .changed state).trans (congrArg _ ?_)
  rw [show ConnectionService.complete id = .ask (.store (.transition id .completed)) _ from rfl,
    run_ask]
  simp only [reply, SessionTable.perform]
  cases state.table.find? id with
  | none => rfl
  | some old =>
    by_cases active : old.status = .inProgress
    · simp only [active, if_true, conclude]
      -- What is revoked is what belonged to the session before.
      show (((ConnectionService.revoke (SessionTable.moved _ .completed old)).bind fun revoked =>
        .done (revoked.map fun _ => StatusResponse.transitioned id .completed)).run _ _).1 = _
      rw [Program.run_bind, run_revoke]
      rfl
    · simp only [active, if_false, conclude]
      rfl

/-- A request to time a session out comes to what the session lets it come to. -/
theorem serve_timeOut :
    well.serve service (.timeOut id) state =
      .changed (well.conclude id .timeout (state.table.find? id)) := by
  -- The transition is all that is asked of the store, and it finds a session in progress, one that
  -- is not, or none.
  refine (well.run_outcome _ .changed state).trans (congrArg _ ?_)
  rw [show ConnectionService.timeOut id = .ask (.store (.transition id .timeout)) _ from rfl,
    run_ask]
  simp only [reply, SessionTable.perform]
  cases state.table.find? id with
  | none => rfl
  | some old =>
    by_cases active : old.status = .inProgress
    · simp only [active, if_true, conclude]
      rfl
    · simp only [active, if_false, conclude]
      rfl

/-- A dispatcher's report that is not all blank is kept if there is such a session. -/
theorem serve_setDispatcherStatus (status : String) :
    well.serve service (.setDispatcherStatus id status) state = .changed
      (if (Text.trim status).isEmpty then .error (.validation "status is required")
      else match state.table.find? id with
        | none => .error (.sessionNotFound id)
        | some _ => .ok (.dispatcher id (Text.trim status))) := by
  -- The blank ends are cut off before the report is looked at.
  refine (well.run_outcome _ .changed state).trans (congrArg _ ?_)
  simp only [ConnectionService.setDispatcherStatus]
  cases (Text.trim status).isEmpty with
  | true => rfl
  | false =>
    show ((Program.ask (ServiceCall.store (.setDispatcherStatus id (Text.trim status))) _).run
      well.reply state).1 = _
    simp only [run_ask, reply, SessionTable.perform, SessionTable.update]
    cases state.table.find? id with
    | none => rfl
    | some session => rfl

/-- A session is told if there is one. -/
theorem serve_get :
    well.serve service (.get id) state = .found (match state.table.find? id with
      | none => .error (.sessionNotFound id)
      | some session => .ok session) := by
  -- The session is looked up, and nothing else is asked.
  refine (well.run_outcome _ .found state).trans (congrArg _ ?_)
  rw [show ConnectionService.getSession id = .ask (.store (.session id)) _ from rfl, run_ask]
  simp only [reply, SessionTable.perform]
  cases state.table.find? id with
  | none => rfl
  | some session => rfl

end Endings

section Connecting

variable (state : Backing M)

/-- What is asked of the identity service alone comes to the same whatever else there is. -/
theorem run_of_inquiries {program : ServiceSteps α}
    (asks : program.Asks fun call => ∃ inquiry, call = .identity inquiry) (other : Backing M) :
    program.run well.reply state = ((program.run well.reply other).1, state) := by
  -- The induction is on the program, each question of which leaves the backing as it is.
  induction program with
  | done value => rfl
  | ask wanted next ih =>
    obtain ⟨⟨inquiry, rfl⟩, onward⟩ := asks
    exact ih _ (onward _)

/-- What follows the verdict of the identity service meets everything as it was. -/
theorem run_authenticate (user : UserId) (token : String)
    (after : Except ConnectionError Admission → ServiceProgram α) :
    ((ConnectionService.authenticate user token).unhurried.bind after).run well.replyTimed state =
      (after ((ConnectionService.authenticate user token).run well.reply state).1).run
        well.replyTimed state := by
  -- The identity service does not change the backing.
  rw [Program.run_bind, run_unhurried,
    well.run_of_inquiries state (ConnectionService.authenticate_inquires user token) state]

/-- A session in progress is found, or else one is made. -/
theorem run_openOrResume (user : UserId) (tokenId : String) :
    ∃ opened, ((openOrResume user tokenId).steps.run well.reply state).1 = .ok opened := by
  rw [show (openOrResume user tokenId).steps = .ask (.store (.activeSession user)) _ from rfl,
    run_ask]
  simp only [reply, SessionTable.perform]
  cases found : state.table.active? user with
  -- A session in progress is resumed, as its status is the one that is accepted.
  | some session =>
    obtain ⟨-, -, active⟩ := SessionTable.mem_of_active? found
    have kept : (some session).filter (fun session : Session => session.status.acceptsReconnect) =
        some session := by
      rw [Option.filter_some, active]
      rfl
    dsimp only [Program.bind]
    rw [kept]
    exact ⟨_, rfl⟩
  | none =>
    -- Where none is in progress, nothing stands in the way of a new one.
    have free : (state.performed (well.fresh state) (.activeSession user)).table.hasOtherActive user
        none = false := SessionTable.hasOtherActive_none.mpr (SessionTable.active?_eq_none.mp found)
    show ∃ opened, (Program.run _ (.ask (ServiceCall.store (.create user tokenId)) _) _).1 = _
    rw [run_ask]
    simp only [reply, SessionTable.perform, free, Bool.false_eq_true, if_false]
    exact ⟨_, rfl⟩

/-- A new session is set up and announced in time. -/
theorem run_provisionInTime (session : Session) (profile : UserProfile) (password : String) :
    ((service.provisionInTime session profile password).run well.replyTimed state).1 = .ok () := by
  -- All collaborators answer in time, so the deadline cuts nothing off.
  show (Program.run _ (((service.provision session profile password).before _).bind _) _).1 = _
  rw [Program.run_bind, run_before]
  rfl

/-- Whatever sessions there are, a client gets one. -/
theorem run_openSession (admission : Admission) :
    ∃ response, ((service.openSession admission).run well.replyTimed state).1 = .ok response := by
  show ∃ response, (Program.run _
    ((openOrResume admission.user admission.tokenId).steps.unhurried.bind _) _).1 = _
  rw [Program.run_bind, run_unhurried]
  obtain ⟨⟨session, origin⟩, opened⟩ :=
    well.run_openOrResume state admission.user admission.tokenId
  rw [opened]
  -- A session that was found needs nothing more, and a new one is provisioned.
  cases origin with
  | resumed => exact ⟨_, rfl⟩
  | created =>
    show ∃ response, (Program.run _ ((service.provisionInTime session admission.profile _).bind _)
      _).1 = _
    rw [Program.run_bind, run_provisionInTime]
    exact ⟨_, rfl⟩

/-- An admitted client is connected if nobody holds the lock of its user. -/
theorem run_connectLocked (admission : Admission) :
    (∃ response, ((service.connectLocked admission).run well.replyTimed state).1 = .ok response) ↔
      admission.user ∉ state.locked := by
  -- The lock is asked for first, and it is refused only while it is held.
  rw [show service.connectLocked admission =
    .ask (.unhurried (.lockUser admission.user)) _ from rfl]
  simp only [Program.run, replyTimed, reply]
  by_cases held : admission.user ∈ state.locked
  · rw [if_pos held]
    refine iff_of_false ?_ (not_not_intro held)
    rintro ⟨response, refused⟩
    cases refused
  · rw [if_neg held]
    refine iff_of_true ?_ held
    show ∃ response, (Program.run _ ((service.openSession admission).bind _) _).1 = _
    obtain ⟨response, opened⟩ := well.run_openSession service
      { state with locked := insert admission.user state.locked } admission
    rw [Program.run_bind, opened]
    exact ⟨response, rfl⟩

/-- A client is turned away by what it names, or by the identity service, and otherwise it is
connected under the lock of its user. -/
theorem serve_connect (name token : String) :
    well.serve service (.connect name token) state =
      .connected (match ConnectionService.parseRequest name token with
        | .error fault => .error fault
        | .ok user =>
          match ((ConnectionService.authenticate user token).run well.reply state).1 with
          | .error fault => .error fault
          | .ok admission => ((service.connectLocked admission).run well.replyTimed state).1) := by
  -- The name is looked at first, then the identity service is asked, and the rest is done under the
  -- lock.
  have parts : well.serve service (.connect name token) state = ((Program.bind
      (service.connect name token) fun handling => handling.finish.bind fun result =>
        .done (.connected result)).run well.replyTimed state).1 := rfl
  rw [parts, Program.run_bind]
  unfold ConnectionService.connect
  cases ConnectionService.parseRequest name token with
  | error fault => rfl
  | ok user =>
    dsimp only [bind]
    rw [run_authenticate]
    cases ((ConnectionService.authenticate user token).run well.reply state).1 with
    | error fault => rfl
    | ok admission =>
      show ((Program.bind _ _).run _ _).1 = _
      rw [Program.run_bind]
      rfl

end Connecting

end Collaborators

namespace ServiceStage

variable {M : Type} {service : ConnectionService} {stage ahead : ServiceStage}
  {exchange : ServiceExchange} {before after : Backing M} {locked : Finset UserId}

/-- The locks at a stage are those that others hold, and the one that the request holds. -/
def LockedBesides (locked : Finset UserId) (stage : ServiceStage) (state : Backing M) : Prop :=
  match stage.holds with
  | none => state.locked = locked
  | some user => user ∉ locked ∧ state.locked = insert user locked

/-- Whatever fails, a step takes no lock but that of the user, and gives no other one up. -/
theorem Step.lockedBesides (step : Step service stage exchange ahead)
    (faltered : Backing.falters exchange.wanted before exchange.given after)
    (held : LockedBesides locked stage before) : LockedBesides locked ahead after := by
  cases step with
  -- To take the lock adds the one user that the stage will hold.
  | locked =>
    obtain ⟨free, rfl⟩ := faltered
    cases held
    exact ⟨free, rfl⟩
  | unlockable =>
    cases faltered
    exact held
  -- To give it up takes that user away again, who was not among the others.
  | unlocked =>
    obtain ⟨absent, held⟩ := held
    cases faltered
    show Finset.erase before.locked _ = locked
    rw [held]
    exact Finset.erase_insert absent
  | _ =>
    -- All other steps leave the locks alone.
    have kept := Backing.leaves_locked (Backing.leaves_of_falters faltered) nofun nofun
    simp only [LockedBesides, holds, kept] at held ⊢
    exact held

end ServiceStage

namespace ServiceStage

/-- A request that has finished stays as it is. -/
theorem course_of_finished {σ : Type}
    {env : Surroundings (Timed ServiceCall) (Timed.Answer ServiceCall.Answer) σ}
    {service : ConnectionService} {outcome : ServiceOutcome} {before after : σ}
    {log : List ServiceExchange} {last : ServiceStage}
    (course : Course env (Step service) (.finished outcome) before log last after) :
    log = [] ∧ last = .finished outcome ∧ after = before := by
  -- A finished request takes no step.
  cases course with
  | rest => exact ⟨rfl, rfl, rfl⟩
  | step goes => exact absurd goes Step.not_finished

end ServiceStage

section Faltering

variable {M : Type} {service : ConnectionService} {request : ServiceRequest}
  {before after : Backing M} {log : List ServiceExchange} {outcome : ServiceOutcome}

/-- Whatever fails, a request that is over holds no lock. -/
theorem locked_of_runs
    (ran : (request.program service).Runs Backing.falters before log outcome after) :
    after.locked = before.locked := by
  -- At the end a request holds nothing, so that the locks are those of others, as at the start.
  have course := ServiceStage.course_of_runs ran (ServiceStage.start_tracks service request)
  have idle : ServiceStage.LockedBesides before.locked (ServiceStage.start request) before := by
    rw [ServiceStage.LockedBesides, (ServiceStage.start_idle request).1]
  exact course.keeps (fun stage state => ServiceStage.LockedBesides before.locked stage state)
    (fun _ _ _ _ _ step faltered held => step.lockedBesides faltered held) idle

/-- Where the store is not asked the sessions stay, whatever else fails. -/
theorem table_of_course {Place : Type}
    {conduct : Conduct (Timed ServiceCall) (Timed.Answer ServiceCall.Answer) Place}
    {place last : Place} (course : Course Backing.falters conduct place before log last after)
    (elsewhere : ∀ exchange ∈ log, exchange.wanted.wanted.elsewhere? ≠ none) :
    after.table = before.table := by
  -- The induction is on the course, and none of its calls is to the store.
  induction course with
  | rest => rfl
  | step goes faltered _ ih =>
    rw [ih fun exchange member => elsewhere exchange (List.mem_cons_of_mem _ member)]
    exact Backing.leaves_table (Backing.leaves_of_falters faltered)
      (elsewhere _ List.mem_cons_self)

/-- A store that may fail has carried a call out, or has changed nothing. -/
theorem StoreCall.Falters.table {call : StoreCall} {given : call.Answer}
    (faltered : call.Falters before given after) :
    after.table = before.table ∨ ∃ fresh, after.table = (before.table.perform fresh call).2 := by
  -- A call that fails may have had its effect or none.
  rcases faltered with ⟨fresh, rfl, -⟩ | ⟨rfl, -⟩
  · exact Or.inr ⟨fresh, rfl⟩
  · exact Or.inl rfl

/-- Whatever fails, a request to end a session has ended it, or has changed no session. -/
theorem table_of_ending {id : SessionId} {target : SessionStatus}
    (ran : (request.program service).Runs Backing.falters before log outcome after)
    (ends : request.ending? = some (id, target)) :
    after.table = before.table ∨
      ∃ fresh, after.table = (before.table.perform fresh (.transition id target)).2 := by
  have course := ServiceStage.course_of_runs ran (ServiceStage.start_tracks service request)
  -- The order to end the session is the first question, and the only one that the store is asked.
  have concluding := ServiceStage.concluding_of_course course ends
  cases concluding with
  | refused =>
    cases course with
    | step goes faltered onward =>
      cases onward with
      | rest => exact StoreCall.Falters.table faltered
  | ended elsewhere =>
    cases course with
    | step goes faltered onward =>
      rw [table_of_course onward elsewhere]
      exact StoreCall.Falters.table faltered

/-- Whatever fails, a dispatcher's report leaves its session where it is, if there is one. -/
theorem found_of_recording {id : SessionId} {status : String}
    (ran : ((ServiceRequest.setDispatcherStatus id status).program service).Runs Backing.falters
      before log outcome after) :
    (after.table.find? id).isSome = (before.table.find? id).isSome := by
  have course := ServiceStage.course_of_runs ran (ServiceStage.start_tracks service _)
  simp only [ServiceStage.start] at course
  split at course
  · -- A report that is all blank is refused at once.
    obtain ⟨-, -, rfl⟩ := ServiceStage.course_of_finished course
    rfl
  · cases course with
    | step goes faltered onward =>
      cases goes with
      | recorded | unrecorded =>
        obtain ⟨-, -, rfl⟩ := ServiceStage.course_of_finished onward
        rcases StoreCall.Falters.table faltered with same | ⟨fresh, performed⟩
        · rw [same]
        · rw [performed, SessionTable.find?_perform_setDispatcherStatus]

/-- Whatever fails, a look at a session changes none. -/
theorem table_of_reading {id : SessionId}
    (ran : ((ServiceRequest.get id).program service).Runs Backing.falters before log outcome
      after) : after.table = before.table := by
  -- There is one call to make, and a look leaves the table as it is even if it is carried out.
  have course := ServiceStage.course_of_runs ran (ServiceStage.start_tracks service _)
  cases course with
  | step goes faltered onward =>
    cases goes with
    | read | unread =>
      obtain ⟨-, -, rfl⟩ := ServiceStage.course_of_finished onward
      rcases StoreCall.Falters.table faltered with same | ⟨fresh, performed⟩
      · exact same
      · rw [performed, SessionTable.perform_session]

/-- A request to end a session fails with a fault of the store or of the identity service. -/
theorem failure_of_ending {id : SessionId} {target : SessionStatus} {fault : ConnectionError}
    (ran : (request.program service).Runs Backing.falters before log outcome after)
    (ends : request.ending? = some (id, target)) (failed : outcome.failure? = some fault) :
    (∃ cause, fault = .identity cause) ∨ ∃ cause, fault = .ofStore cause := by
  -- Kept along the way: the request is at a stage of an ending, or was told such a fault.
  let holds : ServiceStage → Prop := fun stage => match stage with
    | .finished outcome => ∀ fault, outcome.failure? = some fault →
      (∃ cause, fault = .identity cause) ∨ ∃ cause, fault = .ofStore cause
    | .ending _ _ | .dismantling _ _ _ | .disbarring _ _ | .revoking _ _ => True
    | _ => False
  -- An ending begins at the one stage, and what else begins is not looked at here.
  have begun : holds (ServiceStage.start request) := by
    cases request with
    | complete | timeOut => trivial
    | connect | setDispatcherStatus | get => cases ends
  have course := ServiceStage.course_of_runs ran (ServiceStage.start_tracks service request)
  refine course.keeps (fun stage _ => holds stage) ?_ begun fault failed
  intro stage exchange ahead _ _ step _ held
  -- A request fails at the store or at the identity service, and nowhere else.
  cases step with
  | unended =>
    intro fault told
    cases told
    exact Or.inr ⟨_, rfl⟩
  | undisbarred | unrevoked =>
    intro fault told
    cases told
    exact Or.inl ⟨_, rfl⟩
  | timedOut | tokenless | revoked => exact nofun
  | ended | dismantled | disbarred => trivial
  | _ => exact held.elim

/-- A fault that may pass is one of an identity service that cannot be reached, or of a database,
where it is one of the identity service or of the store at all. -/
theorem ConnectionError.retriable_cases {fault : ConnectionError}
    (retriable : fault.isRetriable = true)
    (cause : (∃ cause, fault = .identity cause) ∨ ∃ cause, fault = .ofStore cause) :
    (∃ reason, fault = .identity (.unavailable reason)) ∨
      ∃ reason, fault = .store (.database reason) := by
  -- Only an unreachable service and a failing database are faults that may pass.
  rcases cause with ⟨cause, rfl⟩ | ⟨cause, rfl⟩
  · cases cause with
    | unavailable reason => exact Or.inl ⟨reason, rfl⟩
    | _ => cases retriable
  · cases cause with
    | database reason => exact Or.inr ⟨reason, rfl⟩
    | _ => cases retriable

variable {well : Collaborators M}

/-- A client that can be connected can be connected again, whatever has failed. -/
theorem Collaborators.connect_again {name token : String}
    (able : (well.serve service (.connect name token) before).failure? = none)
    (locked : after.locked = before.locked) :
    (well.serve service (.connect name token) after).failure? = none := by
  rw [serve_connect] at able ⊢
  -- Only the checks of the client and the lock can fail where all collaborators are well.
  cases parsed : ConnectionService.parseRequest name token with
  | error fault =>
    rw [parsed] at able
    cases able
  | ok user =>
    -- The answers of the identity service depend on the client alone, so they are the same again.
    have asked := congrArg Prod.fst (well.run_of_inquiries after
      (ConnectionService.authenticate_inquires user token) before)
    simp only [parsed, asked] at able ⊢
    cases verdict : ((ConnectionService.authenticate user token).run well.reply before).1 with
    | error fault =>
      rw [verdict] at able
      cases able
    | ok admission =>
      rw [verdict] at able
      -- Only a lock that is held could keep an admitted client out.
      have free : admission.user ∉ before.locked := by
        refine (well.run_connectLocked service before admission).mp ?_
        cases connected : ((service.connectLocked admission).run well.replyTimed before).1 with
        | ok response => exact ⟨response, rfl⟩
        | error fault =>
          simp only [connected] at able
          cases able
      -- After the run the locks are those of before, and so this one is free again.
      obtain ⟨response, connected⟩ :=
        (well.run_connectLocked service after admission).mpr (locked ▸ free)
      simp only [connected]
      rfl

/-- A dispatcher's report that can be kept can be kept again while its session is there. -/
theorem Collaborators.record_again {id : SessionId} {status : String}
    (able : (well.serve service (.setDispatcherStatus id status) before).failure? = none)
    (still : (after.table.find? id).isSome = (before.table.find? id).isSome) :
    (well.serve service (.setDispatcherStatus id status) after).failure? = none := by
  -- The report is the same, so only the session could make a difference, and it is still there.
  rw [serve_setDispatcherStatus] at able ⊢
  cases blank : (Text.trim status).isEmpty with
  | true =>
    rw [blank] at able
    cases able
  | false =>
    simp only [blank, Bool.false_eq_true, if_false] at able ⊢
    -- A session that was missing before would have failed the first time.
    cases found : before.table.find? id with
    | none =>
      rw [found] at able
      cases able
    | some old =>
      rw [found] at still
      obtain ⟨session, kept⟩ := Option.isSome_iff_exists.mp still
      rw [kept]
      rfl

/-- A request to end a session that can be served can be served again, unless it has ended the
session. -/
theorem Collaborators.end_again {id : SessionId} {target : SessionStatus}
    (able : (well.serve service request before).failure? = none)
    (ends : request.ending? = some (id, target))
    (table : after.table = before.table ∨
      ∃ fresh, after.table = (before.table.perform fresh (.transition id target)).2) :
    (well.serve service request after).failure? = none ∨
      ∃ old now, before.table.find? id = some old ∧ old.status = .inProgress ∧
        after.table.find? id = some (SessionTable.moved now target old) ∧
        well.serve service request after = .changed (.error (.sessionNotInProgress id target)) := by
  have concluded : target ≠ .inProgress ∧ ∀ state,
      well.serve service request state =
        .changed (well.conclude id target (state.table.find? id)) := by
    -- Either request comes to what the table says of its session, and to nothing else.
    cases request with
    | complete other =>
      cases ends
      exact ⟨nofun, fun state => well.serve_complete service id state⟩
    | timeOut other =>
      cases ends
      exact ⟨nofun, fun state => well.serve_timeOut service id state⟩
    | connect | setDispatcherStatus | get => cases ends
  obtain ⟨final, concluded⟩ := concluded
  rw [concluded] at able ⊢
  -- What such a request comes to depends on its session alone.
  -- The run that failed may have ended the session itself, or not.
  rcases table with same | ⟨fresh, performed⟩
  · rw [same]
    exact Or.inl able
  · rw [performed]
    -- If it has, the session was in progress before and is ended now.
    rcases before.table.find?_perform_transition fresh id target with
      same | ⟨old, found, active, ended⟩
    · rw [same]
      exact Or.inl able
    · refine Or.inr ⟨old, fresh.now, found, active, ended, ?_⟩
      rw [ended]
      exact congrArg _ (if_neg final)

/-- Whatever fails while a request is served that all collaborators could serve if they were well:
if the request comes to a fault that may pass, then it is served when it is made again with all
collaborators well, unless it was to end a session and has done so. The fault then was that the
identity service could not be reached, or that the database failed though it did as ordered; the
session stays ended, and whoever makes the request again is told how. -/
theorem retry_succeeds_unless_ended {fault : ConnectionError}
    (able : (well.serve service request before).failure? = none)
    (ran : (request.program service).Runs Backing.falters before log outcome after)
    (failed : outcome.failure? = some fault) (retriable : fault.isRetriable = true) :
    (well.serve service request after).failure? = none ∨
      ∃ id target old now, request.ending? = some (id, target) ∧
        before.table.find? id = some old ∧ old.status = .inProgress ∧
        after.table.find? id = some (SessionTable.moved now target old) ∧
        ((∃ reason, fault = .identity (.unavailable reason)) ∨
          ∃ reason, fault = .store (.database reason)) ∧
        well.serve service request after = .changed (.error (.sessionNotInProgress id target)) := by
  -- Only a request to end a session can stand in its own way; all others leave what they need.
  cases ends : request.ending? with
  | some aim =>
    obtain ⟨id, target⟩ := aim
    refine (Collaborators.end_again able ends (table_of_ending ran ends)).imp_right ?_
    rintro ⟨old, now, found, active, ended, told⟩
    -- What failed was the identity service, or the store although it did as ordered.
    have cause := fault.retriable_cases retriable (failure_of_ending ran ends failed)
    exact ⟨id, target, old, now, rfl, found, active, ended, cause, told⟩
  | none =>
    refine Or.inl ?_
    cases request with
    | complete id | timeOut id => cases ends
    | connect name token => exact Collaborators.connect_again able (locked_of_runs ran)
    | setDispatcherStatus id status =>
      exact Collaborators.record_again able (found_of_recording ran)
    -- A request that reads leaves the table as it was.
    | get id =>
      rw [Collaborators.serve_get] at able ⊢
      rw [table_of_reading ran]
      exact able

end Faltering

/-- A client whose session was not set up in time is connected when it comes again. -/
theorem late_connect_is_repeated :
    ∃ (well : Collaborators Unit) (service : ConnectionService) (before after : Backing Unit)
      (log : List ServiceExchange) (outcome : ServiceOutcome) (fault : ConnectionError),
      ((ServiceRequest.connect "ada" "token").program service).Runs Backing.falters before log
        outcome after ∧
      outcome.failure? = some fault ∧ fault.isRetriable = true ∧
      (well.serve service (.connect "ada" "token") after).failure? = none := by
  -- The collaborators are only late: all of them vouch, and nothing is told in time.
  let fresh : Fresh := ⟨.numbered 1, ⟨2024, 1, 1, 0, 0, 0, 0⟩⟩
  let well := Collaborators.vouching fresh
  let service : ConnectionService := ⟨.ofBytes [], .default⟩
  let request : ServiceRequest := .connect "ada" "token"
  let before : Backing Unit := ⟨.empty, [], ∅, ()⟩
  let fault : ConnectionError := .provisionTimeout service.settings.provisionTimeout
  have able : (well.serve service request before).failure? = none := by decide +kernel
  have ran := Program.runs_run well.replyLate_falters (request.program service) before
  have failed : ((request.program service).run well.replyLate before).1.failure? = some fault := by
    decide +kernel
  rcases retry_succeeds_unless_ended able ran failed rfl with again | ⟨_, _, _, _, ends, -⟩
  · exact ⟨well, service, before, _, _, _, fault, ran, failed, rfl, again⟩
  · -- A client that is being connected ends no session.
    cases ends

/-- Where a session was completed and its user's authorization could not be revoked, the fault may
pass, and yet the request cannot be made again. -/
theorem completed_request_is_not_repeated :
    ∃ (well : Collaborators Unit) (service : ConnectionService) (request : ServiceRequest)
      (before after : Backing Unit) (log : List ServiceExchange) (outcome : ServiceOutcome)
      (fault : ConnectionError),
      (well.serve service request before).failure? = none ∧
      (request.program service).Runs Backing.falters before log outcome after ∧
      outcome.failure? = some fault ∧ fault.isRetriable = true ∧
      (well.serve service request after).failure? ≠ none := by
  -- The session of the request is there, and only the revocation fails.
  let fresh : Fresh := ⟨.numbered 1, ⟨2024, 1, 1, 0, 0, 0, 0⟩⟩
  let well := Collaborators.vouching fresh
  let down : Collaborators Unit :=
    { well with identity := fun
        | .revokeAuthorization _ => Except.error (.unavailable "down")
        | call => Backing.vouch call }
  let service : ConnectionService := ⟨.ofBytes [], .default⟩
  let request : ServiceRequest := .complete fresh.id
  -- The one session is in progress, with the token that is to be revoked.
  let before : Backing Unit :=
    ⟨⟨[SessionTable.newSession fresh ⟨"ada", by decide⟩ "token"]⟩, [fresh.id], ∅, ()⟩
  have ran := Program.runs_run down.replyTimed_falters (request.program service) before
  have failed : ((request.program service).run down.replyTimed before).1.failure? =
      some (.identity (.unavailable "down")) := by
    decide +kernel
  exact ⟨well, service, request, before, _, _, _, _, by decide +kernel, ran, failed, rfl,
    by decide +kernel⟩

end SessionGate
