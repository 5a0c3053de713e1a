import SessionGate.Proofs.Connection.Compliance

/-! Requests served one after another leave every session in progress with the broker resources
that its client was told about. -/

namespace SessionGate

/-- A response admits the user of a name to a session in progress, with the password that belongs
to the session. -/
def ConnectResponse.Admits (service : ConnectionService) (name : String)
    (response : ConnectResponse) (table : SessionTable) : Prop :=
  ∃ session ∈ table.rows, session.status = .inProgress ∧ session.user.text = name ∧
    response.session = session.id ∧ response.credentials.username = name ∧
    response.credentials.password = service.key.derive session.id session.user

namespace ServiceStage

/-- The user whose broker resources need not fit the user's session at a stage. -/
def unsettled : ServiceStage → Option UserId
  | .timing admission _ | .settingUp admission _ _ | .tearingDown admission _ _
  | .discarding admission _ _ => some admission.user
  | _ => none

/-- What a stage relies on, where the user of a name is to be connected. -/
def Premise (service : ConnectionService) (name : String) : ServiceStage → SessionTable → Prop
  | .identifying user _, _ | .profiling user _, _ => user.text = name
  | .locking admission, _ | .looking admission, _ | .creating admission, _ =>
    admission.user.text = name
  | .timing admission session, table | .settingUp admission session _, table
  | .announcing admission session _, table | .tearingDown admission session _, table
  | .discarding admission session _, table =>
    admission.user.text = name ∧ session ∈ table.rows ∧ session.status = .inProgress ∧
      session.user = admission.user
  | .unlocking _ result, table | .finished (.connected result), table =>
    ∀ response, result = .ok response → response.Admits service name table
  | .ending _ target, _ => target ≠ .inProgress
  -- Nobody else can have opened a session for the user of one that has just ended.
  | .dismantling _ _ session, table =>
    ∀ row ∈ table.rows, row.user = session.user → row.status ≠ .inProgress
  | _, _ => True

/-- The table is sound, every session in progress of a settled user has its broker resources, and
what the stage relies on is so. -/
structure Settled (service : ConnectionService) (options : TopologyOptions) (name : String)
    (stage : ServiceStage) (state : Backing Management) : Prop where
  sound : state.table.Sound state.spent
  served : ∀ session ∈ state.table.rows, session.status = .inProgress →
    some session.user ≠ stage.unsettled → (state.broker.inventory.share session.user).Serves options
      session.user (service.key.derive session.id session.user)
  premise : stage.Premise service name state.table

variable {service : ConnectionService} {options : TopologyOptions} {name : String}
  {fails : StoreCall → Prop} {stage ahead : ServiceStage} {exchange : ServiceExchange}
  {before after : Backing Management}

namespace Settled

variable {admission : Admission} {session : Session} {id : SessionId}

/-- A change at the broker that leaves alone what belongs to others than one user keeps the others
served. -/
theorem others (settled : Settled service options name stage before) {broker : Management}
    {user : UserId} (calm : stage.unsettled = none ∨ stage.unsettled = some user)
    (kept : ∀ other, other ≠ user →
      broker.inventory.share other = before.broker.inventory.share other) :
    ∀ session ∈ before.table.rows, session.status = .inProgress → session.user ≠ user →
      (broker.inventory.share session.user).Serves options session.user
        (service.key.derive session.id session.user) := by
  -- The session is served there, unless its user is unsettled, and that would be the one user.
  intro session member active different
  rw [kept session.user different]
  refine settled.served session member active fun same => ?_
  rcases calm with calm | calm
  · cases same.trans calm
  · exact different (Option.some.inj (same.trans calm))

/-- A user for whom a session has been made is unsettled until it is provisioned. -/
theorem created (settled : Settled service options name (.creating admission) before)
    (unused : session.id ∉ before.spent) (owner : session.user = admission.user)
    (active : session.status = .inProgress)
    (none : ∀ row ∈ before.table.rows, row.user = admission.user → row.status ≠ .inProgress) :
    Settled service options name (.timing admission session)
      { before with
        table := before.table.insert session
        spent := session.id :: before.spent } := by
  -- The session is the user's only one in progress, and nobody else's resources are concerned.
  refine ⟨?_, ?_, settled.premise, SessionTable.mem_insert.mpr (Or.inl rfl), active, owner⟩
  · exact settled.sound.insert_new unused fun row member same => none row member (same.trans owner)
  · intro row member busy calm
    rcases SessionTable.mem_insert.mp member with rfl | ⟨older, -⟩
    · exact absurd (congrArg some owner) calm
    · exact settled.served row older busy nofun

/-- Once a session that was being made is deleted, its user has none that has to be served. -/
theorem discarded {fault : ConnectionError}
    (settled : Settled service options name (.discarding admission session fault) before) :
    Settled service options name (.unlocking admission.user (.error fault))
      { before with table := before.table.erase session.id } := by
  obtain ⟨-, present, active, owner⟩ := settled.premise
  refine ⟨settled.sound.erase session.id, ?_, nofun⟩
  intro row member busy _
  obtain ⟨member, different⟩ := SessionTable.mem_erase.mp member
  refine settled.served row member busy fun same => ?_
  -- The user's only session in progress was the one that is gone.
  have equal := settled.sound.single row member session present
    ((Option.some.inj same).trans owner.symm) busy active
  exact different (congrArg Session.id equal)

/-- Once a session has ended, its user has no other one in progress. -/
theorem ended {target : SessionStatus} {old : Session}
    (settled : Settled service options name (.ending id target) before)
    (member : old ∈ before.table.rows) (same : session.id = old.id)
    (owner : session.user = old.user) (active : old.status = .inProgress)
    (reached : session.status = target) :
    Settled service options name (.dismantling id target session)
      { before with table := before.table.insert session } := by
  -- A target is never to be in progress, so the session is no longer looked at.
  have closed : session.status ≠ .inProgress :=
    fun busy => settled.premise (reached.symm.trans busy)
  refine ⟨settled.sound.insert_known member same fun busy => absurd busy closed, ?_, ?_⟩
  · intro row present busy _
    -- The row of the session itself is closed, and every other one was there before.
    rcases SessionTable.mem_insert.mp present with rfl | ⟨present, -⟩
    · exact absurd busy closed
    · exact settled.served row present busy nofun
  · intro row present shared busy
    -- Another session in progress of the same user would be the one that has just been ended.
    rcases SessionTable.mem_insert.mp present with rfl | ⟨present, different⟩
    · exact closed busy
    · have equal := settled.sound.single row present old member (shared.trans owner) busy active
      exact different ((congrArg Session.id equal).trans same.symm)

/-- A dispatcher's report does not matter to what a session needs. -/
theorem recorded {status : String} {old : Session}
    (settled : Settled service options name (.recording id status) before)
    (member : old ∈ before.table.rows) (result : Except ConnectionError StatusResponse) :
    Settled service options name (.finished (.changed result))
      { before with table := before.table.insert { old with dispatcherStatus := status } } := by
  -- The row changed keeps its user, its identifier and its status.
  refine ⟨settled.sound.insert_known member rfl fun active row present owner busy => ?_, ?_,
    trivial⟩
  · rw [settled.sound.single row present old member owner busy active]
  · intro row present busy _
    rcases SessionTable.mem_insert.mp present with rfl | ⟨present, -⟩
    · exact settled.served old member busy nofun
    · exact settled.served row present busy nofun

end Settled

/-- Every step leads from a settled stage to a settled one, unless a deletion fails. -/
theorem Step.settled (step : Step service stage exchange ahead)
    (answered : Backing.answers (Topology.manager options) fails exchange.wanted before
      exchange.given after)
    (reliable : ∀ id, ¬ fails (.delete id)) (settled : Settled service options name stage before) :
    Settled service options name ahead after := by
  -- The cases are the steps: those that touch the broker leave others served, and the others leave
  -- the broker alone.
  obtain ⟨sound, served, premise⟩ := id settled
  cases step with
  -- To be identified, admitted or timed changes nothing.
  | identified | admitted | timed =>
    cases answered
    exact ⟨sound, served, premise⟩
  | unidentified | turnedAway | unlockable =>
    cases answered
    exact ⟨sound, served, nofun⟩
  | locked =>
    obtain ⟨-, rfl⟩ := answered
    exact ⟨sound, served, premise⟩
  | @resumed admission session accepts =>
    obtain ⟨rfl, found⟩ := StoreCall.Answered.activeSession answered
    obtain ⟨member, owner, active⟩ := SessionTable.mem_of_active? (found session rfl)
    have named : session.user.text = name := by
      rw [owner]
      exact premise
    refine ⟨sound, served, ?_⟩
    intro response told
    cases told
    exact ⟨session, member, active, named, rfl, named, by rw [owner]; rfl⟩
  | absent =>
    obtain ⟨rfl, -⟩ := StoreCall.Answered.activeSession answered
    exact ⟨sound, served, premise⟩
  | unseen =>
    obtain ⟨rfl, -⟩ := StoreCall.Answered.activeSession answered
    exact ⟨sound, served, nofun⟩
  | created =>
    obtain ⟨unused, owner, active, none, rfl⟩ := StoreCall.Answered.created answered
    exact settled.created unused owner active none
  | outrun | uncreated =>
    cases StoreCall.Answered.uncreated answered
    exact ⟨sound, served, nofun⟩
  -- From here on the new session is served, and with it every session in progress.
  | @setUp admission session deadline =>
    obtain ⟨broker, managed, rfl⟩ := answered
    obtain ⟨named, present, active, owner⟩ := premise
    refine ⟨sound, ?_, named, present, active, owner⟩
    intro row member busy _
    by_cases own : row.user = admission.user
    · -- The new session is the only one in progress of its user.
      cases sound.single row member session present (own.trans owner.symm) busy active
      rw [← owner] at managed
      exact Topology.serves_of_setUp managed
    · refine settled.others (Or.inr rfl) (fun other different => ?_) row member busy own
      exact Topology.share_of_answers managed fun same => different (same.trans owner)
  -- What is being undone belongs to a session that no longer has to be served.
  | setUpFailed | tornDown =>
    obtain ⟨broker, managed, rfl⟩ := answered
    obtain ⟨named, present, active, owner⟩ := premise
    refine ⟨sound, fun row member busy calm => ?_, named, present, active, owner⟩
    refine settled.others (Or.inr rfl) (fun other different => ?_) row member busy
      fun same => calm (congrArg some same)
    exact Topology.share_of_answers managed fun same => different (same.trans owner)
  -- A set-up that is cut off may have done any part of it, for this user alone.
  | setUpCut =>
    obtain ⟨broker, abandoned, rfl⟩ := answered
    obtain ⟨named, present, active, owner⟩ := premise
    refine ⟨sound, fun row member busy calm => ?_, named, present, active, owner⟩
    refine settled.others (Or.inr rfl) (fun other different => ?_) row member busy
      fun same => calm (congrArg some same)
    exact Topology.share_of_abandons abandoned fun same => different (same.trans owner)
  | @announced admission session deadline =>
    cases answered
    obtain ⟨named, present, active, owner⟩ := premise
    have named : session.user.text = name := by
      rw [owner]
      exact named
    refine ⟨sound, served, ?_⟩
    intro response told
    cases told
    exact ⟨session, present, active, named, rfl, named, by rw [owner]; rfl⟩
  | announcementFailed =>
    cases answered
    exact ⟨sound, fun row member busy _ => served row member busy nofun, premise⟩
  | announcementCut =>
    -- Whether or not anything was published, nothing is changed by it.
    have same : after = before := by
      rcases answered with same | ⟨given, same⟩
      · exact same
      · exact same
    cases same
    exact ⟨sound, fun row member busy _ => served row member busy nofun, premise⟩
  -- A deletion is relied on to go well, so the unserved row is gone.
  | discarded =>
    rcases StoreCall.Answered.deleted answered with rfl | ⟨failing, -, -⟩
    · exact settled.discarded
    · exact absurd failing (reliable _)
  | unlocked =>
    cases answered
    exact ⟨sound, served, premise⟩
  | ended =>
    obtain ⟨old, member, same, owner, active, reached, rfl⟩ :=
      StoreCall.Answered.transitioned answered
    exact settled.ended member same owner active reached
  | unended =>
    cases StoreCall.Answered.untransitioned answered
    exact ⟨sound, served, trivial⟩
  -- The user has no session in progress any longer, so nobody misses what is torn down.
  | dismantled | timedOut =>
    obtain ⟨broker, managed, rfl⟩ := answered
    refine ⟨sound, fun row member busy _ => ?_, trivial⟩
    refine settled.others (Or.inl rfl) (fun other different => ?_) row member busy
      fun shared => premise row member shared busy
    exact Topology.share_of_answers managed different
  | disbarred | tokenless | undisbarred | revoked | unrevoked =>
    cases answered
    exact ⟨sound, served, trivial⟩
  | recorded | unrecorded =>
    rcases StoreCall.Answered.recorded answered with rfl | ⟨old, member, rfl⟩
    · exact ⟨sound, served, trivial⟩
    · exact settled.recorded member _
  | read | unread =>
    cases StoreCall.Answered.looked answered
    exact ⟨sound, served, trivial⟩

/-- A request starts settled where all sessions in progress have their broker resources. -/
theorem start_settled (request : ServiceRequest) {state : Backing Management}
    (sound : state.table.Sound state.spent)
    (served : ∀ session ∈ state.table.rows, session.status = .inProgress →
      (state.broker.inventory.share session.user).Serves options session.user
        (service.key.derive session.id session.user)) :
    Settled service options request.name (start request) state := by
  -- A connect has to keep the name of its user, and an end has to be one.
  refine ⟨sound, fun session member active _ => served session member active, ?_⟩
  -- An end is asked for with a target of its own; all the other requests begin with nothing to
  -- keep.
  cases request with
  | connect user token =>
    simp only [start]
    cases parsed : ConnectionService.parseRequest user token with
    | error fault =>
      intro response told
      cases told
    | ok id => exact ConnectionService.text_of_parseRequest parsed
  | complete id | timeOut id =>
    intro same
    cases same
  | setDispatcherStatus id status =>
    simp only [start]
    split
    · trivial
    · trivial
  | get id => trivial

/-- A request that is carried through ends settled if it starts so. -/
theorem settled_of_runs {request : ServiceRequest} {outcome : ServiceOutcome}
    {log : List ServiceExchange} (reliable : ∀ id, ¬ fails (.delete id))
    (ran : (request.program service).Runs (Backing.answers (Topology.manager options) fails) before
      log outcome after)
    (settled : Settled service options name (start request) before) :
    Settled service options name (.finished outcome) after :=
  -- The course of the stages keeps it settled.
  (course_of_runs ran (start_tracks service request)).keeps
    (fun stage state => Settled service options name stage state)
    (fun _ _ _ _ _ step answered held => step.settled answered reliable held) settled

end ServiceStage

/-- Requests are served one after another, each of them to its outcome before the next one comes. -/
inductive ServedInTurn {M : Type}
    (env : Surroundings (Timed ServiceCall) (Timed.Answer ServiceCall.Answer) (Backing M))
    (service : ConnectionService) (start : Backing M) :
    List (ServiceRequest × ServiceOutcome) → Backing M → Prop where
  | none : ServedInTurn env service start [] start
  | next {served : List (ServiceRequest × ServiceOutcome)} {state final : Backing M}
      {request : ServiceRequest} {outcome : ServiceOutcome} {log : List ServiceExchange}
      (earlier : ServedInTurn env service start served state)
      (ran : (request.program service).Runs env state log outcome final) :
      ServedInTurn env service start (served ++ [(request, outcome)]) final

namespace ServedInTurn

variable {service : ConnectionService} {options : TopologyOptions} {fails : StoreCall → Prop}
  {start state : Backing Management} {served : List (ServiceRequest × ServiceOutcome)}

/-- Between two requests the table is sound and every session in progress has its broker
resources. -/
theorem settled (reliable : ∀ id, ¬ fails (.delete id)) (empty : start.table = .empty)
    (history : ServedInTurn (Backing.answers (Topology.manager options) fails) service start served
      state) :
    state.table.Sound state.spent ∧ ∀ session ∈ state.table.rows, session.status = .inProgress →
      (state.broker.inventory.share session.user).Serves options session.user
        (service.key.derive session.id session.user) := by
  induction history with
  | none =>
    rw [empty]
    exact ⟨.empty, nofun⟩
  | next _ ran ih =>
    have settled := ServiceStage.settled_of_runs reliable ran
      (ServiceStage.start_settled _ ih.1 ih.2)
    -- Nobody is unsettled once a request has finished.
    exact ⟨settled.sound, fun session member active => settled.served session member active nofun⟩

/-- However requests follow one another and whatever fails but deletions, every session in progress
has on the broker an account with its password, both queues, the permissions, and the binding and
the shovel where they are wanted. A client that is connected is told just that account. -/
theorem sessions_have_resources (reliable : ∀ id, ¬ fails (.delete id))
    (empty : start.table = .empty)
    (history : ServedInTurn (Backing.answers (Topology.manager options) fails) service start served
      state) :
    (∀ session ∈ state.table.rows, session.status = .inProgress →
      (state.broker.inventory.share session.user).Serves options session.user
        (service.key.derive session.id session.user)) ∧
    ∀ name token log response final,
      ((ServiceRequest.connect name token).program service).Runs
        (Backing.answers (Topology.manager options) fails) state log (.connected (.ok response))
        final →
      response.Admits service name final.table ∧
        final.broker.inventory.accounts name = some response.credentials.password := by
  -- Every session in progress is served by the invariant, and the session told is one of them.
  obtain ⟨sound, all⟩ := history.settled reliable empty
  -- The account is compared with what the client is told of it.
  refine ⟨all, fun name token log response final ran => ?_⟩
  have settled := ServiceStage.settled_of_runs reliable ran (ServiceStage.start_settled _ sound all)
  obtain ⟨session, member, active, named, same, username, password⟩ := settled.premise response rfl
  refine ⟨⟨session, member, active, named, same, username, password⟩, ?_⟩
  have account := (settled.served session member active nofun).password
  rw [password, ← account]
  exact congrArg final.broker.inventory.accounts named.symm

/-- The first client that is connected has its resources at a broker that was empty before. -/
theorem resources_of_first_connect :
    ∃ (state : Backing Management) (session : Session), session ∈ state.table.rows ∧
      session.status = .inProgress ∧
      (state.broker.inventory.share session.user).Serves
        ⟨some "dispatch", some "amqp://calibration"⟩ session.user
        ((CredentialKey.ofBytes []).derive session.id session.user) := by
  -- The client is connected by collaborators that comply, and its session is in the table.
  let options : TopologyOptions := ⟨some "dispatch", some "amqp://calibration"⟩
  let program := (ServiceRequest.connect "ada" "token").program ⟨.ofBytes [], .default⟩
  obtain ⟨session, member, active⟩ : ∃ session ∈
      (program.run (Backing.complyTimed options (.ok ())) Backing.untouched).2.table.rows,
      session.status = .inProgress := by
    decide +kernel
  have failing : ∀ user tokenId, Backing.DeletesNothing (.create user tokenId) := fun _ _ => nofun
  have ran := Program.runs_run (Backing.complyTimed_answers options (.ok ()) failing) program
    Backing.untouched
  have history := sessions_have_resources Backing.not_deletesNothing rfl (.next .none ran)
  exact ⟨_, session, member, active, history.1 session member active⟩

end ServedInTurn

end SessionGate
