import SessionGate.Proofs.Connection.Admitting
import SessionGate.Proofs.Connection.Endings
import SessionGate.Proofs.Store.Rows
import SessionGate.Proofs.Store.Upkeep

/-! Clients that come back to a session in progress: each is given this very session, and nothing
else happens on that account. -/

namespace SessionGate

open ServiceExchange

/-- A call has ended the session of an identifier, overwritten its status, or taken it away. -/
def StoreCall.Ends (id : SessionId) : (call : StoreCall) → call.Answer → Prop
  | .transition other _, given => other = id ∧ given.isOk = true
  | .setStatus other _, _ | .complete other, _ | .delete other, _ => other = id
  | .activeSession _, _ | .session _, _ | .create _ _, _ | .setDispatcherStatus _ _, _
  | .ping, _ => False

/-- By an exchange the session of an identifier may have come to its end. -/
def ServiceExchange.Ends (id : SessionId) : ServiceExchange → Prop
  | ⟨.unhurried (.store call), given⟩ => call.Ends id given
  | ⟨.before _ (.store call), some given⟩ => call.Ends id given
  -- What has become of a call that was given up is not known.
  | ⟨.before _ (.store call), none⟩ => ∃ given, call.Ends id given
  | _ => False

/-- A question that changes nothing but who holds a lock. -/
def ServiceCall.Harmless : ServiceCall → Prop
  | .identity _ | .lockUser _ | .unlockUser _ | .store (.activeSession _) => True
  | _ => False

/-- A session is in a table as it was, but for what the dispatcher has reported. -/
def SessionTable.Retains (table : SessionTable) (session : Session) : Prop :=
  ∃ report, table.find? session.id = some { session with dispatcherStatus := report }

section Retaining

variable {table : SessionTable} {spent : List SessionId} {session : Session} {fresh : Fresh}

/-- A session in a table is retained there so far. -/
theorem SessionTable.Sound.retains (sound : table.Sound spent) (member : session ∈ table.rows) :
    table.Retains session :=
  -- The dispatcher status is the one that the session has.
  ⟨session.dispatcherStatus, sound.find? member⟩

/-- A session is retained by every call that does not bring it to its end. -/
theorem SessionTable.Retains.perform (retains : table.Retains session) (sound : table.Sound spent)
    {call : StoreCall} (unused : Unused spent fresh call)
    (lasting : ¬ call.Ends session.id (table.perform fresh call).1) :
    (table.perform fresh call).2.Retains session := by
  obtain ⟨report, found⟩ := retains
  by_cases about : call.subject? (table.perform fresh call).1 = some session.id
  · -- Of all calls that are about a session, only those that look for it or report on it leave it.
    cases call with
    | activeSession | session | ping => cases about
    -- A creation gives a new identifier out, and that of the session has been given out before.
    | create user tokenId =>
      cases made : (table.perform fresh (.create user tokenId)).1 with
      | error fault =>
        rw [made] at about
        cases about
      | ok row =>
        obtain ⟨same, -⟩ := perform_create_ok (Prod.ext made rfl)
        rw [made, same] at about
        have named : fresh.id = session.id := Option.some.inj about
        have given := sound.spent _ (mem_of_find? found).1
        rw [Unused, named] at unused
        exact absurd given unused
    | transition other target =>
      obtain rfl := Option.some.inj about
      cases ended : (table.perform fresh (.transition session.id target)).1 with
      | error fault =>
        rw [perform_refused ended]
        exact ⟨report, found⟩
      -- An end that goes well is excluded; one that is refused leaves the table as it is.
      | ok row => exact absurd ⟨rfl, ended ▸ rfl⟩ lasting
    | setStatus | complete | delete => exact absurd (Option.some.inj about) lasting
    | setDispatcherStatus other status =>
      obtain rfl := Option.some.inj about
      refine ⟨status, ?_⟩
      simp only [SessionTable.perform, update, found]
      exact find?_insert_same table { session with dispatcherStatus := status }
  · -- A call that is about another session leaves this one where it stands.
    exact ⟨report, (find?_perform about).trans found⟩

variable {M : Type} {manager : TopologyManager M} {fails : StoreCall → Prop}
  {before after : Backing M}

/-- A session is retained by every answer of a store that does not bring it to its end. -/
theorem StoreCall.Answered.retains {call : StoreCall} {given : call.Answer}
    (answered : call.Answered fails before given after) (sound : before.table.Sound before.spent)
    (retains : before.table.Retains session) (lasting : ¬ call.Ends session.id given) :
    after.table.Retains session := by
  -- A call that was carried out keeps the session, unless it ends it, and one that failed changes
  -- nothing.
  rcases answered with ⟨fresh, table, unused, performed, rfl⟩ | ⟨-, -, rfl⟩
  · have kept := retains.perform sound unused (by rwa [performed])
    rwa [performed] at kept
  · exact retains

/-- A session is retained in every exchange by which it does not come to its end. -/
theorem Backing.retains {exchange : ServiceExchange}
    (answered : answers manager fails exchange.wanted before exchange.given after)
    (sound : before.table.Sound before.spent) (retains : before.table.Retains session)
    (lasting : ¬ exchange.Ends session.id) : after.table.Retains session := by
  -- Only calls to the store change the table, whether they were given up or not.
  by_cases stored : ∃ call, exchange.wanted.wanted = .store call
  · obtain ⟨call, asked⟩ := stored
    -- A call that is answered in time is judged by its answer, and one that is given up by both
    -- ways it may go.
    match exchange with
    | ⟨.unhurried _, given⟩ =>
      cases asked
      exact StoreCall.Answered.retains answered sound retains lasting
    | ⟨.before _ _, some given⟩ =>
      cases asked
      exact StoreCall.Answered.retains answered sound retains lasting
    | ⟨.before _ _, none⟩ =>
      cases asked
      rcases answered with rfl | ⟨given, answered⟩
      · exact retains
      · exact StoreCall.Answered.retains answered sound retains fun ends => lasting ⟨given, ends⟩
  · -- No other call reaches the table.
    rw [(answers_store answered fun call asked => stored ⟨call, asked⟩).1]
    exact retains

/-- Where looks for sessions do not fail, the session in progress of a user is found. -/
theorem StoreCall.Answered.finds {given : (StoreCall.activeSession session.user).Answer}
    (answered : (StoreCall.activeSession session.user).Answered fails before given after)
    (reliable : ¬ fails (.activeSession session.user)) (sound : before.table.Sound before.spent)
    (active : session.status = .inProgress) (retains : before.table.Retains session) :
    ∃ report, given = .ok (some { session with dispatcherStatus := report }) := by
  -- The look was carried out, and the session in progress is the one that is found.
  obtain ⟨report, found⟩ := retains
  rcases answered with ⟨fresh, table, -, looked, -⟩ | ⟨failing, -, -⟩
  · obtain rfl := congrArg Prod.fst looked
    refine ⟨report, congrArg Except.ok (sound.wellKept.active?.mpr ⟨?_, rfl, active⟩)⟩
    exact (SessionTable.mem_of_find? found).1
  · exact absurd failing reliable

/-- A question that is harmless leaves the sessions and the broker as they are. -/
theorem ServiceCall.Answered.unchanged {call : ServiceCall} {given : call.Answer}
    (answered : call.Answered manager fails before given after) (harmless : call.Harmless) :
    after.table = before.table ∧ after.spent = before.spent ∧ after.broker = before.broker := by
  -- Only the lock changes, and of it nothing is said here.
  cases call with
  | identity _ | unlockUser _ =>
    cases answered
    exact ⟨rfl, rfl, rfl⟩
  | lockUser user =>
    match given with
    | .error fault =>
      cases answered
      exact ⟨rfl, rfl, rfl⟩
    | .ok () =>
      obtain ⟨-, rfl⟩ := answered
      exact ⟨rfl, rfl, rfl⟩
  | store call =>
    -- Of the calls of the store only a look for a session in progress is harmless.
    cases call with
    | activeSession user =>
      obtain ⟨rfl, -⟩ := StoreCall.Answered.activeSession answered
      exact ⟨rfl, rfl, rfl⟩
    | _ => cases harmless
  | topology _ | publish _ _ | momentAfter _ => cases harmless

end Retaining

/-- What a client exchanges under the lock of its user to come back to a session. -/
def resumption (session : Session) (report : String) : List ServiceExchange :=
  [told (.lockUser session.user) (.ok ()),
    told (.store (.activeSession session.user))
      (.ok (some { session with dispatcherStatus := report })),
    told (.unlockUser session.user) ()]

namespace ServiceStage

variable {service : ConnectionService} {admission : Admission} {session : Session}
  {log : List ServiceExchange} {stage ahead : ServiceStage} {exchange : ServiceExchange}

/-- How far a client has got that was let in and comes back to a session, and what it has exchanged
since. -/
inductive Returning (service : ConnectionService) (admission : Admission) (session : Session) :
    List ServiceExchange → ServiceStage → Prop where
  | waiting : Returning service admission session [] (.locking admission)
  | unlockable {fault : StoreError} :
      Returning service admission session [told (.lockUser session.user) (.error fault)]
        (.finished (.connected (.error (.ofStore fault))))
  | looking : Returning service admission session [told (.lockUser session.user) (.ok ())]
      (.looking admission)
  | found {report : String} :
      Returning service admission session ((resumption session report).take 2)
        (.unlocking session.user
          (.ok (service.responseTo admission session ConnectResponse.reconnectMessage)))
  | back {report : String} :
      Returning service admission session (resumption session report)
        (.finished (.connected
          (.ok (service.responseTo admission session ConnectResponse.reconnectMessage))))

/-- A client that finds a session in progress whenever it looks for one comes back to it. -/
theorem Returning.step (returning : Returning service admission session log stage)
    (same : admission.user = session.user) (active : session.status = .inProgress)
    (step : Step service stage exchange ahead)
    (finds : ∀ given, exchange = told (.store (.activeSession session.user)) given →
      ∃ report, given = .ok (some { session with dispatcherStatus := report })) :
    Returning service admission session (log ++ [exchange]) ahead := by
  cases returning with
  | waiting =>
    cases step with
    -- The user asked for is that of the session, under whose lock it is looked for.
    | locked =>
      rw [same]
      exact .looking
    | unlockable =>
      rw [same]
      exact .unlockable
  | looking =>
    -- The look finds the session, so the stage that resumes it is the only one that follows.
    rw [← same] at finds
    cases step with
    | resumed =>
      obtain ⟨report, told⟩ := finds _ rfl
      cases told
      rw [same]
      exact .found
    | absent none =>
      -- What was found accepts a client that comes back.
      obtain ⟨report, told⟩ := finds _ rfl
      cases told
      simp [active, SessionStatus.acceptsReconnect] at none
    | unseen =>
      obtain ⟨report, told⟩ := finds _ rfl
      cases told
  | found =>
    cases step with
    | unlocked => exact .back
  | unlockable | back => exact absurd step Step.not_finished

/-- A client that comes back asks for nothing that changes anything but locks. -/
theorem Returning.harmless (returning : Returning service admission session log stage) :
    ∀ exchange ∈ log, ∃ call, exchange.wanted = .unhurried call ∧ call.Harmless := by
  -- The log of each case is spelt out.
  cases returning with
  | _ => simp [resumption, ServiceCall.Harmless]

/-- So it is however far the client has got. -/
theorem returning_of_course (same : admission.user = session.user)
    (active : session.status = .inProgress)
    (course : Path (Step service) (.locking admission) log stage)
    (finds : ∀ given, told (.store (.activeSession session.user)) given ∈ log →
      ∃ report, given = .ok (some { session with dispatcherStatus := report })) :
    Returning service admission session log stage := by
  -- The induction is on the path, with what is found known for each look in the log so far.
  suffices held : (∀ given, told (.store (.activeSession session.user)) given ∈ [] ++ log →
      ∃ report, given = .ok (some { session with dispatcherStatus := report })) →
      Returning service admission session ([] ++ log) stage from held finds
  refine course.tells (fun stage log =>
    (∀ given, told (.store (.activeSession session.user)) given ∈ log →
      ∃ report, given = .ok (some { session with dispatcherStatus := report })) →
    Returning service admission session log stage) ?_ fun _ => .waiting
  intro stage log exchange ahead step held finds
  refine (held fun given member => finds given (List.mem_append_left _ member)).step same active
    step ?_
  rintro given rfl
  exact finds given (List.mem_append_right _ List.mem_cons_self)

end ServiceStage

/-- Whatever the store fails to do, less of it can happen where it fails at less. -/
theorem Backing.answers_mono {M : Type} {manager : TopologyManager M}
    {fails worse : StoreCall → Prop} (less : ∀ call, fails call → worse call)
    {wanted : Timed ServiceCall} {before after : Backing M}
    {given : wanted.Answer ServiceCall.Answer}
    (answered : answers manager fails wanted before given after) :
    answers manager worse wanted before given after := by
  -- The failures of the store are the only part of the answers that mentions what may fail.
  have stored : ∀ (call : StoreCall) given after, call.Answered fails before given after →
      call.Answered worse before given after := fun call given after =>
    Or.imp_right fun ⟨failing, missed⟩ => ⟨less call failing, missed⟩
  have all : ∀ (call : ServiceCall) given after, call.Answered manager fails before given after →
      call.Answered manager worse before given after := by
    intro call given after answered
    -- Every other call has the same answers under either store.
    match call, given with
    | .store call, given => exact stored call given after answered
    | .lockUser _, .ok () | .lockUser _, .error _ | .identity _, _ | .unlockUser _, _
    | .topology _, _ | .publish _ _, _ | .momentAfter _, _ => exact answered
  match wanted, given with
  | .unhurried call, given => exact all call given after answered
  | .before _ call, some given => exact all call given after answered
  -- The setting up of queues has a case of its own, as part of it may be done when it is given up.
  | .before _ call, none =>
    cases call with
    | topology _ => exact answered
    | identity _ | store _ | lockUser _ | unlockUser _ | publish _ _ | momentAfter _ =>
      exact answered.imp_right fun ⟨given, answered⟩ => ⟨given, all _ given after answered⟩

/-- A client that comes back, with what the identity service tells of it. -/
structure ReturningClient where
  name : String
  token : String
  validation : TokenValidation
  admission : Admission

namespace RequestCrowd

variable {M : Type} {manager : TopologyManager M} {fails : StoreCall → Prop}
  {service : ConnectionService} {start : Backing M} {crowd later : RequestCrowd M} {task : Nat}
  {session : Session} {name token : String} {program : ServiceProgram ServiceOutcome}

/-- Whoever connects as a user whose session in progress is always found asks for nothing that
changes anything, and comes back to that session once it is let in. -/
theorem returns (reached : Reached manager fails service start later)
    (found : later.tasks[task]? = some ⟨.connect name token, program⟩)
    (named : UserId.parse name = .ok session.user) (active : session.status = .inProgress)
    (finds : ∀ given, told (.store (.activeSession session.user)) given ∈ later.heard task →
      ∃ report, given = .ok (some { session with dispatcherStatus := report })) :
    (∀ exchange ∈ later.heard task, ∃ call, exchange.wanted = .unhurried call ∧ call.Harmless) ∧
    ∀ admission, LetIn name token admission (later.heard task) →
      ∃ validation more stage, later.heard task =
          validated token session.user (.ok validation) ::
            profiled session.user (.ok admission.profile) :: more ∧
        ServiceStage.Returning service admission session more stage ∧
        ServiceStage.Tracks service stage program := by
  -- The request is before the answers of the identity service, among them, or past them.
  have inquiring : ∀ log : List ServiceExchange,
      (∀ exchange ∈ log, ∃ call, exchange.wanted = .unhurried (.identity call)) →
      ∀ exchange ∈ log, ∃ call, exchange.wanted = .unhurried call ∧ call.Harmless :=
    fun log only exchange member => (only exchange member).elim fun call same => ⟨_, same, trivial⟩
  have way := turns reached found
  generalize later.heard task = log at way finds ⊢
  rcases gate_of_course way with ⟨fault, refusal, -⟩ | ⟨call, next, inquiry, -⟩ |
    ⟨validation, admission, more, _, _, stage, cleared, rfl, -, -, course, tracks⟩
  · exact ⟨inquiring _ refusal.inquires, fun admission letIn => absurd letIn refusal.not_letIn⟩
  · refine ⟨inquiring _ inquiry.inquires, fun admission letIn => ?_⟩
    -- Who is let in has had two answers of the identity service.
    obtain ⟨validation, -, rest, same⟩ := letIn
    cases inquiry with
    | _ => cases same
  · obtain ⟨user, tokenId, profile⟩ := admission
    obtain rfl : user = session.user := Except.ok.inj (cleared.named.symm.trans named)
    have returning := ServiceStage.returning_of_course rfl active course fun given member =>
      finds given (List.mem_cons_of_mem _ (List.mem_cons_of_mem _ member))
    refine ⟨?_, ?_⟩
    · refine List.forall_mem_cons.mpr ⟨⟨_, rfl, trivial⟩, ?_⟩
      exact List.forall_mem_cons.mpr ⟨⟨_, rfl, trivial⟩, returning.harmless⟩
    · rintro ⟨user, other, profile⟩ ⟨validation, vetted, rest, same⟩
      cases same
      cases Option.some.inj (vetted.identified.symm.trans cleared.identified)
      exact ⟨validation, _, stage, rfl, returning, tracks⟩

/-- Requests may take their turns as well where the store may fail at more. -/
theorem moves_mono {less worse : StoreCall → Prop} (fewer : ∀ call, less call → worse call)
    (moved : Relation.ReflTransGen (Moves manager less service) crowd later) :
    Relation.ReflTransGen (Moves manager worse service) crowd later := by
  -- Each move is the same, with answers that may be worse.
  refine Relation.ReflTransGen.mono ?_ _ _ moved
  intro before after step
  cases step with
  | enter admitted => exact .enter admitted
  | turn found goes answered => exact .turn found goes (Backing.answers_mono fewer answered)

/-- A client comes back to a session in progress whose user nobody has locked, and leaves everything
as it was. -/
theorem runs_back {state : Backing M} {validation : TokenValidation} {admission : Admission}
    (cleared : Cleared name token validation admission) (same : admission.user = session.user)
    (free : session.user ∉ state.locked) (found : state.table.active? session.user = some session)
    (active : session.status = .inProgress) :
    ((ServiceRequest.connect name token).program service).Runs (Backing.answers manager fails) state
      (validated token session.user (.ok validation) ::
        profiled session.user (.ok admission.profile) ::
        resumption session session.dispatcherStatus)
      (.connected (.ok (service.responseTo admission session ConnectResponse.reconnectMessage)))
      state := by
  -- The client is let in, takes the lock, is given the session that it finds, and gives the lock
  -- up.
  obtain ⟨user, tokenId, profile⟩ := admission
  obtain rfl : user = session.user := same
  have kept : (some session).filter (fun session : Session => session.status.acceptsReconnect) =
      some session := by
    rw [Option.filter_some, active]
    rfl
  have held : { state with locked := (insert session.user state.locked).erase session.user } =
      state := by
    rw [Finset.erase_insert free]
  refine course_of_cleared cleared rfl rfl ?_
  show Program.Runs _ ((service.connectLocked ⟨session.user, tokenId, profile⟩).bind fun result =>
    .done (ServiceOutcome.connected result)) _ _ _ _
  refine Program.runs_ask.mpr ⟨.ok (), _, _, ⟨free, rfl⟩, ?_, rfl⟩
  show Program.Runs _ (((service.openSession ⟨session.user, tokenId, profile⟩).bind _).bind _)
    _ _ _ _
  rw [Program.bind_assoc]
  refine Program.runs_ask.mpr ⟨.ok (some session),
    { state with locked := insert session.user state.locked }, _, .inl ?_, ?_, rfl⟩
  · refine ⟨⟨session.id, session.createdAt⟩, state.table, trivial, ?_, rfl⟩
    exact congrArg (fun found => (Except.ok found, state.table)) found
  · dsimp only [Program.bind]
    rw [kept]
    refine Program.runs_ask.mpr ⟨(), state, _, held.symm, ?_, rfl⟩
    exact Program.runs_done.mpr ⟨rfl, rfl, rfl⟩

/-- Clients come back one after another, and leave everything as it was. -/
theorem serves_back (active : session.status = .inProgress)
    (sound : crowd.state.table.Sound crowd.state.spent)
    (member : session ∈ crowd.state.table.rows) (free : session.user ∉ crowd.state.locked)
    (clients : List ReturningClient)
    (cleared : ∀ client ∈ clients, client.admission.user = session.user ∧
      Cleared client.name client.token client.validation client.admission) :
    ∃ later more, Relation.ReflTransGen (Moves manager fails service) crowd later ∧
      later.log = crowd.log ++ more ∧ (∀ entry ∈ more, ¬ ServiceExchange.Ends session.id entry.2) ∧
      later.state = crowd.state ∧
      later.tasks = crowd.tasks ++ clients.map fun client => ⟨.connect client.name client.token,
        .done (.connected (.ok (service.responseTo client.admission session
          ConnectResponse.reconnectMessage)))⟩ := by
  -- The session in progress is found in the table that nobody changes.
  have found := sound.wellKept.active?.mpr ⟨member, rfl, active⟩
  -- The clients come one after the other, so the induction is on the list from its end.
  induction clients using List.reverseRecOn with
  | nil =>
    exact ⟨crowd, [], .refl, (List.append_nil _).symm, List.forall_mem_nil _, rfl,
      (List.append_nil _).symm⟩
  | append_singleton clients client ih =>
    obtain ⟨later, more, moved, grown, lasting, same, tasks⟩ := ih fun client member =>
      cleared client (List.mem_append_left _ member)
    obtain ⟨own, vetted⟩ := cleared client (List.mem_append_right _ List.mem_cons_self)
    -- The last one's course is put together from the lock that is free and the session that is
    -- found.
    have turns : Course (Backing.answers manager fails)
        (Conduct.Labelled fun _ : ServiceRequest => Program.Turn)
        ⟨.connect client.name client.token, ServiceRequest.program service _⟩ later.state _
        ⟨_, .done _⟩ later.state :=
      Course.labelled (same ▸ runs_back vetted own free found active)
    refine ⟨_, more ++ _, moved.trans (Crowd.serve rfl turns),
      (congrArg (· ++ _) grown).trans (List.append_assoc _ _ _), ?_, same, by simp [tasks]⟩
    refine List.forall_mem_append.mpr ⟨lasting, ?_⟩
    simp [resumption, ServiceExchange.Ends, StoreCall.Ends]

/-- What becomes of a session in progress, of those who come to connect as its user, and of all else
if nobody but these takes a turn. -/
structure Resuming (service : ConnectionService) (session : Session) (crowd later : RequestCrowd M)
    (more : List (Nat × ServiceExchange)) : Prop where
  retained : later.state.table.Retains session
  answered : ∀ (task : Nat) (name token : String) (admission : Admission)
    (outcome : ServiceOutcome), crowd.tasks.length ≤ task →
    later.tasks[task]? = some ⟨.connect name token, .done outcome⟩ →
    admission.user = session.user → LetIn name token admission (later.heard task) →
    (∀ fault, told (.lockUser session.user) (.error fault) ∉ later.heard task) →
    (∃ validation report, later.heard task = validated token session.user (.ok validation) ::
      profiled session.user (.ok admission.profile) :: resumption session report) ∧
    ∃ response, outcome = .connected (.ok response) ∧
      response.message = ConnectResponse.reconnectMessage ∧ response.session = session.id ∧
      response.credentials = ⟨session.user.text, service.key.derive session.id session.user,
        service.settings.publicHost, service.settings.publicPort⟩
  unchanged : (∀ entry ∈ more, crowd.tasks.length ≤ entry.1 ∧ ∃ name token program,
      later.tasks[entry.1]? = some ⟨.connect name token, program⟩ ∧
      UserId.parse name = .ok session.user) →
    later.state.table = crowd.state.table ∧ later.state.spent = crowd.state.spent ∧
      later.state.broker = crowd.state.broker

/-- From wherever requests have got so far, and whatever the broker's management and the publisher
make of what they are asked: as long as a session in progress does not come to its end and looks for
it do not fail, everybody who is let in as its user comes back to it, asks nothing of these two, and
changes no session. If nobody holds the lock of the user, any clients may come back one after
another. -/
theorem clients_come_back (empty : start.table = .empty)
    (reached : Reached manager fails service start crowd)
    (member : session ∈ crowd.state.table.rows) (active : session.status = .inProgress) :
    (∀ later more, Relation.ReflTransGen (Moves manager
        (fun call => fails call ∧ call ≠ .activeSession session.user) service) crowd later →
      later.log = crowd.log ++ more → (∀ entry ∈ more, ¬ ServiceExchange.Ends session.id entry.2) →
      Resuming service session crowd later more) ∧
    (session.user ∉ crowd.state.locked → ∀ clients : List ReturningClient,
      (∀ client ∈ clients, client.admission.user = session.user ∧
        Cleared client.name client.token client.validation client.admission) →
      ∃ later more, Relation.ReflTransGen (Moves manager
          (fun call => fails call ∧ call ≠ .activeSession session.user) service) crowd later ∧
        later.log = crowd.log ++ more ∧
        (∀ entry ∈ more, ¬ ServiceExchange.Ends session.id entry.2) ∧
        later.state = crowd.state ∧
        later.tasks = crowd.tasks ++ clients.map fun client => ⟨.connect client.name client.token,
          .done (.connected (.ok (service.responseTo client.admission session
            ConnectResponse.reconnectMessage)))⟩) := by
  have sound := (chronicle reached empty).1.sound
  refine ⟨fun later more moved grown lasting => ?_,
    fun free => serves_back active sound member free⟩
  -- Whatever happened since, happened in a crowd that has come about.
  have onward := Relation.ReflTransGen.trans reached (moves_mono (fun _ => And.left) moved)
  -- The table stays sound and the session stays in it, in every exchange since.
  obtain ⟨⟨-, retained⟩, each⟩ := Crowd.kept_since moved grown
    (fun state => state.table.Sound state.spent ∧ state.table.Retains session)
    (fun entry member before after answered held => ⟨Backing.answers_sound answered held.1,
      Backing.retains answered held.1 held.2 (lasting entry member)⟩)
    ⟨sound, sound.retains member⟩
  have recent : ∀ task, crowd.tasks.length ≤ task → ∀ exchange ∈ later.heard task,
      (task, exchange) ∈ more := by
    intro task new exchange heard
    have logged := Crowd.mem_heard.mp heard
    rw [grown] at logged
    rcases List.mem_append.mp logged with early | now
    · rw [← Crowd.mem_heard, (Crowd.Reached.path reached task).1 new] at early
      cases early
    · exact now
  -- So whoever looks for a session of the user finds this one, whatever report it carries.
  have finds : ∀ task, crowd.tasks.length ≤ task →
      ∀ given, told (.store (.activeSession session.user)) given ∈ later.heard task →
      ∃ report, given = .ok (some { session with dispatcherStatus := report }) := by
    intro task new given heard
    obtain ⟨before, after, ⟨sound, retains⟩, answered⟩ := each _ (recent task new _ heard)
    have looked : (StoreCall.activeSession session.user).Answered
        (fun call => fails call ∧ call ≠ .activeSession session.user) before given after := answered
    exact looked.finds (fun failing => failing.2 rfl) sound active retains
  refine ⟨retained, ?_, fun only => ?_⟩
  · -- A client that is let in and gets the lock has come to the end of the one way there is.
    intro task name token admission outcome new found same letIn locked
    obtain ⟨validation, more, stage, log, returning, tracks⟩ :=
      (returns onward found (same ▸ letIn.choose_spec.1.named) active (finds task new)).2 _ letIn
    obtain rfl : stage = .finished outcome := tracks
    cases returning with
    | @unlockable fault =>
      refine absurd ?_ (locked fault)
      rw [log]
      simp
    | back =>
      refine ⟨⟨validation, _, log⟩, _, rfl, rfl, rfl, ?_⟩
      rw [ConnectionService.responseTo, ConnectionService.response, same]
  · -- If only such clients came, nobody asked for anything that changes what the session has.
    have harmless : ∀ entry ∈ more, ∃ call, entry.2.wanted = .unhurried call ∧ call.Harmless := by
      intro entry member
      obtain ⟨new, name, token, program, found, named⟩ := only entry member
      refine (returns onward found named active (finds entry.1 new)).1 entry.2 ?_
      rw [Crowd.mem_heard, grown]
      exact List.mem_append_right _ member
    refine (Crowd.kept_since moved grown (fun state => state.table = crowd.state.table ∧
      state.spent = crowd.state.spent ∧ state.broker = crowd.state.broker) ?_ ⟨rfl, rfl, rfl⟩).1
    rintro ⟨task, wanted, given⟩ member before after answered ⟨table, spent, broker⟩
    obtain ⟨call, asked, harmless⟩ := harmless _ member
    cases asked
    obtain ⟨sameTable, sameSpent, sameBroker⟩ := ServiceCall.Answered.unchanged answered harmless
    exact ⟨sameTable.trans table, sameSpent.trans spent, sameBroker.trans broker⟩

/-- A client whose connection was lost comes back twice, each time with another token. -/
theorem lost_client_comes_back_twice :
    ∃ (crowd later : RequestCrowd Management) (more : List (Nat × ServiceExchange))
      (session : Session) (name : String),
      crowd.state.table.rows = [session] ∧ session.status = .inProgress ∧
      session.tokenId = "token" ∧ later.state = crowd.state ∧
      later.tasks.map Sigma.fst =
        [.connect "ada" "token", .connect name "second", .connect name "third"] ∧
      Resuming ⟨.ofBytes [], .default⟩ session crowd later more := by
  -- The first client's session is made, and the two others come back to it.
  let options : TopologyOptions := ⟨none, none⟩
  let service : ConnectionService := ⟨.ofBytes [], .default⟩
  -- Only the creation may fail, and the session it has made is the one row of the table.
  let crowd := inTurn options service [.connect "ada" "token"] (Crowd.alone Backing.untouched)
  have reached : Reached (Topology.manager options) (fun call => ∃ user tokenId,
      call = .create user tokenId) service Backing.untouched crowd :=
    inTurn_reached (fun user tokenId => ⟨user, tokenId, rfl⟩) _ .refl
  have opened : crowd.state.table.rows.map (fun session => (session.status, session.tokenId)) =
      [(.inProgress, "token")] := by
    decide +kernel
  have unlocked : crowd.state.locked = ∅ := by decide +kernel
  obtain ⟨session, only, known⟩ := List.map_eq_singleton_iff.mp opened
  obtain ⟨active, opening⟩ := Prod.ext_iff.mp known
  obtain ⟨resume, serve⟩ := clients_come_back rfl reached
    (only ▸ List.mem_singleton_self session) active
  -- Both clients are vouched for under the user's own name, each with a token of its own.
  let returning (token : String) : ReturningClient :=
    ⟨session.user.text, token, ⟨true, some token, none, none, none, none⟩, session.user, token,
      ⟨session.user.text, session.user.text, "", "", "", "", true, none⟩⟩
  have cleared (token : String) (present : ¬ Text.AllBlank token) (nonempty : token ≠ "") :
      (returning token).admission.user = session.user ∧ Cleared session.user.text token
        (returning token).validation (returning token).admission :=
    ⟨rfl, UserId.parse_text _, present, rfl, rfl, nonempty, rfl⟩
  have second := cleared "second" (fun blank => absurd (blank 's' (by decide)) (by decide))
    (by decide)
  have third := cleared "third" (fun blank => absurd (blank 't' (by decide)) (by decide))
    (by decide)
  obtain ⟨later, more, moved, grown, lasting, same, tasks⟩ := serve (unlocked ▸ nofun)
    [returning "second", returning "third"]
    (List.forall_mem_cons.mpr ⟨second, List.forall_mem_singleton.mpr third⟩)
  refine ⟨crowd, later, more, session, session.user.text, only, active, opening, same, ?_,
    resume later more moved grown lasting⟩
  rw [tasks]
  rfl

end RequestCrowd

end SessionGate
