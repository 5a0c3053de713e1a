import SessionGate.Proofs.Connection.Compliance
import SessionGate.Proofs.Program.Crowd

/-! A session that cannot be provisioned is undone, and the client is told why, whatever becomes of
the undoing. -/

namespace SessionGate

open ServiceExchange

/-- The fault that a client is told when an exchange has made provisioning fail. -/
def ConnectionService.failure? (service : ConnectionService) :
    ServiceExchange → Option ConnectionError
  | ⟨.before _ (.topology _), some (.error cause)⟩ => some (.broker cause)
  | ⟨.before _ (.publish _ _), some (.error cause)⟩ => some (.broker cause)
  -- Whatever was given up, it is the time allowed that is told.
  | ⟨.before _ _, none⟩ => some (.provisionTimeout service.settings.provisionTimeout)
  | _ => none

variable {M : Type} {manager : TopologyManager M} {fails : StoreCall → Prop}

namespace ServiceStage

variable {service : ConnectionService} {stage ahead place last : ServiceStage}
  {exchange : ServiceExchange} {fault : ConnectionError} {name : String}
  {origin before after : Backing M}

/-- The session that is being made at a stage, and not yet being undone. -/
def making? : ServiceStage → Option Session
  | .timing _ session | .settingUp _ session _ | .announcing _ session _ => some session
  | _ => none

/-- The stages of a connect up to the end of provisioning. -/
def Early : ServiceStage → Prop
  | .identifying _ _ | .profiling _ _ | .locking _ | .looking _ | .creating _ | .timing _ _
  | .settingUp _ _ _ | .announcing _ _ _ => True
  | _ => False

/-- Up to the end of provisioning the connect of the user of a name has changed nothing in the
store that it found, but for a new session. -/
def Added (name : String) (origin : Backing M) : ServiceStage → Backing M → Prop
  | .identifying user _, now | .profiling user _, now =>
    user.text = name ∧ now.table = origin.table ∧ now.spent = origin.spent
  | .locking admission, now | .looking admission, now | .creating admission, now =>
    admission.user.text = name ∧ now.table = origin.table ∧ now.spent = origin.spent
  | .timing admission session, now | .settingUp admission session _, now
  | .announcing admission session _, now =>
    session.user.text = name ∧ session.user = admission.user ∧ session.id ∉ origin.spent ∧
      now.table = origin.table.insert session
  | _, _ => True

/-- Provisioning fails only while it is being done, and leads to undoing. -/
theorem Step.failing (step : Step service stage exchange ahead)
    (answered : Backing.answers manager fails exchange.wanted before exchange.given after)
    (failing : service.failure? exchange = some fault) (added : Added name origin stage before) :
    ∃ admission session, stage.Early ∧ stage.making? = some session ∧
      ahead = .tearingDown admission session fault ∧ session.user.text = name ∧
      session.user = admission.user ∧ session.id ∉ origin.spent ∧
      after.table = origin.table.insert session := by
  -- Only four steps are failures of provisioning, and neither of them changes the sessions.
  cases step with
  -- The broker may have got some way, but the store has not been asked.
  | setUpFailed | setUpCut =>
    cases failing
    obtain ⟨broker, -, rfl⟩ := answered
    exact ⟨_, _, trivial, rfl, rfl, added⟩
  | announcementFailed =>
    cases failing
    cases answered
    exact ⟨_, _, trivial, rfl, rfl, added⟩
  -- A publication that is cut off leaves everything as it was, whichever answer it would have had.
  | announcementCut =>
    cases failing
    rcases answered with rfl | ⟨given, rfl⟩
    · exact ⟨_, _, trivial, rfl, rfl, added⟩
    · exact ⟨_, _, trivial, rfl, rfl, added⟩
  | _ => cases failing

/-- Before undoing nothing is torn down, and a session that is being made was created. -/
theorem Step.early (step : Step service stage exchange ahead) (early : ahead.Early) :
    stage.Early ∧ (∀ user, exchange.wanted.wanted ≠ .topology (.tearDown user)) ∧
      (ahead.making? = stage.making? ∨ ∃ user tokenId session, ahead.making? = some session ∧
        exchange = told (.store (.create user tokenId)) (.ok session)) := by
  -- Only the steps before undoing lead to an early stage, and one of them makes the session.
  cases step with
  | identified | admitted | locked | absent | timed | setUp =>
    exact ⟨trivial, nofun, Or.inl rfl⟩
  | created => exact ⟨trivial, nofun, Or.inr ⟨_, _, _, rfl, rfl⟩⟩
  | _ => exact early.elim

/-- The same holds of a whole course that has not come to undoing. -/
theorem early_of_course {σ : Type}
    {env : Surroundings (Timed ServiceCall) (Timed.Answer ServiceCall.Answer) σ}
    {state final : σ} {log : List ServiceExchange}
    (course : Course env (Step service) place state log last final) (early : last.Early) :
    place.Early ∧ (∀ earlier ∈ log, ∀ user, earlier.wanted.wanted ≠ .topology (.tearDown user)) ∧
      (last.making? = place.making? ∨ ∃ user tokenId session, last.making? = some session ∧
        told (.store (.create user tokenId)) (.ok session) ∈ log) := by
  -- The induction goes back from the last stage to the first.
  induction course with
  | rest => exact ⟨early, List.forall_mem_nil _, Or.inl rfl⟩
  | step goes _ _ ih =>
    obtain ⟨early, calm, made⟩ := ih early
    obtain ⟨early, quiet, kept⟩ := goes.early early
    refine ⟨early, List.forall_mem_cons.mpr ⟨quiet, calm⟩, ?_⟩
    rcases made with same | ⟨user, tokenId, session, making, told⟩
    · rcases kept with kept | ⟨user, tokenId, session, making, rfl⟩
      · exact Or.inl (same.trans kept)
      · exact Or.inr ⟨user, tokenId, session, same.trans making, List.mem_cons_self⟩
    · exact Or.inr ⟨user, tokenId, session, making, List.mem_cons_of_mem _ told⟩

/-- No step up to the end of provisioning changes the store but for making a session. -/
theorem Step.added (step : Step service stage exchange ahead)
    (answered : Backing.answers manager fails exchange.wanted before exchange.given after)
    (added : Added name origin stage before) : Added name origin ahead after := by
  -- The store is changed by the step that makes the session and by none before or after it.
  cases step with
  | identified | admitted | timed =>
    cases answered
    exact added
  -- The lock is not among what is compared.
  | locked =>
    obtain ⟨-, rfl⟩ := answered
    exact added
  | absent =>
    obtain ⟨rfl, -⟩ := StoreCall.Answered.activeSession answered
    exact added
  -- The new row is the one row that has come to the table.
  | created =>
    obtain ⟨unused, owner, -, -, rfl⟩ := StoreCall.Answered.created answered
    obtain ⟨named, table, spent⟩ := added
    refine ⟨by rw [owner]; exact named, owner, ?_, ?_⟩
    · rw [← spent]
      exact unused
    · show before.table.insert _ = _
      rw [table]
  | setUp =>
    obtain ⟨broker, -, rfl⟩ := answered
    exact added
  | _ => trivial

/-- A request starts with the store that it finds. -/
theorem start_added (request : ServiceRequest) (state : Backing M) :
    Added request.name state (start request) state := by
  -- Only a connect has a name to keep, and it is the one that was parsed.
  cases request with
  | connect user token =>
    simp only [start]
    cases parsed : ConnectionService.parseRequest user token with
    | error fault => trivial
    | ok id => exact ⟨ConnectionService.text_of_parseRequest parsed, rfl, rfl⟩
  | setDispatcherStatus id status =>
    simp only [start]
    split
    · trivial
    · trivial
  | complete id | timeOut id | get id => trivial

/-- At its start no request is making a session. -/
theorem start_making? (request : ServiceRequest) : (start request).making? = none := by
  -- No request starts by making a session.
  refine start_holds (fun stage => stage.making? = none) ?_ ?_ ?_ ?_ ?_ ?_ request <;>
    · intros
      rfl

/-- Undoing tears down, then deletes, then gives the lock up, and tells the fault that led to it. -/
theorem course_of_undoing {σ : Type}
    {env : Surroundings (Timed ServiceCall) (Timed.Answer ServiceCall.Answer) σ} {state final : σ}
    {admission : Admission} {session : Session} {outcome : ServiceOutcome}
    {log : List ServiceExchange}
    (course : Course env (Step service) (.tearingDown admission session fault) state log
      (.finished outcome) final) :
    ∃ (tornDown : (ServiceCall.topology (.tearDown session.user)).Answer)
      (deleted : (ServiceCall.store (.delete session.id)).Answer) (first second : σ),
      outcome = .connected (.error fault) ∧
      log = [told (.topology (.tearDown session.user)) tornDown,
        told (.store (.delete session.id)) deleted, told (.unlockUser admission.user) ()] ∧
      env (.unhurried (.topology (.tearDown session.user))) state tornDown first ∧
      env (.unhurried (.store (.delete session.id))) first deleted second ∧
      env (.unhurried (.unlockUser admission.user)) second () final := by
  -- Each of the three stages has one way to go on.
  cases course with
  | step torn managed onward =>
  cases torn
  cases onward with
  | step deleted answered onward =>
  cases deleted
  cases onward with
  | step unlocked given onward =>
  cases unlocked
  cases onward with
  | step goes => cases goes
  | rest => exact ⟨_, _, _, _, rfl, rfl, managed, answered, given⟩

/-- Undone is what the broker's management tears down and what the store deletes. -/
theorem course_of_tearingDown {admission : Admission} {session : Session}
    {outcome : ServiceOutcome} {log : List ServiceExchange}
    (course : Course (Backing.answers manager fails) (Step service)
      (.tearingDown admission session fault) before log (.finished outcome) after) :
    ∃ tornDown deleted broker,
      outcome = .connected (.error fault) ∧
      log = [told (.topology (.tearDown session.user)) tornDown,
        told (.store (.delete session.id)) deleted, told (.unlockUser admission.user) ()] ∧
      manager.answers (.tearDown session.user) before.broker tornDown broker ∧
      after.broker = broker ∧
      (deleted.isOk = true → after.table = before.table.erase session.id) := by
  -- The three calls of undoing are the whole course.
  -- A teardown is asked of the broker, the deletion of the store, and the lock given up.
  obtain ⟨tornDown, deleted, _, second, rfl, rfl, ⟨broker, managed, rfl⟩, answered, rfl⟩ :=
    course_of_undoing course
  refine ⟨tornDown, deleted, broker, rfl, rfl, managed, ?_, ?_⟩
  · rcases StoreCall.Answered.deleted answered with rfl | ⟨-, -, rfl⟩
    · rfl
    · rfl
  · -- A deletion that is said to have gone well has gone well.
    intro succeeded
    rcases StoreCall.Answered.deleted answered with rfl | ⟨-, refused, -⟩
    · rfl
    · exact absurd (refused.symm.trans succeeded) (by decide)

end ServiceStage

/-- Where no shovel is wanted, the broker holds none. -/
def Backing.Unshoveled (options : TopologyOptions) (state : Backing Management) : Prop :=
  options.shovelDestination = none → ∀ name, state.broker.inventory.shovels name = none

/-- Where no shovel is wanted, none comes to be. -/
theorem Backing.answers_unshoveled {options : TopologyOptions} {before after : Backing Management}
    {wanted : Timed ServiceCall} {given : wanted.Answer ServiceCall.Answer}
    (answered : Backing.answers (Topology.manager options) fails wanted before given after)
    (held : before.Unshoveled options) : after.Unshoveled options := by
  -- An order adds no shovel where none is wanted, however far it gets.
  refine answers_keep (Unshoveled options) ?_ ?_ answered held
  · intro call given before after answered held unwanted name
    rcases answered.broker with same | ⟨order, given, log, ran⟩
    · rw [same]
      exact held unwanted name
    · rw [Topology.perform_shovels unwanted ran]
      exact held unwanted name
  · intro order before broker abandoned held unwanted name
    obtain ⟨log, rest, course⟩ := abandoned
    show broker.inventory.shovels name = none
    rw [Topology.perform_shovels unwanted course]
    exact held unwanted name

/-- Where every call of the store may fail, there is always some answer. -/
theorem Backing.answers_responsive {options : TopologyOptions} (wanted : Timed ServiceCall)
    (state : Backing Management) :
    ∃ given after,
      Backing.answers (Topology.manager options) (fun _ => True) wanted state given after := by
  -- The identity service, the store and the lock may fail, and the others may succeed.
  have answered : ∀ call : ServiceCall, ∃ (given : call.Answer) (after : Backing Management),
      call.Answered (Topology.manager options) (fun _ => True) state given after := by
    intro call
    cases call with
    | identity call => exact ⟨.error (.undecodable ""), state, rfl⟩
    | store call => exact ⟨.error (.database ""), state, Or.inr ⟨trivial, .unreached call "", rfl⟩⟩
    | lockUser user => exact ⟨.error (.database ""), state, rfl⟩
    | unlockUser user => exact ⟨(), _, rfl⟩
    | topology order =>
      obtain ⟨log, given, broker, ran⟩ :=
        (Topology.perform options order).exists_runs Management.answers_responsive state.broker
      exact ⟨given, _, broker, ⟨log, ran⟩, rfl⟩
    | publish exchange body => exact ⟨.ok (), state, rfl⟩
    | momentAfter limit => exact ⟨Instant.start, state, rfl⟩
  -- A call with a deadline may be answered before it.
  cases wanted with
  | unhurried call => exact answered call
  | before deadline call =>
    obtain ⟨given, after, answered⟩ := answered call
    exact ⟨some given, after, answered⟩

/-- However many tasks have taken turns, the table is sound. -/
theorem Backing.reached_sound {start : Backing M}
    {crowd : Crowd (Timed ServiceCall) (Timed.Answer ServiceCall.Answer) (Backing M)
      (ServiceProgram ServiceOutcome)}
    {enters : ServiceProgram ServiceOutcome → Prop} (empty : start.table = .empty)
    (reached : Crowd.Reached (Backing.answers manager fails) Program.Turn enters start crowd) :
    crowd.state.table.Sound crowd.state.spent := by
  -- The table is empty at first, and every answer keeps it sound.
  refine reached.keeps (fun crowd => crowd.state.table.Sound crowd.state.spent) ?_ ?_
  · show start.table.Sound start.spent
    rw [empty]
    exact .empty
  · intro crowd after moved sound
    cases moved with
    | enter => exact sound
    | turn _ _ answered => exact Backing.answers_sound answered sound

section Failure

variable {service : ConnectionService} {options : TopologyOptions}
  {start middle : Backing Management}
  {crowd : Crowd (Timed ServiceCall) (Timed.Answer ServiceCall.Answer) (Backing Management)
    (ServiceProgram ServiceOutcome)}
  {enters : ServiceProgram ServiceOutcome → Prop}

/-- However many tasks have taken turns, the broker holds no shovels that are not wanted, and the
table is sound. -/
theorem sound_of_reached (empty : start.table = .empty) (unshoveled : start.Unshoveled options)
    (reached : Crowd.Reached (Backing.answers (Topology.manager options) fails) Program.Turn enters
      start crowd) :
    crowd.state.table.Sound crowd.state.spent ∧ crowd.state.Unshoveled options := by
  -- Both are kept by every answer from the start on.
  refine ⟨Backing.reached_sound empty reached, ?_⟩
  refine reached.keeps (fun crowd => crowd.state.Unshoveled options) unshoveled ?_
  intro crowd after moved held
  cases moved with
  | enter => exact held
  | turn _ _ answered => exact Backing.answers_unshoveled answered held

/-- The store is empty at first, and where no shovels are wanted the broker has none at first. When
provisioning a new session has failed in any way, the connect comes to its end, and it tells that
failure. After the failure it does three things: it takes the user's broker resources
away, which it has not done before, it deletes the session, and it gives the lock up. If the
deletion succeeds, the sessions are those that there were before, and if no change at the broker
fails, nothing of the user's is left there. -/
theorem failed_provisioning_is_undone (empty : start.table = .empty)
    (unshoveled : start.Unshoveled options)
    (reached : Crowd.Reached (Backing.answers (Topology.manager options) fun _ => True) Program.Turn
      enters start crowd)
    {name token : String} {before : List ServiceExchange} {exchange : ServiceExchange}
    {fault : ConnectionError} {rest : ServiceProgram ServiceOutcome}
    (course : Course (Backing.answers (Topology.manager options) fun _ => True) Program.Turn
      ((ServiceRequest.connect name token).program service) crowd.state (before ++ [exchange]) rest
      middle)
    (failing : service.failure? exchange = some fault) :
    ∃ session : Session, session.user.text = name ∧
      (∃ user tokenId, told (.store (.create user tokenId)) (.ok session) ∈ before) ∧
      (∀ earlier ∈ before, ∀ user, earlier.wanted.wanted ≠ .topology (.tearDown user)) ∧
      (∀ deadline order cause, exchange = inTime deadline (.topology order) (.error cause) →
        ∃ earlier made change unmade, Topology.changes options order = made ++ change :: unmade ∧
          middle.broker.journal =
            earlier ++ List.map (·, Except.ok ()) made ++ [(change, Except.error cause)]) ∧
      (∃ log outcome final, rest.Runs (Backing.answers (Topology.manager options) fun _ => True)
        middle log outcome final) ∧
      ∀ log outcome final,
        rest.Runs (Backing.answers (Topology.manager options) fun _ => True) middle log outcome
          final →
        outcome = .connected (.error fault) ∧
        ∃ tornDown deleted noted,
          log = [told (.topology (.tearDown session.user)) tornDown,
            told (.store (.delete session.id)) deleted, told (.unlockUser session.user) ()] ∧
          (deleted.isOk = true → final.table = crowd.state.table) ∧
          final.broker.journal = middle.broker.journal ++ noted ∧
          noted.map Prod.fst = Topology.changes options (.tearDown session.user) ∧
          ((∀ entry ∈ noted, entry.2 = .ok ()) →
            final.broker.inventory.share session.user = Share.empty) := by
  -- The table is sound wherever the crowd has come to, and the broker has no unwanted shovels.
  obtain ⟨sound, unshoveled⟩ := sound_of_reached empty unshoveled reached
  -- The stages show where the failure was met, and what had been done until then.
  obtain ⟨stage, staged, tracks⟩ := ServiceStage.course_of_start course
  obtain ⟨place, state, early, late⟩ := staged.of_append
  -- Until the failure nothing has been added but the session itself.
  have added := early.keeps (ServiceStage.Added name crowd.state)
    (fun _ _ _ _ _ step answered added => step.added answered added)
    (ServiceStage.start_added _ crowd.state)
  cases late with
  | step step answered onward =>
  cases onward with
  | rest =>
  obtain ⟨admission, session, unharmed, making, rfl, named, owner, unused, table⟩ :=
    step.failing answered failing added
  obtain ⟨-, calm, made⟩ := ServiceStage.early_of_course early unharmed
  have held := (early.keeps (fun _ state => state.Unshoveled options)
    (fun _ _ _ _ _ _ answered held => Backing.answers_unshoveled answered held) unshoveled)
  have held := Backing.answers_unshoveled answered held
  -- The parts are the creation, the calm until then, the failing order, termination, and the
  -- undoing.
  refine ⟨session, named, ?_, calm, ?_, ?_, ?_⟩
  · -- At the start no session is in the making, so one has been made on the way.
    rcases made with same | ⟨user, tokenId, other, same, told⟩
    · rw [ServiceStage.start_making?] at same
      cases same.symm.trans making
    · cases same.symm.trans making
      exact ⟨user, tokenId, told⟩
  · intro deadline order cause same
    subst same
    cases step with
    | setUpFailed =>
      obtain ⟨broker, ⟨log, ran⟩, rfl⟩ := answered
      obtain ⟨made, change, unmade, listed, noted⟩ := Topology.journal_of_failure ran
      exact ⟨_, made, change, unmade, listed, noted⟩
  · -- Every call may be answered, so the rest has a run.
    exact rest.exists_runs Backing.answers_responsive middle
  · intro log outcome final ran
    have undone := ServiceStage.course_of_runs ran tracks
    obtain ⟨tornDown, deleted, broker, told, logged, ⟨orders, removed⟩, rfl, erased⟩ :=
      ServiceStage.course_of_tearingDown undone
    obtain ⟨noted, journal, listed, cleared⟩ := Topology.journal_of_tearDown removed
    refine ⟨told, tornDown, deleted, noted, by rw [logged, owner], ?_, journal, listed, ?_⟩
    · -- What is erased is the one row that was added, as its identifier was new.
      intro succeeded
      rw [erased succeeded, table]
      exact SessionTable.erase_insert_new fun row member same =>
        unused (same ▸ sound.spent row member)
    · -- A shovel that is not wanted is not taken down, but there is none of that kind.
      intro succeeded
      rw [cleared succeeded]
      exact Topology.share_of_tearDown fun unwanted => held unwanted _

/-- A client whose session could not be announced at a closed channel is told so. -/
theorem unannounced_connect_is_undone :
    ∃ (session : Session) (log : List ServiceExchange) (final : Backing Management),
      session.user.text = "ada" ∧
      ((ServiceRequest.connect "ada" "token").program ⟨.ofBytes [], .default⟩).Runs
        (Backing.answers (Topology.manager ⟨some "dispatch", none⟩) fun _ => True) Backing.untouched
        log (.connected (.error (.broker (.channel "closed")))) final := by
  -- The queues are set up and the publication fails, at the eighth exchange.
  let service : ConnectionService := ⟨.ofBytes [], .default⟩
  let reply := Backing.complyTimed ⟨some "dispatch", none⟩ (.error (.channel "closed"))
  let program := (ServiceRequest.connect "ada" "token").program service
  let anyCall : StoreCall → Prop := fun _ => True
  have complied := @Backing.complyTimed_answers ⟨some "dispatch", none⟩
    (.error (.channel "closed")) anyCall fun _ _ => trivial
  have ran := Program.runs_run complied program Backing.untouched
  have failed : (program.transcript reply Backing.untouched)[7]?.bind service.failure? =
      some (.broker (.channel "closed")) := by
    decide +kernel
  obtain ⟨exchange, found, failing⟩ := Option.bind_eq_some_iff.mp failed
  obtain ⟨earlier, later, split⟩ := List.append_of_mem (List.mem_of_getElem? found)
  -- The run is cut after the exchange that made provisioning fail.
  rw [split, List.append_cons] at ran
  obtain ⟨rest, middle, course, onward⟩ := ran.of_append
  have alone : Crowd.Reached (Backing.answers (Topology.manager ⟨some "dispatch", none⟩) anyCall)
      Program.Turn (fun _ : ServiceProgram ServiceOutcome => True) Backing.untouched
      (.alone Backing.untouched) := .refl
  obtain ⟨session, named, -, -, -, -, undone⟩ := failed_provisioning_is_undone rfl
    (fun _ _ => rfl) alone course failing
  have told := (undone _ _ _ onward).1
  rw [told] at ran
  exact ⟨session, _, _, named, ran⟩

end Failure

end SessionGate
