import SessionGate.Proofs.Connection.Resources
import SessionGate.Proofs.Connection.Turns
import SessionGate.Proofs.Store.Effect

/-! Sessions that could not be provisioned: a later client is told of one again only if it could
not be deleted either. -/

namespace SessionGate

open ServiceExchange

variable {M : Type} {manager : TopologyManager M} {fails : StoreCall → Prop}
  {service : ConnectionService} {id : SessionId}

namespace Backing

variable {before after : Backing M}

/-- An identifier has been given out, and its session is no longer there. -/
abbrev Gone (state : Backing M) (id : SessionId) : Prop := state.table.Gone state.spent id

/-- An identifier that has been given out stays so. -/
theorem answers_spent {wanted : Timed ServiceCall} {given : wanted.Answer ServiceCall.Answer}
    (answered : answers manager fails wanted before given after) (spent : id ∈ before.spent) :
    id ∈ after.spent := by
  refine answers_keep (fun state => id ∈ state.spent) ?_ (fun _ _ _ _ spent => spent) answered spent
  intro call given before after answered spent
  -- Only the store gives out identifiers.
  by_cases stored : ∃ order, call = .store order
  · obtain ⟨order, rfl⟩ := stored
    rcases answered with ⟨fresh, table, -, -, rfl⟩ | ⟨-, -, rfl⟩
    · exact SessionTable.mem_spentAfter spent _ _ _
    · exact spent
  · rw [(answered.store fun order same => stored ⟨order, same⟩).2]
    exact spent

/-- A session that is gone does not come back, whatever is asked of whom. -/
theorem answers_gone {wanted : Timed ServiceCall} {given : wanted.Answer ServiceCall.Answer}
    (answered : answers manager fails wanted before given after) (gone : before.Gone id) :
    after.Gone id := by
  refine answers_keep (fun state => state.Gone id) ?_ (fun _ _ _ _ gone => gone) answered gone
  intro call given before after answered gone
  -- Only the store could bring a session back.
  by_cases stored : ∃ order, call = .store order
  · obtain ⟨order, rfl⟩ := stored
    rcases answered with ⟨fresh, table, unused, performed, rfl⟩ | ⟨-, -, rfl⟩
    · have kept := gone.perform unused
      rw [performed] at kept
      exact kept
    · exact gone
  · obtain ⟨table, spent⟩ := answered.store fun order same => stored ⟨order, same⟩
    rw [Gone, table, spent]
    exact gone

end Backing

namespace ServiceStage

variable {stage ahead : ServiceStage} {exchange : ServiceExchange} {session : Session}
  {fault : ConnectionError} {before after : Backing M}

/-- A response stays what it is up to the end. -/
theorem Step.response (step : Step service stage exchange ahead) {response : ConnectResponse}
    (given : stage.response? = some response) : ahead.response? = some response := by
  -- A response is given up only where a fault is told instead.
  cases step with
  | @unlocked user result =>
    cases result with
    | ok other => exact given
    | error fault => cases given
  | _ => cases given

/-- A session in the making stays so, or it is announced and told, or it is deleted, or that is
refused. -/
theorem Step.making (step : Step service stage exchange ahead)
    (making : stage.pending? = some session) :
    ahead.pending? = some session ∨ (∃ response, ahead.response? = some response) ∨
      ∃ given, exchange = told (.store (.delete session.id)) given := by
  -- A session in the making is kept by the stage, but for the two steps at which the making ends.
  cases step with
  | timed | setUp | setUpFailed | setUpCut | announcementFailed | announcementCut | tornDown =>
    exact Or.inl making
  | announced => exact Or.inr (Or.inl ⟨_, rfl⟩)
  | discarded =>
    cases making
    exact Or.inr (Or.inr ⟨_, rfl⟩)
  | _ => cases making

/-- Where a connect ends with a fault although it has made a session, it has asked for the
deletion of the session, and unless that was refused the session is gone. -/
theorem deletion_of_making {log : List ServiceExchange}
    (course : Course (Backing.answers manager fails) (Step service) stage before log
      (.finished (.connected (.error fault))) after)
    (making : stage.pending? = some session) (spent : session.id ∈ before.spent) :
    ∃ given : (StoreCall.delete session.id).Answer,
      told (.store (.delete session.id)) given ∈ log ∧
        (given.isOk = true → after.Gone session.id) := by
  -- The induction is on the way to the end; the session stays in the making up to its deletion.
  generalize ended : finished (.connected (.error fault)) = last at course
  induction course with
  | rest =>
    subst ended
    cases making
  | step step answered onward ih =>
    rcases step.making making with still | ⟨response, told⟩ | ⟨given, rfl⟩
    · obtain ⟨given, logged, gone⟩ := ih still (Backing.answers_spent answered spent) ended
      exact ⟨given, List.mem_cons_of_mem _ logged, gone⟩
    · -- Who has been told of the session does not end with a fault.
      have kept := onward.keeps (fun stage _ => stage.response? = some response)
        (fun _ _ _ _ _ step _ given => step.response given) told
      subst ended
      cases kept
    · refine ⟨given, List.mem_cons_self, fun succeeded => ?_⟩
      refine onward.keeps (fun _ state => state.Gone session.id)
        (fun _ _ _ _ _ _ answered gone => Backing.answers_gone answered gone) ?_
      rcases StoreCall.Answered.deleted answered with rfl | ⟨-, refused, -⟩
      · exact ⟨spent, fun row member => (SessionTable.mem_erase.mp member).2⟩
      · exact absurd (refused.symm.trans succeeded) (by decide)

/-- A session that is gone is neither made by a request nor told by it. -/
structure Apart (id : SessionId) (stage : ServiceStage) (state : Backing M) : Prop where
  gone : state.Gone id
  unmade : ∀ session, stage.pending? = some session → session.id ≠ id
  untold : ∀ response, stage.response? = some response → response.session ≠ id

/-- No step comes to a session that is gone. -/
theorem Step.apart (step : Step service stage exchange ahead)
    (answered : Backing.answers manager fails exchange.wanted before exchange.given after)
    (apart : Apart id stage before) : Apart id ahead after := by
  obtain ⟨gone, unmade, untold⟩ := apart
  -- What is gone stays gone, so the rest is about what is made and told in this step.
  have gone' := Backing.answers_gone answered gone
  cases step with
  -- A session that is resumed stands in the table.
  | @resumed admission session =>
    obtain ⟨rfl, found⟩ := StoreCall.Answered.activeSession answered
    refine ⟨gone', nofun, ?_⟩
    rintro response ⟨⟩
    exact gone.2 session (SessionTable.mem_of_active? (found session rfl)).1
  | created =>
    obtain ⟨unused, -⟩ := StoreCall.Answered.created answered
    refine ⟨gone', ?_, nofun⟩
    rintro made ⟨⟩
    -- What is gone has used up its identifier.
    exact fun same => unused (same ▸ gone.1)
  -- The session that is announced is the one that was being made.
  | @announced admission session =>
    refine ⟨gone', nofun, ?_⟩
    rintro response ⟨⟩
    exact unmade session rfl
  -- The response was decided before the lock is given up.
  | @unlocked user result =>
    cases result with
    | ok response => exact ⟨gone', nofun, untold⟩
    | error fault => exact ⟨gone', nofun, nofun⟩
  -- The session that is in the making stays the same.
  | timed | setUp | setUpFailed | setUpCut | announcementFailed | announcementCut | tornDown =>
    exact ⟨gone', unmade, nofun⟩
  | _ => exact ⟨gone', nofun, nofun⟩

/-- No response tells of a session that was gone before the request came. -/
theorem untold_of_gone {request : ServiceRequest} {response : ConnectResponse}
    {log : List ServiceExchange}
    (ran : (request.program service).Runs (Backing.answers manager fails) before log
      (.connected (.ok response)) after)
    (gone : before.Gone id) : response.session ≠ id := by
  obtain ⟨-, making, -, telling⟩ := start_idle request
  -- A request that has just come has neither made nor told anything.
  have apart : Apart id (start request) before :=
    ⟨gone, fun _ made => absurd (making.symm.trans made) nofun,
      fun _ told => absurd (telling.symm.trans told) nofun⟩
  have kept := (course_of_runs ran (start_tracks service request)).keeps
    (fun stage state => Apart id stage state)
    (fun _ _ _ _ _ step answered apart => step.apart answered apart) apart
  exact kept.untold response rfl

end ServiceStage

namespace ServedInTurn

variable {start later : Backing M} {served : List (ServiceRequest × ServiceOutcome)}

/-- A session that is gone stays so while further requests are served. -/
theorem gone (history : ServedInTurn (Backing.answers manager fails) service start served later)
    (gone : start.Gone id) : later.Gone id := by
  -- The induction is on the requests, each of which keeps what is gone.
  induction history with
  | none => exact gone
  | next _ ran ih =>
    exact ran.keeps (fun _ state => state.Gone id)
      (fun _ _ _ _ _ _ answered gone => Backing.answers_gone answered gone) ih

end ServedInTurn

/-- The fault with which a client was turned away. -/
def ServiceOutcome.fault? : ServiceOutcome → Option ConnectionError
  | .connected (.error fault) => some fault
  | _ => none

/-- A client was turned away just if there is a fault. -/
theorem ServiceOutcome.fault?_eq_some {outcome : ServiceOutcome} {fault : ConnectionError} :
    outcome.fault? = some fault ↔ outcome = .connected (.error fault) := by
  constructor
  · intro given
    -- Every other outcome tells no fault to a client.
    match outcome with
    | .connected (.error _) =>
      cases given
      rfl
  · rintro rfl
    rfl

/-- The session that an exchange has made. -/
def ServiceExchange.creation? : ServiceExchange → Option Session
  | ⟨.unhurried (.store call), given⟩ => call.creation? given
  | _ => none

/-- An exchange that has made a session is an order to make one, and its answer. -/
theorem ServiceExchange.creation?_eq_some {exchange : ServiceExchange} {session : Session}
    (made : exchange.creation? = some session) :
    ∃ user tokenId, exchange = told (.store (.create user tokenId)) (.ok session) := by
  -- Only such an order has an answer that makes a session.
  match exchange with
  | ⟨.unhurried (.store (.create user tokenId)), .ok other⟩ =>
    cases made
    exact ⟨user, tokenId, rfl⟩

namespace Backing

/-- Collaborators that do what they are asked, except that they announce and delete nothing. -/
def hoard (options : TopologyOptions) : (wanted : Timed ServiceCall) → Backing Management →
    wanted.Answer ServiceCall.Answer × Backing Management
  | .unhurried (.store (.delete _)), state => (Except.error (.database "down"), state)
  | wanted, state => complyTimed options (.error (.channel "closed")) wanted state

/-- Collaborators may announce and delete nothing, where any call of the store may fail. -/
theorem hoard_answers (options : TopologyOptions) (wanted : Timed ServiceCall)
    (state : Backing Management) :
    Backing.answers (Topology.manager options) (fun _ => True) wanted state
      (hoard options wanted state).1 (hoard options wanted state).2 := by
  -- What is not carried out fails, and all the rest complies.
  unfold hoard
  split
  · exact Or.inr ⟨trivial, .unreached _ _, rfl⟩
  · exact complyTimed_answers options _ (fun _ _ => trivial) _ _

end Backing

/-- A session that could be neither announced nor deleted is told to the next client that comes. -/
theorem undeleted_session_is_told :
    ∃ (session : Session) (user : UserId) (tokenId : String) (fault : ConnectionError)
      (response : ConnectResponse) (first last : List ServiceExchange)
      (middle final : Backing Management),
      ((ServiceRequest.connect "ada" "token").program ⟨.ofBytes [], .default⟩).Runs
        (Backing.answers (Topology.manager ⟨none, none⟩) fun _ => True) Backing.untouched first
        (.connected (.error fault)) middle ∧
      told (.store (.create user tokenId)) (.ok session) ∈ first ∧
      ((ServiceRequest.connect "ada" "token").program ⟨.ofBytes [], .default⟩).Runs
        (Backing.answers (Topology.manager ⟨none, none⟩) fun _ => True) middle last
        (.connected (.ok response)) final ∧
      response.message = ConnectResponse.reconnectMessage ∧ response.session = session.id := by
  -- The first request fails where nothing may be deleted, and the second finds all collaborators
  -- well.
  let program := (ServiceRequest.connect "ada" "token").program ⟨.ofBytes [], .default⟩
  let middle := (program.run (Backing.hoard ⟨none, none⟩) Backing.untouched).2
  let reply := Backing.complyTimed ⟨none, none⟩ (.ok ())
  have failed := Program.runs_run (Backing.hoard_answers ⟨none, none⟩) program Backing.untouched
  let anyCall : StoreCall → Prop := fun _ => True
  have complied := @Backing.complyTimed_answers ⟨none, none⟩ (.ok ()) anyCall fun _ _ => trivial
  have again := Program.runs_run complied program middle
  -- Both requests are carried out, and what they come to is read off.
  have ended : (program.run (Backing.hoard ⟨none, none⟩) Backing.untouched).1.fault?.isSome := by
    decide +kernel
  have connected : (program.run reply middle).1.response?.isSome := by
    decide +kernel
  have making : ((program.transcript (Backing.hoard ⟨none, none⟩) Backing.untouched)[4]?.bind
      ServiceExchange.creation?).isSome := by
    decide +kernel
  -- The session of the second response is that of the first creation.
  have alike : (program.run reply middle).1.response?.map
      (fun response => (response.message, response.session)) =
      ((program.transcript (Backing.hoard ⟨none, none⟩) Backing.untouched)[4]?.bind
        ServiceExchange.creation?).map
        (fun session => (ConnectResponse.reconnectMessage, session.id)) := by
    decide +kernel
  -- The texts and times in what was told need not be known.
  obtain ⟨fault, ended⟩ := Option.isSome_iff_exists.mp ended
  obtain ⟨response, connected⟩ := Option.isSome_iff_exists.mp connected
  obtain ⟨session, making⟩ := Option.isSome_iff_exists.mp making
  rw [connected, making] at alike
  obtain ⟨message, same⟩ := Prod.mk.inj (Option.some.inj alike)
  obtain ⟨exchange, found, creation⟩ := Option.bind_eq_some_iff.mp making
  obtain ⟨user, tokenId, rfl⟩ := ServiceExchange.creation?_eq_some creation
  rw [ServiceOutcome.fault?_eq_some.mp ended] at failed
  rw [ServiceOutcome.response?_eq_some.mp connected] at again
  exact ⟨session, user, tokenId, fault, response, _, _, _, _, failed, List.mem_of_getElem? found,
    again, message, same⟩

/-- Whatever fails, a client is told again of a session whose own connect ended with a fault only
if that connect had asked for the deletion of the session, and this had failed, too. -/
theorem told_again_only_if_undeleted {start middle later final : Backing M}
    {served : List (ServiceRequest × ServiceOutcome)} {name token other password tokenId : String}
    {user : UserId} {session : Session} {fault : ConnectionError}
    {response : ConnectResponse} {first last : List ServiceExchange}
    (failed : ((ServiceRequest.connect name token).program service).Runs
      (Backing.answers manager fails) start first (.connected (.error fault)) middle)
    (made : told (.store (.create user tokenId)) (.ok session) ∈ first)
    (onward : ServedInTurn (Backing.answers manager fails) service middle served later)
    (again : ((ServiceRequest.connect other password).program service).Runs
      (Backing.answers manager fails) later last (.connected (.ok response)) final)
    (same : response.session = session.id) :
    ∃ reason, told (.store (.delete session.id)) (.error reason) ∈ first := by
  -- From the exchange that made the session on, the course has it in the making.
  obtain ⟨earlier, rest, rfl⟩ := List.append_of_mem made
  obtain ⟨stage, state, -, course⟩ := Course.of_append
    (ServiceStage.course_of_runs failed (ServiceStage.start_tracks service _))
  cases course with
  | step step answered course =>
  cases step with
  | created =>
  obtain ⟨-, -, -, -, rfl⟩ := StoreCall.Answered.created answered
  obtain ⟨given, logged, gone⟩ :=
    ServiceStage.deletion_of_making course rfl List.mem_cons_self
  cases given with
  | error reason =>
    exact ⟨reason, List.mem_append_right _ (List.mem_cons_of_mem _ logged)⟩
  | ok done =>
    -- A session that was deleted is gone for good.
    exact absurd same (ServiceStage.untold_of_gone again (onward.gone (gone rfl)))

/-- The deletion of a session that is told again had been asked for and had failed. -/
theorem deletion_of_resumed_session_failed :
    ∃ (session : Session) (reason : StoreError) (first : List ServiceExchange)
      (fault : ConnectionError) (middle : Backing Management),
      ((ServiceRequest.connect "ada" "token").program ⟨.ofBytes [], .default⟩).Runs
        (Backing.answers (Topology.manager ⟨none, none⟩) fun _ => True) Backing.untouched first
        (.connected (.error fault)) middle ∧
      told (.store (.delete session.id)) (.error reason) ∈ first := by
  -- The session told again is one that was made before, so its deletion must have failed.
  obtain ⟨session, user, tokenId, fault, response, first, last, middle, final, failed, made, again,
    message, same⟩ := undeleted_session_is_told
  obtain ⟨reason, refused⟩ :=
    told_again_only_if_undeleted failed made .none again same
  exact ⟨session, reason, first, _, middle, failed, refused⟩

/-- It is not so that a session is never resumed once its own connect has ended with a fault. -/
theorem undeleted_session_is_resumed :
    ¬ ∀ {service : ConnectionService} {options : TopologyOptions}
      {start middle later final : Backing Management}
      {served : List (ServiceRequest × ServiceOutcome)} {name token password tokenId : String}
      {user : UserId} {session : Session} {fault : ConnectionError} {response : ConnectResponse}
      {first last : List ServiceExchange},
      start.table = .empty →
      ((ServiceRequest.connect name token).program service).Runs
        (Backing.answers (Topology.manager options) fun _ => True) start first
        (.connected (.error fault)) middle →
      told (.store (.create user tokenId)) (.ok session) ∈ first →
      ServedInTurn (Backing.answers (Topology.manager options) fun _ => True) service middle served
        later →
      ((ServiceRequest.connect name password).program service).Runs
        (Backing.answers (Topology.manager options) fun _ => True) later last
        (.connected (.ok response)) final →
      response.message = ConnectResponse.reconnectMessage → response.session ≠ session.id := by
  -- The two requests above are such a pair, and the second one is told of the session.
  intro never
  obtain ⟨session, user, tokenId, fault, response, first, last, middle, final, failed, made, again,
    message, same⟩ := undeleted_session_is_told
  exact never rfl failed made .none again message same

end SessionGate
