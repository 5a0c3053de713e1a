import SessionGate.Proofs.Connection.Renaming
import SessionGate.Proofs.Store.Isolation

/-! Users are isolated from each other: what is done for one of them changes nothing of another's,
and does not depend on it. -/

namespace SessionGate

open ServiceExchange

/-- A request is for a user: it names the user, or a session of the user's. -/
def ServiceRequest.ActsFor (user : UserId) (table : SessionTable) : ServiceRequest → Prop
  | .connect name _ => name = user.text
  | .complete id | .timeOut id | .setDispatcherStatus id _ | .get id => table.Has id user

/-- A call is about one user alone, or about nobody. -/
def ServiceCall.Concerns (user : UserId) (table : SessionTable) : ServiceCall → Prop
  | .identity call => call.user = user
  | .store call => call.Concerns user table
  | .lockUser owner | .unlockUser owner => owner = user
  | .topology order => order.user = user
  | .publish _ _ | .momentAfter _ => True

/-- From one state to the next the sessions of all users but one stay as they are, and what has been
asked of the broker is for that user. -/
structure Backing.Spares (options : TopologyOptions) (user : UserId)
    (before after : Backing Management) : Prop where
  sessions : before.table.SparesOthers user after.table
  changes : ∃ noted, after.broker.journal = before.broker.journal ++ noted ∧
    ∀ entry ∈ noted, Topology.IsFor options user entry.1

/-- Two states have the same locks, and the same sessions of a user. -/
structure Backing.AgreesOn {M : Type} (user : UserId) (state other : Backing M) : Prop where
  sessions : state.table.AgreesOn user other.table
  locked : other.locked = state.locked

variable {options : TopologyOptions} {user : UserId} {fails : StoreCall → Prop}
  {before middle after other : Backing Management} {service : ConnectionService}

namespace Backing

/-- Where the table and the broker stay as they are, all others are spared. -/
theorem Spares.of_same (table : after.table = before.table)
    (broker : after.broker = before.broker) : Spares options user before after :=
  -- No row and no note has been added.
  ⟨table ▸ .refl, [], by rw [broker, List.append_nil], List.forall_mem_nil _⟩

/-- What spares others twice spares them as a whole. -/
theorem Spares.trans (first : Spares options user before middle)
    (second : Spares options user middle after) : Spares options user before after := by
  -- The notes of the second follow those of the first.
  obtain ⟨early, here, own⟩ := first.changes
  obtain ⟨late, there, mine⟩ := second.changes
  refine ⟨first.sessions.trans second.sessions, early ++ late, ?_, ?_⟩
  · rw [there, here, List.append_assoc]
  · exact List.forall_mem_append.mpr ⟨own, mine⟩

/-- However far an order about a user's resources has got, others are spared. -/
theorem spares_of_course {order : TopologyCall} {broker : Management}
    {rest : AdminProgram order.Answer} {log : List (Exchange AdminCall AdminCall.Answer)}
    (course : Course Management.answers Program.Turn (Topology.perform options order) before.broker
      log rest broker)
    (owner : order.user = user) : Spares options user before { before with broker } :=
  -- The rows stay, and the journal has grown by the order's own changes.
  ⟨.refl, owner ▸ Topology.journal_of_course course⟩

end Backing

/-- What the store answers leaves the broker as it is. -/
theorem StoreCall.Answered.broker {call : StoreCall} {given : call.Answer}
    (answered : call.Answered fails before given after) : after.broker = before.broker := by
  -- A call that is answered and one that fails both leave the broker aside.
  rcases answered with ⟨_, _, _, _, rfl⟩ | ⟨_, _, rfl⟩
  · rfl
  · rfl

/-- An answer to a call that concerns one user spares all others. -/
theorem ServiceCall.Answered.spares {call : ServiceCall} {given : call.Answer}
    (answered : call.Answered (Topology.manager options) fails before given after)
    (concerns : call.Concerns user before.table) (sound : before.table.Sound before.spent) :
    before.Spares options user after := by
  -- The store spares the rows of others, and an order only touches what is its user's; the rest
  -- changes neither.
  match call, given with
  | .store call, given =>
    rcases answered with ⟨fresh, table, unused, performed, rfl⟩ | ⟨-, -, rfl⟩
    · have spared := sound.perform_spares unused concerns
      rw [performed] at spared
      exact ⟨spared, [], (List.append_nil _).symm, List.forall_mem_nil _⟩
    · exact .of_same rfl rfl
  | .topology order, given =>
    obtain ⟨broker, ⟨log, ran⟩, rfl⟩ := answered
    exact Backing.spares_of_course ran concerns
  | .lockUser owner, .ok () =>
    obtain ⟨-, rfl⟩ := answered
    exact .of_same rfl rfl
  | .unlockUser owner, given | .lockUser owner, .error fault | .identity call, given
  | .publish exchange body, given | .momentAfter limit, given =>
    cases answered
    exact .of_same rfl rfl

/-- The same holds of questions with and without deadlines, also where one is given up. -/
theorem Backing.answers_spare {wanted : Timed ServiceCall}
    {given : wanted.Answer ServiceCall.Answer}
    (answered : Backing.answers (Topology.manager options) fails wanted before given after)
    (concerns : wanted.wanted.Concerns user before.table)
    (sound : before.table.Sound before.spent) : before.Spares options user after := by
  -- An order that is given up got somewhere, and any other call took place or did not.
  match wanted, given with
  | .unhurried call, given => exact ServiceCall.Answered.spares answered concerns sound
  | .before _ call, some given => exact ServiceCall.Answered.spares answered concerns sound
  | .before _ call, none =>
    cases call with
    | topology order =>
      obtain ⟨broker, ⟨log, rest, course⟩, rfl⟩ := answered
      exact spares_of_course course concerns
    | identity _ | store _ | lockUser _ | unlockUser _ | publish _ _ | momentAfter _ =>
      rcases answered with rfl | ⟨given, answered⟩
      · exact .of_same rfl rfl
      · exact answered.spares concerns sound

namespace ServiceStage

variable {stage ahead : ServiceStage} {exchange : ServiceExchange} {log : List ServiceExchange}

/-- What a request for a user works on at a stage is the user's. -/
def Own (user : UserId) (table : SessionTable) : ServiceStage → Prop
  | .identifying owner _ | .profiling owner _ | .unlocking owner _ => owner = user
  | .locking admission | .looking admission | .creating admission => admission.user = user
  | .timing admission session | .settingUp admission session _ | .announcing admission session _
  | .tearingDown admission session _ | .discarding admission session _ =>
    admission.user = user ∧ session.user = user ∧ table.Has session.id user
  | .ending id _ | .recording id _ | .reading id => table.Has id user
  | .dismantling _ _ session | .disbarring _ session | .revoking _ session => session.user = user
  | .finished _ => True

/-- A request for a user starts with what is the user's. -/
theorem start_own {request : ServiceRequest} {table : SessionTable}
    (acts : request.ActsFor user table) : (start request).Own user table := by
  -- A connect names its user, and any other request names a session of the user.
  cases request with
  | connect name token =>
    simp only [start]
    split
    next owner parsed =>
      exact UserId.eq_of_text ((ConnectionService.text_of_parseRequest parsed).trans acts)
    · trivial
  | setDispatcherStatus id status =>
    simp only [start]
    split
    · trivial
    · exact acts
  | complete id | timeOut id | get id => exact acts

/-- What a stage asks concerns the user whose request it is. -/
theorem Own.question {table : SessionTable} {wanted : Timed ServiceCall}
    (own : stage.Own user table) (asked : stage.question? service = some wanted) :
    wanted.wanted.Concerns user table := by
  -- Each stage asks on behalf of the user or the session that it knows.
  cases stage with
  | identifying | profiling | locking | looking | creating | unlocking | ending | dismantling
  | disbarring | revoking | recording | reading =>
    cases asked
    exact own
  | settingUp | tearingDown =>
    cases asked
    exact own.2.1
  | discarding =>
    cases asked
    exact own.2.2
  | timing | announcing =>
    cases asked
    trivial
  | finished => cases asked

/-- A request for a user goes on with what is the user's. -/
theorem Step.own (step : Step service stage exchange ahead)
    (answered : Backing.answers (Topology.manager options) fails exchange.wanted before
      exchange.given after)
    (sound : before.table.Sound before.spent) (own : stage.Own user before.table) :
    ahead.Own user after.table := by
  cases step with
  -- Here the table does not matter, and the user is handed on.
  | identified | admitted | locked | absent | resumed | unseen | outrun | uncreated | dismantled
  | disbarred => exact own
  -- The session is made for the user, and its row stands in the table.
  | created =>
    obtain ⟨-, owner, -, -, rfl⟩ := StoreCall.Answered.created answered
    have mine := Eq.trans owner own
    exact ⟨own, mine, _, SessionTable.mem_insert.mpr (Or.inl rfl), rfl, mine⟩
  -- The broker and the clock leave the table alone, so the row of the session is still there.
  | timed | setUp | setUpFailed | setUpCut | announcementFailed | announcementCut | tornDown =>
    obtain ⟨table, -⟩ := Backing.answers_store answered nofun
    rw [← table] at own
    exact own
  | announced | discarded => exact own.1
  -- The end replaces the row by one of the same identifier and owner.
  | ended =>
    rcases answered with ⟨fresh, table, -, ended, rfl⟩ | ⟨-, missed, -⟩
    · obtain ⟨old, member, named, -, rfl, -⟩ := SessionTable.perform_transition_ok ended
      exact sound.owner ⟨old, member, named, rfl⟩ own
    · cases missed
  | _ => trivial

/-- Whatever a request for a user does, it spares all others, and it tells the identity service of
nobody else. -/
theorem own_of_course (course : Course (Backing.answers (Topology.manager options) fails)
      (Step service) stage before log ahead after)
    (sound : before.table.Sound before.spent) (own : stage.Own user before.table) :
    before.Spares options user after ∧
      ∀ exchange ∈ log, ∀ call, exchange.wanted.wanted = .identity call → call.user = user := by
  -- What a stage works on is the user's, so its question concerns the user, and so on.
  induction course with
  | rest => exact ⟨.of_same rfl rfl, List.forall_mem_nil _⟩
  | step goes answered _ ih =>
    have concerns := own.question goes.question
    obtain ⟨spares, calls⟩ := ih (Backing.answers_sound answered sound)
      (goes.own answered sound own)
    refine ⟨(Backing.answers_spare answered concerns sound).trans spares, ?_⟩
    refine List.forall_mem_cons.mpr ⟨fun call asked => ?_, calls⟩
    rw [asked] at concerns
    exact concerns

end ServiceStage

/-- What a call comes to at a table may be answered. -/
theorem StoreCall.answered_of_perform {call : StoreCall} {given : call.Answer} (fresh : Fresh)
    {state : Backing Management} (unused : SessionTable.Unused state.spent fresh call)
    (told : (state.table.perform fresh call).1 = given) :
    ∃ after, call.Answered fails state given after := by
  -- The answer is the one that the table gives.
  subst told
  exact ⟨_, Or.inl ⟨fresh, _, unused, rfl, rfl⟩⟩

namespace Backing.AgreesOn

variable {tokenId : String} {session : Session} {second : SessionId}

/-- Where states agree on a user, a call about the user that makes no session has one answer. -/
theorem answered {call : StoreCall} {given : call.Answer} (agrees : before.AgreesOn user other)
    (sound : before.table.Sound before.spent) (concerns : call.Concerns user before.table)
    (old : (ServiceCall.store call).mayConcernNew = false)
    (answered : call.Answered fails before given after) :
    ∃ state, call.Answered fails other given state := by
  -- The answer of a call that makes no session depends on the user's sessions alone.
  rcases answered with ⟨fresh, table, -, performed, -⟩ | ⟨failing, missed, -⟩
  · have told := congrArg Prod.fst performed
    cases call with
    | create => cases old
    | _ =>
      refine StoreCall.answered_of_perform fresh trivial (Eq.trans ?_ told)
      exact agrees.sessions.answer sound concerns nofun
  · exact ⟨other, Or.inr ⟨failing, missed, rfl⟩⟩

/-- Where states agree on a user, a session is made for the user under any new identifier. -/
theorem created (agrees : before.AgreesOn user other) (unused : second ∉ other.spent)
    (answered : (StoreCall.create user tokenId).Answered fails before (.ok session) after) :
    ∃ state, (StoreCall.create user tokenId).Answered fails other
      (.ok { session with id := second }) state := by
  -- Nothing but the identifier differs, and the new one is unused there.
  rcases answered with ⟨fresh, table, -, made, -⟩ | ⟨-, missed, -⟩
  · exact StoreCall.answered_of_perform ⟨second, fresh.now⟩ unused
      (agrees.sessions.created (congrArg Prod.fst made))
  · cases missed

/-- Where states agree on a user, a session is refused to the user alike. -/
theorem uncreated {fault : StoreError} (agrees : before.AgreesOn user other)
    (unused : second ∉ other.spent)
    (answered : (StoreCall.create user tokenId).Answered fails before (.error fault) after) :
    ∃ state, (StoreCall.create user tokenId).Answered fails other (.error fault) state := by
  rcases answered with ⟨fresh, table, -, refused, -⟩ | ⟨failing, missed, -⟩
  -- A refusal takes no identifier, so any that is new will do.
  · exact StoreCall.answered_of_perform ⟨second, fresh.now⟩ unused
      (agrees.sessions.uncreated (congrArg Prod.fst refused))
  · exact ⟨other, Or.inr ⟨failing, missed, rfl⟩⟩

end Backing.AgreesOn

namespace ServiceStage

variable {stage : ServiceStage} {first second : SessionId}

/-- The stages up to the answer of the store. -/
inductive Waits : ServiceStage → Prop where
  | identifying (user : UserId) (token : String) : Waits (.identifying user token)
  | profiling (user : UserId) (tokenId : String) : Waits (.profiling user tokenId)
  | locking (admission : Admission) : Waits (.locking admission)
  | looking (admission : Admission) : Waits (.looking admission)
  | creating (admission : Admission) : Waits (.creating admission)
  | ending (id : SessionId) (target : SessionStatus) : Waits (.ending id target)
  | recording (id : SessionId) (status : String) : Waits (.recording id status)
  | reading (id : SessionId) : Waits (.reading id)

/-- Two computations that go on side by side but for the identifier of a new session. -/
abbrev GoBeside (service : ConnectionService) (first second : SessionId)
    (program other : ServiceProgram ServiceOutcome) : Prop :=
  program.Paired (fun exchange other =>
      ServiceExchange.Renamed service first second exchange other ∧ Unbound exchange.wanted)
    (ServiceOutcome.Renamed service first second) other

section Twin

variable {wanted : Timed ServiceCall} {given : wanted.Answer ServiceCall.Answer}
  {next : wanted.Answer ServiceCall.Answer → ServiceProgram ServiceOutcome}

/-- How a request that waits goes on elsewhere: it still waits, and the states still agree on the
user, or the store has answered, and the rest does not depend on the sessions. -/
inductive Elsewhere (service : ConnectionService) (options : TopologyOptions) (user : UserId)
    (second : SessionId) (other after : Backing Management) (wanted : Timed ServiceCall)
    (given : wanted.Answer ServiceCall.Answer)
    (next : wanted.Answer ServiceCall.Answer → ServiceProgram ServiceOutcome) : Prop where
  | waiting {ahead : ServiceStage} {state : Backing Management} (waits : ahead.Waits)
      (own : ahead.Own user after.table) (tracks : Tracks service ahead (next given))
      (answered : Backing.mayFail options wanted other given state)
      (old : wanted.wanted.mayConcernNew = false) (agrees : after.AgreesOn user state)
      (unused : second ∉ state.spent) (broker : state.broker = other.broker)
  | settled {first : SessionId} {told : wanted.Answer ServiceCall.Answer}
      {state : Backing Management}
      (answered : Backing.mayFail options wanted other told state)
      (renamed : ServiceExchange.Renamed service first second ⟨wanted, given⟩ ⟨wanted, told⟩)
      (onward : GoBeside service first second (next given) (next told))
      (broker : state.broker = other.broker)

/-- A request that has the same answer elsewhere, and that no longer waits for the store, goes on
alike. -/
theorem Tracks.settle {state : Backing Management} (tracks : Tracks service ahead (next given))
    (same : ahead.Renamed service second second ahead)
    (old : wanted.wanted.mayConcernNew = false)
    (answered : Backing.mayFail options wanted other given state)
    (broker : state.broker = other.broker) :
    Elsewhere service options user second other after wanted given next :=
  -- The same answer leads both to the same stage.
  .settled answered (.kept old) (same.paired tracks tracks) broker

/-- A request whose call about the user's sessions has been answered goes on alike wherever the
states agree on the user. -/
theorem Tracks.settle_store {call : StoreCall} {given : call.Answer}
    {next : call.Answer → ServiceProgram ServiceOutcome}
    (tracks : Tracks service ahead (next given)) (same : ahead.Renamed service second second ahead)
    (old : (ServiceCall.store call).mayConcernNew = false)
    (concerns : call.Concerns user before.table) (sound : before.table.Sound before.spent)
    (agrees : before.AgreesOn user other)
    (answered : call.Answered (fun _ => True) before given after) :
    after.broker = before.broker ∧
      Elsewhere service options user second other after (.unhurried (.store call)) given next := by
  -- The store can answer the same there, and leaves the broker aside.
  obtain ⟨state, elsewhere⟩ := agrees.answered sound concerns old answered
  exact ⟨answered.broker, tracks.settle same old elsewhere elsewhere.broker⟩

/-- A request to which a session has been refused goes on alike wherever the states agree on the
user. -/
theorem Tracks.settle_uncreated {tokenId : String} {fault : StoreError} {cause : ConnectionError}
    {next : (StoreCall.create user tokenId).Answer → ServiceProgram ServiceOutcome}
    (tracks : Tracks service (.unlocking user (.error cause)) (next (.error fault)))
    (agrees : before.AgreesOn user other) (unused : second ∉ other.spent)
    (answered :
      (StoreCall.create user tokenId).Answered (fun _ => True) before (.error fault) after) :
    after.broker = before.broker ∧ Elsewhere service options user second other after
      (.unhurried (.store (.create user tokenId))) (.error fault) next := by
  -- The refusal is told the same way under any identifier.
  obtain ⟨state, elsewhere⟩ := agrees.uncreated unused answered
  have same : Renamed service second second (.unlocking user (.error cause))
      (.unlocking user (.error cause)) := .unlocking (.kept nofun)
  exact ⟨answered.broker,
    .settled elsewhere .uncreated (same.paired tracks tracks) elsewhere.broker⟩

/-- A request for a user that waits goes on alike wherever the states agree on the user. -/
theorem Tracks.elsewhere (tracks : Tracks service stage (.ask wanted next)) (waits : stage.Waits)
    (own : stage.Own user before.table) (sound : before.table.Sound before.spent)
    (agrees : before.AgreesOn user other) (unused : second ∉ other.spent)
    (answered : Backing.mayFail options wanted before given after) :
    after.broker = before.broker ∧
      Elsewhere service options user second other after wanted given next := by
  -- The cases are the stages that wait, each with the steps that can follow: the answer there is
  -- the same, or differs in the new identifier.
  obtain ⟨ahead, step, onward⟩ := tracks.2 given
  have mine := step.own answered sound own
  cases waits with
  -- The identity service answers from what it is asked, so the other computation has the same
  -- answer.
  | identifying owner token =>
    cases step with
    | identified =>
      cases answered
      exact ⟨rfl, .waiting (.profiling _ _) mine onward rfl rfl agrees unused rfl⟩
    | unidentified =>
      cases answered
      exact ⟨rfl, onward.settle (.finished (.kept nofun)) rfl rfl rfl⟩
  | profiling owner tokenId =>
    cases step with
    | admitted =>
      cases answered
      exact ⟨rfl, .waiting (.locking _) mine onward rfl rfl agrees unused rfl⟩
    | turnedAway =>
      cases answered
      exact ⟨rfl, onward.settle (.finished (.kept nofun)) rfl rfl rfl⟩
  -- The lock is as free there as it is here, as the two states agree on the locks.
  | locking admission =>
    cases step with
    | locked =>
      obtain ⟨free, rfl⟩ := answered
      refine ⟨rfl, .waiting (.looking _) mine onward ⟨agrees.locked ▸ free, rfl⟩ rfl ?_ unused rfl⟩
      exact ⟨agrees.sessions, congrArg (insert _) agrees.locked⟩
    | unlockable =>
      cases answered
      exact ⟨rfl, onward.settle (.finished (.kept nofun)) rfl rfl rfl⟩
  | looking admission =>
    cases step with
    -- The session that is found is the user's, and the same one is found there.
    | resumed =>
      refine onward.settle_store (.unlocking (.kept fun response told => ?_)) rfl own sound agrees
        answered
      cases told
      rfl
    | @absent _ found =>
      have looked : (StoreCall.activeSession admission.user).Answered (fun _ => True) before
        (.ok found) after := answered
      have concerns : (StoreCall.activeSession admission.user).Concerns user before.table := own
      obtain ⟨state, elsewhere⟩ := agrees.answered sound concerns rfl looked
      -- The look has changed nothing, here or there.
      obtain ⟨rfl, -⟩ := looked.activeSession
      obtain ⟨rfl, -⟩ := elsewhere.activeSession
      exact ⟨rfl, .waiting (.creating _) mine onward elsewhere rfl agrees unused rfl⟩
    | unseen =>
      exact onward.settle_store (.unlocking (.kept nofun)) rfl own sound agrees answered
  | creating admission =>
    subst own
    cases step with
    | @created _ session =>
      -- From here on the two computations differ in the identifier.
      have made : (StoreCall.create admission.user admission.tokenId).Answered (fun _ => True)
        before (.ok session) after := answered
      obtain ⟨-, owner, -⟩ := made.created
      obtain ⟨state, elsewhere⟩ := agrees.created unused made
      obtain ⟨place, there, beside⟩ := tracks.2 (.ok { session with id := second })
      cases there
      refine ⟨made.broker, .settled elsewhere (.created rfl) ?_ elsewhere.broker⟩
      exact (Renamed.timing rfl owner).paired onward beside
    | outrun => exact onward.settle_uncreated agrees unused answered
    | uncreated => exact onward.settle_uncreated agrees unused answered
  -- An end goes the same way in both, as the user's rows are the same.
  | ending id target =>
    cases step with
    | ended =>
      exact onward.settle_store (.closing (.dismantling _ _ _)) rfl own sound agrees answered
    | unended => exact onward.settle_store (.finished (.kept nofun)) rfl own sound agrees answered
  -- So do a report and a look.
  | recording id status =>
    cases step with
    | recorded | unrecorded =>
      exact onward.settle_store (.finished (.kept nofun)) rfl own sound agrees answered
  | reading id =>
    cases step with
    | read | unread =>
      exact onward.settle_store (.finished (.kept nofun)) rfl own sound agrees answered

end Twin

/-- What is carried through here is carried through beside, whatever the states are. -/
theorem GoBeside.runs {program twin : ServiceProgram ServiceOutcome} {outcome : ServiceOutcome}
    (beside : GoBeside service first second program twin) (state : Backing Management)
    (ran : program.Runs (Backing.mayFail options) before log outcome after) :
    ∃ notes result last, twin.Runs (Backing.mayFail options) state notes result last ∧
      List.Forall₂ (ServiceExchange.Renamed service first second) log notes ∧
      outcome.Renamed service first second result ∧
      Management.InStep (service.key.derive first) (service.key.derive second) before.broker
        state.broker after.broker last.broker := by
  -- The two brokers begin in step, and every pair of calls keeps them so.
  have begun : Management.InStep (service.key.derive first) (service.key.derive second)
    before.broker state.broker before.broker state.broker := .begin
  obtain ⟨notes, result, last, replay, same, calls, changes⟩ := Program.Paired.runs
    (fun _ _ _ _ _ alike answered held => alike.1.keeps alike.2 answered held) beside ran begun
  exact ⟨notes, result, last, replay, calls.imp fun _ _ alike => alike.1, same, changes⟩

/-- What came of a computation in one state comes of it in another one, but for the identifier of a
new session and the password that follows from it: the same calls get the same answers, the same
changes are asked of the broker, and the outcome is the same. -/
def Recurs (service : ConnectionService) (options : TopologyOptions) (second : SessionId)
    (program : ServiceProgram ServiceOutcome) (before other : Backing Management)
    (log : List ServiceExchange) (outcome : ServiceOutcome) (after : Backing Management) : Prop :=
  ∃ first notes result last,
    program.Runs (Backing.mayFail options) other notes result last ∧
    List.Forall₂ (ServiceExchange.Renamed service first second) log notes ∧
    outcome.Renamed service first second result ∧
    Management.InStep (service.key.derive first) (service.key.derive second) before.broker
      other.broker after.broker last.broker

/-- What came of a request for a user that waits comes of it wherever the states agree on the
user. -/
theorem Tracks.recurs {program : ServiceProgram ServiceOutcome} {outcome : ServiceOutcome}
    (tracks : Tracks service stage program) (waits : stage.Waits)
    (own : stage.Own user before.table) (sound : before.table.Sound before.spent)
    (agrees : before.AgreesOn user other) (unused : second ∉ other.spent)
    (ran : program.Runs (Backing.mayFail options) before log outcome after) :
    Recurs service options second program before other log outcome after := by
  -- The induction follows the request while it waits.
  induction program generalizing stage before other log with
  -- A request that is done does not wait.
  | done value =>
    cases show stage = .finished value from tracks
    cases waits
  | ask wanted next ih =>
    obtain ⟨given, middle, more, answered, rest, rfl⟩ := Program.runs_ask.mp ran
    obtain ⟨kept, elsewhere⟩ := tracks.elsewhere waits own sound agrees unused answered
    cases elsewhere with
    -- While it waits the two computations have the same log, and the rest of the run follows by
    -- induction.
    | waiting waits own tracks replied old agrees unused broker =>
      obtain ⟨first, notes, result, last, replay, calls, same, changes⟩ :=
        ih given tracks waits own (Backing.answers_sound answered sound) agrees unused rest
      rw [kept, broker] at changes
      exact ⟨first, _, result, last, .step (.ask wanted next given) replied replay,
        .cons (.kept old) calls, same, changes⟩
    -- Once a session is made, the rest is the same with the other identifier.
    | @settled first told state replied renamed onward broker =>
      obtain ⟨notes, result, last, replay, calls, same, changes⟩ := onward.runs state rest
      rw [kept, broker] at changes
      exact ⟨first, _, result, last, .step (.ask wanted next told) replied replay,
        .cons renamed calls, same, changes⟩

/-- A request waits at its start, or it has been refused. -/
theorem start_waits (request : ServiceRequest) :
    (start request).Waits ∨
      ∃ outcome, start request = .finished outcome ∧ outcome.response? = none := by
  -- A request that is not refused starts by waiting for the identity service or for the store.
  refine start_holds (fun stage => stage.Waits ∨
    ∃ outcome, stage = .finished outcome ∧ outcome.response? = none) ?_ ?_ ?_ ?_ ?_ ?_ request
  · exact fun user token => Or.inl (.identifying user token)
  · exact fun fault => Or.inr ⟨_, rfl, rfl⟩
  · exact fun id target => Or.inl (.ending id target)
  · exact fun fault => Or.inr ⟨_, rfl, rfl⟩
  · exact fun id status => Or.inl (.recording id status)
  · exact fun id => Or.inl (.reading id)

/-- What came of a request for a user comes of it wherever the states agree on the user. -/
theorem recurs_of_request {request : ServiceRequest} {outcome : ServiceOutcome}
    (acts : request.ActsFor user before.table) (sound : before.table.Sound before.spent)
    (agrees : before.AgreesOn user other) (unused : second ∉ other.spent)
    (ran : (request.program service).Runs (Backing.mayFail options) before log outcome after) :
    Recurs service options second (request.program service) before other log outcome after := by
  have tracks := start_tracks service request
  rcases start_waits request with waits | ⟨told, same, refused⟩
  · exact tracks.recurs waits (start_own acts) sound agrees unused ran
  · rw [same] at tracks
    -- Nothing is asked for a request that has been refused.
    have kept : Renamed service second second (.finished told) (.finished told) :=
      .finished (.kept fun response opened => by cases refused.symm.trans opened)
    exact ⟨second, GoBeside.runs (kept.paired tracks tracks) other ran⟩

end ServiceStage

/-- Users are isolated from each other. However far a request for a user has got, in whatever way
its collaborators have failed, the sessions of all others are as they were, every change that was
asked of the broker names no account, queue or shovel but the user's own, and the identity service
was asked about the user alone. And what came of the request comes of it in every state that has the
same locks and the same sessions of this user, whatever sessions others have there and whatever the
broker holds: the calls, the changes asked of the broker and the outcome are the same, but for the
identifier of a new session, which may be any one that is new there, and for the password that
follows from it. -/
theorem users_are_isolated {service : ConnectionService} {options : TopologyOptions}
    {start : Backing Management}
    {crowd : Crowd (Timed ServiceCall) (Timed.Answer ServiceCall.Answer) (Backing Management)
      (ServiceProgram ServiceOutcome)}
    {enters : ServiceProgram ServiceOutcome → Prop} (empty : start.table = .empty)
    (reached : Crowd.Reached (Backing.mayFail options) Program.Turn enters start crowd)
    {request : ServiceRequest} {user : UserId} (acts : request.ActsFor user crowd.state.table) :
    (∀ log rest final,
      Course (Backing.mayFail options) Program.Turn (request.program service) crowd.state log rest
        final →
      crowd.state.Spares options user final ∧
        ∀ exchange ∈ log, ∀ call, exchange.wanted.wanted = .identity call → call.user = user) ∧
    ∀ log outcome final,
      (request.program service).Runs (Backing.mayFail options) crowd.state log outcome final →
      ∀ (other : Backing Management) (second : SessionId),
        crowd.state.AgreesOn user other → second ∉ other.spent →
        ∃ first notes result last,
          (request.program service).Runs (Backing.mayFail options) other notes result last ∧
          List.Forall₂ (ServiceExchange.Renamed service first second) log notes ∧
          outcome.Renamed service first second result ∧
          Management.InStep (service.key.derive first) (service.key.derive second)
            crowd.state.broker other.broker final.broker last.broker := by
  -- The first part goes along a course, the second compares two runs.
  have sound := Backing.reached_sound empty reached
  constructor
  · -- A request that acts for the user has a first stage that is the user's own.
    intro log rest final course
    obtain ⟨ahead, staged, -⟩ := ServiceStage.course_of_start course
    exact ServiceStage.own_of_course staged sound (ServiceStage.start_own acts)
  · intro log outcome final ran other second agrees unused
    exact ServiceStage.recurs_of_request acts sound agrees unused ran

/-- Bob alone has a session, and it is in progress. -/
def Backing.bobServed : Backing Management :=
  let taken : Fresh := ⟨.numbered 1, ⟨2024, 1, 1, 0, 0, 0, 0⟩⟩
  ⟨⟨[SessionTable.newSession taken ⟨"bob", by decide⟩ "token"]⟩, [taken.id], ∅, ⟨.empty, []⟩⟩

/-- Ada is connected alike where nobody is served, and where Bob has a session under the identifier
that hers would have. -/
theorem connect_recurs_beside_bob :
    ∃ (ada : UserId) (log : List ServiceExchange) (outcome : ServiceOutcome)
      (final : Backing Management),
      ((ServiceRequest.connect "ada" "token").program ⟨.ofBytes [], .default⟩).Runs
        (Backing.mayFail ⟨some "dispatch", none⟩) Backing.untouched log outcome final ∧
      outcome.response?.map ConnectResponse.session = some (.numbered 1) ∧
      Backing.untouched.AgreesOn ada Backing.bobServed ∧
      .numbered 2 ∉ Backing.bobServed.spent ∧
      Backing.untouched.Spares ⟨some "dispatch", none⟩ ada final ∧
      ∃ first notes result last,
        ((ServiceRequest.connect "ada" "token").program ⟨.ofBytes [], .default⟩).Runs
          (Backing.mayFail ⟨some "dispatch", none⟩) Backing.bobServed notes result last ∧
        List.Forall₂ (ServiceExchange.Renamed ⟨.ofBytes [], .default⟩ first (.numbered 2)) log
          notes ∧
        outcome.Renamed ⟨.ofBytes [], .default⟩ first (.numbered 2) result := by
  -- Ada connects while nobody else is served, and the same run is found where Bob is.
  let ada : UserId := ⟨"ada", by decide⟩
  let service : ConnectionService := ⟨.ofBytes [], .default⟩
  -- Bob's connect has been served there, and Ada has neither a row nor the lock.
  let options : TopologyOptions := ⟨some "dispatch", none⟩
  let reply := Backing.complyTimed options (.ok ())
  let program := (ServiceRequest.connect "ada" "token").program service
  let anyCall : StoreCall → Prop := fun _ => True
  have complied := @Backing.complyTimed_answers options (.ok ()) anyCall fun _ _ => trivial
  have ran := Program.runs_run complied program Backing.untouched
  have opened : (program.run reply Backing.untouched).1.response?.map ConnectResponse.session =
      some (.numbered 1) := by
    decide +kernel
  have alone : Crowd.Reached (Backing.mayFail options) Program.Turn
      (fun _ : ServiceProgram ServiceOutcome => True) Backing.untouched
      (.alone Backing.untouched) := .refl
  have agrees : Backing.untouched.AgreesOn ada Backing.bobServed := by
    refine ⟨⟨fun row owner => ?_, by decide +kernel⟩, rfl⟩
    -- The one row is Bob's.
    refine iff_of_false (fun member => ?_) List.not_mem_nil
    cases List.mem_singleton.mp member
    exact absurd owner (by decide)
  have unused : SessionId.numbered 2 ∉ Backing.bobServed.spent := by decide +kernel
  have acts : (ServiceRequest.connect "ada" "token").ActsFor ada Backing.untouched.table := rfl
  -- Nobody has been served here, so any run of the request will do for the theorem.
  obtain ⟨kept, recurs⟩ := @users_are_isolated service options _ _ _ rfl alone _ _ acts
  obtain ⟨spares, -⟩ := kept _ _ _ ran
  obtain ⟨first, notes, result, last, replay, calls, same, -⟩ :=
    recurs _ _ _ ran _ _ agrees unused
  exact ⟨ada, _, _, _, ran, opened, agrees, unused, spares, first, notes, result, last, replay,
    calls, same⟩

end SessionGate
