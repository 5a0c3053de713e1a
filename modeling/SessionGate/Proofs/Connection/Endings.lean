import SessionGate.Proofs.Connection.Compliance
import SessionGate.Proofs.Connection.Turns
import SessionGate.Proofs.Program.Member
import SessionGate.Proofs.Store.Chronicle

/-! Requests that end sessions. However many take turns, one at most ends a given session, and all
that an end is followed by is asked for by this one only. -/

namespace SessionGate

open ServiceExchange

/-- The session that a request is to end, and the status that it is to end with. -/
def ServiceRequest.ending? : ServiceRequest → Option (SessionId × SessionStatus)
  | .complete id => some (id, .completed)
  | .timeOut id => some (id, .timeout)
  | .connect _ _ | .setDispatcherStatus _ _ | .get _ => none

/-- A question to others than the store. -/
def ServiceCall.elsewhere? : ServiceCall → Option ServiceCall
  | .store _ => none
  | call => some call

/-- An order to revoke an authorization or a token. -/
def ServiceCall.Revokes : ServiceCall → Prop
  | .identity (.revokeAuthorization _) | .identity (.revokeToken _ _) => True
  | _ => False

/-- A question that neither ends a session nor revokes anything. -/
def ServiceCall.Calm (call : ServiceCall) : Prop :=
  (∀ id target, call ≠ .store (.transition id target)) ∧ ¬ call.Revokes

/-- What an end of a session is followed by: its broker resources go, and where it was completed,
so do its user's authorization and its token. -/
def Ending.consequences (ending : Ending) : List ServiceCall :=
  .topology (.tearDown ending.session.user) ::
    if ending.target = .completed then
      [.identity (.revokeAuthorization ending.session.user),
        .identity (.revokeToken ending.session.user ending.session.tokenId)]
    else []

namespace ServiceStage

variable {service : ConnectionService} {stage ahead : ServiceStage} {exchange : ServiceExchange}
  {log : List ServiceExchange} {id : SessionId} {target : SessionStatus} {ending : Ending}

/-- What a request that has ended a session has asked of others when it stands at a stage. -/
inductive Aftermath (id : SessionId) (ending : Ending) :
    ServiceStage → List ServiceCall → Prop where
  | ended : Aftermath id ending (.dismantling id ending.target ending.session) []
  | dismantled (completed : ending.target = .completed) :
      Aftermath id ending (.disbarring id ending.session)
        [.topology (.tearDown ending.session.user)]
  | disbarred (completed : ending.target = .completed) :
      Aftermath id ending (.revoking id ending.session)
        [.topology (.tearDown ending.session.user),
          .identity (.revokeAuthorization ending.session.user)]
  | finished {outcome : ServiceOutcome} {calls : List ServiceCall}
      (begun : .topology (.tearDown ending.session.user) ∈ calls)
      (part : calls <+: ending.consequences) : Aftermath id ending (.finished outcome) calls

/-- What is asked after an end is a part of what an end is followed by. -/
theorem Aftermath.part {calls : List ServiceCall} (aftermath : Aftermath id ending stage calls) :
    calls <+: ending.consequences := by
  -- Each case asks as far as its stage has got, which is a beginning of all that follows.
  cases aftermath with
  | ended => exact List.nil_prefix
  | dismantled => exact ⟨_, rfl⟩
  | disbarred completed => exact ⟨_, by rw [Ending.consequences, if_pos completed]; rfl⟩
  | finished _ part => exact part

/-- After an end the next question is the next one of those that an end is followed by. -/
theorem Aftermath.step {calls : List ServiceCall} (aftermath : Aftermath id ending stage calls)
    (step : Step service stage exchange ahead) :
    ∃ call, exchange.wanted.wanted.elsewhere? = some call ∧
      Aftermath id ending ahead (calls ++ [call]) := by
  obtain ⟨target, session⟩ := ending
  -- Each stage behind an end asks for one thing, and leads to the next stage or to the end.
  cases aftermath with
  | ended =>
    cases step with
    -- A timed out session is followed by its teardown alone.
    | dismantled => exact ⟨_, rfl, .dismantled rfl⟩
    | timedOut => exact ⟨_, rfl, .finished List.mem_cons_self ⟨_, rfl⟩⟩
  | dismantled completed =>
    subst completed
    cases step with
    | disbarred => exact ⟨_, rfl, .disbarred rfl⟩
    | tokenless | undisbarred => exact ⟨_, rfl, .finished List.mem_cons_self ⟨_, rfl⟩⟩
  | disbarred completed =>
    subst completed
    cases step with
    | revoked | unrevoked => exact ⟨_, rfl, .finished List.mem_cons_self ⟨_, rfl⟩⟩
  | finished => exact absurd step Step.not_finished

/-- What a request that is to end a session has exchanged when it stands at a stage. -/
inductive Concluding (id : SessionId) (target : SessionStatus) :
    ServiceStage → List ServiceExchange → Prop where
  | ready : Concluding id target (.ending id target) []
  | refused {fault : StoreError} :
      Concluding id target (.finished (.changed (.error (.ofStore fault))))
        [told (.store (.transition id target)) (.error fault)]
  | ended {session : Session} {stage : ServiceStage} {log : List ServiceExchange}
      (elsewhere : ∀ exchange ∈ log, exchange.wanted.wanted.elsewhere? ≠ none)
      (aftermath : Aftermath id ⟨target, session⟩ stage
        (log.filterMap fun exchange => exchange.wanted.wanted.elsewhere?)) :
      Concluding id target stage (told (.store (.transition id target)) (.ok session) :: log)

/-- A request that is to end a session asks for nothing before it has done so. -/
theorem Concluding.step (concluding : Concluding id target stage log)
    (step : Step service stage exchange ahead) :
    Concluding id target ahead (log ++ [exchange]) := by
  -- The order to end the session comes first; all that follows an end is asked of others.
  cases concluding with
  | ready =>
    cases step with
    | ended => exact .ended nofun .ended
    | unended => exact .refused
  | refused => exact absurd step Step.not_finished
  | @ended session _ log elsewhere aftermath =>
    obtain ⟨call, asked, aftermath⟩ := aftermath.step step
    rw [List.cons_append]
    refine .ended ?_ ?_
    · -- Everything behind the end is asked of others than the store, also what is asked now.
      intro other member
      rcases List.mem_append.mp member with early | now
      · exact elsewhere other early
      · rw [List.mem_singleton.mp now, asked]
        exact Option.some_ne_none call
    · -- The log of what follows grows by just this one call.
      rw [List.filterMap_append]
      simpa [asked] using aftermath

/-- A request that was told of an end that it made has been told so first of all. -/
theorem Concluding.ended_of_mem {other : SessionId} {aim : SessionStatus} {session : Session}
    (concluding : Concluding id target stage log)
    (member : told (.store (.transition other aim)) (.ok session) ∈ log) :
    other = id ∧ aim = target ∧ ∃ rest,
      log = told (.store (.transition id target)) (.ok session) :: rest ∧
      Aftermath id ⟨target, session⟩ stage
        (rest.filterMap fun exchange => exchange.wanted.wanted.elsewhere?) := by
  cases concluding with
  | ready => cases member
  | refused => cases List.mem_singleton.mp member
  | ended elsewhere aftermath =>
    rcases List.mem_cons.mp member with same | later
    · cases same
      exact ⟨rfl, rfl, _, rfl, aftermath⟩
    · -- Behind an end the store is asked for nothing.
      exact absurd rfl (elsewhere _ later)

/-- A request that has asked others than the store has ended its session before. -/
theorem Concluding.ended_of_elsewhere (concluding : Concluding id target stage log)
    (member : exchange ∈ log) {call : ServiceCall}
    (asked : exchange.wanted.wanted.elsewhere? = some call) :
    ∃ session, told (.store (.transition id target)) (.ok session) ∈ log := by
  -- A request that was refused has asked only the store.
  cases concluding with
  | ready => cases member
  | refused =>
    rw [List.mem_singleton.mp member] at asked
    cases asked
  | ended => exact ⟨_, List.mem_cons_self⟩

/-- A stage of a request that ends no session. -/
def Calm : ServiceStage → Prop
  | .ending _ _ | .dismantling _ _ _ | .disbarring _ _ | .revoking _ _ => False
  | _ => True

/-- A request that ends no session stays so, and revokes nothing. -/
theorem Step.calm (step : Step service stage exchange ahead) (calm : stage.Calm) :
    ahead.Calm ∧ exchange.wanted.wanted.Calm := by
  -- The stages behind an end are not calm, and no calm stage leads there.
  cases step with
  | ended | unended | dismantled | timedOut | disbarred | tokenless | undisbarred | revoked
  | unrevoked => exact calm.elim
  | _ => exact ⟨trivial, nofun, id⟩

/-- What is asked of the store is asked without a deadline and sets no status whatever it was. -/
theorem Step.stored {call : StoreCall} (step : Step service stage exchange ahead)
    (asked : exchange.wanted.wanted = .store call) :
    (∃ given, exchange = told (.store call) given) ∧
      (call.Orderly ∨ ∃ id target, stage = .ending id target ∧ call = .transition id target) := by
  -- These are the steps that ask the store for anything.
  cases step with
  | resumed | absent | unseen | created | outrun | uncreated | discarded | recorded | unrecorded
  | read | unread =>
    cases asked
    exact ⟨⟨_, rfl⟩, Or.inl trivial⟩
  | ended | unended =>
    cases asked
    exact ⟨⟨_, rfl⟩, Or.inr ⟨_, _, rfl, rfl⟩⟩
  | _ => cases asked

section Courses

variable {σ : Type} {env : Surroundings (Timed ServiceCall) (Timed.Answer ServiceCall.Answer) σ}
  {request : ServiceRequest} {state final : σ}

/-- What a request that is to end a session has exchanged follows from the stage it has got to. -/
theorem concluding_of_course
    (course : Course env (Step service) (start request) state log stage final)
    (ends : request.ending? = some (id, target)) : Concluding id target stage log := by
  -- Such a request begins with its order to end the session.
  have begun : Concluding id target (start request) [] := by
    cases request with
    | complete | timeOut =>
      cases ends
      exact .ready
    | connect | setDispatcherStatus | get => cases ends
  exact course.tells (fun stage log => Concluding id target stage log)
    (fun _ _ _ _ step concluding => concluding.step step) begun

/-- A request that ends no session has exchanged nothing that would end one or revoke anything. -/
theorem calm_of_course
    (course : Course env (Step service) (start request) state log stage final)
    (idle : request.ending? = none) :
    stage.Calm ∧ ∀ exchange ∈ log, exchange.wanted.wanted.Calm := by
  -- No other request begins with an order to end a session.
  have calm : (start request).Calm := by
    cases request with
    | complete | timeOut => cases idle
    | connect user token =>
      simp only [start]
      split
      · trivial
      · trivial
    | setDispatcherStatus id status =>
      simp only [start]
      split
      · trivial
      · trivial
    | get => trivial
  have silent : ∀ exchange ∈ ([] : List ServiceExchange), exchange.wanted.wanted.Calm :=
    fun _ member => (List.not_mem_nil member).elim
  -- Calm is kept from stage to stage, and with it everything asked in the log.
  refine course.tells (fun stage log => stage.Calm ∧ ∀ exchange ∈ log, exchange.wanted.wanted.Calm)
    ?_ ⟨calm, silent⟩
  intro stage log exchange ahead step held
  obtain ⟨calm, quiet⟩ := held
  refine ⟨(step.calm calm).1, fun other member => ?_⟩
  rcases List.mem_append.mp member with early | now
  · exact quiet other early
  · rw [List.mem_singleton.mp now]
    exact (step.calm calm).2

/-- Whatever a request asks of the store is orderly. -/
theorem orderly_of_course {call : StoreCall}
    (course : Course env (Step service) (start request) state log stage final)
    (step : Step service stage exchange ahead) (asked : exchange.wanted.wanted = .store call) :
    call.Orderly := by
  rcases (step.stored asked).2 with orderly | ⟨id, target, rfl, rfl⟩
  · exact orderly
  · cases ends : request.ending? with
    | none => exact (calm_of_course course ends).1.elim
    | some aim =>
      cases concluding_of_course course ends with
      | ready =>
        -- Only these two requests end a session, and neither puts it back in progress.
        cases request with
        | complete | timeOut =>
          cases ends
          exact nofun
        | connect | setDispatcherStatus | get => cases ends
      | ended _ aftermath => cases aftermath

end Courses

end ServiceStage

/-- Requests that take turns, each with what is left to do for it. -/
abbrev RequestCrowd (M : Type) : Type :=
  Crowd (Timed ServiceCall) (Timed.Answer ServiceCall.Answer) (Backing M)
    ((_ : ServiceRequest) × ServiceProgram ServiceOutcome)

namespace RequestCrowd

variable {M : Type}

/-- What may happen in a crowd of requests: one comes with all that is to be done for it, or one
takes its turn. -/
abbrev Moves (manager : TopologyManager M) (fails : StoreCall → Prop)
    (service : ConnectionService) : RequestCrowd M → RequestCrowd M → Prop :=
  Crowd.Moves (Backing.answers manager fails) (Conduct.Labelled fun _ => Program.Turn)
    fun work => work.2 = work.1.program service

/-- A crowd of requests that can come about. -/
abbrev Reached (manager : TopologyManager M) (fails : StoreCall → Prop)
    (service : ConnectionService) (start : Backing M) (crowd : RequestCrowd M) : Prop :=
  Crowd.Reached (Backing.answers manager fails) (Conduct.Labelled fun _ => Program.Turn)
    (fun work => work.2 = work.1.program service) start crowd

/-- The answer of a store, and by whom it was asked. -/
def reply? : Nat × ServiceExchange → Option StoreReply
  | (task, ⟨.unhurried (.store call), given⟩) => some ⟨task, call, given⟩
  | _ => none

/-- What the store has been asked and has answered. -/
def replies (crowd : RequestCrowd M) : List StoreReply := crowd.log.filterMap reply?

/-- The end to which a task is to bring a session. -/
def ending? (crowd : RequestCrowd M) (task : Nat) : Option (SessionId × SessionStatus) :=
  crowd.tasks[task]?.bind fun work => work.1.ending?

/-- What the requests that are to end a session have asked of others than the store. -/
def consequences (crowd : RequestCrowd M) (id : SessionId) : List (Nat × ServiceCall) :=
  crowd.log.filterMap fun entry =>
    if (crowd.ending? entry.1).map Prod.fst = some id then
      (entry.2.wanted.wanted.elsewhere?).map (entry.1, ·)
    else none

variable {manager : TopologyManager M} {fails : StoreCall → Prop} {service : ConnectionService}
  {start : Backing M} {crowd : RequestCrowd M} {task : Nat} {id : SessionId}
  {target : SessionStatus} {ending : Ending}

/-- What the store has answered to whom is in the log. -/
theorem mem_replies {call : StoreCall} {given : call.Answer} :
    ⟨task, call, given⟩ ∈ crowd.replies ↔ (task, told (.store call) given) ∈ crowd.log := by
  -- A reply is read from an entry that asks the store without a deadline.
  rw [replies, List.mem_filterMap]
  constructor
  · intro member
    obtain ⟨entry, logged, same⟩ := member
    unfold reply? at same
    split at same
    · cases same
      exact logged
    · cases same
  · intro logged
    exact ⟨_, logged, rfl⟩

/-- A session was brought to its end by a task just if the log tells so. -/
theorem mem_endings : (task, ending) ∈ endings id crowd.replies ↔
    (task, told (.store (.transition id ending.target)) (.ok ending.session)) ∈ crowd.log := by
  -- An end is a reply to a transition that has succeeded.
  rw [endings, List.mem_filterMap, ← mem_replies]
  constructor
  · intro member
    obtain ⟨reply, replied, ended⟩ := member
    rw [← StoreReply.ending?_eq_some.mp ended]
    exact replied
  · intro replied
    exact ⟨_, replied, StoreReply.ending?_eq_some.mpr rfl⟩

/-- Every task has come some way through its own request. -/
theorem turns (reached : Reached manager fails service start crowd) {request : ServiceRequest}
    {program : ServiceProgram ServiceOutcome}
    (found : crowd.tasks[task]? = some ⟨request, program⟩) :
    Path Program.Turn (request.program service) (crowd.heard task) program := by
  -- The task entered with the request, and its turns are labelled by it.
  obtain ⟨⟨other, entry⟩, admitted, path⟩ := (Crowd.Reached.path reached task).2 _ found
  obtain ⟨place, same, path⟩ := Conduct.Labelled.course path
  cases same
  obtain rfl : entry = other.program service := admitted
  exact path

/-- Every task has come some way through the stages of its request. -/
theorem way (reached : Reached manager fails service start crowd) {request : ServiceRequest}
    {program : ServiceProgram ServiceOutcome}
    (found : crowd.tasks[task]? = some ⟨request, program⟩) :
    ∃ stage, Path (ServiceStage.Step service) (ServiceStage.start request) (crowd.heard task)
      stage ∧ ServiceStage.Tracks service stage program :=
  -- The turns of the request are steps from its first stage on.
  ServiceStage.course_of_start (turns reached found)

/-- Who has exchanged anything has come. -/
theorem found_of_mem (reached : Reached manager fails service start crowd)
    {exchange : ServiceExchange} (logged : (task, exchange) ∈ crowd.log) :
    ∃ request program, crowd.tasks[task]? = some ⟨request, program⟩ := by
  -- A task that has not come has exchanged nothing.
  by_cases within : task < crowd.tasks.length
  · exact ⟨_, _, List.getElem?_eq_getElem within⟩
  · have silent := (Crowd.Reached.path reached task).1 (Nat.le_of_not_lt within)
    rw [← Crowd.mem_heard, silent] at logged
    cases logged

/-- The store's answers are a chronicle of its table, and all it was asked is orderly. -/
theorem chronicle (reached : Reached manager fails service start crowd)
    (empty : start.table = .empty) :
    Chronicle fails crowd.replies crowd.state.table crowd.state.spent ∧
      ∀ reply ∈ crowd.replies, reply.call.Orderly := by
  -- The chronicle grows by one reply with each turn that asks the store.
  induction reached with
  | refl =>
    refine ⟨?_, nofun⟩
    show Chronicle fails [] start.table start.spent
    rw [empty]
    exact .start start.spent
  | @tail crowd next earlier moved ih =>
    obtain ⟨chronicle, orderly⟩ := ih
    cases moved with
    | enter => exact ⟨chronicle, orderly⟩
    | @turn task place ahead exchange after found goes answered =>
      obtain ⟨request, program⟩ := place
      -- A turn of a request is a step between two stages of it.
      cases goes with
      | step goes =>
      obtain ⟨stage, path, tracks⟩ := way earlier found
      obtain ⟨_, step, -⟩ := ServiceStage.tracks_follow service _ _ _ _ tracks goes
      rw [replies, List.filterMap_append, ← replies]
      by_cases stored : ∃ call, exchange.wanted.wanted = .store call
      · -- The store answers the call properly, or not at all, which is one reply of the chronicle
        -- each.
        obtain ⟨call, asked⟩ := stored
        have proper := ServiceStage.orderly_of_course path step asked
        obtain ⟨⟨given, rfl⟩, -⟩ := step.stored asked
        refine ⟨?_, ?_⟩
        · rcases answered with ⟨fresh, table, unused, performed, rfl⟩ | ⟨failing, missed, rfl⟩
          · exact .answered task chronicle unused performed fun _ given => given
          · exact .missed task chronicle failing missed fun _ given => given
        · intro reply member
          rcases List.mem_append.mp member with early | now
          · exact orderly reply early
          · rw [List.mem_singleton.mp now]
            exact proper
      · -- What is asked of others tells nothing about the store, and leaves it as it is.
        have elsewhere : [(task, exchange)].filterMap reply? = [] := by
          match exchange with
          | ⟨.unhurried (.store call), _⟩ => exact absurd ⟨call, rfl⟩ stored
          | ⟨.before _ _, _⟩ | ⟨.unhurried (.identity _), _⟩ | ⟨.unhurried (.lockUser _), _⟩
          | ⟨.unhurried (.unlockUser _), _⟩ | ⟨.unhurried (.topology _), _⟩
          | ⟨.unhurried (.publish _ _), _⟩ | ⟨.unhurried (.momentAfter _), _⟩ => rfl
        obtain ⟨table, spent⟩ :=
          Backing.answers_store answered fun call asked => stored ⟨call, asked⟩
        rw [elsewhere, List.append_nil]
        show Chronicle fails crowd.replies after.table after.spent ∧ _
        rw [table, spent]
        exact ⟨chronicle, orderly⟩

/-- A task that has ended a session was to do so, and has gone on to a part of what the end is
followed by. -/
theorem winner (reached : Reached manager fails service start crowd)
    (ended : (task, ending) ∈ endings id crowd.replies) :
    crowd.ending? task = some (id, ending.target) ∧
      ((crowd.heard task).filterMap fun exchange => exchange.wanted.wanted.elsewhere?) <+:
        ending.consequences := by
  obtain ⟨target, session⟩ := ending
  have logged := mem_endings.mp ended
  obtain ⟨request, program, found⟩ := found_of_mem reached logged
  obtain ⟨stage, path, -⟩ := way reached found
  have heard := Crowd.mem_heard.mpr logged
  rw [ending?, found]
  dsimp only [Option.bind_some]
  -- Only a request to end a session has ended one, and this one the session that it was to end.
  cases ends : request.ending? with
  | none =>
    have calm := (ServiceStage.calm_of_course path ends).2 _ heard
    exact absurd rfl (calm.1 id target)
  | some aim =>
    -- The aim of the request is the end it has got, with what it was followed by.
    obtain ⟨named, aim⟩ := aim
    obtain ⟨rfl, rfl, rest, told, aftermath⟩ :=
      (ServiceStage.concluding_of_course path ends).ended_of_mem heard
    refine ⟨rfl, ?_⟩
    rw [told]
    exact aftermath.part

/-- Of the tasks that are to end a session, only one that has done so asks others than the store for
anything. -/
theorem ended_of_elsewhere (reached : Reached manager fails service start crowd)
    {exchange : ServiceExchange} {call : ServiceCall} (logged : (task, exchange) ∈ crowd.log)
    (ends : crowd.ending? task = some (id, target))
    (asked : exchange.wanted.wanted.elsewhere? = some call) :
    ∃ session, (task, ⟨target, session⟩) ∈ endings id crowd.replies := by
  -- The task asks others only after its order to the store has gone well.
  obtain ⟨request, program, found⟩ := found_of_mem reached logged
  obtain ⟨stage, path, -⟩ := way reached found
  rw [ending?, found] at ends
  obtain ⟨session, ended⟩ := (ServiceStage.concluding_of_course path ends).ended_of_elsewhere
    (Crowd.mem_heard.mpr logged) asked
  exact ⟨session, mem_endings.mpr (Crowd.mem_heard.mp ended)⟩

/-- A call is one of those that an end is followed by where a task that is to end the session has
asked for it. -/
theorem mem_consequences {call : ServiceCall} : (task, call) ∈ crowd.consequences id ↔
    ∃ exchange target, (task, exchange) ∈ crowd.log ∧ crowd.ending? task = some (id, target) ∧
      exchange.wanted.wanted.elsewhere? = some call := by
  -- The calls are read from the entries of tasks that are to end the session.
  rw [consequences, List.mem_filterMap]
  constructor
  · intro member
    obtain ⟨⟨other, exchange⟩, logged, given⟩ := member
    split at given
    next ends =>
      obtain ⟨_, asked, same⟩ := Option.map_eq_some_iff.mp given
      cases same
      obtain ⟨⟨_, target⟩, aim, rfl⟩ := Option.map_eq_some_iff.mp ends
      exact ⟨exchange, target, logged, aim, asked⟩
    next => cases given
  · intro member
    obtain ⟨exchange, target, logged, aim, asked⟩ := member
    exact ⟨_, logged, by simp [aim, asked]⟩

/-- Where a session has been ended by one task only, all that follows is what this one asks for. -/
theorem consequences_of_winner (reached : Reached manager fails service start crowd)
    (only : endings id crowd.replies = [(task, ending)]) :
    crowd.consequences id = ((crowd.heard task).filterMap fun exchange =>
      exchange.wanted.wanted.elsewhere?).map (task, ·) := by
  have aim := (winner reached (only ▸ List.mem_cons_self)).1
  rw [consequences, Crowd.heard, List.filterMap_filterMap, List.map_filterMap]
  refine List.filterMap_congr fun entry logged => ?_
  obtain ⟨other, exchange⟩ := entry
  -- The log holds this one ending only, so whoever else was to end the session has not.
  by_cases same : other = task
  · subst same
    simp [aim]
  · -- Whoever else is to end the session has not done so, and asks for nothing.
    rw [if_neg same]
    split
    next ends =>
      obtain ⟨⟨_, target⟩, aims, rfl⟩ := Option.map_eq_some_iff.mp ends
      cases asked : exchange.wanted.wanted.elsewhere? with
      | none => rfl
      | some call =>
        obtain ⟨session, ended⟩ := ended_of_elsewhere reached logged aims asked
        rw [only, List.mem_singleton] at ended
        exact absurd (congrArg Prod.fst ended) same
    next => rfl

/-- Whoever revokes anything has completed a session, and this is what the end is followed by. -/
theorem completed_of_revokes (reached : Reached manager fails service start crowd)
    {exchange : ServiceExchange} (logged : (task, exchange) ∈ crowd.log)
    (revokes : exchange.wanted.wanted.Revokes) :
    ∃ other session, (task, ⟨.completed, session⟩) ∈ endings other crowd.replies ∧
      (task, exchange.wanted.wanted) ∈ crowd.consequences other := by
  -- What is asked of the identity service is asked elsewhere than of the store.
  have asked : exchange.wanted.wanted.elsewhere? = some exchange.wanted.wanted := by
    match exchange.wanted.wanted, revokes with
    | .identity _, _ => rfl
  obtain ⟨request, program, found⟩ := found_of_mem reached logged
  obtain ⟨stage, path, -⟩ := way reached found
  have heard := Crowd.mem_heard.mpr logged
  have aim : crowd.ending? task = request.ending? := by rw [ending?, found]; rfl
  cases ends : request.ending? with
  | none => exact absurd revokes ((ServiceStage.calm_of_course path ends).2 _ heard).2
  | some wanted =>
    obtain ⟨other, target⟩ := wanted
    rw [ends] at aim
    obtain ⟨session, ended⟩ := ended_of_elsewhere reached logged aim asked
    -- It follows the end of the session, and only what follows a completion revokes anything.
    have follows : exchange.wanted.wanted ∈ (⟨target, session⟩ : Ending).consequences :=
      (winner reached ended).2.subset (List.mem_filterMap.mpr ⟨exchange, heard, asked⟩)
    have completed : target = .completed := by
      -- A session that timed out is followed by its teardown alone.
      by_contra other
      rw [Ending.consequences, if_neg other, List.mem_singleton] at follows
      rw [follows] at revokes
      exact revokes
    subst completed
    exact ⟨other, session, ended, mem_consequences.mpr ⟨exchange, _, logged, aim, asked⟩⟩

/-- One request at most brings a session to its end, and all that an end is followed by is asked for
by this one only. -/
structure EndsOnce (manager : TopologyManager M) (fails : StoreCall → Prop)
    (service : ConnectionService) (crowd : RequestCrowd M) (id : SessionId) : Prop where
  /-- One order at most to end the session succeeds. -/
  once : (endings id crowd.replies).length ≤ 1
  /-- It was given by a request to end the session so. The session is told as it was made, but with
  its new status, and it has a time of completion just if it is completed. -/
  winner : ∀ task ending, (task, ending) ∈ endings id crowd.replies →
    crowd.ending? task = some (id, ending.target) ∧ ending.Proper id crowd.replies
  /-- An order to end the session finds no session, or ends it, or is told how it was ended. -/
  judged : ∀ target (given : (StoreCall.transition id target).Answer) after,
    Backing.answers manager fails (.unhurried (.store (.transition id target))) crowd.state given
      after →
    ((∀ row ∈ crowd.state.table.rows, row.id ≠ id) ∧ given = .error (.notFound id)) ∨
    (∃ row ∈ crowd.state.table.rows, row.id = id) ∧
      ((endings id crowd.replies = [] ∧ ∃ session, given = .ok session) ∨
        ∃ winner ∈ endings id crowd.replies, given = .error (.notInProgress id winner.2.target))
  /-- A request to end the session that has finished has ended it and had its broker resources
  taken away, or it was refused and is told that there is no session or how it was ended. -/
  finished : ∀ task request outcome target,
    crowd.tasks[task]? = some ⟨request, .done outcome⟩ → request.ending? = some (id, target) →
    (∃ session, (task, ⟨target, session⟩) ∈ endings id crowd.replies ∧
      (task, .topology (.tearDown session.user)) ∈ crowd.consequences id) ∨
    (∀ ending, (task, ending) ∉ endings id crowd.replies) ∧
      (((task, told (.store (.transition id target)) (.error (.notFound id))) ∈ crowd.log ∧
          outcome = .changed (.error (.sessionNotFound id))) ∨
        ∃ winner ∈ endings id crowd.replies,
          (task, told (.store (.transition id target))
            (.error (.notInProgress id winner.2.target))) ∈ crowd.log ∧
          outcome = .changed (.error (.sessionNotInProgress id winner.2.target)))
  /-- Requests to end the session ask others than the store for nothing, unless one of them has
  ended it; and then for what this end is followed by, once and in this order. -/
  followed : (endings id crowd.replies = [] ∧ crowd.consequences id = []) ∨
    ∃ winner, endings id crowd.replies = [winner] ∧
      crowd.consequences id <+: winner.2.consequences.map (winner.1, ·)
  /-- Whatever is revoked is revoked by a request that has completed a session, as what this end is
  followed by. -/
  revoked : ∀ task exchange, (task, exchange) ∈ crowd.log → exchange.wanted.wanted.Revokes →
    ∃ other session, (task, ⟨.completed, session⟩) ∈ endings other crowd.replies ∧
      (task, exchange.wanted.wanted) ∈ crowd.consequences other
  /-- While the session is there it stands as it was ended. -/
  kept : ∀ winner ∈ endings id crowd.replies, ∀ later,
    Relation.ReflTransGen (Moves manager fails service) crowd later →
    ∀ row ∈ later.state.table.rows, row.id = id →
      row.status = winner.2.target ∧ row.completedAt = winner.2.session.completedAt

/-- A request to end a session that has finished has ended it, or it was refused. -/
theorem finished (reached : Reached manager fails service start crowd) {request : ServiceRequest}
    {outcome : ServiceOutcome} (found : crowd.tasks[task]? = some ⟨request, .done outcome⟩)
    (ends : request.ending? = some (id, target)) :
    (∃ session, (task, ⟨target, session⟩) ∈ endings id crowd.replies ∧
      (task, .topology (.tearDown session.user)) ∈ crowd.consequences id) ∨
    (∀ ending, (task, ending) ∉ endings id crowd.replies) ∧ ∃ fault : StoreError,
      (task, told (.store (.transition id target)) (.error fault)) ∈ crowd.log ∧
      outcome = .changed (.error (.ofStore fault)) := by
  -- A finished request has been refused by the store, or it has gone on to the end of what follows.
  obtain ⟨stage, path, tracks⟩ := way reached found
  obtain rfl : stage = .finished outcome := tracks
  have concluding := ServiceStage.concluding_of_course path ends
  generalize listed : crowd.heard task = heard at concluding
  cases concluding with
  | @refused fault =>
    -- Refused: the log holds the refusal alone.
    refine Or.inr ⟨fun ending ended => ?_, fault, ?_, rfl⟩
    · have again := Crowd.mem_heard.mpr (mem_endings.mp ended)
      rw [listed] at again
      cases List.mem_singleton.mp again
    · rw [← Crowd.mem_heard, listed]
      exact List.mem_cons_self
  | @ended session _ rest elsewhere aftermath =>
    cases aftermath with
    | finished begun =>
      -- Ended: the first entry of the log is the store's answer, and the rest is what follows it.
      have logged : (task, told (.store (.transition id target)) (.ok session)) ∈ crowd.log := by
        rw [← Crowd.mem_heard, listed]
        exact List.mem_cons_self
      obtain ⟨exchange, member, asked⟩ := List.mem_filterMap.mp begun
      refine Or.inl ⟨session, mem_endings.mpr logged, mem_consequences.mpr
        ⟨exchange, target, ?_, ?_, asked⟩⟩
      · rw [← Crowd.mem_heard, listed]
        exact List.mem_cons_of_mem _ member
      · rw [ending?, found]
        exact ends

/-- However requests take turns and whatever fails but the orders to end a session, every session is
brought to its end once at most, and what that is followed by happens once at most. -/
theorem sessions_end_once (reliable : ∀ id target, ¬ fails (.transition id target))
    (empty : start.table = .empty) (reached : Reached manager fails service start crowd)
    (id : SessionId) : EndsOnce manager fails service crowd id := by
  -- The replies of the store are a history of a table, and the session's life is read from it.
  obtain ⟨past, orderly⟩ := chronicle reached empty
  have life : Life id crowd.replies crowd.state.table crowd.state.spent := past.life orderly
  refine ⟨life.once, ?_, ?_, ?_, ?_, ?_, ?_⟩
  · -- The winner is the one request that the store has told that the session is ended.
    intro task ending ended
    exact ⟨(winner reached ended).1, life.proper _ ended⟩
  · -- A store that does not fail refuses only the session that is missing or has ended before.
    intro target given after answered
    rcases answered with ⟨fresh, table, -, performed, -⟩ | ⟨failing, -, -⟩
    · obtain rfl := congrArg Prod.fst performed
      exact life.judged
    · exact absurd failing (reliable id target)
  · -- A request that is done has won, or has been refused for one of these reasons.
    intro task request outcome target found ends
    refine (finished reached found ends).imp_right fun ⟨apart, fault, logged, told⟩ => ⟨apart, ?_⟩
    rcases past.refused orderly (reliable id target) (mem_replies.mpr logged) with
      rfl | ⟨first, ended, rfl⟩
    · exact Or.inl ⟨logged, told⟩
    · exact Or.inr ⟨first, ended, logged, told⟩
  · -- What is asked elsewhere is asked by the winner, or by nobody.
    have once := life.once
    cases ended : endings id crowd.replies with
    | nil =>
      refine Or.inl ⟨rfl, List.eq_nil_iff_forall_not_mem.mpr fun entry asked => ?_⟩
      obtain ⟨exchange, target, logged, aim, elsewhere⟩ := mem_consequences.mp asked
      obtain ⟨session, found⟩ := ended_of_elsewhere reached logged aim elsewhere
      rw [ended] at found
      cases found
    | cons first rest =>
      obtain rfl : rest = [] := by
        rw [ended] at once
        simpa using once
      refine Or.inr ⟨first, rfl, ?_⟩
      rw [consequences_of_winner reached ended]
      exact (winner reached (ended ▸ List.mem_cons_self)).2.map _
  · intro task exchange logged revokes
    exact completed_of_revokes reached logged revokes
  · -- In every later crowd the one ending stands, so the row is still an ended one.
    intro first ended later moved row member named
    obtain ⟨past, orderly⟩ := chronicle (reached.trans moved) empty
    have life : Life id later.replies later.state.table later.state.spent := past.life orderly
    obtain ⟨more, log⟩ := Crowd.log_of_moves moved
    have still : first ∈ endings id later.replies := by
      rw [show first = (first.1, first.2) from rfl, mem_endings, log]
      exact List.mem_append_left _ (mem_endings.mp ended)
    have standing := (life.row row member named).2
    generalize endings id later.replies = ends at standing still
    cases standing with
    | active => cases still
    | ended status completedAt =>
      cases List.mem_singleton.mp still
      exact ⟨status, completedAt⟩

/-- Requests that come one after another to collaborators that comply, each carried through before
the next one comes. -/
def inTurn (options : TopologyOptions) (service : ConnectionService) :
    List ServiceRequest → RequestCrowd Management → RequestCrowd Management
  | [], crowd => crowd
  | request :: rest, crowd =>
    let reply := Backing.complyTimed options (.ok ())
    let program := request.program service
    let ran := program.run reply crowd.state
    inTurn options service rest ⟨ran.2, crowd.tasks ++ [⟨request, .done ran.1⟩],
      crowd.log ++ (program.transcript reply crowd.state).map (crowd.tasks.length, ·)⟩

/-- Requests may come one after another. -/
theorem inTurn_reached {options : TopologyOptions} {start : Backing Management}
    (failing : ∀ user tokenId, fails (.create user tokenId)) (requests : List ServiceRequest)
    {crowd : RequestCrowd Management}
    (reached : Reached (Topology.manager options) fails service start crowd) :
    Reached (Topology.manager options) fails service start
      (inTurn options service requests crowd) := by
  -- The induction is on the requests, each of which is served from where the one before has left
  -- off.
  induction requests generalizing crowd with
  | nil => exact reached
  | cons request rest ih =>
    have ran := Program.runs_run (Backing.complyTimed_answers options (.ok ()) failing)
      (request.program service) crowd.state
    have turns : Course (Backing.answers (Topology.manager options) fails)
        (Conduct.Labelled fun _ => Program.Turn) ⟨request, request.program service⟩ crowd.state _
        ⟨request, .done _⟩ _ := Course.labelled ran
    exact ih (Crowd.Reached.serve reached rfl turns)

/-- A session that was completed cannot be timed out any more. -/
theorem completed_session_is_not_timed_out :
    ∃ (crowd : RequestCrowd Management) (fault : ConnectionError),
      EndsOnce (Topology.manager ⟨none, none⟩)
        (fun call => ∃ user tokenId, call = .create user tokenId) ⟨.ofBytes [], .default⟩ crowd
        (.numbered 1) ∧
      (endings (.numbered 1) crowd.replies).map (fun entry => (entry.1, entry.2.target)) =
        [(1, .completed)] ∧
      crowd.tasks[2]? = some ⟨.timeOut (.numbered 1), .done (.changed (.error fault))⟩ := by
  -- Only the creation may fail here, so the two ends of the session are judged by the table.
  let fails : StoreCall → Prop := fun call => ∃ user tokenId, call = .create user tokenId
  let crowd := inTurn ⟨none, none⟩ ⟨.ofBytes [], .default⟩
    [.connect "ada" "token", .complete (.numbered 1), .timeOut (.numbered 1)]
    (Crowd.alone Backing.untouched)
  have reliable : ∀ id target, ¬ fails (.transition id target) := by
    rintro id target ⟨user, tokenId, other⟩
    cases other
  have ends := sessions_end_once reliable rfl
    (inTurn_reached (fun user tokenId => ⟨user, tokenId, rfl⟩) _ .refl : Reached _ _ _ _ crowd)
    (.numbered 1)
  have once : (endings (.numbered 1) crowd.replies).map (fun entry => (entry.1, entry.2.target)) =
      [(1, .completed)] := by
    decide +kernel
  obtain ⟨outcome, found⟩ :
      ∃ outcome, crowd.tasks[2]? = some ⟨.timeOut (.numbered 1), .done outcome⟩ := ⟨_, rfl⟩
  rcases ends.finished 2 _ outcome .timeout found rfl with
    ⟨session, ended, -⟩ | ⟨-, ⟨-, refused⟩ | ⟨_, -, -, refused⟩⟩
  · -- The session was ended by the second request alone.
    have first := List.mem_map_of_mem (f := fun entry => (entry.1, entry.2.target)) ended
    rw [once] at first
    cases List.mem_singleton.mp first
  · exact ⟨crowd, _, ends, once, refused ▸ found⟩
  · exact ⟨crowd, _, ends, once, refused ▸ found⟩

end RequestCrowd

end SessionGate
