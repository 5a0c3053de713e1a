import SessionGate.Proofs.Connection.Compliance
import SessionGate.Proofs.Connection.Turns

/-! Requests that take turns in any order: whoever is told of a session is told of one that has been
set up and announced, and the session stays. -/

namespace SessionGate

open ServiceExchange

namespace ServiceCrowd

open ServiceStage (Step holds pending? prepared? response?)

/-- A session of an identifier and a user was set up and then announced, both with success. -/
def Announced (service : ConnectionService) (log : List (Nat × ServiceExchange)) (id : SessionId)
    (user : UserId) : Prop :=
  ∃ task earlier later session profile, session.id = id ∧ session.user = user ∧
    (task, inTime earlier (service.setUpOf session user) (.ok ())) ∈ log ∧
    (task, inTime later (service.announcementOf session profile) (.ok ())) ∈ log

/-- The session that a response tells was found by a task, and it had been announced before. -/
def Resumed (service : ConnectionService) (log : List (Nat × ServiceExchange)) (task : Nat)
    (response : ConnectResponse) : Prop :=
  ∃ earlier later session,
    log = earlier ++
      (task, told (.store (.activeSession session.user)) (.ok (some session))) :: later ∧
    response.session = session.id ∧ response.credentials.username = session.user.text ∧
    Announced service earlier session.id session.user

variable {M : Type} {manager : TopologyManager M} {fails : StoreCall → Prop}
  {service : ConnectionService} {crowd : ServiceCrowd M} {task : Nat} {stage ahead : ServiceStage}
  {exchange : ServiceExchange} {after : Backing M}

/-- What is announced stays announced. -/
theorem Announced.more {log : List (Nat × ServiceExchange)} {id : SessionId} {user : UserId}
    (announced : Announced service log id user) (more : List (Nat × ServiceExchange)) :
    Announced service (log ++ more) id user := by
  -- The log only grows, and both entries stay in it.
  obtain ⟨task, earlier, later, session, profile, named, owner, setUp, told⟩ := announced
  exact ⟨task, earlier, later, session, profile, named, owner, List.mem_append_left _ setUp,
    List.mem_append_left _ told⟩

/-- Who has come back to a session has done so whatever happens next. -/
theorem Resumed.more {log : List (Nat × ServiceExchange)} {response : ConnectResponse}
    (resumed : Resumed service log task response) (more : List (Nat × ServiceExchange)) :
    Resumed service (log ++ more) task response := by
  -- What was logged before the task came back stays before it.
  obtain ⟨earlier, later, session, rfl, same, named, announced⟩ := resumed
  exact ⟨earlier, later ++ more, session, by simp, same, named, announced⟩

/-- Sessions in the making belong to those who hold the lock of their user, and all others have been
announced. -/
structure Making (service : ConnectionService) (crowd : ServiceCrowd M) : Prop where
  sound : crowd.state.table.Sound crowd.state.spent
  owned : ∀ task session, crowd.reading pending? task = some session →
    crowd.reading holds task = some session.user ∧ crowd.state.table.Has session.id session.user
  prepared : ∀ task session, crowd.reading prepared? task = some session →
    ∃ deadline, (task, inTime deadline (service.setUpOf session session.user) (.ok ())) ∈ crowd.log
  announced : ∀ id user, crowd.state.table.Has id user → Announced service crowd.log id user ∨
    ∃ task session, crowd.reading pending? task = some session ∧ session.id = id

/-- A session that a client was told about is there and no longer in the making, and one that a
client has come back to had been announced before. -/
structure Told (service : ConnectionService) (crowd : ServiceCrowd M) : Prop where
  kept : ∀ task response, crowd.reading response? task = some response →
    (∃ user, crowd.state.table.Has response.session user) ∧
      ∀ other session, crowd.reading pending? other = some session → session.id ≠ response.session
  resumed : ∀ task response, crowd.reading response? task = some response →
    response.message = ConnectResponse.reconnectMessage → Resumed service crowd.log task response

namespace Making

/-- No two tasks have the same session in the making. -/
theorem alone (making : Making service crowd) (locks : Locks crowd) {other : Nat}
    {first second : Session} (one : crowd.reading pending? task = some first)
    (two : crowd.reading pending? other = some second) (same : first.id = second.id) :
    task = other := by
  obtain ⟨holding, has⟩ := making.owned task first one
  obtain ⟨owning, twin⟩ := making.owned other second two
  -- The two sessions are one row of the table, so both tasks hold one lock.
  rw [same] at has
  rw [making.sound.owner has twin] at holding
  exact locks.alone task other second.user holding owning

/-- Who holds a user's lock and makes no session keeps the user's sessions out of the making. -/
theorem idle (making : Making service crowd) (locks : Locks crowd) {user : UserId}
    {id : SessionId} (holding : crowd.reading holds task = some user)
    (free : crowd.reading pending? task = none) (has : crowd.state.table.Has id user) :
    ∀ other session, crowd.reading pending? other = some session → session.id ≠ id := by
  -- Whoever makes the session holds its user's lock, and only one task does.
  intro other session made same
  subst same
  obtain ⟨owning, twin⟩ := making.owned other session made
  rw [making.sound.owner twin has] at owning
  cases locks.alone task other user holding owning
  cases free.symm.trans made

/-- A turn keeps sessions in the making apart if what it puts into the making is owned, what it
takes out is announced or gone, and what others are making stays. -/
theorem turn (making : Making service crowd) (found : crowd.tasks[task]? = some stage)
    (sound : after.table.Sound after.spent)
    (owned : ∀ session, ahead.pending? = some session →
      ahead.holds = some session.user ∧ after.table.Has session.id session.user)
    (others : ∀ other session, other ≠ task → crowd.reading pending? other = some session →
      after.table.Has session.id session.user)
    (prepared : ∀ session, ahead.prepared? = some session →
      ∃ deadline, exchange = inTime deadline (service.setUpOf session session.user) (.ok ()))
    (announced : ∀ id user, after.table.Has id user →
      Announced service (crowd.log ++ [(task, exchange)]) id user ∨
      (∃ session, ahead.pending? = some session ∧ session.id = id) ∨
      crowd.state.table.Has id user ∧ ∀ session, stage.pending? = some session → session.id ≠ id) :
    Making service ⟨after, crowd.tasks.set task ahead, crowd.log ++ [(task, exchange)]⟩ := by
  -- The three parts are the owners of what is being made, what is set up, and what has been
  -- announced; in each the task that takes the turn is told from the others.
  refine ⟨sound, ?_, ?_, ?_⟩
  · -- Each session is owned by the task that makes it: for the turning task by assumption, for the
    -- others as before.
    intro other session made
    rw [Crowd.reading_turn found] at made
    rw [Crowd.reading_turn found]
    split at made
    next here =>
      rw [if_pos here]
      exact owned session made
    next elsewhere =>
      rw [if_neg elsewhere]
      exact ⟨(making.owned other session made).1, others other session elsewhere made⟩
  · -- What is set up has its order in the log, at this turn or earlier.
    intro other session ready
    rw [Crowd.reading_turn found] at ready
    split at ready
    next here =>
      obtain ⟨deadline, rfl⟩ := prepared session ready
      exact ⟨deadline, by simp [here]⟩
    next =>
      obtain ⟨deadline, logged⟩ := making.prepared other session ready
      exact ⟨deadline, List.mem_append_left _ logged⟩
  · intro id user has
    rcases announced id user has with known | ⟨session, made, same⟩ | ⟨had, ended⟩
    · -- A session is announced already, or in the hands of the turning task, or was there before.
      exact Or.inl known
    · refine Or.inr ⟨task, session, ?_, same⟩
      rw [Crowd.reading_turn found, if_pos rfl]
      exact made
    · refine (making.announced id user had).imp (fun known => known.more _) ?_
      intro pending
      obtain ⟨other, session, made, same⟩ := pending
      refine ⟨other, session, ?_, same⟩
      rw [Crowd.reading_turn found, if_neg]
      · exact made
      · -- Were it the turning task itself, that would still have the session in hand.
        intro same
        subst same
        rw [Crowd.reading_of_found found] at made
        exact ended session made same

/-- A turn that changes no user and no identifier of a session and goes on with the session that it
was making keeps sessions in the making apart. -/
theorem quiet (making : Making service crowd) (found : crowd.tasks[task]? = some stage)
    (pending : ahead.pending? = stage.pending?)
    (holding : ahead.pending? ≠ none → ahead.holds = stage.holds)
    (prepared : ∀ session, ahead.prepared? = some session →
      ∃ deadline, exchange = inTime deadline (service.setUpOf session session.user) (.ok ()))
    (sound : after.table.Sound after.spent)
    (rows : ∀ id user, after.table.Has id user ↔ crowd.state.table.Has id user) :
    Making service ⟨after, crowd.tasks.set task ahead, crowd.log ++ [(task, exchange)]⟩ := by
  -- The same session is being made as before, so what was known of it still holds.
  refine making.turn found sound ?_ ?_ prepared ?_
  · -- What the turning task makes is owned under the same lock and stands in a row as before.
    intro session made
    obtain ⟨owning, has⟩ :=
      making.owned task session ((Crowd.reading_of_found found).trans (pending.symm.trans made))
    rw [Crowd.reading_of_found found] at owning
    refine ⟨(holding ?_).trans owning, (rows _ _).mpr has⟩
    rw [made]
    nofun
  · intro other session _ made
    exact (rows _ _).mpr (making.owned other session made).2
  · -- It has to be told whether the turning task is the one that has the session in hand.
    intro id user has
    by_cases here : ∃ session, ahead.pending? = some session ∧ session.id = id
    · exact Or.inr (Or.inl here)
    · refine Or.inr (Or.inr ⟨(rows id user).mp has, ?_⟩)
      refine fun session made same => here ⟨session, ?_, same⟩
      rw [pending, made]

end Making

namespace Told

/-- A turn keeps what was told if it takes no session away that a client was told about, puts only
new ones into the making, and is itself entitled to what it tells. -/
theorem turn (told : Told service crowd) (making : Making service crowd)
    (found : crowd.tasks[task]? = some stage)
    (stays : ∀ other response, crowd.reading response? other = some response → ∀ user,
      crowd.state.table.Has response.session user → after.table.Has response.session user)
    (fresh : ∀ session, ahead.pending? = some session →
      stage.pending? = some session ∨ session.id ∉ crowd.state.spent)
    (entitled : ∀ response, ahead.response? = some response → stage.response? = some response ∨
      (∃ user, after.table.Has response.session user) ∧ ahead.pending? = none ∧
      (∀ other session, other ≠ task → crowd.reading pending? other = some session →
        session.id ≠ response.session) ∧
      (response.message = ConnectResponse.reconnectMessage →
        Resumed service (crowd.log ++ [(task, exchange)]) task response)) :
    Told service ⟨after, crowd.tasks.set task ahead, crowd.log ++ [(task, exchange)]⟩ := by
  -- Those who were told before keep what they were told, since no session told goes back into the
  -- making.
  have before : ∀ other response, crowd.reading response? other = some response →
      (∃ user, after.table.Has response.session user) ∧ ∀ another session,
        Crowd.reading ⟨after, crowd.tasks.set task ahead, crowd.log ++ [(task, exchange)]⟩ pending?
          another = some session → session.id ≠ response.session := by
    intro other response given
    obtain ⟨⟨user, has⟩, free⟩ := told.kept other response given
    refine ⟨⟨user, stays other response given user has⟩, fun another session made => ?_⟩
    rw [Crowd.reading_turn found] at made
    split at made
    · rcases fresh session made with old | unused
      · exact free task session ((Crowd.reading_of_found found).trans old)
      · -- The identifier of a session that is there has been given out before.
        exact fun same => unused (same ▸ making.sound.mem_spent has)
    · exact free another session made
  refine ⟨?_, ?_⟩
  · intro other response given
    rw [Crowd.reading_turn found] at given
    split at given
    next =>
      rcases entitled response given with old | ⟨has, none, free, -⟩
      · exact before task response ((Crowd.reading_of_found found).trans old)
      · refine ⟨has, fun another session made => ?_⟩
        rw [Crowd.reading_turn found] at made
        split at made
        · cases none.symm.trans made
        next elsewhere => exact free another session elsewhere made
    next => exact before other response given
  · intro other response given message
    rw [Crowd.reading_turn found] at given
    split at given
    next here =>
      rw [here]
      rcases entitled response given with old | ⟨-, -, -, resumed⟩
      · exact (told.resumed task response ((Crowd.reading_of_found found).trans old) message).more _
      · exact resumed message
    next => exact (told.resumed other response given message).more _

end Told

/-- What the sessions of a crowd and its locks are like. -/
structure Orderly (service : ConnectionService) (crowd : ServiceCrowd M) : Prop where
  locks : Locks crowd
  making : Making service crowd
  telling : Told service crowd

namespace Orderly

/-- A turn that makes no session, ends the making of none and tells none keeps a crowd orderly. -/
theorem quiet (orderly : Orderly service crowd) (found : crowd.tasks[task]? = some stage)
    (answered : Backing.answers manager fails exchange.wanted crowd.state exchange.given after)
    (pending : ahead.pending? = stage.pending?) (response : ahead.response? = stage.response?)
    (holding : ahead.pending? ≠ none → ahead.holds = stage.holds)
    (prepared : ∀ session, ahead.prepared? = some session →
      ∃ deadline, exchange = inTime deadline (service.setUpOf session session.user) (.ok ()))
    (rows : ∀ id user, after.table.Has id user ↔ crowd.state.table.Has id user) :
    Making service ⟨after, crowd.tasks.set task ahead, crowd.log ++ [(task, exchange)]⟩ ∧
      Told service ⟨after, crowd.tasks.set task ahead, crowd.log ++ [(task, exchange)]⟩ := by
  -- Nothing of what either half speaks about is changed.
  have sound := Backing.answers_sound answered orderly.making.sound
  refine ⟨orderly.making.quiet found pending holding prepared sound rows, ?_⟩
  refine orderly.telling.turn orderly.making found ?_ ?_ ?_
  · intro other response _ user has
    exact (rows _ _).mpr has
  · intro session made
    exact Or.inl (pending.symm.trans made)
  · intro response' given
    exact Or.inl (response.symm.trans given)

variable {admission : Admission} {session : Session}

/-- The user of a session in the making is the one that the task has admitted. -/
theorem owner (orderly : Orderly service crowd) (found : crowd.tasks[task]? = some stage)
    {user : UserId} (making : stage.pending? = some session) (holding : stage.holds = some user) :
    user = session.user ∧ crowd.state.table.Has session.id session.user := by
  -- The invariant knows the owner of what is being made by the lock that the task holds.
  obtain ⟨owning, has⟩ :=
    orderly.making.owned task session ((Crowd.reading_of_found found).trans making)
  rw [Crowd.reading_of_found found, holding] at owning
  exact ⟨Option.some.inj owning, has⟩

/-- Who comes back to a session while holding the user's lock finds one that has been announced. -/
theorem resume (orderly : Orderly service crowd)
    (found : crowd.tasks[task]? = some (.looking admission))
    (member : session ∈ crowd.state.table.rows) (owner : session.user = admission.user) :
    Told service ⟨crowd.state,
      crowd.tasks.set task (.unlocking admission.user
        (.ok (service.responseTo admission session ConnectResponse.reconnectMessage))),
      crowd.log ++
        [(task, told (.store (.activeSession admission.user)) (.ok (some session)))]⟩ := by
  -- While the lock is held nobody else makes a session of the user, so the one found was announced.
  have has : crowd.state.table.Has session.id session.user := ⟨session, member, rfl, rfl⟩
  have free := orderly.making.idle orderly.locks
    ((Crowd.reading_of_found found).trans (congrArg some owner.symm))
    (Crowd.reading_of_found found) has
  have known : Announced service crowd.log session.id session.user := by
    refine (orderly.making.announced _ _ has).resolve_right ?_
    intro unannounced
    obtain ⟨other, pending, made, same⟩ := unannounced
    exact free other pending made same
  -- The task has told nothing before, and is entitled to what it tells now.
  refine orderly.telling.turn orderly.making found (fun _ _ _ _ has => has) nofun ?_
  intro response equal
  cases equal
  refine Or.inr ⟨⟨_, has⟩, rfl, fun other pending _ made => free other pending made, fun _ => ?_⟩
  exact ⟨crowd.log, [], session, by rw [owner], rfl, rfl, known⟩

/-- Who makes a session holds the lock of its user. -/
theorem create (orderly : Orderly service crowd)
    (found : crowd.tasks[task]? = some (.creating admission))
    (owner : session.user = admission.user) (unused : session.id ∉ crowd.state.spent)
    (sound : (crowd.state.table.insert session).Sound (session.id :: crowd.state.spent)) :
    let next : ServiceCrowd M := ⟨{ crowd.state with
        table := crowd.state.table.insert session
        spent := session.id :: crowd.state.spent },
      crowd.tasks.set task (.timing admission session), crowd.log ++ [(task, exchange)]⟩
    Making service next ∧ Told service next := by
  -- The identifier is new, so no session that was announced or told of is meant by it.
  have unknown := orderly.making.sound.unknown unused
  constructor
  · -- The new session is in the hands of its maker, and every other row was there before.
    refine orderly.making.turn found sound ?_ ?_ nofun ?_
    · intro pending equal
      cases equal
      exact ⟨congrArg some owner.symm,
        (SessionTable.has_insert_new unknown).mpr (Or.inl ⟨rfl, rfl⟩)⟩
    · intro other pending _ made
      exact (SessionTable.has_insert_new unknown).mpr
        (Or.inr (orderly.making.owned other pending made).2)
    · intro id user has
      rcases (SessionTable.has_insert_new unknown).mp has with ⟨named, -⟩ | had
      · exact Or.inr (Or.inl ⟨session, rfl, named⟩)
      · exact Or.inr (Or.inr ⟨had, nofun⟩)
  · -- No answer told before is about an identifier that has not been used.
    refine orderly.telling.turn orderly.making found ?_ ?_ nofun
    · intro _ _ _ user has
      exact (SessionTable.has_insert_new unknown).mpr (Or.inr has)
    · intro pending equal
      cases equal
      exact Or.inr unused

/-- A session that has been announced is no longer in the making, and its client may be told. -/
theorem announce (orderly : Orderly service crowd) {deadline : Instant}
    (found : crowd.tasks[task]? = some (.announcing admission session deadline)) :
    let next : ServiceCrowd M := ⟨crowd.state,
      crowd.tasks.set task (.unlocking admission.user
        (.ok (service.responseTo admission session ConnectResponse.newSessionMessage))),
      crowd.log ++ [(task, inTime deadline
        (service.announcementOf session admission.profile) (.ok ()))]⟩
    Making service next ∧ Told service next := by
  -- The session was set up before, and the announcement is the last entry of the log.
  obtain ⟨owner, has⟩ := orderly.owner found rfl rfl
  have made : crowd.reading pending? task = some session := Crowd.reading_of_found found
  obtain ⟨earlier, setUp⟩ := orderly.making.prepared task session (Crowd.reading_of_found found)
  constructor
  · refine orderly.making.turn found orderly.making.sound nofun ?_ nofun ?_
    · intro other pending _ made
      exact (orderly.making.owned other pending made).2
    · -- The session that is announced leaves the hands of its maker; all others stay where they
      -- are.
      intro id user had
      by_cases same : session.id = id
      · subst same
        cases orderly.making.sound.owner has had
        exact Or.inl ⟨task, earlier, deadline, session, admission.profile, rfl, rfl,
          List.mem_append_left _ setUp, List.mem_append_right _ List.mem_cons_self⟩
      · refine Or.inr (Or.inr ⟨had, ?_⟩)
        intro pending equal
        cases equal
        exact same
  · refine orderly.telling.turn orderly.making found (fun _ _ _ _ has => has) nofun ?_
    intro response equal
    cases equal
    -- The task alone makes the session, so no other task can still have it in hand.
    refine Or.inr ⟨⟨_, has⟩, rfl, fun other pending elsewhere others same => ?_, fun message => ?_⟩
    · exact elsewhere (orderly.making.alone orderly.locks others made same)
    · have different : ConnectResponse.newSessionMessage ≠ ConnectResponse.reconnectMessage := by
        decide
      exact absurd message different

/-- A session that is discarded was told to nobody, and is no other that is in the making. -/
theorem discard (orderly : Orderly service crowd) {fault : ConnectionError}
    (found : crowd.tasks[task]? = some (.discarding admission session fault)) :
    let next : ServiceCrowd M := ⟨{ crowd.state with table := crowd.state.table.erase session.id },
      crowd.tasks.set task (.unlocking admission.user (.error fault)),
      crowd.log ++ [(task, exchange)]⟩
    Making service next ∧ Told service next := by
  -- The task alone makes this session, so nobody else is concerned when it is taken away.
  have made : crowd.reading pending? task = some session := Crowd.reading_of_found found
  constructor
  · -- What is discarded is nobody's any longer, and the other rows stay.
    refine orderly.making.turn found (orderly.making.sound.erase session.id) nofun ?_ nofun ?_
    · intro other pending elsewhere others
      refine SessionTable.has_erase.mpr ⟨(orderly.making.owned other pending others).2, ?_⟩
      exact fun same => elsewhere (orderly.making.alone orderly.locks others made same)
    · intro id user has
      obtain ⟨had, different⟩ := SessionTable.has_erase.mp has
      refine Or.inr (Or.inr ⟨had, ?_⟩)
      intro pending equal
      cases equal
      exact different.symm
  · -- An answer told before cannot be about a session that is still being made.
    refine orderly.telling.turn orderly.making found ?_ nofun nofun
    intro other response given user has
    exact SessionTable.has_erase.mpr
      ⟨has, ((orderly.telling.kept other response given).2 task session made).symm⟩

/-- A newcomer makes no session and has been told of none. -/
theorem enter (orderly : Orderly service crowd) (request : ServiceRequest) :
    Orderly service { crowd with tasks := crowd.tasks ++ [ServiceStage.start request] } := by
  -- A newcomer stands at a stage that holds no lock and makes no session.
  obtain ⟨holding, pending, prepared, response⟩ := ServiceStage.start_idle request
  obtain ⟨locks, making, telling⟩ := orderly
  refine ⟨locks.enter request, ⟨making.sound, ?_, ?_, ?_⟩, ⟨?_, ?_⟩⟩
  · -- Who makes, prepares or has announced a session is read from the tasks that were there before.
    intro task session made
    rw [Crowd.reading_enter pending] at made
    rw [Crowd.reading_enter holding]
    exact making.owned task session made
  · intro task session ready
    rw [Crowd.reading_enter prepared] at ready
    exact making.prepared task session ready
  · intro id user has
    refine (making.announced id user has).imp_right fun ⟨task, session, made, same⟩ => ?_
    exact ⟨task, session, (Crowd.reading_enter pending task).trans made, same⟩
  · -- So are the answers that were given.
    intro task answer given
    rw [Crowd.reading_enter response] at given
    obtain ⟨has, free⟩ := telling.kept task answer given
    refine ⟨has, fun other session made => ?_⟩
    rw [Crowd.reading_enter pending] at made
    exact free other session made
  · intro task answer given
    rw [Crowd.reading_enter response] at given
    exact telling.resumed task answer given

/-- Whatever happens next, a crowd stays orderly, unless a deletion fails. -/
theorem move {next : ServiceCrowd M} (orderly : Orderly service crowd)
    (reliable : ∀ id, ¬ fails (.delete id)) (moved : Moves manager fails service crowd next) :
    Orderly service next := by
  -- Each kind of step has its own lemma, and the many that touch no session are quiet.
  have locks := orderly.locks.move moved
  -- Only four kinds of step change what is made or told: they have lemmas of their own above.
  cases moved with
  | enter admitted =>
    obtain ⟨request, rfl⟩ := admitted
    exact orderly.enter request
  | @turn task stage ahead exchange after found step answered =>
    suffices records : Making service _ ∧ Told service _ from ⟨locks, records.1, records.2⟩
    have sound := Backing.answers_sound answered orderly.making.sound
    have calm : (∀ order, exchange.wanted.wanted ≠ .store order) →
        ∀ id user, after.table.Has id user ↔ crowd.state.table.Has id user :=
      fun other id user => by rw [(Backing.answers_store answered other).1]
    cases step with
    | resumed =>
      obtain ⟨rfl, active⟩ := StoreCall.Answered.activeSession answered
      obtain ⟨member, owner, -⟩ := SessionTable.mem_of_active? (active _ rfl)
      refine ⟨?_, orderly.resume found member owner⟩
      exact orderly.making.quiet found rfl (absurd rfl) nofun sound fun _ _ => Iff.rfl
    | created =>
      obtain ⟨unused, owner, -, -, rfl⟩ := StoreCall.Answered.created answered
      exact orderly.create found owner unused sound
    | announced =>
      cases answered
      exact orderly.announce found
    | discarded =>
      rcases StoreCall.Answered.deleted answered with rfl | ⟨failing, -, -⟩
      · exact orderly.discard found
      · exact absurd failing (reliable _)
    | locked =>
      exact orderly.quiet found answered rfl rfl (absurd rfl) nofun (calm nofun)
    | @unlocked user result =>
      cases result with
      | ok response => exact orderly.quiet found answered rfl rfl (absurd rfl) nofun (calm nofun)
      | error fault => exact orderly.quiet found answered rfl rfl (absurd rfl) nofun (calm nofun)
    | @setUp admission session deadline =>
      obtain ⟨owner, -⟩ := orderly.owner found rfl rfl
      refine orderly.quiet found answered rfl rfl (fun _ => rfl) ?_ (calm nofun)
      intro ready equal
      cases equal
      exact ⟨deadline, by rw [owner]⟩
    | absent | unseen =>
      obtain ⟨rfl, -⟩ := StoreCall.Answered.activeSession answered
      exact orderly.quiet found answered rfl rfl (fun _ => rfl) nofun fun _ _ => Iff.rfl
    | outrun | uncreated =>
      cases StoreCall.Answered.uncreated answered
      exact orderly.quiet found answered rfl rfl (fun _ => rfl) nofun fun _ _ => Iff.rfl
    | ended =>
      obtain ⟨old, member, same, owner, -, -, kept⟩ := StoreCall.Answered.transitioned answered
      refine orderly.quiet found answered rfl rfl (fun _ => rfl) nofun fun _ _ => ?_
      rw [kept]
      exact orderly.making.sound.has_insert member same owner
    | unended =>
      cases StoreCall.Answered.untransitioned answered
      exact orderly.quiet found answered rfl rfl (fun _ => rfl) nofun fun _ _ => Iff.rfl
    | recorded | unrecorded =>
      refine orderly.quiet found answered rfl rfl (fun _ => rfl) nofun fun _ _ => ?_
      rcases StoreCall.Answered.recorded answered with same | ⟨old, member, kept⟩
      · rw [same]
      · rw [kept]
        exact orderly.making.sound.has_insert member rfl rfl
    | read | unread =>
      cases StoreCall.Answered.looked answered
      exact orderly.quiet found answered rfl rfl (fun _ => rfl) nofun fun _ _ => Iff.rfl
    | _ => exact orderly.quiet found answered rfl rfl (fun _ => rfl) nofun (calm nofun)

end Orderly

/-- Nobody has come yet, and there are no sessions. -/
theorem Orderly.alone {start : Backing M} (empty : start.table = .empty) :
    Orderly service (Crowd.alone start : ServiceCrowd M) := by
  -- There are no tasks and no sessions, so nothing is claimed of any.
  refine ⟨⟨nofun, nofun, nofun⟩, ⟨?_, nofun, nofun, ?_⟩, nofun, nofun⟩
  · show start.table.Sound start.spent
    rw [empty]
    exact .empty
  · intro id user has
    obtain ⟨session, member, -⟩ := has
    rw [show (Crowd.alone start : ServiceCrowd M).state.table = .empty from empty] at member
    cases member

end ServiceCrowd

section Programs

variable {M : Type} {manager : TopologyManager M} {fails : StoreCall → Prop}
  {service : ConnectionService} {start : Backing M}
  {crowd : Crowd (Timed ServiceCall) (Timed.Answer ServiceCall.Answer) (Backing M)
    (ServiceProgram ServiceOutcome)}

/-- A computation that serves a request. -/
def ServiceRequest.ServedBy (service : ConnectionService)
    (program : ServiceProgram ServiceOutcome) : Prop :=
  ∃ request : ServiceRequest, program = request.program service

/-- Requests that take turns in any order stand at the stages of a crowd of requests. -/
theorem ServiceCrowd.stages_of_reached
    (reached : Crowd.Reached (Backing.answers manager fails) Program.Turn
      (ServiceRequest.ServedBy service) start crowd) :
    ∃ stages : ServiceCrowd M, Reached manager fails service start stages ∧
      Crowd.Alike (fun program stage => ServiceStage.Tracks service stage program) crowd stages :=
  -- Each program that takes turns stands at its stage, from the start of its request on.
  reached.follow (fun stage => ∃ request, stage = ServiceStage.start request)
    (fun program stage => ServiceStage.Tracks service stage program)
    (by
      intro program served
      obtain ⟨request, rfl⟩ := served
      exact ⟨_, ⟨request, rfl⟩, ServiceStage.start_tracks service request⟩)
    (ServiceStage.tracks_follow service)

/-- Requests that take turns in any order stand at the stages of an orderly crowd. -/
theorem ServiceCrowd.orderly_of_reached (reliable : ∀ id, ¬ fails (.delete id))
    (empty : start.table = .empty)
    (reached : Crowd.Reached (Backing.answers manager fails) Program.Turn
      (ServiceRequest.ServedBy service) start crowd) :
    ∃ stages : ServiceCrowd M, Orderly service stages ∧
      Crowd.Alike (fun program stage => ServiceStage.Tracks service stage program) crowd
        stages := by
  -- The stages of the programs are reached as the programs are, and every move of theirs keeps the
  -- invariant.
  obtain ⟨stages, reached, alike⟩ := stages_of_reached reached
  refine ⟨stages, ?_, alike⟩
  exact Crowd.Reached.keeps (Orderly service) (.alone empty)
    (fun crowd next moved orderly => orderly.move reliable moved) reached

/-- A task has come to its end exactly when its stage has. -/
theorem ServiceCrowd.done_iff_finished {stages : ServiceCrowd M}
    (alike : Crowd.Alike (fun program stage => ServiceStage.Tracks service stage program) crowd
      stages) {task : Nat} {outcome : ServiceOutcome} :
    crowd.tasks[task]? = some (.done outcome) ↔
      -- A program that tracks a stage is done just if the stage is finished.
      stages.tasks[task]? = some (ServiceStage.finished outcome) := by
  constructor
  · -- From the program to the stage: a program that is done stands at its end.
    intro found
    obtain ⟨stage, located, tracks⟩ := alike.task found
    rw [located, show stage = .finished outcome from tracks]
  · -- From the stage to the program: a stage at its end asks for nothing more.
    intro located
    have within : task < crowd.tasks.length := by
      rw [← alike.length]
      exact (List.getElem?_eq_some_iff.mp located).1
    have found := List.getElem?_eq_getElem within
    have tracks := alike.tasks task _ _ found located
    cases program : crowd.tasks[task] with
    | done value =>
      rw [program] at found tracks
      cases show ServiceStage.finished outcome = .finished value from tracks
      exact found
    | ask wanted next =>
      rw [program] at tracks
      cases tracks.1

/-- However requests take turns and whatever fails but deletions, connects of one user keep apart:
of two that have got the user's lock one has come to its end. Whoever comes back to a session has
found it after it was set up and announced with success. A session that a client was told about
stays from then on. -/
theorem connects_keep_apart (reliable : ∀ id, ¬ fails (.delete id)) (empty : start.table = .empty)
    (reached : Crowd.Reached (Backing.answers manager fails) Program.Turn
      (ServiceRequest.ServedBy service) start crowd) :
    (∀ one two user, one ≠ two → (one, told (.lockUser user) (.ok ())) ∈ crowd.log →
      (two, told (.lockUser user) (.ok ())) ∈ crowd.log →
      (∃ outcome, crowd.tasks[one]? = some (.done outcome)) ∨
        ∃ outcome, crowd.tasks[two]? = some (.done outcome)) ∧
    (∀ (task : Nat) (response : ConnectResponse),
      crowd.tasks[task]? = some (.done (.connected (.ok response))) →
      response.message = ConnectResponse.reconnectMessage →
      ServiceCrowd.Resumed service crowd.log task response) ∧
    ∀ (task : Nat) (response : ConnectResponse) later,
      crowd.tasks[task]? = some (.done (.connected (.ok response))) →
      Relation.ReflTransGen (Crowd.Moves (Backing.answers manager fails) Program.Turn
        (ServiceRequest.ServedBy service)) crowd later →
      ∃ session ∈ later.state.table.rows, session.id = response.session := by
  obtain ⟨stages, orderly, alike⟩ := ServiceCrowd.orderly_of_reached reliable empty reached
  refine ⟨?_, ?_, ?_⟩
  · -- Two connects of one user hold the lock in turn, so one of them has ended.
    intro one two user different first second
    rw [← alike.log] at first second
    rcases orderly.locks.granted one user first with holding | ⟨outcome, ended⟩
    · rcases orderly.locks.granted two user second with owning | ⟨outcome, ended⟩
      · exact absurd (orderly.locks.alone one two user holding owning) different
      · exact Or.inr ⟨outcome, (ServiceCrowd.done_iff_finished alike).mpr ended⟩
    · exact Or.inl ⟨outcome, (ServiceCrowd.done_iff_finished alike).mpr ended⟩
  · -- A resumed session has been announced, as the telling of answers keeps it.
    intro task response done message
    have ended := (ServiceCrowd.done_iff_finished alike).mp done
    rw [← alike.log]
    exact orderly.telling.resumed task response (Crowd.reading_of_found ended) message
  · intro task response later done moved
    -- What is done stays done, and the later crowd has come about, too.
    have still := Crowd.stays moved done fun _ _ => Program.Turn.not_done
    obtain ⟨stages, orderly, alike⟩ :=
      ServiceCrowd.orderly_of_reached reliable empty (reached.trans moved)
    have ended := (ServiceCrowd.done_iff_finished alike).mp still
    obtain ⟨⟨user, session, member, same, -⟩, -⟩ :=
      orderly.telling.kept task response (Crowd.reading_of_found ended)
    rw [alike.state] at member
    exact ⟨session, member, same⟩

/-- A client that connects a second time comes back to a session that was announced before. -/
theorem second_connect_resumes :
    ∃ (crowd : Crowd (Timed ServiceCall) (Timed.Answer ServiceCall.Answer) (Backing Management)
        (ServiceProgram ServiceOutcome)) (response : ConnectResponse),
      crowd.tasks[1]? = some (.done (.connected (.ok response))) ∧
      response.message = ConnectResponse.reconnectMessage ∧
      ServiceCrowd.Resumed ⟨.ofBytes [], .default⟩ crowd.log 1 response := by
  -- One backing serves the two connects, so the second finds what the first has left behind.
  let options : TopologyOptions := ⟨none, none⟩
  let reply := Backing.complyTimed options (.ok ())
  let program := (ServiceRequest.connect "ada" "token").program ⟨.ofBytes [], .default⟩
  let between := (program.run reply Backing.untouched).2
  have failing : ∀ user tokenId, Backing.DeletesNothing (.create user tokenId) := fun _ _ => nofun
  have runs := Program.runs_run (Backing.complyTimed_answers options (.ok ()) failing) program
  have served : ServiceRequest.ServedBy ⟨.ofBytes [], .default⟩ program := ⟨_, rfl⟩
  have reached := (Crowd.Reached.serve .refl served (runs Backing.untouched)).serve served
    (runs between)
  -- Only the message is computed; that the session is the announced one follows from the theorem.
  have told : (program.run reply between).1.response?.map ConnectResponse.message =
      some ConnectResponse.reconnectMessage := by
    decide +kernel
  obtain ⟨response, given, message⟩ := Option.map_eq_some_iff.mp told
  have located : (([] ++ [Program.done (program.run reply Backing.untouched).1]) ++
      [Program.done (program.run reply between).1] : List (ServiceProgram ServiceOutcome))[1]? =
        some (.done (.connected (.ok response))) := by
    rw [ServiceOutcome.response?_eq_some.mp given]
    rfl
  exact ⟨_, response, located, message,
    (connects_keep_apart Backing.not_deletesNothing rfl reached).2.1 1 response located message⟩

end Programs

end SessionGate
