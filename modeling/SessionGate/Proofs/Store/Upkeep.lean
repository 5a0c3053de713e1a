import SessionGate.Proofs.Connection.Compliance

/-! What a store in memory keeps to whatever it is asked: every session stands under its own
identifier, no user has two in progress, and an operation touches the one session it is about, or,
refused, none at all. -/

namespace SessionGate

namespace StoreCall

/-- The session that a call is about: the one it names, or the one it has made. A call that only
looks is about none. -/
def subject? : (call : StoreCall) → call.Answer → Option SessionId
  | .create _ _, .ok made => some made.id
  | .setStatus id _, _ | .complete id, _ | .transition id _, _ | .setDispatcherStatus id _, _
  | .delete id, _ => some id
  | .create _ _, .error _ | .activeSession _, _ | .session _, _ | .ping, _ => none

end StoreCall

namespace SessionTable

variable {table after : SessionTable} {session : Session} {id gone : SessionId} {user : UserId}
  {fresh : Fresh} {call : StoreCall} {given : call.Answer}

/-- A session that stands in the place of another one of its identifier is found where that one
was. -/
theorem find?_replace (rows : List Session) (session : Session) (id : SessionId) :
    (rows.map fun known => if known.id == session.id then session else known).find?
        (fun row => row.id == id) =
      (rows.find? fun row => row.id == id).map fun known =>
        if known.id == session.id then session else known := by
  -- Replacing changes no identifier, so the search stops at the same place.
  rw [List.find?_map]
  have alike : ((fun row : Session => row.id == id) ∘
      fun known => if known.id == session.id then session else known) =
        fun row => row.id == id := by
    funext known
    by_cases replaced : known.id = session.id
    · simp [replaced]
    · simp [replaced]
  rw [alike]

/-- A session that was put in leaves the others to be found as before. -/
theorem find?_insert (away : session.id ≠ id) :
    (table.insert session).find? id = table.find? id := by
  unfold insert
  split
  · -- The row that is replaced is not the one that is looked for.
    unfold find?
    rw [find?_replace]
    cases found : table.rows.find? fun row => row.id == id with
    | none => rfl
    | some row =>
      have named : row.id = id := by simpa using List.find?_some found
      have kept : row.id ≠ session.id := fun same => away (same.symm.trans named)
      simp [kept]
  · simp [find?, List.find?_append, away]

/-- A session that was put in is found. -/
theorem find?_insert_same (table : SessionTable) (session : Session) :
    (table.insert session).find? session.id = some session := by
  unfold insert find?
  cases found : table.rows.find? fun row => row.id == session.id with
  | none =>
    -- Nothing stands in its place yet, so it comes after all.
    have unknown : ¬ (table.rows.any fun known => known.id == session.id) = true := by
      simpa [List.find?_eq_none] using found
    rw [if_neg unknown]
    simp [List.find?_append, found]
  | some row =>
    have named : row.id = session.id := by simpa using List.find?_some found
    have known : (table.rows.any fun known => known.id == session.id) = true :=
      List.any_eq_true.mpr ⟨row, List.mem_of_find?_eq_some found, by simpa using named⟩
    rw [if_pos known]
    dsimp only
    rw [find?_replace, found]
    simp [named]

/-- A look at a session leaves all sessions as they are. -/
theorem perform_session : (table.perform fresh (.session id)).2 = table := by
  -- The table is returned as it was, whatever is found.
  simp only [perform]
  cases table.find? id with
  | none => rfl
  | some session => rfl

/-- A session that is there stays there when the dispatcher's report on it is kept. -/
theorem find?_perform_setDispatcherStatus (table : SessionTable) (fresh : Fresh)
    (id : SessionId) (status : String) :
    ((table.perform fresh (.setDispatcherStatus id status)).2.find? id).isSome =
      (table.find? id).isSome := by
  -- The row put back has the same identifier.
  simp only [perform, update]
  cases found : table.find? id with
  | none => simp [found]
  | some session =>
    obtain ⟨-, rfl⟩ := mem_of_find? found
    have kept := table.find?_insert_same { session with dispatcherStatus := status }
    simp only at kept
    simp [kept]

/-- A session is found with its new status once it has been ended, and as before where that was
refused. -/
theorem find?_perform_transition (table : SessionTable) (fresh : Fresh)
    (id : SessionId) (target : SessionStatus) :
    (table.perform fresh (.transition id target)).2 = table ∨
      ∃ old, table.find? id = some old ∧ old.status = .inProgress ∧
        (table.perform fresh (.transition id target)).2.find? id =
          some (moved fresh.now target old) := by
  -- The session is missing, still in progress or not, and only in the second case it is ended.
  simp only [perform]
  cases found : table.find? id with
  | none => exact Or.inl rfl
  | some old =>
    obtain ⟨-, rfl⟩ := mem_of_find? found
    by_cases active : old.status = .inProgress
    · refine Or.inr ⟨old, rfl, active, ?_⟩
      simp only [active, if_true]
      exact table.find?_insert_same (moved fresh.now target old)
    · exact Or.inl (by simp only [active, if_false])

/-- A session that was taken away leaves the others to be found as before. -/
theorem find?_erase (away : gone ≠ id) : (table.erase gone).find? id = table.find? id := by
  unfold find? erase
  -- The row that is taken away would not have been found anyway.
  rw [List.find?_filter]
  refine congrArg (fun test => table.rows.find? test) (funext fun row => ?_)
  by_cases named : row.id = id
  · simp [named, Ne.symm away]
  · simp [named]

/-- A change of one session that is refused changes nothing. -/
theorem update_refused {change : Session → Session} {fault : StoreError}
    (refused : (table.update id change).1 = .error fault) :
    (table.update id change).2 = table := by
  -- A session that is found is changed with success.
  rcases table.update_cases id change with ⟨_, same⟩ | ⟨old, -, -, changed⟩
  · rw [same]
  · rw [changed] at refused
    cases refused

/-- A change of one session leaves the others to be found as before. -/
theorem find?_update {other : SessionId} {change : Session → Session}
    (same : ∀ old, (change old).id = old.id) (away : id ≠ other) :
    (table.update id change).2.find? other = table.find? other := by
  -- The change is refused, or made to a session of the other identifier.
  rcases table.update_cases id change with ⟨_, refused⟩ | ⟨old, -, rfl, changed⟩
  · rw [refused]
  · rw [changed]
    exact find?_insert (same old ▸ away)

/-- A call that is refused changes nothing. -/
theorem perform_refused {fault : StoreError}
    (refused : (table.perform fresh call).1 = .error fault) :
    (table.perform fresh call).2 = table := by
  -- Every call looks for what stands against it before it changes anything.
  cases call with
  | activeSession | ping => rfl
  | session id =>
    simp only [perform]
    cases table.find? id <;> rfl
  -- A creation or a transition that is refused was refused for what stands in the table.
  | create user tokenId => exact (perform_create_error (Prod.ext refused rfl)).2
  | setStatus id status =>
    simp only [perform] at refused ⊢
    cases found : table.find? id with
    | none => rfl
    -- To bring a session back is refused where another one of its user is in progress.
    | some old =>
      simp only [found] at refused ⊢
      split at refused
      next busy => rw [if_pos busy]
      · cases refused
  | complete id => exact update_refused refused
  | transition id target => exact perform_transition_error (Prod.ext refused rfl)
  | setDispatcherStatus id status => exact update_refused refused
  | delete id => cases refused

/-- A call leaves all sessions that it is not about to be found as before. -/
theorem find?_perform (away : call.subject? (table.perform fresh call).1 ≠ some id) :
    (table.perform fresh call).2.find? id = table.find? id := by
  -- A call puts in or takes out the row of one identifier, which is the one that it is about.
  cases call with
  | activeSession | ping => rfl
  -- A look changes nothing.
  | session other =>
    simp only [perform]
    cases table.find? other <;> rfl
  | create user tokenId =>
    simp only [perform] at away ⊢
    split
    · rfl
    next free =>
      -- A session is about to be made, and its identifier is not the one that is looked for.
      rw [if_neg free] at away
      exact find?_insert fun same => away (congrArg some same)
  | setStatus other status =>
    have away : other ≠ id := fun same => away (congrArg some same)
    simp only [perform]
    cases found : table.find? other with
    -- Nothing is put in where there is nothing to change.
    | none => rfl
    | some old =>
      obtain ⟨-, rfl⟩ := mem_of_find? found
      dsimp only
      -- The row that is put in has the identifier of the old one.
      split
      · rfl
      · exact find?_insert away
  | complete other => exact find?_update (fun _ => rfl) fun same => away (congrArg some same)
  | transition other target =>
    have away : other ≠ id := fun same => away (congrArg some same)
    simp only [perform]
    cases found : table.find? other with
    | none => rfl
    | some old =>
      obtain ⟨-, rfl⟩ := mem_of_find? found
      dsimp only
      split
      · exact find?_insert away
      · rfl
  | setDispatcherStatus other status =>
    exact find?_update (fun _ => rfl) fun same => away (congrArg some same)
  | delete other => exact find?_erase fun same => away (congrArg some same)

/-- Every session stands under its own identifier alone, and no user has two in progress. What is
found bears the identifier by the way rows are looked for; that every row is found, and not another
one in its place, holds because identifiers are apart. -/
structure WellKept (table : SessionTable) : Prop where
  keyed : ∀ id session, table.find? id = some session ↔ session ∈ table.rows ∧ session.id = id
  apart : (table.rows.map Session.id).Nodup
  single : ∀ first ∈ table.rows, ∀ second ∈ table.rows, first.user = second.user →
    first.status = .inProgress → second.status = .inProgress → first = second

/-- A sound table is well kept. -/
theorem Sound.wellKept {spent : List SessionId} (sound : table.Sound spent) : table.WellKept where
  -- Identifiers are apart, so a session is found under its own and only there.
  keyed id session := by
    constructor
    · exact mem_of_find?
    · intro held
      obtain ⟨member, rfl⟩ := held
      exact sound.find? member
  apart := sound.apart
  single := sound.single

/-- In a well kept table the session in progress of a user is found, and nothing else. -/
theorem WellKept.active? (kept : table.WellKept) :
    table.active? user = some session ↔
      session ∈ table.rows ∧ session.user = user ∧ session.status = .inProgress := by
  -- There is only one session in progress, so the one found is the one that is there.
  constructor
  · exact mem_of_active?
  · intro held
    obtain ⟨member, owner, active⟩ := held
    cases found : table.active? user with
    | none => exact absurd active (active?_eq_none.mp found session member owner)
    | some other =>
      obtain ⟨present, same, busy⟩ := mem_of_active? found
      rw [kept.single other present session member (same.trans owner.symm) busy active]

end SessionTable

/-- A question to a session store: a call, or what is done with the lock of a user. -/
def ServiceCall.OfStore : ServiceCall → Prop
  | .store _ | .lockUser _ | .unlockUser _ => True
  | .identity _ | .topology _ | .publish _ _ | .momentAfter _ => False

/-- Somebody who uses a session store only. -/
def storeUse : Conduct ServiceCall ServiceCall.Answer Unit :=
  fun _ exchange _ => exchange.wanted.OfStore

/-- The session that a question is about; the lock of a user is about none. -/
def ServiceCall.subject? : (call : ServiceCall) → call.Answer → Option SessionId
  | .store call, given => call.subject? given
  | _, _ => none

/-- A question to a session store is refused. -/
def ServiceCall.Refused : (call : ServiceCall) → call.Answer → Prop
  | .store _, given => ∃ fault, given = .error fault
  | .lockUser _, given => ∃ fault, given = .error fault
  | _, _ => False

section History

variable {M : Type} {manager : TopologyManager M} {start state after : Backing M}
  {log : List (Exchange ServiceCall ServiceCall.Answer)}

/-- A store that never fails answers a question in a state. -/
abbrev Backing.Answers (manager : TopologyManager M) (state : Backing M) (call : ServiceCall)
    (given : call.Answer) (after : Backing M) : Prop :=
  call.Answered manager (fun _ => False) state given after

/-- What a store keeps to in a state: how its sessions stand there, and what a question to it can
make of them. -/
structure Backing.KeepsRules (manager : TopologyManager M) (state : Backing M) : Prop
    extends state.table.WellKept where
  active : ∀ user given after, state.Answers manager (.store (.activeSession user)) given after →
    ∃ found : Option Session, given = .ok found ∧ ∀ session, found = some session ↔
      session ∈ state.table.rows ∧ session.user = user ∧ session.status = .inProgress
  revived : ∀ id after, state.Answers manager (.store (.setStatus id .inProgress)) (.ok ()) after →
    ∃ old, state.table.find? id = some old ∧
      after.table.find? id = some { old with status := .inProgress } ∧
      ∀ row ∈ after.table.rows, row.user = old.user → row.status = .inProgress → row.id = id
  refused : ∀ call given after, call.OfStore → state.Answers manager call given after →
    call.Refused given → after.table = state.table
  elsewhere : ∀ call given after, call.OfStore → state.Answers manager call given after →
    ∀ id, call.subject? given ≠ some id → after.table.find? id = state.table.find? id

/-- A store that never fails performs what it is asked. -/
theorem Backing.Answers.performed {call : StoreCall} {given : call.Answer}
    (answers : state.Answers manager (.store call) given after) :
    ∃ fresh, (state.table.perform fresh call).1 = given ∧
      (state.table.perform fresh call).2 = after.table := by
  -- The second way to answer is that of a store that fails.
  rcases answers with ⟨fresh, table, -, performed, rfl⟩ | ⟨never, -, -⟩
  · exact ⟨fresh, by rw [performed], by rw [performed]⟩
  · exact never.elim

/-- A session that was put back in progress is there, and it is the only one in progress of its
user. -/
theorem SessionTable.Sound.revived (sound : state.table.Sound state.spent) {id : SessionId}
    (answers : state.Answers manager (.store (.setStatus id .inProgress)) (.ok ()) after) :
    ∃ old, state.table.find? id = some old ∧
      after.table.find? id = some { old with status := .inProgress } ∧
      ∀ row ∈ after.table.rows, row.user = old.user → row.status = .inProgress → row.id = id := by
  -- The answer tells that there is a session, and what the store holds is sound afterwards, too.
  have kept := (ServiceCall.Answered.sound answers sound).wellKept
  obtain ⟨fresh, told, left⟩ := answers.performed
  simp only [SessionTable.perform] at told left
  cases found : state.table.find? id with
  | none =>
    -- Where the session is missing the answer would be that.
    simp only [found] at told
    cases told
  | some old =>
    simp only [found] at told left
    split at told
    · cases told
    -- Where no other session is in progress, the old one is put back as such.
    next free =>
      rw [if_neg free] at left
      have named := (SessionTable.mem_of_find? found).2
      have member : { old with status := SessionStatus.inProgress } ∈ after.table.rows :=
        left ▸ SessionTable.mem_insert.mpr (Or.inl rfl)
      -- Any session in progress of the user is then this one, as the table has only one of them.
      refine ⟨old, rfl, (kept.keyed _ _).mpr ⟨member, named⟩, fun row held owner busy => ?_⟩
      rw [kept.single row held _ member owner busy rfl]
      exact named

/-- A store whose sessions are sound keeps to its rules. -/
theorem SessionTable.Sound.keepsRules (sound : state.table.Sound state.spent) :
    state.KeepsRules manager where
  toWellKept := sound.wellKept
  active user given after answers := by
    obtain ⟨fresh, rfl, -⟩ := answers.performed
    exact ⟨_, rfl, fun session => sound.wellKept.active?⟩
  revived _ _ answers := sound.revived answers
  refused call given after ofStore answers refused := by
    -- What the store refuses leaves the table as it is, and so does a lock that is not given.
    match call, given with
    | .store call, given =>
      obtain ⟨fault, rfl⟩ := refused
      obtain ⟨fresh, told, left⟩ := answers.performed
      rw [← left]
      exact SessionTable.perform_refused told
    | .lockUser user, .error fault => exact congrArg Backing.table answers
  elsewhere call given after ofStore answers id away := by
    match call, given with
    -- The call is about another session, so the row that is looked for stays.
    | .store call, given =>
      obtain ⟨fresh, rfl, left⟩ := answers.performed
      rw [← left]
      exact SessionTable.find?_perform away
    | .lockUser user, given | .unlockUser user, given =>
      -- What is done with a lock leaves the sessions alone.
      rw [(answers.store nofun).1]

/-- Whatever a store that began without sessions was asked, it keeps to its rules. -/
theorem store_keeps_rules
    (history : Course (ServiceCall.Answered manager fun _ => False) storeUse () start log () state)
    (empty : start.table = .empty) : state.KeepsRules manager := by
  -- A course of calls keeps a sound table sound, and a sound table keeps the rules.
  have sound : start.table.Sound start.spent := empty ▸ SessionTable.Sound.empty
  refine SessionTable.Sound.keepsRules
    (history.keeps (fun _ state => state.table.Sound state.spent) ?_ sound)
  intro _ exchange _ state middle _ answered sound
  exact answered.sound sound

/-- A state once a call has been performed. -/
def Backing.performed (state : Backing M) (fresh : Fresh) (call : StoreCall) : Backing M :=
  let performed := state.table.perform fresh call
  { state with
    table := performed.2
    spent := SessionTable.spentAfter state.spent fresh call performed.1 }

/-- A store performs one call before others. -/
theorem Course.perform {fresh : Fresh} {call : StoreCall} {final : Backing M}
    (unused : SessionTable.Unused state.spent fresh call)
    (onward : Course (ServiceCall.Answered manager fun _ => False) storeUse ()
      (state.performed fresh call) log () final) :
    Course (ServiceCall.Answered manager fun _ => False) storeUse () state
      (⟨.store call, (state.table.perform fresh call).1⟩ :: log) () final :=
  -- The call is one of the store's, and the table answers it.
  .step (show ServiceCall.OfStore (.store call) from trivial)
    (Or.inl ⟨fresh, _, unused, rfl, rfl⟩) onward

/-- Where a user has another session by now, one that was completed does not go back to being in
progress. -/
theorem completed_session_stays_beside_successor :
    ∃ (log : List (Exchange ServiceCall ServiceCall.Answer)) (state : Backing Management),
      Course (ServiceCall.Answered (Topology.manager ⟨none, none⟩) fun _ => False) storeUse ()
        Backing.untouched log () state ∧
      state.table.rows.map Session.status = [.completed, .inProgress] ∧
      ∀ after, ¬ state.Answers (Topology.manager ⟨none, none⟩)
        (.store (.setStatus (.numbered 1) .inProgress)) (.ok ()) after := by
  let ada : UserId := ⟨"ada", by decide⟩
  let noon : Timestamp := ⟨2024, 1, 1, 12, 0, 0, 0⟩
  let calls : List (Fresh × StoreCall) := [(⟨.numbered 1, noon⟩, .create ada "first"),
    (⟨.numbered 2, noon⟩, .complete (.numbered 1)), (⟨.numbered 2, noon⟩, .create ada "second")]
  -- The three orders are carried out one after the other by the same store.
  let state := calls.foldl (fun state call => state.performed call.1 call.2) Backing.untouched
  have history : Course (ServiceCall.Answered (Topology.manager ⟨none, none⟩) fun _ => False)
      storeUse () Backing.untouched _ () state :=
    .perform (by decide) (.perform (by trivial) (.perform (by decide) (.rest () _)))
  refine ⟨_, state, history, by decide, fun after answers => ?_⟩
  have kept := store_keeps_rules history rfl
  -- If the first session could be brought back, it would be the only one in progress of its user.
  obtain ⟨old, found, -, alone⟩ := kept.revived _ after answers
  have owner : (state.table.find? (.numbered 1)).map Session.user = some ada := by decide
  rw [found] at owner
  have other : state.table.find? (.numbered 2) =
      some (SessionTable.newSession ⟨.numbered 2, noon⟩ ada "second") := by decide
  -- The successor is another session, so the order would leave it in progress.
  have beside := kept.elsewhere (.store (.setStatus (.numbered 1) .inProgress)) _ after trivial
    answers (.numbered 2) (by decide)
  have member := SessionTable.mem_of_find? (beside.trans other)
  exact absurd (alone _ member.1 (Option.some.inj owner).symm rfl) (by decide)

end History

end SessionGate
