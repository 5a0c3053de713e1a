import SessionGate.Proofs.Broker.Names
import SessionGate.Proofs.Program.Course
import SessionGate.Proofs.Store.Rows

/-! A database and a table in memory are asked the same, and answer alike. -/

namespace SessionGate

/-- No zero character stands in a user identifier. -/
theorem UserId.no_nul (user : UserId) : Char.ofNat 0 ∉ user.text.toList :=
  -- The zero character is a control character, of which identifiers have none.
  fun member => absurd (user.clean member) (by decide)

/-- No zero character stands in the name of a status. -/
theorem SessionStatus.no_nul (status : SessionStatus) : Char.ofNat 0 ∉ status.name.toList := by
  -- The names are a few plain words.
  cases status <;> decide

namespace StoreCall

/-- The statement with which a database begins to answer a call. -/
def statement (newId : SessionId) : StoreCall → Statement
  | .activeSession user => .selectActive user
  | .session id => .selectById id
  | .create user tokenId => .insert newId user tokenId
  | .setStatus id status => .updateStatus id status
  | .complete id => .complete id
  | .transition id target => .transition id target
  | .setDispatcherStatus id status => .updateDispatcherStatus id status
  | .delete id => .delete id
  | .ping => .selectOne

/-- A call with a text that no database can hold. -/
def Unstorable : StoreCall → Prop
  | .create _ tokenId => Char.ofNat 0 ∈ tokenId.toList
  | .setDispatcherStatus _ status => Char.ofNat 0 ∈ status.toList
  | _ => False

/-- A statement has a value that no database can hold just if its call has such a text. -/
theorem unstorable_iff {newId : SessionId} {call : StoreCall} :
    (∃ value ∈ (call.statement newId).parameters, value.HasNul) ↔ call.Unstorable := by
  -- All other texts of a statement are names that the program gives.
  have pending : Char.ofNat 0 ∉ Session.pending.toList := by decide
  cases call <;>
    simp [statement, Statement.parameters, ColumnValue.HasNul, Unstorable, UserId.no_nul,
      SessionStatus.no_nul, pending]

/-- The same answer, but for the words in which a conflict is told. -/
def Alike {call : StoreCall} (first second : call.Answer) : Prop :=
  first = second ∨
    ∃ one other, first = .error (.conflict one) ∧ second = .error (.conflict other)

end StoreCall

namespace Database

/-- The session that an answer tells, if it tells one. -/
def told : Except DatabaseFault Outcome → Except StoreError (Option Session)
  | .error fault => .error fault.toStoreError
  | .ok ⟨[], _⟩ => .ok none
  | .ok ⟨row :: _, _⟩ => row.toSession.map some

/-- The session that an answer must tell. -/
def toldById (id : SessionId) (given : Except DatabaseFault Outcome) : Except StoreError Session :=
  match told given with
  | .error fault => .error fault
  | .ok none => .error (.notFound id)
  | .ok (some session) => .ok session

/-- An answer that must concern a session. -/
def concerned (id : SessionId) : Except DatabaseFault Outcome → Except StoreError Unit
  | .error fault => .error fault.toStoreError
  | .ok ⟨_, 0⟩ => .error (.notFound id)
  | .ok ⟨_, _ + 1⟩ => .ok ()

/-- An answer that must tell the session that was made. -/
def toldNew (given : Except DatabaseFault Outcome) : Except StoreError Session :=
  match told given with
  | .error fault => .error fault
  | .ok none => .error noRow
  | .ok (some session) => .ok session

/-- An answer that tells only whether all went well. -/
def carriedOut : Except DatabaseFault Outcome → Except StoreError Unit
  | .error fault => .error fault.toStoreError
  | .ok _ => .ok ()

/-- What is told of a session that was not in progress, by another look for it. -/
def explained (id : SessionId) (given : Except DatabaseFault Outcome) : Except StoreError Session :=
  match toldById id given with
  | .error fault => .error fault
  | .ok session => .error (.notInProgress id session.status)

/-- A look for what has become of a session that was not in progress. -/
def explain (id : SessionId) (target : SessionStatus) :
    DatabaseProgram (StoreCall.transition id target).Answer :=
  .ask (.selectById id) fun given => .done (explained id given)

/-- How the answer of a call goes on from the answer of its first statement. -/
def resume : (call : StoreCall) → Except DatabaseFault Outcome → DatabaseProgram call.Answer
  | .activeSession _, given => .done (told given)
  | .session id, given => .done (toldById id given)
  | .create _ _, given => .done (toldNew given)
  | .setStatus id _, given | .complete id, given | .setDispatcherStatus id _, given =>
    .done (concerned id given)
  | .transition id target, given =>
    match told given with
    | .error fault => .done (.error fault)
    | .ok (some session) => .done (.ok session)
    -- Only a transition asks a second time.
    | .ok none => explain id target
  | .delete _, given | .ping, given => .done (carriedOut given)

/-- A session is fetched by one statement. -/
theorem fetch_eq (statement : Statement) :
    fetch statement = .ask statement fun given => .done (told given) := by
  refine congrArg (Program.ask statement) (funext fun given => ?_)
  -- The answer is read in the same order: the fault, no row, the first row.
  rcases given with fault | ⟨_ | ⟨row, rows⟩, affected⟩
  · rfl
  · rfl
  · rfl

/-- A session is fetched by its identifier by one statement. -/
theorem fetchById_eq (id : SessionId) :
    fetchById id = .ask (.selectById id) fun given => .done (toldById id given) := by
  -- Only what is told of the rows decides, and it is a fault, nothing or a session.
  show (fetch (.selectById id)).bind _ = _
  rw [fetch_eq]
  refine congrArg (Program.ask _) (funext fun given => ?_)
  show Program.bind (.done (told given)) _ = _
  unfold toldById
  rcases told given with fault | _ | session
  · rfl
  · rfl
  · rfl

/-- A session is concerned by one statement. -/
theorem executeOn_eq (id : SessionId) (statement : Statement) :
    executeOn id statement = .ask statement fun given => .done (concerned id given) := by
  refine congrArg (Program.ask statement) (funext fun given => ?_)
  -- Only whether any row was concerned makes a difference.
  rcases given with fault | ⟨rows, _ | count⟩
  · rfl
  · rfl
  · rfl

/-- Every call begins with its statement. -/
theorem perform_eq (newId : SessionId) (call : StoreCall) :
    perform newId call = .ask (call.statement newId) (resume call) := by
  -- Each call asks its statement first, and only a transition may have to ask a second one.
  cases call with
  | activeSession user => exact fetch_eq _
  | session id => exact fetchById_eq id
  | setStatus id status => exact executeOn_eq id _
  | complete id => exact executeOn_eq id _
  | setDispatcherStatus id status => exact executeOn_eq id _
  -- What these two do with an answer they do without another look at it.
  | delete id | ping =>
    refine congrArg (Program.ask _) (funext fun given => ?_)
    cases given with
    | error fault => rfl
    | ok outcome => rfl
  | create user tokenId =>
    show (fetch (.insert newId user tokenId)).bind _ = _
    rw [fetch_eq]
    refine congrArg (Program.ask _) (funext fun given => ?_)
    show Program.bind (.done (told given)) _ = .done (toldNew given)
    unfold toldNew
    -- A fault is passed on, a row told, and no row at all is a fault of its own.
    rcases told given with fault | _ | session
    · rfl
    · rfl
    · rfl
  | transition id target =>
    show (fetch (.transition id target)).bind _ = _
    rw [fetch_eq]
    refine congrArg (Program.ask _) (funext fun given => ?_)
    show Program.bind (.done (told given)) _ = resume (.transition id target) given
    dsimp only [resume]
    rcases told given with fault | _ | session
    · rfl
    · -- No session in progress was met, and the second look begins.
      show (fetchById id).bind _ = _
      rw [fetchById_eq]
      refine congrArg (Program.ask _) (funext fun again => ?_)
      show Program.bind (.done (toldById id again)) _ = .done (explained id again)
      -- The second look tells why nothing was met: the session has ended or is missing.
      unfold explained
      rcases toldById id again with fault | session
      · rfl
      · rfl
    · rfl

/-- The row of a session tells the session. -/
theorem told_rows (found : Option Session) (count : Nat) :
    told (.ok ⟨found.toList.map .ofSession, count⟩) = .ok found := by
  -- There is a row or none, and it is read back as the session.
  cases found with
  | none => rfl
  | some session => simp [told, Except.map]

/-- The row of a new session tells the session. -/
theorem toldNew_row (made : Session) (count : Nat) :
    toldNew (.ok ⟨[.ofSession made], count⟩) = .ok made := by
  -- The row tells the session, so it was made.
  rw [toldNew, show told (.ok ⟨[.ofSession made], count⟩) = .ok (some made) from
    told_rows (some made) count]

/-- A transition that tells a row is done. -/
theorem resume_transition_row (id : SessionId) (target : SessionStatus) (made : Session)
    (count : Nat) :
    resume (.transition id target) (.ok ⟨[.ofSession made], count⟩) = .done (.ok made) := by
  simp only [resume]
  -- The row tells the session, so nothing has to be explained.
  rw [show told (.ok ⟨[.ofSession made], count⟩) = .ok (some made) from
    told_rows (some made) count]

/-- The rows of an identifier tell its session, or that there is none. -/
theorem toldById_rows (id : SessionId) (found : Option Session) (count : Nat) :
    toldById id (.ok ⟨found.toList.map .ofSession, count⟩) =
      match found with
      | some session => .ok session
      | none => .error (.notFound id) := by
  -- There is a row or none.
  rw [toldById, told_rows]
  cases found <;> rfl

end Database

namespace SessionTable

variable {table new : SessionTable} {spent : List SessionId} {newId id : SessionId}
  {now : Timestamp} {call : StoreCall} {given : Except DatabaseFault Outcome}
  {after : List SessionRow} {outcome : Outcome}

/-- What a database with the rows of a table answers to the first statement of a call. -/
def Expects (table : SessionTable) (fresh : Fresh) (given : Except DatabaseFault Outcome)
    (after : List SessionRow) : StoreCall → Prop
  | .activeSession user =>
    let found := (table.active? user).toList
    given = .ok ⟨found.map .ofSession, found.length⟩ ∧ after = table.toRows
  | .session id =>
    let found := (table.find? id).toList
    given = .ok ⟨found.map .ofSession, found.length⟩ ∧ after = table.toRows
  | .create user tokenId =>
    let made := newSession fresh user tokenId
    table.Replaced (table.insert made) ⟨[.ofSession made], 1⟩ given after
  | .setStatus id status =>
    table.Replaced (table.changed id (fun _ => true) fun session => { session with status })
      ⟨[], (table.find? id).toList.length⟩ given after
  | .complete id =>
    table.Replaced (table.changed id (fun _ => true) (moved fresh.now .completed))
      ⟨[], (table.find? id).toList.length⟩ given after
  | .transition id target =>
    let picked := ((table.find? id).filter Session.isActive).toList
    table.Replaced (table.changed id Session.isActive (moved fresh.now target))
      ⟨picked.map fun session => .ofSession (moved fresh.now target session), picked.length⟩ given
      after
  | .setDispatcherStatus id status =>
    table.Replaced (table.changed id (fun _ => true) fun session =>
      { session with dispatcherStatus := status }) ⟨[], (table.find? id).toList.length⟩ given after
  | .delete id =>
    table.Replaced (table.erase id) ⟨[], (table.find? id).toList.length⟩ given after
  | .ping => after = table.toRows ∧ given.isOk = true

/-- An update that picks a session by its identifier alone. -/
theorem answered_update_named {setting : Setting} {assignments : Assignments}
    {change : Session → Session} (sound : table.Sound spent)
    (readable : ¬ ∃ value ∈ setting.parameters, value.HasNul)
    (named : setting.parameters[1]? = some (.uuid id))
    (sets : ∀ session, SessionRow.ofValues? (assignments.values setting
      (SessionRow.ofSession session).value) = some (.ofSession (change session)))
    (same : ∀ session, (change session).id = session.id) :
    Query.Answered setting table.toRows
      (.change (.update assignments [(.column .sessionId, .parameter 2)] false)) given after ↔
      table.Replaced (table.changed id (fun _ => true) change)
        ⟨[], (table.find? id).toList.length⟩ given after := by
  -- Nothing but the identifier is asked of a row.
  have all : (table.find? id).filter (fun _ => true) = table.find? id := by
    cases table.find? id <;> rfl
  have picks : ∀ session, Conditions.meets [(.column .sessionId, .parameter 2)] setting
      (.ofSession session) = (session.id == id && true) := fun session => by
    rw [meets_id named, Bool.and_true]
  rw [answered_update sound readable picks sets same, all]
  rfl

/-- A database with the rows of a sound table answers the first statement of a call as expected. -/
theorem Sound.answered_iff (sound : table.Sound spent) (unused : Unused spent ⟨newId, now⟩ call)
    (storable : ¬ call.Unstorable) :
    (call.statement newId).Answered now table.toRows given after ↔
      table.Expects ⟨newId, now⟩ given after call := by
  -- Nothing in the parameters has a zero character that the call itself does not have.
  have readable : ¬ ∃ value ∈ (call.statement newId).parameters, value.HasNul :=
    fun nul => storable (StoreCall.unstorable_iff.mp nul)
  -- Each statement picks and sets by its own values, which stand at their places.
  cases call with
  | activeSession user =>
    refine answered_select readable ?_
    -- Filtering by the columns of the rows is filtering by what they say of a session.
    rw [← sound.filter_active]
    exact List.filter_congr fun session _ => meets_active rfl rfl
  | session id =>
    refine answered_select readable ?_
    rw [← sound.filter_named]
    exact List.filter_congr fun session _ => meets_id rfl
  | create user tokenId => exact answered_insert sound unused rfl readable
  | setStatus id status =>
    exact answered_update_named sound readable rfl (fun _ => ofValues?_status rfl) fun _ => rfl
  | complete id =>
    exact answered_update_named sound readable rfl (fun _ => ofValues?_completed rfl) fun _ => rfl
  | transition id target =>
    exact answered_update sound readable (fun _ => meets_id_active rfl)
      (fun _ => ofValues?_moved rfl) fun _ => rfl
  | setDispatcherStatus id status =>
    exact answered_update_named sound readable rfl (fun _ => ofValues?_dispatcherStatus rfl)
      fun _ => rfl
  | delete id => exact answered_delete sound rfl readable
  | ping =>
    -- The statement without a table picks nothing, so only its being answered counts.
    show after = table.toRows ∧ (Statement.selectOne = .selectOne → given.isOk = true) ↔ _
    simp [Expects]

/-- A change that gives no user a second session in progress is carried out. -/
theorem Replaced.carriedOut (replaced : table.Replaced new outcome given after)
    (single : new.Single) : given = .ok outcome ∧ after = new.toRows := by
  -- A refusal would mean that the change gives a second session.
  rcases replaced with ⟨-, told, left⟩ | ⟨double, -, -⟩
  · exact ⟨told, left⟩
  · exact absurd single double

/-- A change that gives some user a second session in progress is refused. -/
theorem Replaced.refused (replaced : table.Replaced new outcome given after)
    (double : ¬ new.Single) :
    (∃ message, given = .error ⟨DatabaseFault.uniqueViolation, message⟩) ∧
      after = table.toRows := by
  -- Being carried out would mean that the change gives none.
  rcases replaced with ⟨single, -, -⟩ | ⟨-, told, left⟩
  · exact absurd single double
  · exact ⟨told, left⟩

/-- A session is changed in memory as it is in a database. -/
theorem update_eq (table : SessionTable) (id : SessionId) (change : Session → Session) :
    table.update id change = (Database.concerned id (.ok ⟨[], (table.find? id).toList.length⟩),
      table.changed id (fun _ => true) change) := by
  -- Both look for the session once.
  unfold update changed
  cases table.find? id <;> rfl

/-- What has come of a call after its first statement: it is answered as by a table in memory, or it
is a transition that has met no session in progress. -/
inductive Settles (table : SessionTable) (fresh : Fresh) :
    (call : StoreCall) → DatabaseProgram call.Answer → List SessionRow → Prop where
  | settled {call : StoreCall} {given answer : call.Answer} {next : SessionTable}
      (performed : table.perform fresh call = (answer, next))
      (alike : StoreCall.Alike given answer) :
      Settles table fresh call (.done given) next.toRows
  | unsettled {id : SessionId} {target : SessionStatus}
      (ended : ∀ row ∈ table.rows, row.id = id → row.status ≠ .inProgress) :
      Settles table fresh (.transition id target) (Database.explain id target) table.toRows

/-- A user has another session in progress. -/
theorem hasOtherActive_exists {user : UserId} :
    table.hasOtherActive user (some id) = true ↔
      ∃ row ∈ table.rows, row.user = user ∧ row.status = .inProgress ∧ row.id ≠ id := by
  -- The table is searched for such a row.
  simp [hasOtherActive, isActiveOf, Session.isActive, and_assoc]

/-- A session is made as it is in memory, or it is refused for a conflict in both. -/
theorem Sound.settles_create (sound : table.Sound spent) {fresh : Fresh} {user : UserId}
    {tokenId : String} (unused : fresh.id ∉ spent)
    (expected : table.Expects fresh given after (.create user tokenId)) :
    table.Settles fresh (.create user tokenId) (Database.resume (.create user tokenId) given)
      after := by
  have kept := sound.perform (show Unused spent fresh (.create user tokenId) from unused)
  -- What is refused beforehand in memory is refused by the index of the database.
  by_cases busy : table.hasOtherActive user none = true
  · have performed : table.perform fresh (.create user tokenId) =
        (.error (conflict user), table) := by
      simp only [SessionTable.perform, if_pos busy]
    -- Two sessions in progress of one user cannot both stand in the table.
    have double : ¬ (table.insert (newSession fresh user tokenId)).Single := by
      intro single
      have free : table.hasOtherActive user none = false := by
        refine hasOtherActive_none.mpr fun row member owner active => ?_
        have different : row.id ≠ fresh.id := sound.unknown unused row member
        have same := single row (mem_insert.mpr (Or.inr ⟨member, different⟩)) _
          (mem_insert.mpr (Or.inl rfl)) owner active rfl
        exact different (congrArg Session.id same)
      rw [free] at busy
      cases busy
    obtain ⟨⟨message, rfl⟩, rfl⟩ := Replaced.refused expected double
    exact .settled performed (Or.inr ⟨_, _, rfl, rfl⟩)
  · have performed : table.perform fresh (.create user tokenId) =
        (.ok (newSession fresh user tokenId), table.insert (newSession fresh user tokenId)) := by
      simp only [SessionTable.perform, if_neg busy]
    rw [performed] at kept
    -- Otherwise the row goes in on either side, and the answer is the row told as new.
    obtain ⟨rfl, rfl⟩ := Replaced.carriedOut expected kept.single
    exact .settled performed (Or.inl (Database.toldNew_row _ _))

/-- A transition is made as it is in memory, or it has met no session in progress. -/
theorem Sound.settles_transition (sound : table.Sound spent) {fresh : Fresh}
    {target : SessionStatus} (expected : table.Expects fresh given after (.transition id target)) :
    table.Settles fresh (.transition id target) (Database.resume (.transition id target) given)
      after := by
  have kept := sound.perform (show Unused spent fresh (.transition id target) from trivial)
  -- The statement picks a row only where a session in progress is found in memory.
  by_cases met : ∃ old, table.find? id = some old ∧ old.status = .inProgress
  · -- The row is picked by its identifier and by being in progress, as the look in memory finds it.
    obtain ⟨old, found, active⟩ := met
    have performed : table.perform fresh (.transition id target) =
        (.ok (moved fresh.now target old), table.insert (moved fresh.now target old)) := by
      simp only [SessionTable.perform, found, if_pos active]
    have picked : (table.find? id).filter Session.isActive = some old := by
      rw [found, Option.filter_some, if_pos (by simp [Session.isActive, active])]
    simp only [Expects, changed, picked] at expected
    rw [performed] at kept
    obtain ⟨rfl, rfl⟩ := Replaced.carriedOut expected kept.single
    have told := Database.resume_transition_row id target (moved fresh.now target old) 1
    exact told ▸ .settled performed (Or.inl rfl)
  · -- Where none is in progress, the statement picks no row and changes nothing.
    have unpicked : (table.find? id).filter Session.isActive = none := by
      refine Option.filter_eq_none_iff.mpr fun old found => ?_
      simpa [Session.isActive] using fun active => met ⟨old, found, active⟩
    simp only [Expects, changed, unpicked] at expected
    obtain ⟨rfl, rfl⟩ := Replaced.carriedOut expected sound.single
    refine .unsettled fun row member named active => met ⟨row, ?_, active⟩
    rw [← named]
    exact sound.find? member

/-- A status is set as it is in memory, or it is refused for a conflict in both. -/
theorem Sound.settles_setStatus (sound : table.Sound spent) {fresh : Fresh} {status : SessionStatus}
    (expected : table.Expects fresh given after (.setStatus id status)) :
    table.Settles fresh (.setStatus id status) (Database.resume (.setStatus id status) given)
      after := by
  -- The session is there or not, and if it is, the status may be refused for the other session in
  -- progress.
  have kept := sound.perform (show Unused spent fresh (.setStatus id status) from trivial)
  cases found : table.find? id with
  | none =>
    have performed : table.perform fresh (.setStatus id status) =
        (.error (.notFound id), table) := by
      simp only [SessionTable.perform, found]
    simp only [Expects, changed, found] at expected
    obtain ⟨rfl, rfl⟩ := Replaced.carriedOut expected sound.single
    exact .settled performed (Or.inl rfl)
  | some old =>
    obtain ⟨member, rfl⟩ := mem_of_find? found
    simp only [Expects, changed, found] at expected
    by_cases refused : status = .inProgress ∧ table.hasOtherActive old.user (some old.id) = true
    · have performed : table.perform fresh (.setStatus old.id status) =
          (.error (conflict old.user), table) := by
        simp only [SessionTable.perform, found, if_pos refused]
      -- The other session in progress would be a second one.
      have double : ¬ (table.insert { old with status }).Single := by
        obtain ⟨active, other⟩ := refused
        obtain ⟨row, present, owner, busy, different⟩ := hasOtherActive_exists.mp other
        intro single
        have same : row = { old with status } := single row
          (mem_insert.mpr (Or.inr ⟨present, different⟩)) _ (mem_insert.mpr (Or.inl rfl)) owner busy
          active
        exact different (by rw [same])
      obtain ⟨⟨message, rfl⟩, rfl⟩ := Replaced.refused expected double
      exact .settled performed (Or.inr ⟨_, _, rfl, rfl⟩)
    · have performed : table.perform fresh (.setStatus old.id status) =
          (.ok (), table.insert { old with status }) := by
        simp only [SessionTable.perform, found, if_neg refused]
      rw [performed] at kept
      obtain ⟨rfl, rfl⟩ := Replaced.carriedOut expected kept.single
      exact .settled performed (Or.inl rfl)

/-- After its first statement a call is answered as it is in memory, or it is a transition that has
to look again. -/
theorem Sound.settles (sound : table.Sound spent) {fresh : Fresh} (unused : Unused spent fresh call)
    (expected : table.Expects fresh given after call) :
    table.Settles fresh call (Database.resume call given) after := by
  have kept := sound.perform unused
  -- Statements that only change or delete can be refused in no table that stays sound.
  cases call with
  -- A look leaves the table as it is, and both sides tell the row that is found.
  | activeSession user =>
    obtain ⟨rfl, rfl⟩ := expected
    exact .settled rfl (Or.inl (Database.told_rows _ _))
  | session id =>
    obtain ⟨rfl, rfl⟩ := expected
    have performed : table.perform fresh (.session id) =
        (Database.toldById id (.ok ⟨(table.find? id).toList.map .ofSession,
          (table.find? id).toList.length⟩), table) := by
      rw [Database.toldById_rows, SessionTable.perform]
      cases table.find? id <;> rfl
    exact .settled performed (Or.inl rfl)
  | create user tokenId => exact sound.settles_create unused expected
  | setStatus id status => exact sound.settles_setStatus expected
  -- A change by the identifier alone is one statement, and the same change of the row in memory.
  | complete id =>
    rw [SessionTable.perform, update_eq] at kept
    obtain ⟨rfl, rfl⟩ := Replaced.carriedOut expected kept.single
    exact .settled (update_eq _ _ _) (Or.inl rfl)
  | transition id target => exact sound.settles_transition expected
  | setDispatcherStatus id status =>
    rw [SessionTable.perform, update_eq] at kept
    obtain ⟨rfl, rfl⟩ := Replaced.carriedOut expected kept.single
    exact .settled (update_eq _ _ _) (Or.inl rfl)
  | delete id =>
    obtain ⟨rfl, rfl⟩ := Replaced.carriedOut expected kept.single
    exact .settled rfl (Or.inl rfl)
  -- The question whether the store is there has an answer as such.
  | ping =>
    obtain ⟨rfl, well⟩ := expected
    cases given with
    | error fault => cases well
    | ok outcome => exact .settled rfl (Or.inl rfl)

/-- Another look explains to a transition that has met no session in progress why: it is answered
as by a table in memory then. -/
theorem explains {fresh : Fresh} {target : SessionStatus}
    (ended : ∀ row ∈ table.rows, row.id = id → row.status ≠ .inProgress)
    (expected : table.Expects fresh given after (.session id)) :
    table.perform fresh (.transition id target) = (Database.explained id given, table) ∧
      after = table.toRows := by
  -- A session that is there has ended, so in memory it would be refused for its status.
  obtain ⟨rfl, rfl⟩ := expected
  refine ⟨?_, rfl⟩
  rw [Database.explained, Database.toldById_rows, SessionTable.perform]
  cases found : table.find? id with
  | none => rfl
  | some old =>
    obtain ⟨member, named⟩ := mem_of_find? found
    exact if_neg (ended old member named)

/-- To the first statement of every call there is an answer that is expected. -/
theorem exists_expects (table : SessionTable) (fresh : Fresh) (call : StoreCall) :
    ∃ given after, table.Expects fresh given after call := by
  -- A change is either carried out or refused, whatever it leads to.
  have replaced : ∀ (new : SessionTable) (outcome : Outcome),
      ∃ given after, table.Replaced new outcome given after := by
    intro new outcome
    by_cases single : new.Single
    · exact ⟨_, _, Or.inl ⟨single, rfl, rfl⟩⟩
    · exact ⟨_, _, Or.inr ⟨single, ⟨"", rfl⟩, rfl⟩⟩
  cases call with
  | activeSession user | session id => exact ⟨_, _, rfl, rfl⟩
  | ping => exact ⟨.ok ⟨[], 1⟩, _, rfl, rfl⟩
  | create | setStatus | complete | transition | setDispatcherStatus | delete => exact replaced _ _

end SessionTable

namespace Database

open SessionTable (Sound Unused)

variable {table : SessionTable} {spent : List SessionId} {fresh : Fresh} {call : StoreCall}
  {after : List SessionRow}

/-- How a database answers statements at a time. -/
abbrev answers (now : Timestamp) :
    Surroundings Statement (fun _ => Except DatabaseFault Outcome) (List SessionRow) :=
  fun statement rows given after => statement.Answered now rows given after

/-- A call that a database with the rows of a table carries through is answered as by the table, and
leaves the rows that the table has then. -/
theorem runs_alike (sound : table.Sound spent) (unused : Unused spent fresh call)
    (storable : ¬ call.Unstorable) {given : call.Answer}
    {log : List (Exchange Statement fun _ => Except DatabaseFault Outcome)}
    (ran : (perform fresh.id call).Runs (answers fresh.now) table.toRows log given after) :
    StoreCall.Alike given (table.perform fresh call).1 ∧
      after = (table.perform fresh call).2.toRows := by
  rw [perform_eq, Program.runs_ask] at ran
  obtain ⟨first, middle, rest, answered, ran, -⟩ := ran
  -- What the first statement may answer is known, and with it where the call has come to.
  have settles := sound.settles unused ((sound.answered_iff unused storable).mp answered)
  generalize resume call first = program at settles ran
  -- There is a second statement only where the first has met no session in progress.
  cases settles with
  | settled performed alike =>
    obtain ⟨-, rfl, rfl⟩ := Program.runs_done.mp ran
    rw [performed]
    exact ⟨alike, rfl⟩
  | @unsettled id target ended =>
    obtain ⟨second, last, _, answered, ran, -⟩ := Program.runs_ask.mp ran
    obtain ⟨-, rfl, rfl⟩ := Program.runs_done.mp ran
    -- The second statement is the look for a session by its identifier.
    have look : Unused spent fresh (.session id) := trivial
    have expected := (sound.answered_iff look (fun never => never)).mp answered
    have explained : table.perform fresh (.transition id target) = _ ∧ _ :=
      SessionTable.explains ended expected
    rw [explained.1]
    exact ⟨Or.inl rfl, explained.2⟩

/-- A database with the rows of a table carries every call through. -/
theorem exists_runs (sound : table.Sound spent) (unused : Unused spent fresh call)
    (storable : ¬ call.Unstorable) :
    ∃ log given after,
      (perform fresh.id call).Runs (answers fresh.now) table.toRows log given after := by
  -- The first statement has an answer, and so has the second one of a transition that must look
  -- again.
  obtain ⟨first, middle, expected⟩ := table.exists_expects fresh call
  have answered := (sound.answered_iff unused storable).mpr expected
  have settles := sound.settles unused expected
  rw [perform_eq]
  generalize onward : resume call = next at settles ⊢
  suffices rest : ∃ log given after,
      (next first).Runs (answers fresh.now) middle log given after by
    obtain ⟨log, given, after, ran⟩ := rest
    exact ⟨_, given, after, Program.runs_ask.mpr ⟨first, middle, log, answered, ran, rfl⟩⟩
  generalize next first = program at settles
  cases settles with
  | settled => exact ⟨_, _, _, Program.runs_done.mpr ⟨rfl, rfl, rfl⟩⟩
  | @unsettled id target ended =>
    obtain ⟨second, last, expected⟩ := table.exists_expects fresh (.session id)
    have look : Unused spent fresh (.session id) := trivial
    have answered := (sound.answered_iff look (fun never => never)).mpr expected
    exact ⟨_, _, last, Program.runs_ask.mpr ⟨second, last, [], answered,
      Program.runs_done.mpr ⟨rfl, rfl, rfl⟩, rfl⟩⟩

/-- Calls that a database answers one after another, each with the identifier for a new session and
the time, and with what it is answered and the rows that this leaves. -/
inductive Serves : List SessionRow → List (Fresh × StoreCall) →
    List ((call : StoreCall) × call.Answer × List SessionRow) → Prop where
  | none {rows : List SessionRow} : Serves rows [] []
  | next {rows between : List SessionRow} {fresh : Fresh} {call : StoreCall} {given : call.Answer}
      {log : List (Exchange Statement fun _ => Except DatabaseFault Outcome)}
      {rest : List (Fresh × StoreCall)}
      {served : List ((call : StoreCall) × call.Answer × List SessionRow)}
      (ran : (perform fresh.id call).Runs (answers fresh.now) rows log given between)
      (onward : Serves between rest served) :
      Serves rows ((fresh, call) :: rest) (⟨call, given, between⟩ :: served)

end Database

namespace SessionTable

/-- Calls that a table answers one after another, with what each is answered and the table that this
leaves. -/
def serve (table : SessionTable) :
    List (Fresh × StoreCall) → List ((call : StoreCall) × call.Answer × SessionTable)
  | [] => []
  | (fresh, call) :: rest =>
    let performed := table.perform fresh call
    ⟨call, performed.1, performed.2⟩ :: performed.2.serve rest

end SessionTable

/-- The identifiers with which sessions are to be made. -/
def newIds (calls : List (Fresh × StoreCall)) : List SessionId :=
  calls.filterMap fun call =>
    match call.2 with
    | .create _ _ => some call.1.id
    | _ => none

/-- A database and a table have answered a call alike, neither of them has found anything corrupt,
and both hold the same sessions. -/
inductive Agree : (call : StoreCall) × call.Answer × List SessionRow →
    (call : StoreCall) × call.Answer × SessionTable → Prop where
  | agree {call : StoreCall} {given answer : call.Answer} {table : SessionTable}
      (alike : StoreCall.Alike given answer) (sound : ∀ reason, given ≠ .error (.corrupt reason)) :
      Agree ⟨call, given, table.toRows⟩ ⟨call, answer, table⟩

/-- A table in memory never finds anything corrupt. -/
theorem SessionTable.perform_not_corrupt (table : SessionTable) (fresh : Fresh) (call : StoreCall)
    (reason : String) : (table.perform fresh call).1 ≠ .error (.corrupt reason) := by
  intro same
  -- Faults of a table in memory are told where a session is missing, ended or in the way.
  cases call with
  | activeSession | delete | ping => cases same
  | session id | transition id target =>
    simp only [perform] at same
    cases found : table.find? id with
    | none =>
      rw [found] at same
      cases same
    | some old => grind
  | create | setStatus | complete | setDispatcherStatus => grind [perform, update, conflict]

/-- Where one answer finds nothing corrupt, neither does one like it. -/
theorem StoreCall.Alike.not_corrupt {call : StoreCall} {given answer : call.Answer}
    {reason : String} (alike : Alike given answer) (sound : answer ≠ .error (.corrupt reason)) :
    given ≠ .error (.corrupt reason) := by
  -- An alike answer is the same one, or both tell a conflict.
  rcases alike with rfl | ⟨one, other, rfl, -⟩
  · exact sound
  · exact nofun

section Sequences

variable {fresh : Fresh} {call : StoreCall} {rest : List (Fresh × StoreCall)}
  {spent : List SessionId}

/-- Where the identifiers for new sessions are apart, the first of them is unused. -/
theorem unused_of_newIds (new : ∀ id ∈ newIds ((fresh, call) :: rest), id ∉ spent) :
    SessionTable.Unused spent fresh call := by
  -- Only a call that makes a session takes an identifier.
  cases call with
  | create user tokenId => exact new fresh.id List.mem_cons_self
  | _ => trivial

/-- Where the identifiers for new sessions are apart, they stay so after the first call. -/
theorem newIds_rest (apart : (newIds ((fresh, call) :: rest)).Nodup)
    (new : ∀ id ∈ newIds ((fresh, call) :: rest), id ∉ spent) (given : call.Answer) :
    (newIds rest).Nodup ∧
      ∀ id ∈ newIds rest, id ∉ SessionTable.spentAfter spent fresh call given := by
  -- Only a call that makes a session uses one up.
  cases call with
  | create user tokenId =>
    obtain ⟨first, apart⟩ := List.nodup_cons.mp apart
    refine ⟨apart, fun id member known => ?_⟩
    have old := new id (List.mem_cons_of_mem _ member)
    cases given with
    | error fault => exact old known
    | ok made =>
      rcases List.mem_cons.mp known with rfl | known
      · exact first member
      · exact old known
  | _ => exact ⟨apart, new⟩

end Sequences

/-- Calls with storable texts are made one after another of a database and of a table in memory,
both empty at first. Identifiers for new sessions are drawn at random and taken never to repeat,
also where no session is made with one. Then the calls are all answered, and each is answered alike
by both: by the same value or the same fault, where only a conflict may be told in other words.
Nothing is ever found corrupt, and after every call both hold the same sessions. -/
theorem stores_agree {calls : List (Fresh × StoreCall)} (apart : (newIds calls).Nodup)
    (storable : ∀ call ∈ calls, ¬ call.2.Unstorable) :
    (∃ served, Database.Serves [] calls served) ∧ ∀ served, Database.Serves [] calls served →
      List.Forall₂ Agree served (SessionTable.empty.serve calls) := by
  -- To go through by induction the statement has to start from any sound table.
  suffices general : ∀ (table : SessionTable) (spent : List SessionId), table.Sound spent →
      (∀ id ∈ newIds calls, id ∉ spent) →
      (∃ served, Database.Serves table.toRows calls served) ∧
        ∀ served, Database.Serves table.toRows calls served →
          List.Forall₂ Agree served (table.serve calls) from
    general .empty [] .empty fun _ _ => List.not_mem_nil
  -- The induction is on the calls, from whatever the calls before have left.
  induction calls with
  | nil =>
    intro table spent _ _
    refine ⟨⟨[], .none⟩, fun served history => ?_⟩
    cases history
    exact .nil
  | cons first rest ih =>
    obtain ⟨fresh, call⟩ := first
    intro table spent sound new
    have unused := unused_of_newIds new
    -- The identifier given out now is not given out again, so the rest may go on from the new
    -- table.
    have fit := storable _ List.mem_cons_self
    obtain ⟨apart, new⟩ := newIds_rest apart new (table.perform fresh call).1
    have others := fun call member => storable call (List.mem_cons_of_mem _ member)
    obtain ⟨served, agree⟩ :=
      ih apart others (table.perform fresh call).2 _ (sound.perform unused) new
    constructor
    · -- There is a history: this call has a run, and the others have one behind it.
      obtain ⟨log, given, after, ran⟩ := Database.exists_runs sound unused fit
      obtain ⟨served, history⟩ := served
      obtain ⟨-, rfl⟩ := Database.runs_alike sound unused fit ran
      exact ⟨_, .next ran history⟩
    · -- And every history agrees, as its first run can only end in the table that memory has.
      intro served history
      cases history with
      | next ran onward =>
        obtain ⟨alike, rfl⟩ := Database.runs_alike sound unused fit ran
        refine .cons (.agree alike fun reason => ?_) (agree _ onward)
        exact alike.not_corrupt (table.perform_not_corrupt fresh call reason)

/-- A second session of one user is refused for a conflict by a database, as it is in memory. -/
theorem second_session_conflicts :
    ∃ (ada : UserId) (now : Timestamp) (message : String) (rows : List SessionRow)
      (served : List ((call : StoreCall) × call.Answer × List SessionRow)),
      Database.Serves [] [(⟨.numbered 1, now⟩, .create ada "one"), (⟨.numbered 2, now⟩,
        .create ada "two")] served ∧
      served[1]? = some ⟨.create ada "two", .error (.conflict message), rows⟩ := by
  -- Two clients create a session for one user, one after the other.
  let ada : UserId := ⟨"ada", by decide⟩
  let now : Timestamp := ⟨2024, 1, 1, 0, 0, 0, 0⟩
  let calls : List (Fresh × StoreCall) :=
    [(⟨.numbered 1, now⟩, .create ada "one"), (⟨.numbered 2, now⟩, .create ada "two")]
  have apart : (newIds calls).Nodup := by decide
  have storable : ∀ call ∈ calls, ¬ call.2.Unstorable := by
    simp [calls, StoreCall.Unstorable]
  obtain ⟨⟨served, history⟩, agree⟩ := stores_agree apart storable
  cases agree served history with
  | cons first rest =>
  cases rest with
  | cons second rest =>
  cases second with
  | @agree _ given _ _ alike _ =>
  -- In memory the answer is a conflict, and the database answers alike.
  obtain ⟨message, rfl⟩ : ∃ message, given = .error (.conflict message) := by
    rcases alike with same | ⟨message, -, told, -⟩
    · exact ⟨_, same⟩
    · exact ⟨message, told⟩
  exact ⟨ada, now, message, _, _, history, rfl⟩

end SessionGate
