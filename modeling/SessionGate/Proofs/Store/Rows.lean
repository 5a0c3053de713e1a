import SessionGate.Proofs.Store.Query
import SessionGate.Proofs.Store.Table

/-! A table of sessions as the rows of a database, and what queries find and change in such rows. -/

namespace SessionGate

/-- What has the text of a user identifier is read as this identifier. -/
@[simp] theorem UserId.parse_text (user : UserId) : UserId.parse user.text = .ok user := by
  unfold UserId.parse
  -- The text of an identifier has been found sound when the identifier was made.
  split
  next => rfl
  next fault found => exact absurd (user.sound.symm.trans found) nofun

/-- Different user identifiers have different texts. -/
@[simp] theorem UserId.text_inj {user other : UserId} : user.text = other.text ↔ user = other := by
  -- An identifier of a user is its text with a proof about it.
  constructor
  · intro same
    cases user
    cases other
    cases same
    rfl
  · exact congrArg UserId.text

/-- What has the name of a status is read as this status. -/
@[simp] theorem SessionStatus.ofName?_name (status : SessionStatus) :
    SessionStatus.ofName? status.name = some status := by
  -- Each of the statuses is looked up by its own name.
  cases status <;> decide

/-- Different statuses have different names. -/
@[simp] theorem SessionStatus.name_inj {status other : SessionStatus} :
    status.name = other.name ↔ status = other := by
  -- There are three statuses, and no two share a name.
  cases status <;> cases other <;> decide

namespace SessionRow

/-- The row of a session. -/
def ofSession (session : Session) : SessionRow where
  id := session.id
  user := session.user.text
  tokenId := session.tokenId
  status := session.status.name
  dispatcherStatus := session.dispatcherStatus
  createdAt := session.createdAt
  completedAt := session.completedAt

/-- The row of a session is read as this session. -/
@[simp] theorem toSession_ofSession (session : Session) :
    (ofSession session).toSession = .ok session := by
  -- Each column holds its field, and the two that are read with a check hold what passes it.
  simp [toSession, ofSession]

end SessionRow

/-- The rows of a table. -/
def SessionTable.toRows (table : SessionTable) : List SessionRow :=
  table.rows.map SessionRow.ofSession

/-- No user has two sessions in progress. -/
def SessionTable.Single (table : SessionTable) : Prop :=
  ∀ first ∈ table.rows, ∀ second ∈ table.rows, first.user = second.user →
    first.status = .inProgress → second.status = .inProgress → first = second

section Constraints

variable {table : SessionTable}

/-- The rows of a table have the identifiers of its sessions. -/
theorem ids_toRows (table : SessionTable) :
    table.toRows.map SessionRow.id = table.rows.map Session.id := by
  -- The row of a session takes over its identifier.
  rw [SessionTable.toRows, List.map_map]
  rfl

/-- The rows of a table have statuses that there are. -/
theorem status_toRows (table : SessionTable) :
    ∀ row ∈ table.toRows, row.status ∈ ["IN_PROGRESS", "COMPLETED", "TIMEOUT"] := by
  -- The status of a row is the name of the session's status.
  intro row member
  obtain ⟨session, -, rfl⟩ := List.mem_map.mp member
  show session.status.name ∈ _
  cases session.status <;> decide

/-- Users of sessions in progress stay apart just if none of them has two. -/
theorem single_toRows (apart : (table.rows.map Session.id).Nodup) :
    ((table.toRows.filter fun row => row.status == "IN_PROGRESS").map SessionRow.user).Nodup ↔
      table.Single := by
  have active : ∀ session : Session,
      ((SessionRow.ofSession session).status == "IN_PROGRESS") = session.isActive := by
    intro session
    show (session.status.name == "IN_PROGRESS") = (session.status == .inProgress)
    cases session.status <;> decide
  rw [SessionTable.toRows, List.filter_map, List.map_map]
  -- Sessions are all different, so their users are apart just if no two of them are the same.
  rw [List.nodup_map_iff_inj_on ((List.Nodup.of_map _ apart).filter _)]
  simp only [List.mem_filter, Function.comp_apply, active, Session.isActive, beq_iff_eq]
  constructor
  · intro injective first one second two owner busy other
    exact injective first ⟨one, busy⟩ second ⟨two, other⟩ (congrArg UserId.text owner)
  · intro single first one second two owner
    exact single first one.1 second two.1 (UserId.text_inj.mp owner) one.2 two.2

/-- Rows of sessions keep the constraints just if identifiers are apart and users have one session
in progress at most. -/
theorem conforms_toRows (apart : (table.rows.map Session.id).Nodup) :
    Conforms table.toRows ↔ table.Single := by
  constructor
  · intro conforms
    exact (single_toRows apart).mp conforms.single
  · intro single
    -- The key and the check hold of the rows of any table whose identifiers are apart.
    refine ⟨?_, status_toRows table, (single_toRows apart).mpr single⟩
    rw [ids_toRows]
    exact apart

/-- Rows of sessions whose identifiers are apart break no constraint but the uniqueness of sessions
in progress. -/
theorem violates_toRows (apart : (table.rows.map Session.id).Nodup) {code : String}
    (violates : Violates table.toRows code) :
    code = DatabaseFault.uniqueViolation ∧ ¬ table.Single := by
  -- The check of the status and the key cannot be broken by such rows.
  cases violates with
  | key broken =>
    rw [ids_toRows] at broken
    exact absurd apart broken
  | single broken => exact ⟨rfl, fun single => broken ((single_toRows apart).mpr single)⟩
  | status broken => exact absurd (status_toRows table) broken

end Constraints

section Conditions

variable {setting : Setting} {place : Nat} {id : SessionId} {session : Session}

/-- A row is picked by its identifier. -/
theorem meets_id (named : setting.parameters[place - 1]? = some (.uuid id)) :
    Conditions.meets [(.column .sessionId, .parameter place)] setting (.ofSession session) =
      (session.id == id) := by
  -- The only condition compares the identifier with the parameter.
  simp [Conditions.meets, Term.value, named, SessionRow.value, SessionRow.ofSession,
    ColumnValue.equals?, beq_eq_decide]

/-- Rows are picked by their user and status. -/
theorem meets_active {user : UserId}
    (owner : setting.parameters[0]? = some (.text user.text))
    (status : setting.parameters[1]? = some (.text SessionStatus.inProgress.name)) :
    Conditions.meets [(.column .userId, .parameter 1), (.column .sessionStatus, .parameter 2)]
      setting (.ofSession session) = SessionTable.isActiveOf user session := by
  -- The two conditions compare the user and the status with their parameters.
  simp [Conditions.meets, Term.value, owner, status, SessionRow.value, SessionRow.ofSession,
    ColumnValue.equals?, SessionTable.isActiveOf, Session.isActive, beq_eq_decide]

/-- A row is picked by its identifier if it is in progress. -/
theorem meets_id_active (named : setting.parameters[0]? = some (.uuid id)) :
    Conditions.meets [(.column .sessionId, .parameter 1),
      (.column .sessionStatus, .literal "IN_PROGRESS")] setting (.ofSession session) =
      (session.id == id && session.isActive) := by
  -- The literal in the statement is the name of the status.
  have active : (session.status.name = "IN_PROGRESS") ↔ session.status = .inProgress := by
    cases session.status <;> decide
  simp [Conditions.meets, Term.value, named, SessionRow.value, SessionRow.ofSession,
    ColumnValue.equals?, Session.isActive, beq_eq_decide, active]

end Conditions

section Values

variable {setting : Setting} {session : Session}

/-- A time that may be missing is read as it was written. -/
@[simp] theorem ColumnValue.optionalMoment?_elim (point : Option Timestamp) :
    (point.elim ColumnValue.null ColumnValue.moment).optionalMoment? = some point := by
  -- What is missing is written as null, and what is present as a moment.
  cases point <;> rfl

/-- A row whose status is set. -/
theorem ofValues?_status {status : SessionStatus}
    (named : setting.parameters[0]? = some (.text status.name)) :
    SessionRow.ofValues? (Assignments.values [(.sessionStatus, .parameter 1)] setting
      (SessionRow.ofSession session).value) = some (.ofSession { session with status }) := by
  -- Only the status is set, and all other columns keep their values.
  simp [SessionRow.ofValues?, Assignments.values, SessionRow.value, SessionRow.ofSession,
    Term.value, named]

/-- A row that is completed. -/
theorem ofValues?_completed
    (named : setting.parameters[0]? = some (.text SessionStatus.completed.name)) :
    SessionRow.ofValues? (Assignments.values [(.sessionStatus, .parameter 1), (.completedAt, .now)]
      setting (SessionRow.ofSession session).value) =
      some (.ofSession (SessionTable.moved setting.now .completed session)) := by
  -- The status is set and the time of completion is that of the statement.
  simp [SessionRow.ofValues?, Assignments.values, SessionRow.value, SessionRow.ofSession,
    Term.value, named, ColumnValue.optionalMoment?, SessionTable.moved]

/-- A row that is moved to a status. -/
theorem ofValues?_moved {target : SessionStatus}
    (named : setting.parameters[1]? = some (.text target.name)) :
    SessionRow.ofValues? (Assignments.values [(.sessionStatus, .textParameter 2),
      (.completedAt, .choice (.textParameter 2) (.literal "COMPLETED") .now
        (.column .completedAt))] setting (SessionRow.ofSession session).value) =
      some (.ofSession (SessionTable.moved setting.now target session)) := by
  -- The choice in the statement is the one that is made in memory.
  have completed : (target.name = "COMPLETED") ↔ target = .completed := by
    cases target <;> decide
  by_cases done : target = .completed
  · subst done
    simp [SessionRow.ofValues?, Assignments.values, SessionRow.value, SessionRow.ofSession,
      Term.value, named, completed, ColumnValue.equals?, ColumnValue.optionalMoment?,
      SessionTable.moved]
  · simp [SessionRow.ofValues?, Assignments.values, SessionRow.value, SessionRow.ofSession,
      Term.value, named, completed, done, ColumnValue.equals?, SessionTable.moved]

/-- A row whose dispatcher status is set. -/
theorem ofValues?_dispatcherStatus {status : String}
    (named : setting.parameters[0]? = some (.text status)) :
    SessionRow.ofValues? (Assignments.values [(.dispatcherStatus, .parameter 1)] setting
      (SessionRow.ofSession session).value) =
      some (.ofSession { session with dispatcherStatus := status }) := by
  -- Only the dispatcher status is set, and all other columns keep their values.
  simp [SessionRow.ofValues?, Assignments.values, SessionRow.value, SessionRow.ofSession,
    Term.value, named]

/-- The row of a new session. -/
theorem ofValues?_new {id : SessionId} {user : UserId} {tokenId : String}
    (given : setting.parameters = (Statement.insert id user tokenId).parameters) :
    SessionRow.ofValues? (Assignments.values [(.sessionId, .parameter 1), (.userId, .parameter 2),
      (.tokenId, .parameter 3), (.sessionStatus, .parameter 4), (.dispatcherStatus, .parameter 5),
      (.createdAt, .now)] setting (Column.initial setting.now)) =
      some (.ofSession (SessionTable.newSession ⟨id, setting.now⟩ user tokenId)) := by
  -- The columns named are set, and the time of completion is left at null.
  simp [SessionRow.ofValues?, Assignments.values, SessionRow.ofSession, Term.value, given,
    Statement.parameters, Column.initial, ColumnValue.optionalMoment?, SessionTable.newSession]

end Values

section Picking

/-- Where one thing alone is picked, it is all that is left. -/
theorem filter_eq_singleton {α : Type} {items : List α} {pick : α → Bool} {item : α}
    (apart : items.Nodup) (member : item ∈ items) (picked : pick item = true)
    (only : ∀ other ∈ items, pick other = true → other = item) : items.filter pick = [item] := by
  have listed : item ∈ items.filter pick := List.mem_filter.mpr ⟨member, picked⟩
  have same : ∀ other ∈ items.filter pick, other = item := fun other kept =>
    only other (List.mem_filter.mp kept).1 (List.mem_filter.mp kept).2
  have nodup := apart.filter pick
  -- What is picked is the one thing some number of times, and this number is one.
  rw [List.eq_replicate_of_mem same] at listed nodup ⊢
  have one := List.nodup_replicate.mp nodup
  have some := List.length_pos_of_mem listed
  rw [List.length_replicate] at some
  rw [Nat.le_antisymm one some]
  rfl

/-- There is one order only in which one thing at most can be told. -/
theorem eq_of_perm_short {α : Type} {items others : List α} (order : items.Perm others)
    (short : others.length ≤ 1) : items = others := by
  -- At most one item has only one order.
  match others with
  | [] => exact List.perm_nil.mp order
  | [_] => exact List.perm_singleton.mp order

/-- What succeeds for each item succeeds for all. -/
theorem mapM_map_eq_some {α β γ : Type} {embed : α → β} {step : β → Option γ} {image : α → γ}
    {items : List α} (each : ∀ item ∈ items, step (embed item) = some (image item)) :
    (items.map embed).mapM step = some (items.map image) := by
  -- The induction is on the items, and the step succeeds for each.
  induction items with
  | nil => rfl
  | cons first rest ih =>
    rw [List.map_cons, List.mapM_cons, each first List.mem_cons_self,
      ih fun item member => each item (List.mem_cons_of_mem _ member)]
    rfl

end Picking

namespace SessionTable

variable {table : SessionTable} {spent : List SessionId} {id : SessionId} {user : UserId}
  {old : Session} {session : Session}

/-- Sessions of a sound table are all different. -/
theorem Sound.nodup (sound : table.Sound spent) : table.rows.Nodup :=
  -- Sessions of different identifiers are different.
  List.Nodup.of_map _ sound.apart

/-- The session of an identifier is all that is picked by it. -/
theorem Sound.filter_id (sound : table.Sound spent) {pick : Session → Bool} :
    table.rows.filter (fun session => session.id == id && pick session) =
      ((table.find? id).filter pick).toList := by
  -- No other session has the identifier, so it is enough to look at the one that is found.
  cases found : table.find? id with
  | none =>
    have absent := find?_eq_none.mp found
    exact List.filter_eq_nil_iff.mpr fun session member => by simp [absent session member]
  | some old =>
    obtain ⟨member, rfl⟩ := mem_of_find? found
    -- The one session is picked or not, and all others have another identifier.
    cases picked : pick old with
    | true =>
      rw [Option.filter_some, if_pos picked]
      refine filter_eq_singleton sound.nodup member (by simp [picked]) fun other present same => ?_
      exact sound.same present member (by simpa using (Bool.and_eq_true_iff.mp same).1)
    | false =>
      rw [Option.filter_some, picked]
      refine List.filter_eq_nil_iff.mpr fun session present => ?_
      by_cases same : session.id = old.id
      · rw [sound.same present member same]
        simp [picked]
      · simp [same]

/-- All that has an identifier is its session. -/
theorem Sound.filter_named (sound : table.Sound spent) :
    table.rows.filter (fun session => session.id == id) = (table.find? id).toList := by
  -- This is the case in which nothing else is asked of the session.
  have picked : table.rows.filter (fun session => session.id == id && true) =
      ((table.find? id).filter fun _ => true).toList := sound.filter_id
  simp only [Bool.and_true] at picked
  rw [picked]
  cases table.find? id with
  | none => rfl
  | some old => rfl

/-- The session in progress of a user is all that is picked by this. -/
theorem Sound.filter_active (sound : table.Sound spent) :
    table.rows.filter (isActiveOf user) = (table.active? user).toList := by
  -- A user has one session in progress at most, so the order in which they are told is no matter.
  cases found : table.active? user with
  | none =>
    have absent := active?_eq_none.mp found
    refine List.filter_eq_nil_iff.mpr fun session member => ?_
    simpa [isActiveOf, Session.isActive] using absent session member
  | some old =>
    obtain ⟨member, rfl, active⟩ := mem_of_active? found
    refine filter_eq_singleton sound.nodup member (by simp [isActiveOf, Session.isActive, active])
      fun other present same => ?_
    obtain ⟨owner, busy⟩ : other.user = old.user ∧ other.status = .inProgress := by
      simpa [isActiveOf, Session.isActive] using same
    exact sound.single other present old member owner busy active

/-- A session of a table that is changed takes its own place. -/
theorem insert_changed (member : old ∈ table.rows) (same : session.id = old.id) :
    table.insert session =
      ⟨table.rows.map fun row => if row.id = old.id then session else row⟩ := by
  -- There is a session of the identifier, so the table is mapped and not appended to.
  have known : (table.rows.any fun row => row.id == session.id) = true :=
    List.any_eq_true.mpr ⟨old, member, by simp [same]⟩
  rw [insert, if_pos known]
  simp [same]

/-- The table after the session of an identifier is changed, if there is one that is picked. -/
def changed (table : SessionTable) (id : SessionId) (pick : Session → Bool)
    (change : Session → Session) : SessionTable :=
  match (table.find? id).filter pick with
  | none => table
  | some old => table.insert (change old)

/-- Changing all sessions that are picked by an identifier changes its session. -/
theorem Sound.map_changed (sound : table.Sound spent) {pick : Session → Bool}
    {change : Session → Session} (same : ∀ session, (change session).id = session.id) :
    (table.rows.map fun session =>
      if (session.id == id && pick session) = true then change session else session) =
      (table.changed id pick change).rows := by
  have kept : ∀ session ∈ table.rows, session.id = id →
      table.find? id = some session := fun session member named => named ▸ sound.find? member
  unfold changed
  -- Where no session is picked nothing is changed, and otherwise one session alone.
  cases found : (table.find? id).filter pick with
  -- A session that is picked under the identifier would be the one that was found.
  | none =>
    refine (List.map_congr_left fun session member => ?_).trans (List.map_id _)
    refine if_neg fun chosen => ?_
    obtain ⟨named, picked⟩ : session.id = id ∧ pick session = true := by simpa using chosen
    rw [kept session member named, Option.filter_some, if_pos picked] at found
    cases found
  | some old =>
    obtain ⟨found, picked⟩ := Option.filter_eq_some_iff.mp found
    obtain ⟨member, rfl⟩ := mem_of_find? found
    dsimp only
    -- The row that the change is made in is the row that is put back.
    rw [insert_changed member (same old)]
    refine List.map_congr_left fun session present => ?_
    by_cases named : session.id = old.id
    · rw [sound.same present member named]
      simp [picked]
    · simp [named]

/-- A change of one session keeps identifiers apart. -/
theorem Sound.changed_apart (sound : table.Sound spent) {pick : Session → Bool}
    {change : Session → Session} (same : ∀ session, (change session).id = session.id) :
    ((table.changed id pick change).rows.map Session.id).Nodup := by
  -- The change runs over all sessions and keeps the identifier of each.
  rw [← sound.map_changed same, List.map_map]
  have kept : (Session.id ∘ fun session =>
      if (session.id == id && pick session) = true then change session else session) =
      Session.id := by
    funext session
    simp only [Function.comp_apply]
    split
    · exact same session
    · rfl
  rw [kept]
  exact sound.apart

/-- A change of the rows of a table is carried out, or it is refused where some user would have two
sessions in progress. -/
def Replaced (table new : SessionTable) (outcome : Outcome) (given : Except DatabaseFault Outcome)
    (after : List SessionRow) : Prop :=
  (new.Single ∧ given = .ok outcome ∧ after = new.toRows) ∨
  (¬ new.Single ∧ (∃ message, given = .error ⟨DatabaseFault.uniqueViolation, message⟩) ∧
    after = table.toRows)

end SessionTable

section Answers

variable {setting : Setting} {table new : SessionTable} {spent : List SessionId} {id : SessionId}
  {given : Except DatabaseFault Outcome} {after : List SessionRow}

/-- How a look for rows is answered of which there is one at most. -/
theorem answered_select {conditions : Conditions} {latest : Bool} {found : Option Session}
    (readable : ¬ ∃ value ∈ setting.parameters, value.HasNul)
    (picks : table.rows.filter (fun session => conditions.meets setting (.ofSession session)) =
      found.toList) :
    Query.Answered setting table.toRows (.select conditions latest) given after ↔
      given = .ok ⟨found.toList.map .ofSession, found.toList.length⟩ ∧ after = table.toRows := by
  -- The rows picked are those of the sessions picked.
  have filtered : table.toRows.filter (conditions.meets setting) =
      found.toList.map .ofSession := by
    rw [SessionTable.toRows, List.filter_map, ← picks]
    rfl
  have short : (found.toList.map SessionRow.ofSession).length ≤ 1 := by
    cases found with
    | none => exact Nat.zero_le 1
    | some session => exact Nat.le_refl 1
  have first : (found.toList.map SessionRow.ofSession).take 1 =
      found.toList.map SessionRow.ofSession := List.take_of_length_le short
  constructor
  · intro answered
    -- One row at most is found, so no order and no limit makes a difference.
    cases answered with
    | unreadable nul => exact absurd nul readable
    | told _ order =>
      rw [filtered] at order
      rw [eq_of_perm_short order short, first, ite_self, List.length_map]
      exact ⟨rfl, rfl⟩
  · intro answered
    obtain ⟨rfl, rfl⟩ := answered
    have sorted : (found.toList.map SessionRow.ofSession).Pairwise
        fun first second => second.createdAt.le first.createdAt = true := by
      cases found with
      | none => exact .nil
      | some session => exact List.pairwise_singleton _ _
    have told : Query.Answered setting table.toRows (.select conditions latest) _ table.toRows :=
      .told readable (List.Perm.of_eq filtered.symm) fun _ => sorted
    rw [first, ite_self, List.length_map] at told
    exact told

/-- How a change is answered that concerns one row at most. -/
theorem answered_change {change : Change} {concerned : List Session} (short : concerned.length ≤ 1)
    (readable : ¬ ∃ value ∈ setting.parameters, value.HasNul)
    (applied : change.effect? setting table.toRows =
      some (new.toRows, concerned.map .ofSession))
    (apart : (new.rows.map Session.id).Nodup) :
    Query.Answered setting table.toRows (.change change) given after ↔
      table.Replaced new ⟨if change.returns then concerned.map .ofSession else [],
        concerned.length⟩ given after := by
  constructor
  · intro answered
    -- The change fits its columns and breaks no constraint but one.
    cases answered with
    | unreadable nul => exact absurd nul readable
    | changed _ done conforms order =>
      obtain ⟨rfl, rfl⟩ := Prod.mk.inj (Option.some.inj (applied.symm.trans done))
      rw [eq_of_perm_short order (by simpa using short), List.length_map]
      exact Or.inl ⟨(conforms_toRows apart).mp conforms, rfl, rfl⟩
    -- It is refused only where a user would have two sessions in progress.
    | refused _ done violates =>
      obtain ⟨rfl, rfl⟩ := Prod.mk.inj (Option.some.inj (applied.symm.trans done))
      obtain ⟨rfl, double⟩ := violates_toRows apart violates
      exact Or.inr ⟨double, ⟨_, rfl⟩, rfl⟩
    | misfit _ misfits => cases applied.symm.trans misfits
  · -- Where the sessions stay single the change is carried out, and otherwise the index refuses it.
    intro replaced
    rcases replaced with ⟨single, rfl, rfl⟩ | ⟨double, ⟨message, rfl⟩, rfl⟩
    · have told := Query.Answered.changed readable applied ((conforms_toRows apart).mpr single)
        (.refl _)
      rw [List.length_map] at told
      exact told
    · exact .refused readable applied
        (.single fun single => double ((single_toRows apart).mp single))

/-- How an update is answered that picks a session by its identifier. -/
theorem answered_update {assignments : Assignments} {conditions : Conditions} {returning : Bool}
    {pick : Session → Bool} {change : Session → Session} (sound : table.Sound spent)
    (readable : ¬ ∃ value ∈ setting.parameters, value.HasNul)
    (meets : ∀ session, conditions.meets setting (.ofSession session) =
      (session.id == id && pick session))
    (sets : ∀ session, SessionRow.ofValues? (assignments.values setting
      (SessionRow.ofSession session).value) = some (.ofSession (change session)))
    (same : ∀ session, (change session).id = session.id) :
    Query.Answered setting table.toRows (.change (.update assignments conditions returning)) given
      after ↔
      let picked := ((table.find? id).filter pick).toList
      table.Replaced (table.changed id pick change)
        ⟨if returning then picked.map fun session => .ofSession (change session) else [],
          picked.length⟩ given after := by
  -- Row by row the statement does what the change does to a session.
  have each : ∀ session ∈ table.rows,
      (if conditions.meets setting (.ofSession session) = true then
        SessionRow.ofValues? (assignments.values setting (SessionRow.ofSession session).value)
      else some (.ofSession session)) = some (.ofSession
        (if (session.id == id && pick session) = true then change session else session)) := by
    intro session _
    rw [meets, sets]
    split
    · rfl
    · rfl
  have updated : (table.rows.map .ofSession).mapM (fun row =>
      if conditions.meets setting row then
        SessionRow.ofValues? (assignments.values setting row.value)
      else some row) = some (table.changed id pick change).toRows := by
    rw [mapM_map_eq_some each, SessionTable.toRows, ← sound.map_changed same, List.map_map]
    rfl
  -- The statement tells of the rows that it has changed, at most one of which there is.
  have concerned : ((table.rows.map .ofSession).filter (conditions.meets setting)).mapM (fun row =>
      SessionRow.ofValues? (assignments.values setting row.value)) =
      some ((((table.find? id).filter pick).toList.map change).map .ofSession) := by
    rw [List.filter_map, ← sound.filter_id, List.map_map]
    rw [show conditions.meets setting ∘ SessionRow.ofSession =
      fun session => session.id == id && pick session from funext meets]
    exact mapM_map_eq_some fun session _ => sets session
  have applied : (Change.update assignments conditions returning).effect? setting table.toRows =
      some ((table.changed id pick change).toRows,
        (((table.find? id).filter pick).toList.map change).map .ofSession) := by
    simp only [Change.effect?, SessionTable.toRows, updated, concerned]
    rfl
  have short : (((table.find? id).filter pick).toList.map change).length ≤ 1 := by
    rw [List.length_map]
    exact Option.length_toList_le
  rw [answered_change short readable applied (sound.changed_apart same), List.length_map,
    List.map_map]
  rfl

/-- How the insertion of a new session is answered. -/
theorem answered_insert {user : UserId} {tokenId : String} (sound : table.Sound spent)
    (unused : id ∉ spent)
    (values : setting.parameters = (Statement.insert id user tokenId).parameters)
    (readable : ¬ ∃ value ∈ setting.parameters, value.HasNul) :
    let made := SessionTable.newSession ⟨id, setting.now⟩ user tokenId
    Query.Answered setting table.toRows
      (.change (.insert [(.sessionId, .parameter 1), (.userId, .parameter 2),
        (.tokenId, .parameter 3), (.sessionStatus, .parameter 4), (.dispatcherStatus, .parameter 5),
        (.createdAt, .now)])) given after ↔
      table.Replaced (table.insert made) ⟨[.ofSession made], 1⟩ given after := by
  intro made
  -- A new identifier cannot break the key.
  have unknown := sound.unknown unused
  have rows : (table.insert made).rows = table.rows ++ [made] := by
    rw [SessionTable.insert_new unknown]
  have short : [made].length ≤ 1 := Nat.le_refl 1
  -- The new row is told as it was put in.
  refine answered_change short readable ?_ ?_
  · simp only [Change.effect?, ofValues?_new values, SessionTable.toRows, rows, List.map_append]
    rfl
  · rw [rows, List.map_append, List.nodup_append]
    refine ⟨sound.apart, List.nodup_singleton _, ?_⟩
    intro one listed other new same
    obtain ⟨row, member, rfl⟩ := List.mem_map.mp listed
    exact unknown row member (same.trans (List.mem_singleton.mp new))

/-- How the deletion of a session is answered. -/
theorem answered_delete (sound : table.Sound spent)
    (named : setting.parameters[0]? = some (.uuid id))
    (readable : ¬ ∃ value ∈ setting.parameters, value.HasNul) :
    Query.Answered setting table.toRows
      (.change (.delete [(.column .sessionId, .parameter 1)])) given after ↔
      table.Replaced (table.erase id) ⟨[], (table.find? id).toList.length⟩ given after := by
  -- The rows that are kept are those of other identifiers, and at most one is taken away.
  let conditions : Conditions := [(.column .sessionId, .parameter 1)]
  have meets : conditions.meets setting ∘ SessionRow.ofSession = fun session => session.id == id :=
    funext fun session => meets_id named
  have misses : (fun row => !conditions.meets setting row) ∘ SessionRow.ofSession =
      fun session => session.id != id :=
    funext fun session => congrArg not (meets_id named)
  have short : (table.find? id).toList.length ≤ 1 := Option.length_toList_le
  refine answered_change short readable ?_ (sound.erase id).apart
  simp only [Change.effect?, SessionTable.toRows, List.filter_map]
  rw [misses, meets, sound.filter_named]
  rfl

end Answers

end SessionGate
