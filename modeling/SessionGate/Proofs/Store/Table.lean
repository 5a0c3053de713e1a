import Mathlib.Data.List.Nodup
import SessionGate.Store.Table

/-! What a table of sessions holds after each order: identifiers stay apart, and no user gets a
second session in progress. -/

namespace SessionGate

namespace SessionTable

variable {table : SessionTable} {session other : Session} {id : SessionId} {user : UserId}

/-- A session found under an identifier is in the table and has that identifier. -/
theorem mem_of_find? (found : table.find? id = some session) :
    session ∈ table.rows ∧ session.id = id := by
  -- What a search finds has passed its test.
  have named := List.find?_some found
  exact ⟨List.mem_of_find?_eq_some found, by simpa using named⟩

/-- Nothing is found under an identifier that no session has. -/
theorem find?_eq_none : table.find? id = none ↔ ∀ session ∈ table.rows, session.id ≠ id := by
  -- The search tests every row for the identifier.
  simp [find?]

/-- Where identifiers are apart, a session is found under its own. -/
theorem find?_of_mem (apart : (table.rows.map Session.id).Nodup) (member : session ∈ table.rows) :
    table.find? session.id = some session := by
  -- Whatever is found has the same identifier, and there is only one session of it.
  cases found : table.find? session.id with
  | none => exact absurd rfl (find?_eq_none.mp found session member)
  | some other =>
    obtain ⟨present, equal⟩ := mem_of_find? found
    rw [List.inj_on_of_nodup_map apart present member equal]

/-- A session put in is there with all the others of other identifiers. -/
theorem mem_insert :
    other ∈ (table.insert session).rows ↔
      other = session ∨ other ∈ table.rows ∧ other.id ≠ session.id := by
  unfold insert
  split
  -- A row of the identifier is there, and the session takes its place.
  next known =>
    obtain ⟨old, present, same⟩ : ∃ old ∈ table.rows, old.id = session.id := by simpa using known
    simp only [List.mem_map, beq_iff_eq]
    constructor
    · intro held
      obtain ⟨row, member, rfl⟩ := held
      -- The row under the same identifier is the one that was replaced.
      by_cases replaced : row.id = session.id
      · exact Or.inl (if_pos replaced)
      · rw [if_neg replaced]
        exact Or.inr ⟨member, replaced⟩
    · intro held
      rcases held with rfl | ⟨member, different⟩
      · exact ⟨old, present, if_pos same⟩
      · exact ⟨other, member, if_neg different⟩
  -- No such row is there, and the session is put behind the others.
  next unknown =>
    have unknown : ∀ row ∈ table.rows, row.id ≠ session.id := by simpa using unknown
    simp only [List.mem_append, List.mem_singleton]
    constructor
    · intro held
      rcases held with member | rfl
      · exact Or.inr ⟨member, unknown other member⟩
      · exact Or.inl rfl
    · intro held
      rcases held with rfl | ⟨member, _⟩
      · exact Or.inr rfl
      · exact Or.inl member

/-- Taking a session away leaves all of other identifiers. -/
theorem mem_erase : other ∈ (table.erase id).rows ↔ other ∈ table.rows ∧ other.id ≠ id := by
  -- The rows are filtered by their identifiers.
  simp [erase]

/-- A session that is new to a table goes behind all others. -/
theorem insert_new (unknown : ∀ row ∈ table.rows, row.id ≠ session.id) :
    table.insert session = ⟨table.rows ++ [session]⟩ := by
  -- No row is replaced, so the session is appended.
  have unknown : ¬ table.rows.any (fun known => known.id == session.id) = true := by
    simpa using unknown
  rw [insert, if_neg unknown]

/-- Taking away a session that was new leaves the table as it was before. -/
theorem erase_insert_new (unknown : ∀ row ∈ table.rows, row.id ≠ session.id) :
    (table.insert session).erase session.id = table := by
  -- The filter keeps every older row and drops the last one.
  have kept : table.rows.filter (fun row => row.id != session.id) = table.rows :=
    List.filter_eq_self.mpr fun row member => by simpa using unknown row member
  rw [insert_new unknown]
  simp [erase, kept]

/-- One of two sessions is the later one. -/
theorem later_eq (first second : Session) :
    later first second = first ∨ later first second = second := by
  -- The later one is taken by comparing when the two were created.
  unfold later
  split
  · exact Or.inr rfl
  · exact Or.inl rfl

/-- The last created of some sessions is one of them. -/
theorem foldl_later_mem (rest : List Session) (first : Session) :
    rest.foldl later first ∈ first :: rest := by
  -- The induction is on the sessions that are left, with whichever is the last so far.
  induction rest generalizing first with
  | nil => simp
  | cons next rest ih =>
    have member := ih (later first next)
    rcases later_eq first next with same | same <;> rw [same] at member
    · rcases List.mem_cons.mp member with here | there
      · simp [same, here]
      · simp [same, there]
    · simp [same, member]

/-- A session in progress of a user that is found is in the table, the user's, and in progress. -/
theorem mem_of_active? (found : table.active? user = some session) :
    session ∈ table.rows ∧ session.user = user ∧ session.status = .inProgress := by
  -- The sessions in progress of the user are listed first, and the last created of them is taken.
  unfold active? at found
  split at found
  · cases found
  next first rest listed =>
    cases found
    have member : rest.foldl later first ∈ table.rows.filter (isActiveOf user) := by
      rw [listed]
      exact foldl_later_mem rest first
    simpa [isActiveOf, Session.isActive] using member

/-- No session in progress is found exactly when the user has none. -/
theorem active?_eq_none :
    table.active? user = none ↔
      ∀ session ∈ table.rows, session.user = user → session.status ≠ .inProgress := by
  -- The search comes to nothing only where the list of the user's sessions in progress is empty.
  unfold active?
  split
  next empty =>
    simpa [List.filter_eq_nil_iff, isActiveOf, Session.isActive] using empty
  next first rest listed =>
    have member : first ∈ table.rows.filter (isActiveOf user) := by simp [listed]
    have active : first ∈ table.rows ∧ first.user = user ∧ first.status = .inProgress := by
      simpa [isActiveOf, Session.isActive] using member
    simp only [reduceCtorEq, false_iff]
    intro none
    exact none first active.1 active.2.1 active.2.2

/-- A user has no session in progress beside none exactly when there is none. -/
theorem hasOtherActive_none :
    table.hasOtherActive user none = false ↔
      ∀ session ∈ table.rows, session.user = user → session.status ≠ .inProgress := by
  -- Every row is looked at, and none may be in progress for the user.
  simp [hasOtherActive, isActiveOf, Session.isActive]

/-- A user has no other session in progress than the one of an identifier. -/
theorem hasOtherActive_some :
    table.hasOtherActive user (some id) = false ↔
      ∀ session ∈ table.rows, session.user = user → session.status = .inProgress →
        session.id = id := by
  -- Every row is looked at but the one of the identifier.
  simp [hasOtherActive, isActiveOf, Session.isActive]

/-- The identifiers of a table are all different and have all been given out, and a user has at
most one session in progress. -/
structure Sound (table : SessionTable) (spent : List SessionId) : Prop where
  apart : (table.rows.map Session.id).Nodup
  spent : ∀ session ∈ table.rows, session.id ∈ spent
  single : ∀ first ∈ table.rows, ∀ second ∈ table.rows, first.user = second.user →
    first.status = .inProgress → second.status = .inProgress → first = second

namespace Sound

variable {spent : List SessionId}

/-- An empty table is sound. -/
theorem empty : SessionTable.empty.Sound spent :=
  -- There is no session to break any of the rules.
  ⟨by simp [SessionTable.empty], by simp [SessionTable.empty], by simp [SessionTable.empty]⟩

/-- Of one identifier there is one session. -/
theorem same (sound : table.Sound spent) {first second : Session} (one : first ∈ table.rows)
    (two : second ∈ table.rows) (equal : first.id = second.id) : first = second :=
  -- Identifiers are apart, so the equal ones belong to one session.
  List.inj_on_of_nodup_map sound.apart one two equal

/-- An identifier that has not been given out is no session's. -/
theorem unknown {id : SessionId} (sound : table.Sound spent) (unused : id ∉ spent) :
    ∀ row ∈ table.rows, row.id ≠ id := by
  -- The identifiers of all sessions were given out.
  intro row member same
  exact unused (same ▸ sound.spent row member)

/-- A session of a table is found under its identifier. -/
theorem find? (sound : table.Sound spent) (member : session ∈ table.rows) :
    -- Identifiers are apart in a sound table.
    table.find? session.id = some session := find?_of_mem sound.apart member

/-- Taking a session away keeps a table sound. -/
theorem erase (sound : table.Sound spent) (id : SessionId) : (table.erase id).Sound spent := by
  -- All three rules are about the sessions of the table, and these only become fewer.
  refine ⟨?_, ?_, ?_⟩
  · exact (List.Sublist.map Session.id List.filter_sublist).nodup sound.apart
  · intro session member
    exact sound.spent session (mem_erase.mp member).1
  · intro first one second two
    exact sound.single first (mem_erase.mp one).1 second (mem_erase.mp two).1

/-- A new session may be put in for a user who has none in progress. -/
theorem insert_new (sound : table.Sound spent) (unused : session.id ∉ spent)
    (none : ∀ row ∈ table.rows, row.user = session.user → row.status ≠ .inProgress) :
    (table.insert session).Sound (session.id :: spent) := by
  -- No session has the new identifier, so nothing is replaced and the session is appended.
  have unknown := sound.unknown unused
  refine ⟨?_, ?_, ?_⟩
  · rw [SessionTable.insert_new unknown, List.map_append, List.nodup_append]
    -- The new identifier is none of those that are listed.
    refine ⟨sound.apart, List.nodup_singleton _, ?_⟩
    intro id listed last known equal
    obtain ⟨row, member, rfl⟩ := List.mem_map.mp listed
    exact unknown row member (equal.trans (List.mem_singleton.mp known))
  · intro row member
    rcases mem_insert.mp member with rfl | ⟨member, _⟩
    · exact List.mem_cons_self
    · exact List.mem_cons_of_mem _ (sound.spent row member)
  · -- Two sessions in progress of one user: they are both old, or there was none beside the new
    -- one.
    intro first one second two owner busy active
    rcases mem_insert.mp one with rfl | ⟨older, _⟩ <;>
      rcases mem_insert.mp two with rfl | ⟨present, _⟩
    · rfl
    · exact absurd active (none second present owner.symm)
    · exact absurd busy (none first older owner)
    · exact sound.single first older second present owner busy active

/-- A session may be changed unless that makes it a second one in progress. -/
theorem insert_known (sound : table.Sound spent) {old : Session} (member : old ∈ table.rows)
    (same : session.id = old.id)
    (none : session.status = .inProgress → ∀ row ∈ table.rows, row.user = session.user →
      row.status = .inProgress → row.id = session.id) :
    (table.insert session).Sound spent := by
  -- The row is replaced where it stands, so the keys keep their order.
  have known : (table.rows.any fun known => known.id == session.id) = true :=
    List.any_eq_true.mpr ⟨old, member, by simp [same]⟩
  refine ⟨?_, ?_, ?_⟩
  · -- Every row keeps its identifier.
    have kept : (table.insert session).rows.map Session.id = table.rows.map Session.id := by
      rw [SessionTable.insert, if_pos known, List.map_map]
      refine List.map_congr_left fun row _ => ?_
      by_cases replaced : row.id = session.id
      · simp [replaced]
      · simp [replaced]
    rw [kept]
    exact sound.apart
  · intro row present
    rcases mem_insert.mp present with rfl | ⟨present, _⟩
    · exact same ▸ sound.spent old member
    · exact sound.spent row present
  · -- The session that is put back is in progress only if no other one of its user is.
    intro first one second two owner busy active
    rcases mem_insert.mp one with rfl | ⟨older, apart⟩ <;>
      rcases mem_insert.mp two with rfl | ⟨present, away⟩
    · rfl
    · exact absurd (none busy second present owner.symm active) away
    · exact absurd (none active first older owner busy) apart
    · exact sound.single first older second present owner busy active

end Sound

/-- The identifiers that have been given out once a call has been answered. -/
def spentAfter (spent : List SessionId) (fresh : Fresh) : (call : StoreCall) → call.Answer →
    List SessionId
  -- Only a session that was made has used an identifier.
  | .create _ _, .ok _ => fresh.id :: spent
  | _, _ => spent

/-- An identifier that a session is made with has not been given out before. -/
def Unused (spent : List SessionId) (fresh : Fresh) : StoreCall → Prop
  | .create _ _ => fresh.id ∉ spent
  -- No other call takes an identifier from outside.
  | _ => True

variable {fresh : Fresh} {after : SessionTable} {tokenId status : String} {target : SessionStatus}
  {fault : StoreError}

/-- A session is made for a user who has none in progress. -/
theorem perform_create_ok
    (made : table.perform fresh (.create user tokenId) = (.ok session, after)) :
    session = newSession fresh user tokenId ∧ after = table.insert session ∧
      ∀ row ∈ table.rows, row.user = user → row.status ≠ .inProgress := by
  -- Making a session is refused just if the user has another one in progress.
  simp only [perform] at made
  split at made
  · cases made
  next free =>
    cases made
    exact ⟨rfl, rfl, hasOtherActive_none.mp (by simpa using free)⟩

/-- A session that is not made is refused for a conflict, and changes nothing. -/
theorem perform_create_error
    (refused : table.perform fresh (.create user tokenId) = (.error fault, after)) :
    fault = conflict user ∧ after = table := by
  -- Making a session is refused just if the user has another one in progress.
  simp only [perform] at refused
  split at refused
  · cases refused
    exact ⟨rfl, rfl⟩
  · cases refused

/-- A session that ends was in progress and is kept with its new status. -/
theorem perform_transition_ok
    (ended : table.perform fresh (.transition id target) = (.ok session, after)) :
    ∃ old ∈ table.rows, old.id = id ∧ old.status = .inProgress ∧
      session = moved fresh.now target old ∧ after = table.insert session := by
  -- The session must be found, and must still be in progress.
  simp only [perform] at ended
  split at ended
  · cases ended
  next old found =>
    obtain ⟨member, named⟩ := mem_of_find? found
    split at ended
    next active =>
      cases ended
      exact ⟨old, member, named, active, rfl, rfl⟩
    · cases ended

/-- An end that is refused changes nothing. -/
theorem perform_transition_error
    (refused : table.perform fresh (.transition id target) = (.error fault, after)) :
    after = table := by
  -- A missing session and one no longer in progress are refused before the table is touched.
  simp only [perform] at refused
  split at refused
  · cases refused
    rfl
  · split at refused
    · cases refused
    · cases refused
      rfl

/-- A change of one session is refused, or made to the session of the identifier. -/
theorem update_cases (table : SessionTable) (id : SessionId) (change : Session → Session) :
    (∃ fault, table.update id change = (.error fault, table)) ∨
      ∃ old ∈ table.rows, old.id = id ∧
        table.update id change = (.ok (), table.insert (change old)) := by
  -- The session is looked up before it is changed.
  unfold update
  cases found : table.find? id with
  | none => exact Or.inl ⟨_, rfl⟩
  | some old =>
    obtain ⟨member, named⟩ := mem_of_find? found
    exact Or.inr ⟨old, member, named, rfl⟩

/-- A dispatcher's report is kept with the session that it is about, or it is refused. -/
theorem perform_setDispatcherStatus (table : SessionTable) (fresh : Fresh) (id : SessionId)
    (status : String) :
    (table.perform fresh (.setDispatcherStatus id status)).2 = table ∨
      ∃ old ∈ table.rows, old.id = id ∧ (table.perform fresh (.setDispatcherStatus id status)).2 =
        table.insert { old with dispatcherStatus := status } := by
  -- A report changes one field of the session that is found.
  simp only [perform]
  rcases table.update_cases id fun session => { session with dispatcherStatus := status } with
    ⟨fault, refused⟩ | ⟨old, member, named, changed⟩
  · exact Or.inl (by rw [refused])
  · exact Or.inr ⟨old, member, named, by rw [changed]⟩

/-- Every order keeps a table sound. -/
theorem Sound.perform {spent : List SessionId} (sound : table.Sound spent) {call : StoreCall}
    (unused : Unused spent fresh call) :
    (table.perform fresh call).2.Sound
      (spentAfter spent fresh call (table.perform fresh call).1) := by
  -- The cases are the orders; only those that make a session or bring one back need that there is
  -- no other in progress.
  cases call with
  -- To look for a session leaves the table as it is.
  | activeSession | ping => exact sound
  | session id =>
    simp only [SessionTable.perform]
    cases table.find? id with
    | none => exact sound
    | some session => exact sound
  | create user tokenId =>
    cases made : table.perform fresh (.create user tokenId) with
    | mk given after =>
      cases given with
      | error fault =>
        obtain ⟨-, rfl⟩ := perform_create_error made
        exact sound
      -- What is refused leaves it as it is, and what is made was free to be made.
      | ok session =>
        obtain ⟨rfl, rfl, none⟩ := perform_create_ok made
        exact sound.insert_new unused none
  | setStatus id status =>
    simp only [SessionTable.perform]
    cases found : table.find? id with
    | none => exact sound
    | some old =>
      obtain ⟨member, -⟩ := mem_of_find? found
      dsimp only
      split
      · exact sound
      next allowed =>
        -- Going back to being in progress is allowed only where no other session is.
        refine sound.insert_known member rfl fun active row present owner busy => ?_
        have free : table.hasOtherActive old.user (some id) = false := by
          simpa [show status = .inProgress from active] using allowed
        have named := (mem_of_find? found).2
        exact (hasOtherActive_some.mp free row present owner busy).trans named.symm
  -- A completed session is in progress no longer.
  | complete id =>
    simp only [SessionTable.perform]
    rcases table.update_cases id (moved fresh.now .completed) with
      ⟨fault, refused⟩ | ⟨old, member, named, changed⟩
    · rw [refused]
      exact sound
    · rw [changed]
      exact sound.insert_known member rfl fun active => by cases active
  | transition id target =>
    cases ended : table.perform fresh (.transition id target) with
    | mk given after =>
      cases given with
      | error fault =>
        rw [perform_transition_error ended]
        exact sound
      | ok session =>
        obtain ⟨old, member, named, active, rfl, rfl⟩ := perform_transition_ok ended
        -- The session was in progress before, so at most it still is.
        refine sound.insert_known member rfl fun _ row present owner busy => ?_
        rw [sound.single row present old member owner busy active]
        rfl
  | setDispatcherStatus id status =>
    rcases table.perform_setDispatcherStatus fresh id status with kept | ⟨old, member, named, set⟩
    · rw [kept]
      exact sound
    · -- A report does not touch the status, so the session is in progress only if it was before.
      rw [set]
      refine sound.insert_known member rfl fun active row present owner busy => ?_
      rw [sound.single row present old member owner busy active]
  | delete id => exact sound.erase id

/-- A table has a session of an identifier that belongs to a user. -/
def Has (table : SessionTable) (id : SessionId) (user : UserId) : Prop :=
  ∃ session ∈ table.rows, session.id = id ∧ session.user = user

/-- A session of an identifier belongs to one user. -/
theorem Sound.owner {spent : List SessionId} (sound : table.Sound spent) {first second : UserId}
    (one : table.Has id first) (two : table.Has id second) : first = second := by
  -- One identifier belongs to one session, and that to one user.
  obtain ⟨row, member, named, rfl⟩ := one
  obtain ⟨twin, present, same, rfl⟩ := two
  rw [sound.same member present (named.trans same.symm)]

/-- The identifiers of a table have been given out. -/
theorem Sound.mem_spent {spent : List SessionId} (sound : table.Sound spent)
    (has : table.Has id user) : id ∈ spent := by
  -- The session with the identifier is in the table.
  obtain ⟨row, member, rfl, -⟩ := has
  exact sound.spent row member

/-- A new session is added to those that a table has. -/
theorem has_insert_new (unknown : ∀ row ∈ table.rows, row.id ≠ session.id) :
    (table.insert session).Has id user ↔
      (session.id = id ∧ session.user = user) ∨ table.Has id user := by
  -- The session is appended, for no other has its identifier.
  constructor
  · intro has
    obtain ⟨row, member, named, owner⟩ := has
    rcases mem_insert.mp member with rfl | ⟨member, -⟩
    · exact Or.inl ⟨named, owner⟩
    · exact Or.inr ⟨row, member, named, owner⟩
  · intro has
    rcases has with ⟨named, owner⟩ | ⟨row, member, named, owner⟩
    · exact ⟨session, mem_insert.mpr (Or.inl rfl), named, owner⟩
    · exact ⟨row, mem_insert.mpr (Or.inr ⟨member, unknown row member⟩), named, owner⟩

/-- A session that is changed keeps its identifier and its user. -/
theorem Sound.has_insert {spent : List SessionId} (sound : table.Sound spent) {old : Session}
    (member : old ∈ table.rows) (same : session.id = old.id) (owner : session.user = old.user) :
    (table.insert session).Has id user ↔ table.Has id user := by
  constructor
  · intro has
    obtain ⟨row, present, rfl, rfl⟩ := has
    rcases mem_insert.mp present with rfl | ⟨present, -⟩
    · exact ⟨old, member, same.symm, owner.symm⟩
    · exact ⟨row, present, rfl, rfl⟩
  · intro has
    obtain ⟨row, present, rfl, rfl⟩ := has
    by_cases changed : row.id = session.id
    · -- The row is the one in whose place the changed session stands.
      rw [sound.same present member (changed.trans same)]
      exact ⟨session, mem_insert.mpr (Or.inl rfl), same, owner⟩
    · exact ⟨row, mem_insert.mpr (Or.inr ⟨present, changed⟩), rfl, rfl⟩

/-- Taking a session away leaves all of other identifiers. -/
theorem has_erase {gone : SessionId} :
    (table.erase gone).Has id user ↔ table.Has id user ∧ id ≠ gone := by
  -- The rows that stay are those of other identifiers.
  constructor
  · intro has
    obtain ⟨row, member, rfl, rfl⟩ := has
    obtain ⟨member, different⟩ := mem_erase.mp member
    exact ⟨⟨row, member, rfl, rfl⟩, different⟩
  · intro has
    obtain ⟨⟨row, member, rfl, rfl⟩, different⟩ := has
    exact ⟨row, mem_erase.mpr ⟨member, different⟩, rfl, rfl⟩

end SessionTable

end SessionGate
