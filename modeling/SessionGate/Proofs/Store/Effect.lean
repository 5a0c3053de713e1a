import SessionGate.Proofs.Store.Table

/-! What a call can do to a table of sessions, said once for all calls. -/

namespace SessionGate

/-- A session that was brought to its end: to which status, and as it was told then. -/
structure Ending where
  target : SessionStatus
  session : Session
  deriving DecidableEq

namespace StoreCall

/-- The session that a call has made. -/
def creation? : (call : StoreCall) → call.Answer → Option Session
  | .create _ _, .ok made => some made
  | _, _ => none

/-- The end to which a call has brought the session of an identifier. -/
def ending? (id : SessionId) : (call : StoreCall) → call.Answer → Option Ending
  | .transition other target, .ok ended => if other = id then some ⟨target, ended⟩ else none
  | _, _ => none

/-- A call that sets a status whatever the status was. -/
def Overwrites : StoreCall → Prop
  | .setStatus _ _ | .complete _ => True
  | _ => False

end StoreCall

namespace SessionTable

variable {table after : SessionTable} {fresh : Fresh} {call : StoreCall} {given : call.Answer}
  {session : Session} {id : SessionId}

/-- What can become of a table by a call and its answer: a session is made, ended, overwritten,
reported on or deleted, or nothing happens. -/
inductive Effect (table : SessionTable) (fresh : Fresh) :
    (call : StoreCall) → call.Answer → SessionTable → Prop where
  | none {call : StoreCall} {given : call.Answer} (unmade : call.creation? given = none)
      (unended : ∀ id, call.ending? id given = none) : Effect table fresh call given table
  | created {user : UserId} {tokenId : String} :
      Effect table fresh (.create user tokenId) (.ok (newSession fresh user tokenId))
        (table.insert (newSession fresh user tokenId))
  | ended {old : Session} {target : SessionStatus} (member : old ∈ table.rows)
      (active : old.status = .inProgress) :
      Effect table fresh (.transition old.id target) (.ok (moved fresh.now target old))
        (table.insert (moved fresh.now target old))
  | overwritten {call : StoreCall} {given : call.Answer} {old changed : Session}
      (overwrites : call.Overwrites) (member : old ∈ table.rows) (same : changed.id = old.id) :
      Effect table fresh call given (table.insert changed)
  | reported {old : Session} {status : String} (member : old ∈ table.rows) :
      Effect table fresh (.setDispatcherStatus old.id status) (.ok ())
        (table.insert { old with dispatcherStatus := status })
  | erased {id : SessionId} : Effect table fresh (.delete id) (.ok ()) (table.erase id)

/-- A call that is answered has one of these effects. -/
theorem perform_effect (table : SessionTable) (fresh : Fresh) (call : StoreCall) :
    table.Effect fresh call (table.perform fresh call).1 (table.perform fresh call).2 := by
  -- The branches of each call are followed once, here and nowhere else.
  cases call with
  | activeSession | ping => exact .none rfl fun _ => rfl
  | session id =>
    simp only [perform]
    cases table.find? id with
    | none => exact .none rfl fun _ => rfl
    | some session => exact .none rfl fun _ => rfl
  | create user tokenId =>
    simp only [perform]
    -- A user with a session in progress gets no other one.
    split
    · exact .none rfl fun _ => rfl
    · exact .created
  | setStatus id status =>
    simp only [perform]
    cases found : table.find? id with
    | none => exact .none rfl fun _ => rfl
    | some old =>
      dsimp only
      -- A session is not brought back beside another one in progress.
      split
      · exact .none rfl fun _ => rfl
      · exact .overwritten trivial (mem_of_find? found).1 rfl
  | complete id =>
    simp only [perform]
    rcases table.update_cases id (moved fresh.now .completed) with
      ⟨fault, refused⟩ | ⟨old, member, named, changed⟩
    · rw [refused]
      exact .none rfl fun _ => rfl
    · rw [changed]
      exact .overwritten trivial member rfl
  | transition id target =>
    simp only [perform]
    cases found : table.find? id with
    | none => exact .none rfl fun _ => rfl
    | some old =>
      obtain ⟨member, rfl⟩ := mem_of_find? found
      dsimp only
      split
      -- Only a session in progress is ended; any other one stays as it is.
      next active => exact .ended member active
      next => exact .none rfl fun _ => rfl
  | setDispatcherStatus id status =>
    simp only [perform]
    rcases table.update_cases id fun session => { session with dispatcherStatus := status } with
      ⟨fault, refused⟩ | ⟨old, member, rfl, changed⟩
    · -- A report on an unknown session changes nothing.
      rw [refused]
      exact .none rfl fun _ => rfl
    · rw [changed]
      exact .reported member
  | delete id => exact .erased

/-- What has been given out stays so. -/
theorem mem_spentAfter {spent : List SessionId} (given : id ∈ spent) (fresh : Fresh)
    (call : StoreCall) (answer : call.Answer) : id ∈ spentAfter spent fresh call answer := by
  -- At most one identifier is added.
  unfold spentAfter
  split
  · exact List.mem_cons_of_mem _ given
  · exact given

/-- An identifier has been given out, and the status of its session, if it is there, is of a
kind. -/
def Confined (table : SessionTable) (spent : List SessionId) (id : SessionId)
    (kind : SessionStatus → Prop) : Prop :=
  id ∈ spent ∧ ∀ row ∈ table.rows, row.id = id → kind row.status

/-- A session that is not in progress stays as it is where no status is overwritten. -/
theorem Confined.perform {spent : List SessionId} {kind : SessionStatus → Prop}
    (confined : table.Confined spent id kind) (ended : ¬ kind .inProgress)
    (unused : Unused spent fresh call) (keeps : call.Overwrites → ∀ status, ¬ kind status) :
    (table.perform fresh call).2.Confined (spentAfter spent fresh call (table.perform fresh call).1)
      id kind := by
  obtain ⟨given, every⟩ := confined
  refine ⟨mem_spentAfter given fresh call _, ?_⟩
  have effect := table.perform_effect fresh call
  generalize (table.perform fresh call).1 = answer at effect
  generalize (table.perform fresh call).2 = after at effect
  intro row member named
  -- Only a session that is made, ended or overwritten comes to another status.
  cases effect with
  | none => exact every row member named
  | created =>
    rcases mem_insert.mp member with rfl | ⟨older, -⟩
    · -- A new session has an identifier that was not given out.
      subst named
      exact absurd given unused
    · exact every row older named
  | @ended old _ present active =>
    rcases mem_insert.mp member with rfl | ⟨older, -⟩
    · exact absurd (active ▸ every old present named) ended
    · exact every row older named
  | overwritten overwrites present same =>
    rcases mem_insert.mp member with rfl | ⟨older, -⟩
    · exact absurd (every _ present (same.symm.trans named)) (keeps overwrites _)
    · exact every row older named
  | @reported old _ present =>
    rcases mem_insert.mp member with rfl | ⟨older, -⟩
    · exact every old present named
    · exact every row older named
  | erased => exact every row (mem_erase.mp member).1 named

/-- What is known of a session does not depend on what else has been given out. -/
theorem Confined.widen {spent known : List SessionId} {kind : SessionStatus → Prop}
    (confined : table.Confined spent id kind) (recorded : ∀ id ∈ spent, id ∈ known) :
    table.Confined known id kind :=
  -- Of what has been given out only the identifier matters, and it still has been.
  ⟨recorded id confined.1, confined.2⟩

/-- An identifier has been given out, and its session is no longer there. -/
def Gone (table : SessionTable) (spent : List SessionId) (id : SessionId) : Prop :=
  id ∈ spent ∧ ∀ row ∈ table.rows, row.id ≠ id

/-- An order to end a session is told that there is none only where this is so. -/
theorem perform_transition_missing {target : SessionStatus}
    (missing : table.perform fresh (.transition id target) = (.error (.notFound id), after)) :
    after = table ∧ ∀ row ∈ table.rows, row.id ≠ id := by
  refine ⟨perform_transition_error missing, ?_⟩
  -- A session that is found is ended, or it is told as not in progress.
  simp only [perform] at missing
  split at missing
  next unfound => exact find?_eq_none.mp unfound
  next =>
    split at missing
    · cases missing
    · cases missing

/-- A session that is gone has no status of any kind. -/
theorem gone_iff {spent : List SessionId} :
    table.Gone spent id ↔ table.Confined spent id fun _ => False :=
  -- No status is of the kind that nothing is of.
  Iff.rfl

/-- A session that is gone does not come back. -/
theorem Gone.perform {spent : List SessionId} (gone : table.Gone spent id)
    (unused : Unused spent fresh call) :
    (table.perform fresh call).2.Gone (spentAfter spent fresh call (table.perform fresh call).1)
      id :=
  -- To be gone is to have no status, which every call keeps.
  gone_iff.mpr ((gone_iff.mp gone).perform (fun never => never) unused fun _ _ never => never)

end SessionTable

end SessionGate
