import SessionGate.Proofs.Store.Chronicle

/-! A session has a time of completion since it was completed, also where its status has been
overwritten afterwards. -/

namespace SessionGate

namespace StoreCall

/-- The status that a call has brought the session of an identifier to. -/
def change? (id : SessionId) : (call : StoreCall) → call.Answer → Option SessionStatus
  | .setStatus other status, .ok _ => if other = id then some status else none
  | .complete other, .ok _ => if other = id then some .completed else none
  | .transition other target, .ok _ => if other = id then some target else none
  | _, _ => none

/-- A call has completed the session of an identifier and put down the time. -/
def Completes (id : SessionId) : (call : StoreCall) → call.Answer → Prop
  | .complete other, .ok _ => other = id
  | .transition other .completed, .ok _ => other = id
  | _, _ => False

/-- A call has overwritten the status of the session of an identifier, and not with that of a
completed one. -/
def Displaces (id : SessionId) : (call : StoreCall) → call.Answer → Prop
  | .setStatus other status, .ok _ => other = id ∧ status ≠ .completed
  | _, _ => False

end StoreCall

namespace SessionTable

variable {table : SessionTable} {fresh : Fresh} {call : StoreCall} {row : Session} {id : SessionId}

/-- Where a session comes from that is in a table after a call: it was made, or it was there
before and has been kept, overwritten, completed or ended. -/
inductive Origin (table : SessionTable) (fresh : Fresh) :
    (call : StoreCall) → call.Answer → Session → Prop where
  | created {user : UserId} {tokenId : String} :
      Origin table fresh (.create user tokenId) (.ok (newSession fresh user tokenId))
        (newSession fresh user tokenId)
  | kept {call : StoreCall} {given : call.Answer} {old : Session} (member : old ∈ table.rows)
      (dispatcherStatus : String) (unchanged : call.change? old.id given = none) :
      Origin table fresh call given { old with dispatcherStatus }
  | overwritten {old : Session} {status : SessionStatus} (member : old ∈ table.rows) :
      Origin table fresh (.setStatus old.id status) (.ok ()) { old with status }
  | completed {old : Session} (member : old ∈ table.rows) :
      Origin table fresh (.complete old.id) (.ok ()) (moved fresh.now .completed old)
  | ended {old : Session} {target : SessionStatus} (member : old ∈ table.rows)
      (active : old.status = .inProgress) :
      Origin table fresh (.transition old.id target) (.ok (moved fresh.now target old))
        (moved fresh.now target old)

/-- A session that was there before and that a call has not changed is still as it was. -/
theorem Origin.same {given : call.Answer} (member : row ∈ table.rows)
    (unchanged : call.change? row.id given = none) : table.Origin fresh call given row :=
  -- The dispatcher status is kept as well as any other field.
  .kept member row.dispatcherStatus unchanged

/-- The user of a session that is in a table after a call had one before, or has got one made. -/
theorem Origin.owner {given : call.Answer} (origin : table.Origin fresh call given row) :
    (∃ tokenId, call = .create row.user tokenId) ∨ ∃ old ∈ table.rows, old.user = row.user := by
  -- Only a session that was made just now has no earlier row.
  cases origin with
  | created => exact .inl ⟨_, rfl⟩
  | kept member | overwritten member | completed member | ended member =>
    exact .inr ⟨_, member, rfl⟩

/-- Every session that is in a table after a call has an origin. -/
theorem perform_origin (member : row ∈ (table.perform fresh call).2.rows) :
    table.Origin fresh call (table.perform fresh call).1 row := by
  -- A call puts in one row at most, and all the others are those that were there before.
  cases call with
  | activeSession | ping => exact .same member rfl
  | session id =>
    -- A look leaves the rows as they were.
    simp only [perform] at member ⊢
    cases found : table.find? id with
    | none => exact .same (by simpa [found] using member) rfl
    | some session => exact .same (by simpa [found] using member) rfl
  | create user tokenId =>
    simp only [perform] at member ⊢
    split at member
    next busy =>
      rw [if_pos busy]
      exact .same member rfl
    next free =>
      rw [if_neg free]
      -- The new row has never been completed.
      rcases mem_insert.mp member with rfl | ⟨older, -⟩
      · exact .created
      · exact .same older rfl
  | setStatus id status =>
    simp only [perform] at member ⊢
    cases found : table.find? id with
    | none => exact .same (by simpa [found] using member) rfl
    | some old =>
      obtain ⟨present, rfl⟩ := mem_of_find? found
      simp only [found] at member ⊢
      split at member
      next busy =>
        rw [if_pos busy]
        exact .same member rfl
      next free =>
        rw [if_neg free]
        rcases mem_insert.mp member with rfl | ⟨older, different⟩
        · -- The row is overwritten with a status, and its time of completion stays as it was.
          exact .overwritten present
        · exact .same older (if_neg (Ne.symm different))
  | complete id =>
    simp only [perform] at member ⊢
    rcases table.update_cases id (moved fresh.now .completed) with
      ⟨fault, refused⟩ | ⟨old, present, rfl, changed⟩
    · rw [refused] at member ⊢
      exact .same member rfl
    · rw [changed] at member ⊢
      rcases mem_insert.mp member with rfl | ⟨older, different⟩
      · -- A completion gives the row its time, whatever it had before.
        exact .completed present
      · exact .same older (if_neg (Ne.symm different))
  | transition id target =>
    cases ended : table.perform fresh (.transition id target) with
    | mk given after =>
      rw [ended] at member
      cases given with
      | error fault =>
        rw [perform_transition_error ended] at member
        exact .same member rfl
      | ok session =>
        obtain ⟨old, present, rfl, active, rfl, rfl⟩ := perform_transition_ok ended
        rcases mem_insert.mp member with rfl | ⟨older, different⟩
        · -- A transition is carried out for a session in progress alone.
          exact .ended present active
        · exact .same older (if_neg (Ne.symm different))
  | setDispatcherStatus id status =>
    rcases table.perform_setDispatcherStatus fresh id status with
      same | ⟨old, present, rfl, reported⟩
    · rw [same] at member
      exact .same member rfl
    · rw [reported] at member
      rcases mem_insert.mp member with rfl | ⟨older, -⟩
      · exact .kept present status rfl
      · exact .same older rfl
  -- What is deleted is gone, and the rows that are left are old ones.
  | delete id => exact .same (mem_erase.mp member).1 rfl

/-- A session that is completed is in the table. -/
theorem known_of_completes (completes : call.Completes id (table.perform fresh call).1) :
    ∃ old ∈ table.rows, old.id = id := by
  -- There are two calls that complete a session, and both look it up first.
  match call with
  | .complete other =>
    simp only [perform] at completes
    -- A completion of an unknown session is refused, and then nothing completes.
    rcases table.update_cases other (moved fresh.now .completed) with
      ⟨fault, refused⟩ | ⟨old, present, named, changed⟩
    · rw [refused] at completes
      exact completes.elim
    · rw [changed] at completes
      exact ⟨old, present, named.trans completes⟩
  | .transition other .completed =>
    cases ended : table.perform fresh (.transition other .completed) with
    | mk given after =>
      rw [ended] at completes
      cases given with
      | error fault => exact completes.elim
      | ok session =>
        obtain ⟨old, present, named, -⟩ := perform_transition_ok ended
        exact ⟨old, present, named.trans completes⟩

end SessionTable

namespace StoreReply

/-- The status that the session of an identifier was brought to. -/
def change? (id : SessionId) (reply : StoreReply) : Option SessionStatus :=
  reply.call.change? id reply.given

/-- The session of an identifier was completed, and the time put down. -/
def Completes (id : SessionId) (reply : StoreReply) : Prop := reply.call.Completes id reply.given

/-- The status of the session of an identifier was overwritten, and not with that of a completed
one. -/
def Displaces (id : SessionId) (reply : StoreReply) : Prop := reply.call.Displaces id reply.given

end StoreReply

variable {fails : StoreCall → Prop} {past : List StoreReply} {table : SessionTable}
  {spent : List SessionId} {id : SessionId} {reply : StoreReply} {row : Session}

/-- The session of an identifier was completed at some time. -/
def CompletedIn (id : SessionId) (past : List StoreReply) : Prop :=
  ∃ reply ∈ past, reply.Completes id

/-- The session of an identifier was completed, then its status was overwritten, and nothing has
brought it back since. -/
def DisplacedIn (id : SessionId) (past : List StoreReply) : Prop :=
  ∃ early reply late, past = early ++ reply :: late ∧ CompletedIn id early ∧ reply.Displaces id ∧
    ∀ later ∈ late, later.change? id ≠ some .completed

/-- A session has been completed with one more reply just if it had been before, or is by now. -/
theorem completedIn_snoc :
    CompletedIn id (past ++ [reply]) ↔ CompletedIn id past ∨ reply.Completes id := by
  -- The replies are the earlier ones and the last.
  simp [CompletedIn, or_and_right, exists_or]

/-- A session that is completed is brought to that status. -/
theorem StoreReply.Completes.change? (completes : reply.Completes id) :
    reply.change? id = some .completed := by
  -- Only two calls complete a session, and both say so by the status that they bring about.
  match reply with
  | ⟨_, .complete _, .ok _⟩ | ⟨_, .transition _ .completed, .ok _⟩ => exact if_pos completes

/-- A session whose status is overwritten is brought to another status than a completed one. -/
theorem StoreReply.Displaces.change? (displaces : reply.Displaces id) :
    ∃ status, status ≠ .completed ∧ reply.change? id = some status := by
  -- Only a status that is set can be another one for a completed session.
  match reply with
  | ⟨_, .setStatus _ status, .ok _⟩ => exact ⟨status, displaces.2, if_pos displaces.1⟩

/-- A call that failed has brought no session to any status. -/
theorem StoreCall.Missed.change? {call : StoreCall} {given : call.Answer}
    (missed : call.Missed given) : call.change? id given = none := by
  -- A call that failed has a fault for its answer, and a deletion that was overlooked changes no
  -- status.
  cases missed with
  | unreached call reason => cases call <;> rfl
  | overlooked => rfl

/-- What displaced a session still does unless it is brought back, and a session that has been
completed may be displaced by now. -/
theorem displacedIn_snoc :
    DisplacedIn id (past ++ [reply]) ↔ reply.change? id ≠ some .completed ∧
      (DisplacedIn id past ∨ CompletedIn id past ∧ reply.Displaces id) := by
  constructor
  · rintro ⟨early, first, late, split, completed, displaces, later⟩
    -- The reply that displaced the session is the last one, or the last one came later.
    rcases List.eq_nil_or_concat late with rfl | ⟨late, last, rfl⟩
    · obtain ⟨rfl, same⟩ := List.append_inj' split rfl
      cases List.singleton_inj.mp same
      obtain ⟨status, other, changed⟩ := displaces.change?
      exact ⟨by simp [changed, other], .inr ⟨completed, displaces⟩⟩
    · rw [List.concat_eq_append, ← List.cons_append, ← List.append_assoc] at split
      obtain ⟨rfl, same⟩ := List.append_inj' split rfl
      cases List.singleton_inj.mp same
      refine ⟨later _ (by simp), .inl ⟨early, first, late, rfl, completed, displaces, ?_⟩⟩
      exact fun reply member => later reply (by simp [member])
  · -- The other way round the reply is put behind the later ones, or is itself the one that
    -- displaces.
    rintro ⟨kept, ⟨early, first, late, rfl, completed, displaces, later⟩ | ⟨completed, displaces⟩⟩
    · refine ⟨early, first, late ++ [reply], by simp, completed, displaces, ?_⟩
      intro other member
      rcases List.mem_append.mp member with before | last
      · exact later other before
      · rwa [List.mem_singleton.mp last]
    · exact ⟨past, reply, [], rfl, completed, displaces, nofun⟩

/-- What has happened to a session tells whether it has a time of completion, and whether it has one
without being completed. -/
structure Session.ToldBy (row : Session) (past : List StoreReply) : Prop where
  completed : row.completedAt.isSome = true ↔ CompletedIn row.id past
  displaced : row.completedAt.isSome = true ∧ row.status ≠ .completed ↔ DisplacedIn row.id past

namespace Session.ToldBy

variable {caller : Nat}

/-- A session that has never been completed has no time of completion. -/
theorem created (uncompleted : row.completedAt = none) (never : ¬ CompletedIn row.id past) :
    row.ToldBy past := by
  -- What was displaced was completed first.
  have undisplaced : ¬ DisplacedIn row.id past := by
    rintro ⟨early, reply, late, rfl, ⟨first, member, completes⟩, -, -⟩
    exact never ⟨first, List.mem_append_left _ member, completes⟩
  constructor <;> simp [uncompleted, never, undisplaced]

/-- A reply that does not change a session tells nothing new of it. -/
theorem kept (told : row.ToldBy past) (unchanged : reply.change? row.id = none) :
    row.ToldBy (past ++ [reply]) := by
  -- A reply that completes a session changes its status, and so does one that displaces it.
  have incomplete : ¬ reply.Completes row.id := fun completes => by
    simp [completes.change?] at unchanged
  have still : ¬ reply.Displaces row.id := fun displaces => by
    obtain ⟨status, -, changed⟩ := displaces.change?
    simp [changed] at unchanged
  constructor
  · rw [told.completed, completedIn_snoc, or_iff_left incomplete]
  · rw [told.displaced, displacedIn_snoc, unchanged]
    simp [still]

/-- A session whose status is overwritten keeps the time of its completion. -/
theorem overwritten (told : row.ToldBy past) (status : SessionStatus) :
    Session.ToldBy { row with status }
      (past ++ [⟨caller, .setStatus row.id status, .ok ()⟩]) := by
  set reply : StoreReply := ⟨caller, .setStatus row.id status, .ok ()⟩
  have changed : reply.change? row.id = some status := if_pos rfl
  have incomplete : ¬ reply.Completes row.id := fun never => never
  have displaces : reply.Displaces row.id ↔ status ≠ .completed := and_iff_right rfl
  -- A session that had been displaced before had been completed, too.
  have earlier : DisplacedIn row.id past → CompletedIn row.id past :=
    fun displaced => told.completed.mp (told.displaced.mpr displaced).1
  constructor
  · rw [completedIn_snoc, or_iff_left incomplete]
    exact told.completed
  · rw [displacedIn_snoc, changed, displaces]
    show row.completedAt.isSome = true ∧ status ≠ .completed ↔ _
    rw [told.completed, ne_eq, ne_eq, Option.some.injEq]
    tauto

/-- A session that is completed has the time of its completion and the status. -/
theorem moved_completed {now : Timestamp} (completes : reply.Completes row.id) :
    (SessionTable.moved now .completed row).ToldBy (past ++ [reply]) := by
  -- The reply is the last, so it decides both.
  constructor
  · rw [completedIn_snoc]
    simp [SessionTable.moved, completes]
  · rw [displacedIn_snoc]
    simp [SessionTable.moved, completes.change?]

/-- A session in progress that is brought to another end had been displaced just if it is now. -/
theorem moved_other {now : Timestamp} {target : SessionStatus} {given : Session}
    (told : row.ToldBy past) (active : row.status = .inProgress) (other : target ≠ .completed) :
    (SessionTable.moved now target row).ToldBy
      (past ++ [⟨caller, .transition row.id target, .ok given⟩]) := by
  set reply : StoreReply := ⟨caller, .transition row.id target, .ok given⟩
  -- The reply brings the session to another end, so it neither completes it nor sets the status of
  -- one completed.
  have changed : reply.change? row.id = some target := if_pos rfl
  have incomplete : ¬ reply.Completes row.id := fun completes =>
    other (Option.some.inj (changed.symm.trans completes.change?))
  have still : ¬ reply.Displaces row.id := fun never => never
  have before := told.displaced
  have kept : (SessionTable.moved now target row).completedAt = row.completedAt := if_neg other
  constructor
  · rw [kept, completedIn_snoc, SessionTable.moved, or_iff_left incomplete]
    exact told.completed
  · rw [kept, displacedIn_snoc, SessionTable.moved, changed]
    simpa [active, other, still] using before

end Session.ToldBy

namespace Chronicle

/-- A session that was completed has been made. -/
theorem mem_spent_of_completed (chronicle : Chronicle fails past table spent)
    (completed : CompletedIn id past) : id ∈ spent := by
  induction chronicle with
  | start => simp [CompletedIn] at completed
  | @answered past table _ spent _ fresh call _ _ earlier _ performed recorded ih =>
    refine recorded id (SessionTable.mem_spentAfter ?_ fresh call _)
    rcases completedIn_snoc.mp completed with before | completes
    · exact ih before
    · -- What is completed now is in the table.
      have completes : call.Completes id (table.perform fresh call).1 := performed ▸ completes
      obtain ⟨old, present, rfl⟩ := SessionTable.known_of_completes completes
      exact earlier.sound.spent old present
  | missed _ _ _ missed recorded ih =>
    rcases completedIn_snoc.mp completed with before | completes
    · exact recorded id (ih before)
    · cases completes.change?.symm.trans missed.change?

/-- What a store has been asked and has answered tells of every session whether it has been
completed, and whether it was displaced since. -/
theorem toldBy (chronicle : Chronicle fails past table spent) (member : row ∈ table.rows) :
    row.ToldBy past := by
  -- The induction is on the answers, the last of which tells where the session comes from.
  induction chronicle generalizing row with
  | start => cases member
  | @answered past table after spent _ fresh call given caller earlier unused performed _ ih =>
    have origin : table.Origin fresh call (table.perform fresh call).1 row :=
      SessionTable.perform_origin (by rwa [performed])
    rw [performed] at origin
    cases origin with
    | created =>
      -- An identifier that was not given out is not that of a completed session.
      refine .created rfl fun completed => ?_
      rcases completedIn_snoc.mp completed with before | completes
      · exact unused (earlier.mem_spent_of_completed before)
      · exact completes
    | @kept _ _ old present dispatcherStatus unchanged =>
      have unchanged : StoreReply.change? old.id ⟨caller, call, given⟩ = none := unchanged
      obtain ⟨completed, displaced⟩ := (ih present).kept unchanged
      exact ⟨completed, displaced⟩
    | overwritten present => exact (ih present).overwritten _
    | completed => exact .moved_completed rfl
    | @ended old target present active =>
      by_cases done : target = .completed
      · subst done
        exact .moved_completed rfl
      · exact (ih present).moved_other active done
  | missed _ _ _ missed _ ih => exact (ih member).kept missed.change?

/-- A session has a time of completion just if it has been completed. It has one without being
completed just if its status was overwritten after that and nothing has brought it back. -/
theorem completion_of_history (chronicle : Chronicle fails past table spent) :
    ∀ row ∈ table.rows, (row.completedAt.isSome = true ↔ CompletedIn row.id past) ∧
      (row.completedAt.isSome = true ∧ row.status ≠ .completed ↔ DisplacedIn row.id past) :=
  -- The two halves are what every row is told by its history.
  fun _ member => ⟨(chronicle.toldBy member).completed, (chronicle.toldBy member).displaced⟩

/-- One more call is answered by the table. -/
theorem next (chronicle : Chronicle fails past table spent) (caller : Nat) (fresh : Fresh)
    (call : StoreCall) (unused : SessionTable.Unused spent fresh call) :
    Chronicle fails (past ++ [⟨caller, call, (table.perform fresh call).1⟩])
      (table.perform fresh call).2
      (SessionTable.spentAfter spent fresh call (table.perform fresh call).1) :=
  -- The table gives the answer that the chronicle asks for.
  .answered caller chronicle unused rfl fun _ given => given

/-- A completed session that was put back in progress and then timed out still tells when it was
completed. -/
theorem timed_out_after_completion : ∃ past table spent, ∃ row ∈ table.rows,
    Chronicle (fun _ => False) past table spent ∧ row.status = .timeout ∧
      row.completedAt.isSome = true ∧ DisplacedIn row.id past := by
  -- The four calls are made one after another, and the row is what they leave.
  let ada : UserId := ⟨"ada", by decide⟩
  let noon : Timestamp := ⟨2024, 1, 1, 12, 0, 0, 0⟩
  let fresh : Fresh := ⟨.numbered 1, noon⟩
  have first : Chronicle (fun _ => False) [] .empty [] := .start []
  have chronicle := (((first.next 0 fresh (.create ada "first") List.not_mem_nil).next 0 fresh
    (.complete (.numbered 1)) trivial).next 0 fresh (.setStatus (.numbered 1) .inProgress)
    trivial).next 0 fresh (.transition (.numbered 1) .timeout) trivial
  let row : Session := ⟨.numbered 1, ada, "first", .timeout, Session.pending, noon, some noon⟩
  refine ⟨_, _, _, row, ?_, chronicle, rfl, rfl, ?_⟩
  · decide
  · exact (chronicle.completion_of_history row (by decide)).2.mp ⟨rfl, by decide⟩

/-- A session may have a time of completion and not be completed. -/
theorem time_without_completion : ¬ ∀ (past : List StoreReply) (table : SessionTable)
    (spent : List SessionId), Chronicle (fun _ => False) past table spent →
      ∀ row ∈ table.rows, row.completedAt.isSome = true → row.status = .completed := by
  -- The session is completed, and then its status is set to another one.
  intro always
  let ada : UserId := ⟨"ada", by decide⟩
  let noon : Timestamp := ⟨2024, 1, 1, 12, 0, 0, 0⟩
  let fresh : Fresh := ⟨.numbered 1, noon⟩
  have first : Chronicle (fun _ => False) [] .empty [] := .start []
  have chronicle := ((first.next 0 fresh (.create ada "first") List.not_mem_nil).next 0 fresh
    (.complete (.numbered 1)) trivial).next 0 fresh (.setStatus (.numbered 1) .timeout) trivial
  let row : Session := ⟨.numbered 1, ada, "first", .timeout, Session.pending, noon, some noon⟩
  have done : row.status = .completed := always _ _ _ chronicle row (by decide) rfl
  cases done

end Chronicle

end SessionGate
