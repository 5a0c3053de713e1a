import SessionGate.Proofs.Connection.Backing
import SessionGate.Proofs.Store.Effect

/-! What a store has been asked and has answered, one call after another. Where no status is
overwritten, a session is ended at most once, and stays as it was ended. -/

namespace SessionGate

/-- A call that a store has answered, and by whom it was made. -/
structure StoreReply where
  caller : Nat
  call : StoreCall
  given : call.Answer

namespace StoreReply

/-- The session that was made. -/
def creation? (reply : StoreReply) : Option Session := reply.call.creation? reply.given

/-- The end to which the session of an identifier was brought, and by whom. -/
def ending? (id : SessionId) (reply : StoreReply) : Option (Nat × Ending) :=
  (reply.call.ending? id reply.given).map (reply.caller, ·)

/-- A session was brought to its end by an order to end it that succeeded. -/
theorem ending?_eq_some {id : SessionId} {reply : StoreReply} {caller : Nat} {ending : Ending} :
    reply.ending? id = some (caller, ending) ↔
      reply = ⟨caller, .transition id ending.target, .ok ending.session⟩ := by
  constructor
  · intro ended
    -- No other call than a transition that succeeded has an end to tell.
    match reply with
    | ⟨other, .transition named target, .ok session⟩ =>
      simp only [ending?, StoreCall.ending?] at ended
      split at ended
      next same =>
        subst same
        cases ended
        rfl
      · cases ended
  · rintro rfl
    simp [ending?, StoreCall.ending?]

end StoreReply

/-- A call that overwrites no status, and ends a session only with a status that is an end. -/
def StoreCall.Orderly : StoreCall → Prop
  | .setStatus _ _ | .complete _ => False
  | .transition _ target => target ≠ .inProgress
  | _ => True

/-- A call that overwrites a status is not orderly. -/
theorem StoreCall.Orderly.keeps {call : StoreCall} (orderly : call.Orderly) :
    ¬ call.Overwrites := by
  -- Two orders overwrite a status, and neither is orderly.
  cases call with
  | setStatus | complete => exact orderly.elim
  | _ => exact id

/-- The sessions that were made. -/
def creations (past : List StoreReply) : List Session := past.filterMap StoreReply.creation?

/-- The ends to which the session of an identifier was brought. -/
def endings (id : SessionId) (past : List StoreReply) : List (Nat × Ending) :=
  past.filterMap (StoreReply.ending? id)

/-- Calls that were answered one after another by a table that was empty at first. What a call
takes as an identifier has not been given out before; a call that fails changes nothing. -/
inductive Chronicle (fails : StoreCall → Prop) :
    List StoreReply → SessionTable → List SessionId → Prop where
  | start (spent : List SessionId) : Chronicle fails [] .empty spent
  | answered {past : List StoreReply} {table after : SessionTable} {spent known : List SessionId}
      {fresh : Fresh} {call : StoreCall} {given : call.Answer} (caller : Nat)
      (earlier : Chronicle fails past table spent) (unused : SessionTable.Unused spent fresh call)
      (performed : table.perform fresh call = (given, after))
      (recorded : ∀ id ∈ SessionTable.spentAfter spent fresh call given, id ∈ known) :
      Chronicle fails (past ++ [⟨caller, call, given⟩]) after known
  | missed {past : List StoreReply} {table : SessionTable} {spent known : List SessionId}
      {call : StoreCall} {given : call.Answer} (caller : Nat)
      (earlier : Chronicle fails past table spent) (failing : fails call)
      (missed : call.Missed given) (recorded : ∀ id ∈ spent, id ∈ known) :
      Chronicle fails (past ++ [⟨caller, call, given⟩]) table known

variable {fails : StoreCall → Prop} {past : List StoreReply} {table : SessionTable}
  {spent : List SessionId} {id : SessionId} {reply : StoreReply} {session : Session}

/-- One more reply may be one more end. -/
theorem endings_snoc : endings id (past ++ [reply]) =
    endings id past ++ (reply.ending? id).toList := by
  -- The last reply ends the session or does not.
  rw [endings, List.filterMap_append, ← endings]
  cases found : reply.ending? id <;> simp [found]

/-- A reply that ends nothing leaves the ends as they are. -/
theorem endings_snoc_none (unended : reply.ending? id = none) :
    endings id (past ++ [reply]) = endings id past := by
  -- Nothing is added to the ends.
  rw [endings_snoc, unended]
  exact List.append_nil _

/-- A session was made for its user with its token. -/
def Session.CreatedIn (session : Session) (past : List StoreReply) : Prop :=
  ∃ made ∈ creations past, made.id = session.id ∧ made.user = session.user ∧
    made.tokenId = session.tokenId

/-- What was made stays made. -/
theorem Session.CreatedIn.more (created : session.CreatedIn past) (reply : StoreReply) :
    session.CreatedIn (past ++ [reply]) := by
  obtain ⟨made, member, same⟩ := created
  refine ⟨made, ?_, same⟩
  -- Replies are only ever added behind.
  rw [creations, List.filterMap_append]
  exact List.mem_append_left _ member

/-- The session was brought to an end that is one, and it was completed just if it has a time of
completion. -/
structure Ending.Proper (ending : Ending) (id : SessionId) (past : List StoreReply) : Prop where
  named : ending.session.id = id
  final : ending.target ≠ .inProgress
  status : ending.session.status = ending.target
  completed : ending.session.completedAt.isSome = true ↔ ending.target = .completed
  created : ending.session.CreatedIn past

/-- A session as it was made, and a session as it was ended. -/
inductive Session.Standing (session : Session) : List (Nat × Ending) → Prop where
  | active (status : session.status = .inProgress) (uncompleted : session.completedAt = none) :
      Standing session []
  | ended {caller : Nat} {ending : Ending} (status : session.status = ending.target)
      (completedAt : session.completedAt = ending.session.completedAt) :
      Standing session [(caller, ending)]

/-- A session that is in progress stands as it was made. -/
theorem Session.Standing.unended {ends : List (Nat × Ending)} (standing : session.Standing ends)
    (active : session.status = .inProgress)
    (proper : ∀ entry ∈ ends, entry.2.Proper id past) :
    session.completedAt = none ∧ ends = [] := by
  cases standing with
  | active _ uncompleted => exact ⟨uncompleted, rfl⟩
  | ended status =>
    -- What has been ended has a status that is an end.
    exact absurd (status.symm.trans active) (proper _ List.mem_cons_self).final

/-- What is known of the session of an identifier: it is ended at most once, and while it is there
it stands as it was made or as it was ended. -/
structure Life (id : SessionId) (past : List StoreReply) (table : SessionTable)
    (spent : List SessionId) : Prop where
  unborn : id ∉ spent → endings id past = []
  once : (endings id past).length ≤ 1
  proper : ∀ entry ∈ endings id past, entry.2.Proper id past
  row : ∀ row ∈ table.rows, row.id = id →
    row.CreatedIn past ∧ row.Standing (endings id past)

namespace Chronicle

/-- A table with a chronicle is sound. -/
theorem sound (chronicle : Chronicle fails past table spent) : table.Sound spent := by
  -- The table is sound at first, and every answer keeps it so.
  induction chronicle with
  | start => exact .empty
  | answered _ _ unused performed recorded ih =>
    have kept := ih.perform unused
    rw [performed] at kept
    exact ⟨kept.apart, fun row member => recorded _ (kept.spent row member), kept.single⟩
  | missed _ _ _ _ recorded ih =>
    exact ⟨ih.apart, fun row member => recorded _ (ih.spent row member), ih.single⟩

/-- More may have been given out than a chronicle needs. -/
theorem widen {known : List SessionId} (chronicle : Chronicle fails past table spent)
    (recorded : ∀ id ∈ spent, id ∈ known) : Chronicle fails past table known := by
  -- Only the last entry has to do with what is known by now.
  cases chronicle with
  | start => exact .start known
  | answered caller earlier unused performed given =>
    exact .answered caller earlier unused performed fun id member => recorded id (given id member)
  | missed caller earlier failing missed given =>
    exact .missed caller earlier failing missed fun id member => recorded id (given id member)

/-- Every reply was given by some table, or the call failed. -/
theorem given_of_mem (chronicle : Chronicle fails past table spent) (told : reply ∈ past) :
    (∃ (before : SessionTable) (fresh : Fresh),
      (before.perform fresh reply.call).1 = reply.given) ∨ reply.call.Missed reply.given := by
  -- A reply is the last one, or it was given before.
  induction chronicle with
  | start => cases told
  | @answered _ before _ _ _ fresh _ _ _ _ _ performed _ ih =>
    rcases List.mem_append.mp told with early | now
    · exact ih early
    · cases List.mem_singleton.mp now
      exact Or.inl ⟨before, fresh, congrArg Prod.fst performed⟩
  | missed _ _ _ missed _ ih =>
    rcases List.mem_append.mp told with early | now
    · exact ih early
    · cases List.mem_singleton.mp now
      exact Or.inr missed

/-- Whoever was refused to end a session was never told that it is in progress. -/
theorem refused_status (chronicle : Chronicle fails past table spent) {caller : Nat}
    {target status : SessionStatus} {other : SessionId}
    (told : ⟨caller, .transition id target, .error (.notInProgress other status)⟩ ∈ past) :
    status ≠ .inProgress := by
  rcases chronicle.given_of_mem told with ⟨before, fresh, performed⟩ | missed
  · simp only [SessionTable.perform] at performed
    -- A table in memory has looked at the status that it tells.
    split at performed
    · cases performed
    · split at performed
      · cases performed
      next inactive =>
        cases performed
        exact inactive
  · cases missed

end Chronicle

namespace Life

variable {known : List SessionId} {caller : Nat}

/-- A reply that neither makes nor ends a session, nor changes how one stands, tells nothing new. -/
theorem quiet {after : SessionTable} (life : Life id past table spent)
    (unended : reply.ending? id = none) (recorded : ∀ id ∈ spent, id ∈ known)
    (rows : ∀ row ∈ after.rows, row.id = id → ∃ old ∈ table.rows, old.id = id ∧
      old.user = row.user ∧ old.tokenId = row.tokenId ∧ old.status = row.status ∧
      old.completedAt = row.completedAt) :
    Life id (past ++ [reply]) after known := by
  -- The reply tells of no end, so the ends are those that were told before.
  have same : endings id (past ++ [reply]) = endings id past := endings_snoc_none unended
  refine ⟨?_, ?_, ?_, ?_⟩
  · intro unknown
    rw [same]
    exact life.unborn fun given => unknown (recorded id given)
  · rw [same]
    exact life.once
  · -- An end that was told was a proper one then, and its creation is still in the past.
    intro entry member
    rw [same] at member
    obtain ⟨named, final, status, completed, created⟩ := life.proper entry member
    exact ⟨named, final, status, completed, created.more reply⟩
  · intro row member named
    obtain ⟨old, present, known, user, tokenId, status, completedAt⟩ := rows row member named
    obtain ⟨created, standing⟩ := life.row old present known
    -- The old row has the same names and the same standing.
    refine ⟨?_, ?_⟩
    · obtain ⟨made, listed, sameId, sameUser, sameToken⟩ := created.more reply
      exact ⟨made, listed, by rw [sameId, known, named], sameUser.trans user,
        sameToken.trans tokenId⟩
    · rw [same]
      generalize endings id past = ends at standing ⊢
      cases standing with
      | active active uncompleted =>
        exact .active (status.symm.trans active) (completedAt.symm.trans uncompleted)
      | ended ended told => exact .ended (status.symm.trans ended) (completedAt.symm.trans told)

/-- A session that has been made stands as it was made. -/
theorem created {fresh : Fresh} {user : UserId} {tokenId : String}
    (life : Life id past table spent) (unused : fresh.id ∉ spent)
    (recorded : ∀ id ∈ fresh.id :: spent, id ∈ known) :
    let made := SessionTable.newSession fresh user tokenId
    Life id (past ++ [⟨caller, .create user tokenId, .ok made⟩]) (table.insert made) known := by
  intro made
  -- A creation is no end.
  have same : endings id (past ++ [⟨caller, .create user tokenId, .ok made⟩]) = endings id past :=
    endings_snoc_none rfl
  refine ⟨?_, ?_, ?_, ?_⟩
  · intro unknown
    rw [same]
    exact life.unborn fun given => unknown (recorded id (List.mem_cons_of_mem _ given))
  · rw [same]
    -- The ends are those of before, of which there was at most one.
    exact life.once
  · intro entry member
    rw [same] at member
    obtain ⟨named, final, status, completed, created⟩ := life.proper entry member
    exact ⟨named, final, status, completed, created.more _⟩
  · intro row member named
    rw [same]
    rcases SessionTable.mem_insert.mp member with rfl | ⟨older, -⟩
    · -- An identifier that was not given out has no end to its name.
      subst named
      have unended := life.unborn unused
      refine ⟨⟨made, ?_, rfl, rfl, rfl⟩, ?_⟩
      · rw [creations, List.filterMap_append]
        exact List.mem_append_right _ List.mem_cons_self
      · rw [unended]
        exact .active rfl rfl
    · -- All other rows are as they were.
      obtain ⟨created, standing⟩ := life.row row older named
      exact ⟨created.more _, standing⟩

/-- A session that was in progress and is ended had not been ended before. -/
theorem ended {old : Session} {target : SessionStatus} {now : Timestamp}
    (life : Life id past table spent) (member : old ∈ table.rows)
    (active : old.status = .inProgress) (final : target ≠ .inProgress)
    (recorded : ∀ id ∈ spent, id ∈ known)
    (given : ∀ row ∈ table.rows, row.id ∈ spent) :
    let made := SessionTable.moved now target old
    Life id (past ++ [⟨caller, .transition old.id target, .ok made⟩]) (table.insert made)
      known := by
  intro made
  -- Of all sessions this one alone comes to one more end.
  by_cases here : old.id = id
  · subst here
    obtain ⟨created, standing⟩ := life.row old member rfl
    obtain ⟨uncompleted, none⟩ := standing.unended active life.proper
    have only : endings old.id (past ++ [⟨caller, .transition old.id target, .ok made⟩]) =
        [(caller, ⟨target, made⟩)] := by
      rw [endings_snoc, none]
      simp [StoreReply.ending?, StoreCall.ending?]
    refine ⟨?_, ?_, ?_, ?_⟩
    · -- The session is there, so its identifier has been given out.
      exact fun unknown => absurd (recorded _ (given old member)) unknown
    · rw [only]
      exact Nat.le_refl 1
    · intro entry listed
      rw [only] at listed
      cases List.mem_singleton.mp listed
      refine ⟨rfl, final, rfl, ?_, created.more _⟩
      -- Only a session that is completed gets a time of completion.
      by_cases done : target = .completed
      · simp [made, SessionTable.moved, done]
      · simp [made, SessionTable.moved, done, uncompleted]
    · -- The row of the session is the one that was put in.
      intro row present named
      rw [only]
      rcases SessionTable.mem_insert.mp present with rfl | ⟨-, different⟩
      · exact ⟨created.more _, .ended rfl rfl⟩
      · exact absurd named different
  · -- For any other session the reply is none of its own.
    have elsewhere :
        StoreReply.ending? id ⟨caller, .transition old.id target, .ok made⟩ = none := by
      simp [StoreReply.ending?, StoreCall.ending?, here]
    refine life.quiet elsewhere recorded fun row present named => ?_
    rcases SessionTable.mem_insert.mp present with rfl | ⟨older, -⟩
    · exact absurd named here
    · exact ⟨row, older, named, rfl, rfl, rfl, rfl⟩

/-- An order to end a session is refused where there is none, or where it was brought to its end
before, and then the order is told how. -/
theorem judged {fresh : Fresh} {target : SessionStatus} (life : Life id past table spent) :
    ((∀ row ∈ table.rows, row.id ≠ id) ∧
      (table.perform fresh (.transition id target)).1 = .error (.notFound id)) ∨
    (∃ row ∈ table.rows, row.id = id) ∧ (
      (endings id past = [] ∧
        ∃ ended, (table.perform fresh (.transition id target)).1 = .ok ended) ∨
      ∃ entry ∈ endings id past,
        (table.perform fresh (.transition id target)).1 =
          .error (.notInProgress id entry.2.target)) := by
  simp only [SessionTable.perform]
  cases found : table.find? id with
  | none => exact Or.inl ⟨SessionTable.find?_eq_none.mp found, rfl⟩
  | some row =>
    obtain ⟨member, named⟩ := SessionTable.mem_of_find? found
    refine Or.inr ⟨⟨row, member, named⟩, ?_⟩
    -- The status of the row tells whether its session has been ended.
    have standing := (life.row row member named).2
    dsimp only
    split
    -- In progress: no end has been told, and the table moves the session on.
    next active => exact Or.inl ⟨(standing.unended active life.proper).2, _, rfl⟩
    next inactive =>
      generalize endings id past = ends at standing
      cases standing with
      | active active => exact absurd active inactive
      -- Ended: the refusal is that of the end which was told.
      | ended status => exact Or.inr ⟨_, List.mem_cons_self, by rw [status]⟩

end Life

/-- Where all calls were orderly, so was the life of every session. -/
theorem Chronicle.life (chronicle : Chronicle fails past table spent)
    (orderly : ∀ reply ∈ past, reply.call.Orderly) : Life id past table spent := by
  induction chronicle with
  | start => exact ⟨fun _ => rfl, Nat.zero_le 1, nofun, nofun⟩
  | @answered past table after spent known fresh call given caller earlier unused performed recorded
      ih =>
    have life := ih fun reply member => orderly reply (List.mem_append_left _ member)
    have proper : call.Orderly := orderly _ (List.mem_append_right _ List.mem_cons_self)
    have sound := earlier.sound
    have effect := table.perform_effect fresh call
    rw [performed] at effect
    have spending : ∀ id ∈ spent, id ∈ known := fun id given =>
      recorded id (SessionTable.mem_spentAfter given fresh call _)
    -- An orderly call has no other effects than those that a life takes.
    cases effect with
    | none _ unended =>
      refine life.quiet (by simp [StoreReply.ending?, unended]) spending fun row member named => ?_
      exact ⟨row, member, named, rfl, rfl, rfl, rfl⟩
    | created => exact life.created unused recorded
    | ended member active => exact life.ended member active proper spending sound.spent
    | overwritten overwrites => exact absurd overwrites proper.keeps
    | @reported old status member =>
      refine life.quiet rfl spending fun row present named => ?_
      rcases SessionTable.mem_insert.mp present with rfl | ⟨older, -⟩
      · exact ⟨old, member, named, rfl, rfl, rfl, rfl⟩
      · exact ⟨row, older, named, rfl, rfl, rfl, rfl⟩
    | erased =>
      refine life.quiet rfl spending fun row present named => ?_
      exact ⟨row, (SessionTable.mem_erase.mp present).1, named, rfl, rfl, rfl, rfl⟩
  | @missed past table spent known call given caller earlier failing missed recorded ih =>
    have life := ih fun reply member => orderly reply (List.mem_append_left _ member)
    refine life.quiet ?_ recorded fun row member named => ⟨row, member, named, rfl, rfl, rfl, rfl⟩
    -- A call that failed has made and ended nothing.
    cases missed with
    | unreached _ reason => cases call <;> rfl
    | overlooked => rfl

/-- An end stays an end when more is asked. -/
theorem mem_endings_snoc {entry : Nat × Ending} (ended : entry ∈ endings id past) :
    entry ∈ endings id (past ++ [reply]) := by
  -- The end is one of the earlier replies.
  rw [endings_snoc]
  exact List.mem_append_left _ ended

/-- Whoever was refused to end a session, and not for a failure, has found none, or one that
somebody had ended; and has been told how. -/
theorem Chronicle.refused (chronicle : Chronicle fails past table spent)
    (orderly : ∀ reply ∈ past, reply.call.Orderly) {caller : Nat} {target : SessionStatus}
    {fault : StoreError} (reliable : ¬ fails (.transition id target))
    (told : ⟨caller, .transition id target, .error fault⟩ ∈ past) :
    fault = .notFound id ∨ ∃ entry ∈ endings id past, fault = .notInProgress id entry.2.target := by
  -- The induction is on the chronicle, and the refusal stands in its past or is the last reply.
  induction chronicle with
  | start => cases told
  | @answered past table after spent known fresh call given _ earlier _ performed _ ih =>
    have before : ∀ reply ∈ past, reply.call.Orderly :=
      fun reply member => orderly reply (List.mem_append_left _ member)
    rcases List.mem_append.mp told with early | now
    · exact (ih before early).imp_right fun ⟨entry, ended, same⟩ =>
        ⟨entry, mem_endings_snoc ended, same⟩
    · -- What is known of the session just before decides the answer.
      cases List.mem_singleton.mp now
      have answer := congrArg Prod.fst performed
      have life : Life id past table spent := earlier.life before
      rcases life.judged with
        ⟨-, missing⟩ | ⟨-, ⟨-, ended, moved⟩ | ⟨entry, ended, same⟩⟩
      · exact Or.inl (Except.error.inj (answer.symm.trans missing))
      · cases answer.symm.trans moved
      · exact Or.inr ⟨entry, mem_endings_snoc ended, Except.error.inj (answer.symm.trans same)⟩
  -- A reply of a store that fails is no refusal of a store that is reliable.
  | missed _ _ failing _ _ ih =>
    rcases List.mem_append.mp told with early | now
    · exact (ih (fun reply member => orderly reply (List.mem_append_left _ member)) early).imp_right
        fun ⟨entry, ended, same⟩ => ⟨entry, mem_endings_snoc ended, same⟩
    · cases List.mem_singleton.mp now
      exact absurd failing reliable

end SessionGate
