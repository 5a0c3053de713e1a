import SessionGate.Proofs.Connection.Faults
import SessionGate.Proofs.Connection.Visit

/-! What is done for a session that was completed. Its broker resources, its user's authorization
and its token are to go, which is begun in this order and may be cut short. -/

namespace SessionGate

open ServiceExchange

/-- What is to be asked for once a session has been completed: its broker resources go, and so do
its user's authorization and its token, if it has one. -/
def Session.followUps (session : Session) : List ServiceCall :=
  .topology (.tearDown session.user) :: .identity (.revokeAuthorization session.user) ::
    if session.tokenId.isEmpty then [] else
      [.identity (.revokeToken session.user session.tokenId)]

/-- A session was ordered to be completed. -/
abbrev completion (id : SessionId) (given : (StoreCall.transition id .completed).Answer) :
    ServiceExchange :=
  told (.store (.transition id .completed)) given

/-- The broker resources of a session were ordered to go. -/
abbrev teardown (session : Session) (given : (TopologyCall.tearDown session.user).Answer) :
    ServiceExchange :=
  told (.topology (.tearDown session.user)) given

/-- The authorization of a session's user was revoked. -/
abbrev disbarment (session : Session)
    (given : (IdentityCall.revokeAuthorization session.user).Answer) : ServiceExchange :=
  told (.identity (.revokeAuthorization session.user)) given

/-- The token of a session was revoked. -/
abbrev revocation (session : Session)
    (given : (IdentityCall.revokeToken session.user session.tokenId).Answer) : ServiceExchange :=
  told (.identity (.revokeToken session.user session.tokenId)) given

/-- What a request to complete a session has exchanged when it waits for an answer. -/
inductive Completing (id : SessionId) : List ServiceExchange → ServiceCall → Prop where
  | ending : Completing id [] (.store (.transition id .completed))
  | dismantling {session : Session} :
      Completing id [completion id (.ok session)] (.topology (.tearDown session.user))
  | disbarring {session : Session} {torn : (TopologyCall.tearDown session.user).Answer} :
      Completing id [completion id (.ok session), teardown session torn]
        (.identity (.revokeAuthorization session.user))
  | revoking {session : Session} {torn : (TopologyCall.tearDown session.user).Answer}
      (present : session.tokenId.isEmpty = false) :
      Completing id
        [completion id (.ok session), teardown session torn, disbarment session (.ok ())]
        (.identity (.revokeToken session.user session.tokenId))

/-- What a request to complete a session has exchanged when it is answered, and the answer. -/
inductive Completed (id : SessionId) :
    List ServiceExchange → Except ConnectionError StatusResponse → Prop where
  | refused {fault : StoreError} :
      Completed id [completion id (.error fault)] (.error (.ofStore fault))
  | undisbarred {session : Session} {torn : (TopologyCall.tearDown session.user).Answer}
      {fault : IdentityError} :
      Completed id
        [completion id (.ok session), teardown session torn, disbarment session (.error fault)]
        (.error (.identity fault))
  | tokenless {session : Session} {torn : (TopologyCall.tearDown session.user).Answer}
      (absent : session.tokenId.isEmpty = true) :
      Completed id
        [completion id (.ok session), teardown session torn, disbarment session (.ok ())]
        (.ok (.transitioned id .completed))
  | revoked {session : Session} {torn : (TopologyCall.tearDown session.user).Answer}
      {last : (IdentityCall.revokeToken session.user session.tokenId).Answer}
      (present : session.tokenId.isEmpty = false) :
      Completed id
        [completion id (.ok session), teardown session torn, disbarment session (.ok ()),
          revocation session last]
        ((last.mapError .identity).map fun _ => .transitioned id .completed)

section Courses

variable {σ : Type} {env : Surroundings (Timed ServiceCall) (Timed.Answer ServiceCall.Answer) σ}
  {service : ConnectionService} {id : SessionId} {state final : σ} {log : List ServiceExchange}
  {rest : ServiceProgram (Handling ServiceOutcome)}

/-- However far a request to complete a session has come, it waits for an answer, or it has one. -/
theorem completing_of_course
    (course : Course env Program.Turn ((ServiceRequest.complete id).handling service) state log rest
      final) :
    (∃ call next, Completing id log call ∧ rest = .ask (.unhurried call) next) ∨
      ∃ result, Completed id log result ∧ rest = .done (.answered (.changed result)) := by
  -- The request is taken apart question by question: it still waits there, or it goes on.
  rcases Program.turns_ask.mp course with ⟨rfl, rfl, -⟩ | ⟨given, _, _, -, ended, rfl⟩
  · exact Or.inl ⟨_, _, .ending, rfl⟩
  match given with
  | .error fault =>
    obtain ⟨rfl, rfl, -⟩ := Program.turns_done.mp ended
    exact Or.inr ⟨_, .refused, rfl⟩
  | .ok session =>
    rcases Program.turns_ask.mp ended with ⟨rfl, rfl, -⟩ | ⟨torn, _, _, -, dismantled, rfl⟩
    · -- The session has ended, and its teardown is asked next, which cannot fail the request.
      exact Or.inl ⟨_, _, .dismantling, rfl⟩
    -- What the broker told is not looked at.
    rcases Program.turns_ask.mp dismantled with ⟨rfl, rfl, -⟩ | ⟨given, _, _, -, disbarred, rfl⟩
    · exact Or.inl ⟨_, _, .disbarring, rfl⟩
    match given with
    | .error fault =>
      obtain ⟨rfl, rfl, -⟩ := Program.turns_done.mp disbarred
      exact Or.inr ⟨_, .undisbarred, rfl⟩
    | .ok () =>
      dsimp only [Program.bind] at disbarred
      -- Only a token that is there is revoked.
      cases token : session.tokenId.isEmpty with
      | true =>
        simp only [token] at disbarred
        obtain ⟨rfl, rfl, -⟩ := Program.turns_done.mp disbarred
        exact Or.inr ⟨_, .tokenless token, rfl⟩
      | false =>
        simp only [token] at disbarred
        rcases Program.turns_ask.mp disbarred with ⟨rfl, rfl, -⟩ | ⟨last, _, _, -, revoked, rfl⟩
        · exact Or.inl ⟨_, _, .revoking token, rfl⟩
        · obtain ⟨rfl, rfl, -⟩ := Program.turns_done.mp revoked
          exact Or.inr ⟨_, .revoked token, rfl⟩

end Courses

section Asked

variable {id : SessionId} {log : List ServiceExchange} {call : ServiceCall}
  {result : Except ConnectionError StatusResponse}

/-- A request to complete a session that waits for an answer has not ended it, or asks for the next
one of what is to be asked for. -/
theorem Completing.asked (completing : Completing id log call) :
    (log = [] ∧ call = .store (.transition id .completed)) ∨
      ∃ session more, log = completion id (.ok session) :: more ∧
        log.filterMap (fun exchange => exchange.wanted.wanted.elsewhere?) ++
          call.elsewhere?.toList <+: session.followUps := by
  -- The cases are the calls of the request in their order.
  cases completing with
  | ending => exact Or.inl ⟨rfl, rfl⟩
  | dismantling | disbarring => exact Or.inr ⟨_, _, rfl, _, rfl⟩
  | revoking present =>
    refine Or.inr ⟨_, _, rfl, [], ?_⟩
    rw [Session.followUps, present]
    rfl

/-- A request to complete a session that is answered has been refused, has asked for all that is to
be asked for, or tells that the authorization could not be revoked. -/
theorem Completed.asked (completed : Completed id log result) :
    (∃ fault, log = [completion id (.error fault)]) ∨
      ∃ session more, log = completion id (.ok session) :: more ∧
        (log.filterMap (fun exchange => exchange.wanted.wanted.elsewhere?) = session.followUps ∨
          ∃ torn fault, more = [teardown session torn, disbarment session (.error fault)] ∧
            result = .error (.identity fault)) := by
  -- A request that was not refused has gone on to one of the three ends that are left.
  cases completed with
  | refused => exact Or.inl ⟨_, rfl⟩
  | undisbarred => exact Or.inr ⟨_, _, rfl, Or.inr ⟨_, _, rfl, rfl⟩⟩
  | tokenless absent =>
    refine Or.inr ⟨_, _, rfl, Or.inl ?_⟩
    rw [Session.followUps, absent]
    rfl
  | revoked present =>
    refine Or.inr ⟨_, _, rfl, Or.inl ?_⟩
    rw [Session.followUps, present]
    rfl

variable {M : Type} {before after : Backing M} {old session : Session}

/-- A session that was told to have been ended was in progress, and but for its status and time of
completion it is as it was. -/
theorem StoreCall.Falters.transitioned {target : SessionStatus}
    (faltered : (StoreCall.transition id target).Falters before (.ok session) after)
    (found : before.table.find? id = some old) :
    old.status = .inProgress ∧ ∃ now, session = SessionTable.moved now target old := by
  -- A store that has failed tells of no session, so this answer was read off the table.
  rcases faltered with ⟨fresh, rfl, told | failed⟩ | ⟨rfl, failed⟩
  · simp only [SessionTable.perform, found] at told
    split at told
    next active =>
      cases told
      exact ⟨active, fresh.now, rfl⟩
    · cases told
  · cases failed
  · cases failed

end Asked

namespace Encounter

variable {M : Type} {service : ConnectionService} {id : SessionId} {before : Backing M}
  {old : Session} {encounter : Encounter (Backing M) ServiceOutcome}

/-- What has been asked for a request of others than the store, whether or not an answer was waited
for. -/
def asked {σ α : Type} (encounter : Encounter σ α) : List ServiceCall :=
  encounter.log.filterMap fun event => event.wanted.question.wanted.elsewhere?

/-- What was asked while the caller waited is told by the answers. -/
theorem asked_attended {σ α : Type} (visit : Visit α) (state : σ) (known : List ServiceExchange) :
    asked ⟨visit, state, known.map Exchange.attended⟩ =
      known.filterMap fun exchange => exchange.wanted.wanted.elsewhere? := by
  -- An answer tells the question that it was given to.
  rw [asked, List.filterMap_map]
  rfl

/-- The question that was abandoned has been asked, too. -/
theorem asked_abandoned {σ α : Type} (visit : Visit α) (state : σ) (known : List ServiceExchange)
    (wanted : Timed ServiceCall) :
    asked ⟨visit, state, known.map Exchange.attended ++ [⟨.abandoned wanted, ()⟩]⟩ =
      known.filterMap (fun exchange => exchange.wanted.wanted.elsewhere?) ++
        wanted.wanted.elsewhere?.toList := by
  -- The abandoned question is the last event.
  rw [← asked_attended visit state known, asked, asked, List.filterMap_append]
  refine congrArg _ ?_
  show [_].filterMap _ = _
  cases asked : wanted.wanted.elsewhere? with
  | none => simp [Attended.question, asked]
  | some call => simp [Attended.question, asked]

section Courses

variable {Place : Type}
  {conduct : Conduct (Timed ServiceCall) (Timed.Answer ServiceCall.Answer) Place}
  {place rest : Place} {session : Session} {fault : StoreError} {now : Backing M}
  {more : List ServiceExchange}

/-- A session that was told to have been completed is the one that was ordered to be, and but for
its status and time of completion it is as it was. -/
theorem session_of_course
    (course : Course Backing.falters conduct place before (completion id (.ok session) :: more) rest
      now) (found : before.table.find? id = some old) :
    ∃ moment, session = SessionTable.moved moment .completed old := by
  -- The answer comes first, and it is the session that was found, moved to its end.
  cases course with
  | step goes answered onward => exact (StoreCall.Falters.transitioned answered found).2

/-- An order that was refused and has had its effect all the same was carried out. -/
theorem performed_of_course
    (course : Course Backing.falters conduct place before [completion id (.error fault)] rest now)
    (changed : now ≠ before) :
    ∃ fresh, now = before.performed fresh (.transition id .completed) := by
  -- There is one call, which was carried out or not, and without being carried out it changes
  -- nothing.
  cases course with
  | step goes answered onward =>
    cases onward with
    | rest =>
      rcases answered with ⟨fresh, rfl, -⟩ | ⟨rfl, -⟩
      · exact ⟨fresh, rfl⟩
      · exact absurd rfl changed

end Courses

/-- Once a request is over by which a session was completed, what is to follow has been asked for in
order, and all of it unless the caller left before a question of the request was answered, the store
told of a fault though it had done as ordered, or the authorization could not be revoked. In the
last case all was asked for but to revoke the token. -/
theorem completed_request_is_followed_up
    (moved : Relation.ReflTransGen (Moves Backing.falters Backing.leaves)
      (start ((ServiceRequest.complete id).handling service) before) encounter)
    (finished : encounter.visit.Over) (found : before.table.find? id = some old)
    (active : old.status = .inProgress)
    (completed : ∃ row, encounter.state.table.find? id = some row ∧ row.status = .completed) :
    encounter.asked <+: old.followUps ∧
      (encounter.asked = old.followUps ∨
        (encounter.visit = .dropped ∧ ∃ (known : List ServiceExchange) (wanted : Timed ServiceCall),
          encounter.log = known.map Exchange.attended ++ [⟨.abandoned wanted, ()⟩]) ∨
        (∃ fault fresh, encounter.log = [(completion id (.error fault)).attended] ∧
          encounter.state = before.performed fresh (.transition id .completed)) ∨
        ∃ fault : IdentityError,
          encounter.visit = .attended (.done (.answered (.changed (.error (.identity fault))))) ∧
          (disbarment old (.error fault)).attended ∈ encounter.log ∧ encounter.asked =
            [.topology (.tearDown old.user), .identity (.revokeAuthorization old.user)]) := by
  cases stands_of_moves moved with
  | detached came course =>
    -- Nothing of the request is handed off.
    rcases completing_of_course came with ⟨call, next, -, waits⟩ | ⟨result, -, done⟩
    · cases waits
    · cases done
  | dropped course abandoned =>
    -- Nothing can be abandoned but the question for whose answer the request waits.
    rcases completing_of_course course with ⟨call, next, completing, same⟩ | ⟨result, -, same⟩
    · cases same
      refine ⟨?_, Or.inr (Or.inl ⟨rfl, _, _, rfl⟩)⟩
      rw [asked_abandoned]
      rcases completing.asked with ⟨rfl, rfl⟩ | ⟨session, more, rfl, part⟩
      · exact List.nil_prefix
      · obtain ⟨moment, rfl⟩ := session_of_course course found
        exact part
    · cases same
  | @attended known _ state course =>
    rcases completing_of_course course with ⟨call, next, -, rfl⟩ | ⟨result, done, rfl⟩
    · exact finished.elim
    rw [asked_attended]
    rcases done.asked with ⟨fault, rfl⟩ | ⟨session, more, rfl, all | ⟨torn, fault, rfl, rfl⟩⟩
    · -- A store that has refused the order, and yet has carried it out.
      have changed : state ≠ before := by
        rintro rfl
        obtain ⟨row, present, ended⟩ := completed
        cases present.symm.trans found
        rw [active] at ended
        cases ended
      obtain ⟨fresh, performed⟩ := performed_of_course course changed
      exact ⟨List.nil_prefix, Or.inr (Or.inr (Or.inl ⟨fault, fresh, rfl, performed⟩))⟩
    · obtain ⟨moment, rfl⟩ := session_of_course course found
      exact ⟨⟨[], (List.append_nil _).trans all⟩, Or.inl all⟩
    · obtain ⟨moment, rfl⟩ := session_of_course course found
      -- The authorization was asked for third, after the order and the teardown.
      exact ⟨⟨_, rfl⟩, Or.inr (Or.inr (Or.inr ⟨fault, rfl, .tail _ (.tail _ (.head _)), rfl⟩))⟩

/-- A caller that leaves while the broker resources go has nothing revoked for the session that it
has completed. -/
theorem impatient_caller_revokes_nothing :
    ∃ (before : Backing Unit) (old : Session) (encounter : Encounter (Backing Unit) ServiceOutcome),
      Relation.ReflTransGen (Moves Backing.falters Backing.leaves)
        (start ((ServiceRequest.complete old.id).handling ⟨.ofBytes [], .default⟩) before)
        encounter ∧
      encounter.visit.Over ∧ encounter.asked <+: old.followUps ∧
      encounter.asked = [.topology (.tearDown old.user)] := by
  -- The order to end the session is answered, and the caller leaves at the next call.
  let ada : UserId := ⟨"ada", by decide⟩
  let fresh : Fresh := ⟨.numbered 1, ⟨2024, 1, 1, 0, 0, 0, 0⟩⟩
  let old := SessionTable.newSession fresh ada "token"
  let before : Backing Unit := ⟨⟨[old]⟩, [fresh.id], ∅, ()⟩
  -- The table after the order holds the session as completed.
  let after := before.performed fresh (.transition old.id .completed)
  let torn : (TopologyCall.tearDown ada).Answer := .ok ()
  let done : (StoreCall.transition old.id .completed).Answer :=
    .ok (SessionTable.moved fresh.now .completed old)
  have ended : Backing.falters (completion old.id done).wanted before done after :=
    Or.inl ⟨fresh, rfl, Or.inl rfl⟩
  have cut : Backing.leaves (.unhurried (.topology (.tearDown ada))) after after :=
    ⟨torn, (), rfl⟩
  -- There are two moves: the answer to the order, and the leaving at the teardown.
  have moved : Relation.ReflTransGen (Moves Backing.falters Backing.leaves)
      (start ((ServiceRequest.complete old.id).handling ⟨.ofBytes [], .default⟩) before) _ :=
    (Relation.ReflTransGen.single (Moves.told ended)).tail (.left cut)
  have stored : ∃ row, after.table.find? old.id = some row ∧ row.status = .completed :=
    ⟨_, rfl, rfl⟩
  have followed := completed_request_is_followed_up moved trivial rfl rfl stored
  exact ⟨before, old, _, moved, trivial, followed.1, rfl⟩

/-- Where the authorization cannot be revoked, a session is completed and its token is not revoked,
though the caller waits to the end. -/
theorem token_outlives_failed_disbarment :
    ∃ (before : Backing Unit) (old : Session) (encounter : Encounter (Backing Unit) ServiceOutcome),
      Relation.ReflTransGen (Moves Backing.falters Backing.leaves)
        (start ((ServiceRequest.complete old.id).handling ⟨.ofBytes [], .default⟩) before)
        encounter ∧
      encounter.visit.Over ∧ encounter.visit ≠ .dropped ∧
      before.table.find? old.id = some old ∧ old.status = .inProgress ∧ old.tokenId ≠ "" ∧
      (∃ row, encounter.state.table.find? old.id = some row ∧ row.status = .completed) ∧
      .identity (.revokeToken old.user old.tokenId) ∉ encounter.asked := by
  -- The order to end the session and the taking away are answered, and the authorization cannot be
  -- revoked.
  let ada : UserId := ⟨"ada", by decide⟩
  let fresh : Fresh := ⟨.numbered 1, ⟨2024, 1, 1, 0, 0, 0, 0⟩⟩
  let old := SessionTable.newSession fresh ada "token"
  let before : Backing Unit := ⟨⟨[old]⟩, [fresh.id], ∅, ()⟩
  let after := before.performed fresh (.transition old.id .completed)
  let torn : (TopologyCall.tearDown ada).Answer := .ok ()
  let down : (IdentityCall.revokeAuthorization ada).Answer := .error (.unavailable "down")
  let done : (StoreCall.transition old.id .completed).Answer :=
    .ok (SessionTable.moved fresh.now .completed old)
  have ended : Backing.falters (completion old.id done).wanted before done after :=
    Or.inl ⟨fresh, rfl, Or.inl rfl⟩
  have dismantled : Backing.falters (teardown old torn).wanted after torn after := ⟨(), rfl⟩
  have undisbarred : Backing.falters (disbarment old down).wanted after down after := rfl
  have moved : Relation.ReflTransGen (Moves Backing.falters Backing.leaves)
      (start ((ServiceRequest.complete old.id).handling ⟨.ofBytes [], .default⟩) before) _ :=
    ((Relation.ReflTransGen.single (Moves.told ended)).tail (.told dismantled)).tail
      (.told undisbarred)
  exact ⟨before, old, _, moved, trivial, nofun, rfl, rfl, by decide, ⟨_, rfl, rfl⟩, by decide⟩

end Encounter

end SessionGate
