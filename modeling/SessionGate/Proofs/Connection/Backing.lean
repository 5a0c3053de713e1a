import SessionGate.Proofs.Broker.Topology
import SessionGate.Proofs.Connection.Stage
import SessionGate.Proofs.Store.Table

/-! What stands behind the connection service: a table of sessions in memory, the locks of users,
and those who manage the broker. How they answer, and what their answers leave alone. -/

namespace SessionGate

/-- What stands behind the connection service: the sessions, the session identifiers that have been
given out, the users that are locked, and what belongs to the broker's management. Which mutexes the
users are locked by makes no difference, so the mutexes are not kept. -/
structure Backing (M : Type) where
  table : SessionTable
  spent : List SessionId
  locked : Finset UserId
  broker : M

/-- An answer of a store that has failed: it could not be reached, or it has overlooked a session in
progress. -/
inductive StoreCall.Missed : (call : StoreCall) → call.Answer → Prop where
  | unreached (call : StoreCall) (reason : String) : Missed call (.error (.database reason))
  | overlooked (user : UserId) : Missed (.activeSession user) (.ok none)

variable {M : Type}

/-- A store answers from its table, and with an identifier that has not been given out before. A
call that fails changes nothing. -/
def StoreCall.Answered (fails : StoreCall → Prop) :
    Surroundings StoreCall StoreCall.Answer (Backing M) :=
  fun call before given after =>
    (∃ (fresh : Fresh) (table : SessionTable), SessionTable.Unused before.spent fresh call ∧
      before.table.perform fresh call = (given, table) ∧
      after = { before with
        table, spent := SessionTable.spentAfter before.spent fresh call given }) ∨
    fails call ∧ call.Missed given ∧ after = before

/-- The identity service, the publisher and the clock answer as they like. A lock is given to one
at a time, as the mutex of a user is taken by one at a time. -/
def ServiceCall.Answered (manager : TopologyManager M) (fails : StoreCall → Prop) :
    Surroundings ServiceCall ServiceCall.Answer (Backing M)
  | .store call, before, given, after => call.Answered fails before given after
  | .lockUser user, before, .ok (), after =>
    user ∉ before.locked ∧ after = { before with locked := insert user before.locked }
  | .unlockUser user, before, _, after => after = { before with locked := before.locked.erase user }
  | .topology call, before, given, after =>
    ∃ broker, manager.answers call before.broker given broker ∧ after = { before with broker }
  -- A lock that could not be got is like a question that changes nothing.
  | .lockUser _, before, .error _, after | .identity _, before, _, after
  | .publish _ _, before, _, after | .momentAfter _, before, _, after => after = before

/-- What is left of a question that was given up: nothing, or all that it was to do, and of an
order to the broker's management as much as the management leaves. -/
def ServiceCall.Abandoned (manager : TopologyManager M) (fails : StoreCall → Prop) :
    ServiceCall → Backing M → Backing M → Prop
  | .topology call, before, after =>
    ∃ broker, manager.abandons call before.broker broker ∧ after = { before with broker }
  | call, before, after => after = before ∨ ∃ given, call.Answered manager fails before given after

/-- How questions with and without a deadline are answered. Any question with a deadline may be
given up. -/
def Backing.answers (manager : TopologyManager M) (fails : StoreCall → Prop) :
    Surroundings (Timed ServiceCall) (Timed.Answer ServiceCall.Answer) (Backing M)
  | .unhurried call, before, given, after => call.Answered manager fails before given after
  | .before _ call, before, some given, after => call.Answered manager fails before given after
  | .before _ call, before, none, after => call.Abandoned manager fails before after

variable {manager : TopologyManager M} {fails : StoreCall → Prop} {before after : Backing M}

namespace StoreCall.Answered

variable {user : UserId} {id : SessionId} {session : Session} {target : SessionStatus}

/-- A look for a session in progress changes nothing, and what it finds is there. -/
theorem activeSession {given : (StoreCall.activeSession user).Answer}
    (answered : (StoreCall.activeSession user).Answered fails before given after) :
    after = before ∧
      ∀ session, given = .ok (some session) → before.table.active? user = some session := by
  rcases answered with ⟨fresh, table, -, looked, rfl⟩ | ⟨-, missed, rfl⟩
  · cases looked
    exact ⟨rfl, fun session same => Except.ok.inj same⟩
  · refine ⟨rfl, fun session same => ?_⟩
    -- A call that failed has found nothing.
    subst same
    cases missed

/-- A session that was made is new, and its user had none in progress. -/
theorem created {tokenId : String}
    (answered : (StoreCall.create user tokenId).Answered fails before (.ok session) after) :
    session.id ∉ before.spent ∧ session.user = user ∧ session.status = .inProgress ∧
      (∀ row ∈ before.table.rows, row.user = user → row.status ≠ .inProgress) ∧
      after = { before with
        table := before.table.insert session
        spent := session.id :: before.spent } := by
  -- The call was carried out, for one that failed gives no session.
  rcases answered with ⟨fresh, table, unused, made, rfl⟩ | ⟨-, missed, -⟩
  · obtain ⟨rfl, rfl, none⟩ := SessionTable.perform_create_ok made
    exact ⟨unused, rfl, rfl, none, rfl⟩
  · cases missed

/-- Where no session could be made, nothing has changed. -/
theorem uncreated {tokenId : String} {fault : StoreError}
    (answered : (StoreCall.create user tokenId).Answered fails before (.error fault) after) :
    after = before := by
  -- A refused call and one that failed both leave everything as it was.
  rcases answered with ⟨fresh, table, -, refused, rfl⟩ | ⟨-, -, rfl⟩
  · obtain ⟨-, rfl⟩ := SessionTable.perform_create_error refused
    rfl
  · rfl

/-- A session is deleted, or it is told that this failed, and then nothing has changed. -/
theorem deleted {given : (StoreCall.delete id).Answer}
    (answered : (StoreCall.delete id).Answered fails before given after) :
    after = { before with table := before.table.erase id } ∨
      fails (.delete id) ∧ given.isOk = false ∧ after = before := by
  -- The call was carried out, or it failed and did nothing.
  rcases answered with ⟨fresh, table, -, deleted, rfl⟩ | ⟨failing, missed, rfl⟩
  · cases deleted
    exact Or.inl rfl
  · cases missed
    exact Or.inr ⟨failing, rfl, rfl⟩

/-- A session that was ended was in progress before, and is kept with its new status. -/
theorem transitioned
    (answered : (StoreCall.transition id target).Answered fails before (.ok session) after) :
    ∃ old ∈ before.table.rows, session.id = old.id ∧ session.user = old.user ∧
      old.status = .inProgress ∧ session.status = target ∧
      after = { before with table := before.table.insert session } := by
  -- The call was carried out, for one that failed gives no session.
  rcases answered with ⟨fresh, table, -, ended, rfl⟩ | ⟨-, missed, -⟩
  · obtain ⟨old, member, -, active, rfl, rfl⟩ := SessionTable.perform_transition_ok ended
    exact ⟨old, member, rfl, rfl, active, rfl, rfl⟩
  · cases missed

/-- Where no session could be ended, nothing has changed. -/
theorem untransitioned {fault : StoreError}
    (answered : (StoreCall.transition id target).Answered fails before (.error fault) after) :
    after = before := by
  -- A refused call and one that failed both leave everything as it was.
  rcases answered with ⟨fresh, table, -, refused, rfl⟩ | ⟨-, -, rfl⟩
  · rw [SessionTable.perform_transition_error refused]
    rfl
  · rfl

/-- A dispatcher's report changes nothing but the report kept with one session. -/
theorem recorded {status : String} {given : (StoreCall.setDispatcherStatus id status).Answer}
    (answered : (StoreCall.setDispatcherStatus id status).Answered fails before given after) :
    after = before ∨ ∃ old ∈ before.table.rows, after = { before with
      table := before.table.insert { old with dispatcherStatus := status } } := by
  -- The report changes one row, or there is no row to change.
  rcases answered with ⟨fresh, table, -, recorded, rfl⟩ | ⟨-, -, rfl⟩
  · rcases before.table.perform_setDispatcherStatus fresh id status with
      kept | ⟨old, member, -, changed⟩
    · rw [recorded] at kept
      rw [show table = before.table from kept]
      exact Or.inl rfl
    · rw [recorded] at changed
      exact Or.inr ⟨old, member, by rw [← changed]; rfl⟩
  · exact Or.inl rfl

/-- A look at a session changes nothing. -/
theorem looked {given : (StoreCall.session id).Answer}
    (answered : (StoreCall.session id).Answered fails before given after) : after = before := by
  -- A session is looked up without a change of the table.
  rcases answered with ⟨fresh, table, -, looked, rfl⟩ | ⟨-, -, rfl⟩
  · simp only [SessionTable.perform] at looked
    split at looked
    · cases looked
      rfl
    · cases looked
      rfl
  · rfl

/-- The session table stays sound, whatever the store is asked and whether or not it fails. -/
theorem sound {call : StoreCall} {given : call.Answer}
    (answered : call.Answered fails before given after)
    (sound : before.table.Sound before.spent) : after.table.Sound after.spent := by
  -- A call carried out keeps the table sound, and one that failed changes nothing.
  rcases answered with ⟨fresh, table, unused, performed, rfl⟩ | ⟨-, -, rfl⟩
  · have kept := sound.perform unused
    rw [performed] at kept
    exact kept
  · exact sound

end StoreCall.Answered

/-- The session table stays sound, whatever is asked of whom. -/
theorem ServiceCall.Answered.sound {call : ServiceCall} {given : call.Answer}
    (answered : call.Answered manager fails before given after)
    (sound : before.table.Sound before.spent) : after.table.Sound after.spent := by
  -- Only the store changes the table.
  match call, given with
  | .store call, given => exact StoreCall.Answered.sound answered sound
  | .lockUser user, .ok () =>
    obtain ⟨-, rfl⟩ := answered
    exact sound
  | .topology call, given =>
    obtain ⟨broker, -, rfl⟩ := answered
    exact sound
  | .unlockUser user, given | .lockUser user, .error fault | .identity call, given
  | .publish exchange body, given | .momentAfter limit, given =>
    cases answered
    exact sound

/-- The broker changes only by what its management does for an order. -/
theorem ServiceCall.Answered.broker {call : ServiceCall} {given : call.Answer}
    (answered : call.Answered manager fails before given after) :
    after.broker = before.broker ∨
      ∃ order given, manager.answers order before.broker given after.broker := by
  -- Only the management changes the broker.
  match call, given with
  | .topology order, given =>
    obtain ⟨broker, managed, rfl⟩ := answered
    exact Or.inr ⟨order, given, managed⟩
  | .store call, given =>
    rcases answered with ⟨_, _, _, _, rfl⟩ | ⟨_, _, rfl⟩
    · exact Or.inl rfl
    · exact Or.inl rfl
  | .lockUser user, .ok () =>
    obtain ⟨-, rfl⟩ := answered
    exact Or.inl rfl
  | .unlockUser user, given | .lockUser user, .error fault | .identity call, given
  | .publish exchange body, given | .momentAfter limit, given =>
    cases answered
    exact Or.inl rfl

/-- Locks change only when one is taken or given up. -/
theorem ServiceCall.Answered.locked {call : ServiceCall} {given : call.Answer}
    (answered : call.Answered manager fails before given after)
    (taken : ∀ user, call ≠ .lockUser user) (freed : ∀ user, call ≠ .unlockUser user) :
    after.locked = before.locked := by
  -- The calls that take and give up locks are set aside, and no other call changes them.
  match call, given with
  | .lockUser user, given => exact absurd rfl (taken user)
  | .unlockUser user, given => exact absurd rfl (freed user)
  | .topology order, given =>
    obtain ⟨broker, -, rfl⟩ := answered
    rfl
  | .store call, given =>
    rcases answered with ⟨_, _, _, _, rfl⟩ | ⟨_, _, rfl⟩
    · rfl
    · rfl
  | .identity call, given | .publish exchange body, given | .momentAfter limit, given =>
    cases answered
    rfl

/-- The sessions and what was given out for them change only where the store is asked. -/
theorem ServiceCall.Answered.store {call : ServiceCall} {given : call.Answer}
    (answered : call.Answered manager fails before given after)
    (stored : ∀ order, call ≠ .store order) :
    after.table = before.table ∧ after.spent = before.spent := by
  -- The calls to the store are set aside, and no other call changes the table.
  match call, given with
  | .store order, given => exact absurd rfl (stored order)
  | .lockUser user, .ok () =>
    obtain ⟨-, rfl⟩ := answered
    exact ⟨rfl, rfl⟩
  | .topology order, given =>
    obtain ⟨broker, -, rfl⟩ := answered
    exact ⟨rfl, rfl⟩
  | .unlockUser user, given | .lockUser user, .error fault | .identity call, given
  | .publish exchange body, given | .momentAfter limit, given =>
    cases answered
    exact ⟨rfl, rfl⟩

namespace Backing

/-- The sessions and what was given out for them change only where the store is asked, also where
something is given up. -/
theorem answers_store {wanted : Timed ServiceCall} {given : wanted.Answer ServiceCall.Answer}
    (answered : answers manager fails wanted before given after)
    (stored : ∀ order, wanted.wanted ≠ .store order) :
    after.table = before.table ∧ after.spent = before.spent := by
  -- A call given up at its deadline took place or did not, and an order to the broker got
  -- somewhere.
  match wanted, given with
  | .unhurried call, given => exact ServiceCall.Answered.store answered stored
  | .before _ call, some given => exact ServiceCall.Answered.store answered stored
  | .before _ call, none =>
    cases call with
    | topology order =>
      obtain ⟨broker, -, rfl⟩ := answered
      exact ⟨rfl, rfl⟩
    | store order => exact absurd rfl (stored order)
    | identity _ | lockUser _ | unlockUser _ | publish _ _ | momentAfter _ =>
      rcases answered with rfl | ⟨given, answered⟩
      · exact ⟨rfl, rfl⟩
      · exact answered.store nofun

/-- Locks change only when one is taken or given up, also where something is given up. -/
theorem answers_locked {wanted : Timed ServiceCall} {given : wanted.Answer ServiceCall.Answer}
    (answered : answers manager fails wanted before given after)
    (taken : ∀ user, wanted.wanted ≠ .lockUser user)
    (freed : ∀ user, wanted.wanted ≠ .unlockUser user) : after.locked = before.locked := by
  -- A call given up at its deadline took place or did not, and an order to the broker got
  -- somewhere.
  match wanted, given with
  | .unhurried call, given => exact ServiceCall.Answered.locked answered taken freed
  | .before _ call, some given => exact ServiceCall.Answered.locked answered taken freed
  | .before _ call, none =>
    cases call with
    | topology order =>
      obtain ⟨broker, -, rfl⟩ := answered
      rfl
    | lockUser user => exact absurd rfl (taken user)
    | unlockUser user => exact absurd rfl (freed user)
    | identity _ | store _ | publish _ _ | momentAfter _ =>
      rcases answered with rfl | ⟨given, answered⟩
      · rfl
      · exact answered.locked nofun nofun

/-- What every answer keeps, and every order to the broker's management that is given up, is kept
by questions with and without deadlines. -/
theorem answers_keep (holds : Backing M → Prop)
    (kept : ∀ (call : ServiceCall) (given : call.Answer) (before after : Backing M),
      call.Answered manager fails before given after → holds before → holds after)
    (left : ∀ (order : TopologyCall) (before : Backing M) (broker : M),
      manager.abandons order before.broker broker → holds before → holds { before with broker })
    {wanted : Timed ServiceCall} {given : wanted.Answer ServiceCall.Answer}
    (answered : answers manager fails wanted before given after) (held : holds before) :
    holds after := by
  -- A call given up at its deadline took place or did not, and an order to the broker got
  -- somewhere.
  match wanted, given with
  | .unhurried call, given => exact kept call given before after answered held
  | .before _ call, some given => exact kept call given before after answered held
  | .before _ call, none =>
    cases call with
    | topology call =>
      obtain ⟨broker, abandoned, rfl⟩ := answered
      exact left call before broker abandoned held
    | identity _ | store _ | lockUser _ | unlockUser _ | publish _ _ | momentAfter _ =>
      rcases answered with rfl | ⟨given, answered⟩
      · exact held
      · exact kept _ given before after answered held

/-- The session table stays sound, whatever is asked of whom and whatever is given up. -/
theorem answers_sound {wanted : Timed ServiceCall} {given : wanted.Answer ServiceCall.Answer}
    (answered : answers manager fails wanted before given after)
    (sound : before.table.Sound before.spent) : after.table.Sound after.spent :=
  -- Soundness is kept by every answer, and the broker is no part of it.
  answers_keep (fun state => state.table.Sound state.spent)
    (fun _ _ _ _ answered => answered.sound) (fun _ _ _ _ sound => sound) answered sound

end Backing

end SessionGate
