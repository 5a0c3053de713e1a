import SessionGate.Proofs.Connection.Endings
import SessionGate.Proofs.Store.Upkeep

/-! Collaborators that are well, and collaborators that fail in every way: what they were asked to
do has been done or not, and what they answer does not tell which. -/

namespace SessionGate

/-- Collaborators that are well: how the identity service answers, what the store takes from
outside, what becomes of the broker, and when the time is up. -/
structure Collaborators (M : Type) where
  identity : (call : IdentityCall) → call.Answer
  fresh : Backing M → Fresh
  manage : TopologyCall → M → M
  moment : Duration → Backing M → Instant

/-- An answer of a store that has failed: some fault, or that a user has no session in progress. -/
inductive StoreCall.Failed : (call : StoreCall) → call.Answer → Prop where
  | told (call : StoreCall) (fault : StoreError) : Failed call (.error fault)
  | overlooked (user : UserId) : Failed (.activeSession user) (.ok none)

variable {M : Type}

/-- A store that may fail answers a call that it has carried out, or it fails, having carried the
call out or not. -/
def StoreCall.Falters : Surroundings StoreCall StoreCall.Answer (Backing M) :=
  fun call before given after =>
    (∃ fresh, after = before.performed fresh call ∧
      (given = (before.table.perform fresh call).1 ∨ call.Failed given)) ∨
    after = before ∧ call.Failed given

/-- The identity service, the publisher and the clock answer as they like, and so does the broker's
management, whatever it makes of the broker. A lock that could not be got is not taken. -/
def ServiceCall.Falters : Surroundings ServiceCall ServiceCall.Answer (Backing M)
  | .store call, before, given, after => call.Falters before given after
  | .lockUser user, before, .ok (), after =>
    user ∉ before.locked ∧ after = { before with locked := insert user before.locked }
  | .unlockUser user, before, _, after => after = { before with locked := before.locked.erase user }
  | .topology _, before, _, after => ∃ broker, after = { before with broker }
  | .lockUser _, before, .error _, after | .identity _, before, _, after
  | .publish _ _, before, _, after | .momentAfter _, before, _, after => after = before

namespace Backing

/-- What is left of a question whose answer nobody waits for: all that an answer might leave. -/
def leaves (wanted : Timed ServiceCall) (before after : Backing M) : Prop :=
  ∃ given, wanted.wanted.Falters before given after

/-- Collaborators that may fail. Any question with a deadline may be given up. -/
def falters : Surroundings (Timed ServiceCall) (Timed.Answer ServiceCall.Answer) (Backing M)
  | .unhurried call, before, given, after => call.Falters before given after
  | .before _ call, before, some given, after => call.Falters before given after
  | .before deadline call, before, none, after => leaves (.before deadline call) before after

end Backing

variable {before after : Backing M}

/-- Where the store is not asked the sessions stay, whatever else fails. -/
theorem ServiceCall.Falters.table {call : ServiceCall} {given : call.Answer}
    (faltered : call.Falters before given after) (elsewhere : call.elsewhere? ≠ none) :
    after.table = before.table := by
  -- No collaborator but the store has the sessions in its hands.
  match call, given with
  | .store order, _ => exact absurd rfl elsewhere
  | .lockUser user, .ok () =>
    obtain ⟨-, rfl⟩ := faltered
    rfl
  | .topology order, _ =>
    obtain ⟨broker, rfl⟩ := faltered
    rfl
  | .unlockUser _, _ | .lockUser _, .error _ | .identity _, _ | .publish _ _, _
  | .momentAfter _, _ =>
    cases faltered
    rfl

/-- Locks change only when one is taken or given up, whatever fails. -/
theorem ServiceCall.Falters.locked {call : ServiceCall} {given : call.Answer}
    (faltered : call.Falters before given after) (taken : ∀ user, call ≠ .lockUser user)
    (freed : ∀ user, call ≠ .unlockUser user) : after.locked = before.locked := by
  -- The two calls that change the locks are set aside, and of the others none touches them.
  match call, given with
  | .lockUser user, _ => exact absurd rfl (taken user)
  | .unlockUser user, _ => exact absurd rfl (freed user)
  | .store order, _ =>
    rcases faltered with ⟨_, rfl, _⟩ | ⟨rfl, _⟩
    · rfl
    · rfl
  | .topology order, _ =>
    obtain ⟨broker, rfl⟩ := faltered
    rfl
  | .identity _, _ | .publish _ _, _ | .momentAfter _, _ =>
    cases faltered
    rfl

namespace Collaborators

/-- Collaborators of which the identity service vouches for everybody, while the broker keeps
nothing. -/
def vouching (fresh : Fresh) : Collaborators Unit :=
  ⟨Backing.vouch, fun _ => fresh, fun _ broker => broker, fun limit _ => Instant.start.after limit⟩

variable (well : Collaborators M)

/-- Collaborators that are well do what they are asked, and the identity service tells what it
knows. -/
def reply : (call : ServiceCall) → Backing M → call.Answer × Backing M
  | .identity call, state => (well.identity call, state)
  | .store call, state =>
    ((state.table.perform (well.fresh state) call).1, state.performed (well.fresh state) call)
  | .lockUser user, state =>
    -- A lock that somebody holds is refused, since nobody is there to give it up.
    if user ∈ state.locked then (Except.error (.database "locked"), state)
    else (Except.ok (), { state with locked := insert user state.locked })
  | .unlockUser user, state => ((), { state with locked := state.locked.erase user })
  | .topology order, state =>
    (Except.ok (), { state with broker := well.manage order state.broker })
  | .publish _ _, state => (Except.ok (), state)
  | .momentAfter limit, state => (well.moment limit state, state)

/-- Collaborators that are well answer in time. -/
def replyTimed : (wanted : Timed ServiceCall) → Backing M →
    wanted.Answer ServiceCall.Answer × Backing M
  | .unhurried call, state => well.reply call state
  | .before _ call, state => (some (well.reply call state).1, (well.reply call state).2)

/-- Collaborators that may fail need not. -/
theorem reply_falters (call : ServiceCall) (state : Backing M) :
    call.Falters state (well.reply call state).1 (well.reply call state).2 := by
  -- Each collaborator answers as it should, which is one of the answers that it may give.
  cases call with
  | store call => exact Or.inl ⟨_, rfl, Or.inl rfl⟩
  | lockUser user =>
    simp only [reply]
    split
    next => rfl
    next free => exact ⟨free, rfl⟩
  | topology order => exact ⟨_, rfl⟩
  | identity _ | unlockUser _ | publish _ _ | momentAfter _ => rfl

/-- Collaborators that may fail need not, nor need they be late. -/
theorem replyTimed_falters (wanted : Timed ServiceCall) (state : Backing M) :
    Backing.falters wanted state (well.replyTimed wanted state).1
      (well.replyTimed wanted state).2 := by
  -- They answer the question itself, and in time.
  cases wanted with
  | unhurried call => exact well.reply_falters call state
  | before _ call => exact well.reply_falters call state

/-- Collaborators that do what they are asked, but too late for every deadline. -/
def replyLate : (wanted : Timed ServiceCall) → Backing M →
    wanted.Answer ServiceCall.Answer × Backing M
  | .unhurried call, state => well.reply call state
  | .before _ call, state => (none, (well.reply call state).2)

/-- Collaborators that may fail may be late. -/
theorem replyLate_falters (wanted : Timed ServiceCall) (state : Backing M) :
    Backing.falters wanted state (well.replyLate wanted state).1
      (well.replyLate wanted state).2 := by
  -- The answer comes too late, and its effect is there.
  cases wanted with
  | unhurried call => exact well.reply_falters call state
  | before _ call => exact ⟨_, well.reply_falters call state⟩

end Collaborators

namespace Backing

variable {wanted : Timed ServiceCall} {given : wanted.Answer ServiceCall.Answer}

/-- What was answered, or given up at its deadline, has left what some answer leaves. -/
theorem leaves_of_falters (faltered : falters wanted before given after) :
    leaves wanted before after := by
  -- What was answered was left by its answer, and so was what was given up.
  match wanted, given with
  | .unhurried call, given => exact ⟨given, faltered⟩
  | .before _ call, some given => exact ⟨given, faltered⟩
  | .before _ call, none => exact faltered

/-- Where the store is not asked the sessions stay, whatever else fails or is given up. -/
theorem leaves_table (left : leaves wanted before after)
    (elsewhere : wanted.wanted.elsewhere? ≠ none) : after.table = before.table := by
  -- The answer that was not waited for tells nothing of the store.
  obtain ⟨given, faltered⟩ := left
  exact faltered.table elsewhere

/-- Locks change only when one is taken or given up, whatever fails or is given up. -/
theorem leaves_locked (left : leaves wanted before after)
    (taken : ∀ user, wanted.wanted ≠ .lockUser user)
    (freed : ∀ user, wanted.wanted ≠ .unlockUser user) : after.locked = before.locked := by
  -- The answer that was not waited for was no lock's.
  obtain ⟨given, faltered⟩ := left
  exact faltered.locked taken freed

end Backing

end SessionGate
