import SessionGate.Proofs.Connection.Backing

/-! Collaborators of the connection service that answer by functions of the state. They do what
they are asked, except that the publisher answers as it is told to. -/

namespace SessionGate

/-- A broker that makes every change. -/
def Management.comply : (wanted : AdminCall) → Management → wanted.Answer × Management
  | .change wanted, state =>
    (Except.ok (), ⟨state.inventory.apply wanted, state.journal ++ [(wanted, .ok ())]⟩)
  | .overview, state => (Except.ok ⟨none, none⟩, state)

/-- A broker may make every change. -/
theorem Management.comply_answers (wanted : AdminCall) (state : Management) :
    Management.answers wanted state (comply wanted state).1 (comply wanted state).2 := by
  -- A change is made and noted, and an overview tells what there is.
  cases wanted with
  | change wanted => exact ⟨rfl, Or.inl rfl⟩
  | overview => rfl

instance (spent : List SessionId) (fresh : Fresh) (call : StoreCall) :
    Decidable (SessionTable.Unused spent fresh call) :=
  match call with
  | .create _ _ => inferInstanceAs (Decidable (_ ∉ _))
  | .activeSession _ | .session _ | .setStatus _ _ | .complete _ | .transition _ _
  | .setDispatcherStatus _ _ | .delete _ | .ping => inferInstanceAs (Decidable True)

namespace Backing

variable {M : Type}

/-- A store that numbers its sessions, and makes none once a number has been given out before. -/
def keep (call : StoreCall) (state : Backing M) : call.Answer × Backing M :=
  let fresh : Fresh := ⟨.numbered (state.spent.length + 1), ⟨2024, 1, 1, 0, 0, 0, 0⟩⟩
  if SessionTable.Unused state.spent fresh call then
    let kept := state.table.perform fresh call
    (kept.1, { state with
      table := kept.2
      spent := SessionTable.spentAfter state.spent fresh call kept.1 })
  else (.error (.database "out of identifiers"), state)

/-- An identity service that knows every user, takes every token and revokes what it is asked to. -/
def vouch : (call : IdentityCall) → call.Answer
  | .validateToken token _ => Except.ok ⟨true, some token, none, none, none, none⟩
  | .getUser user => Except.ok ⟨user.text, user.text, "", "", "", "", true, none⟩
  | .revokeAuthorization _ | .revokeToken _ _ => Except.ok ()

/-- Collaborators that do what they are asked, with a publisher that gives one answer. -/
def comply (options : TopologyOptions) (published : Except BrokerError Unit) :
    (call : ServiceCall) → Backing Management → call.Answer × Backing Management
  | .identity call, state => (vouch call, state)
  | .store call, state => keep call state
  | .lockUser user, state =>
    -- A lock that somebody holds is refused, since nobody is there to give it up.
    if user ∈ state.locked then (Except.error (.database "locked"), state)
    else (Except.ok (), { state with locked := insert user state.locked })
  | .unlockUser user, state => ((), { state with locked := state.locked.erase user })
  | .topology order, state =>
    let managed := (Topology.perform options order).run Management.comply state.broker
    (managed.1, { state with broker := managed.2 })
  | .publish _ _, state => (published, state)
  | .momentAfter limit, state => (Instant.start.after limit, state)

/-- Collaborators that always answer in time. -/
def complyTimed (options : TopologyOptions) (published : Except BrokerError Unit) :
    (wanted : Timed ServiceCall) → Backing Management →
      wanted.Answer ServiceCall.Answer × Backing Management
  | .unhurried call, state => comply options published call state
  | .before _ call, state =>
    ((some (comply options published call state).1), (comply options published call state).2)

/-- A call that deletes nothing. -/
def DeletesNothing (call : StoreCall) : Prop := ∀ id, call ≠ .delete id

/-- A deletion deletes something. -/
theorem not_deletesNothing (id : SessionId) : ¬ DeletesNothing (.delete id) :=
  -- The order names what it deletes.
  fun all => all id rfl

/-- Nobody has been served, and the broker holds nothing. -/
def untouched : Backing Management := ⟨.empty, [], ∅, ⟨.empty, []⟩⟩

/-- Collaborators may do what they are asked, where making a session may fail. -/
theorem comply_answered {options : TopologyOptions} {published : Except BrokerError Unit}
    {fails : StoreCall → Prop} (failing : ∀ user tokenId, fails (.create user tokenId))
    (call : ServiceCall) (state : Backing Management) :
    call.Answered (Topology.manager options) fails state (comply options published call state).1
      (comply options published call state).2 := by
  -- Each collaborator's answer is one that it may give; only a new session needs an identifier that
  -- is still free.
  cases call with
  | store call =>
    simp only [comply, keep]
    split
    next unused => exact Or.inl ⟨_, _, unused, rfl, rfl⟩
    next used =>
      cases call with
      | create user tokenId => exact Or.inr ⟨failing user tokenId, .unreached _ _, rfl⟩
      | _ => exact absurd trivial used
  | lockUser user =>
    simp only [comply]
    split
    next => rfl
    next free => exact ⟨free, rfl⟩
  | topology order =>
    exact ⟨_, ⟨_, Program.runs_run Management.comply_answers _ state.broker⟩, rfl⟩
  | identity _ | unlockUser _ | publish _ _ | momentAfter _ => rfl

/-- Collaborators may do in time what they are asked. -/
theorem complyTimed_answers (options : TopologyOptions) (published : Except BrokerError Unit)
    {fails : StoreCall → Prop} (failing : ∀ user tokenId, fails (.create user tokenId))
    (wanted : Timed ServiceCall) (state : Backing Management) :
    Backing.answers (Topology.manager options) fails wanted state
      (complyTimed options published wanted state).1
      (complyTimed options published wanted state).2 := by
  -- The answer to the call itself is given in time.
  cases wanted with
  | unhurried call => exact comply_answered failing call state
  | before _ call => exact comply_answered failing call state

end Backing

end SessionGate
