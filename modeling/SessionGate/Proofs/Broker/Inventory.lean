import Mathlib.Data.Finset.Basic
import Mathlib.Logic.Function.Basic
import SessionGate.Broker.Admin
import SessionGate.Proofs.Broker.Names

/-! What a broker holds, how administrative changes alter it, and what of it belongs to whom. -/

namespace SessionGate

/-- An exchange delivers to a queue what carries a routing key. -/
structure Binding where
  exchange : String
  queue : String
  routingKey : String
  deriving DecidableEq

/-- What a broker holds: the accounts with their passwords, and everything else under its name. -/
structure Inventory where
  accounts : String → Option String
  permissions : String → Option Permissions
  queues : String → Option QueueOptions
  exchanges : String → Option ExchangeKind
  bindings : Finset Binding
  shovels : String → Option ShovelDefinition

namespace Inventory

open Function (update)

/-- A broker that holds nothing. -/
def empty : Inventory :=
  ⟨fun _ => none, fun _ => none, fun _ => none, fun _ => none, ∅, fun _ => none⟩

/-- The inventory after a change: what is created replaces what had its name, and what is deleted
need not have been there. -/
def apply (inventory : Inventory) : AdminChange → Inventory
  | .createUser name password =>
    { inventory with accounts := update inventory.accounts name (some password) }
  -- Permissions do not outlive their account.
  | .deleteUser name =>
    { inventory with
      accounts := update inventory.accounts name none
      permissions := update inventory.permissions name none }
  | .declareQueue name options =>
    { inventory with queues := update inventory.queues name (some options) }
  -- Bindings do not outlive either of their ends.
  | .deleteQueue name =>
    { inventory with
      queues := update inventory.queues name none
      bindings := inventory.bindings.filter fun binding => binding.queue ≠ name }
  | .declareExchange name kind =>
    { inventory with exchanges := update inventory.exchanges name (some kind) }
  | .deleteExchange name =>
    { inventory with
      exchanges := update inventory.exchanges name none
      bindings := inventory.bindings.filter fun binding => binding.exchange ≠ name }
  | .setPermissions name permissions =>
    { inventory with permissions := update inventory.permissions name (some permissions) }
  | .bindQueue exchange queue routingKey =>
    { inventory with bindings := insert ⟨exchange, queue, routingKey⟩ inventory.bindings }
  | .createShovel name definition =>
    { inventory with shovels := update inventory.shovels name (some definition) }
  | .deleteShovel name => { inventory with shovels := update inventory.shovels name none }

/-- The inventory after some changes, the first one first. -/
def applyAll (inventory : Inventory) (changes : List AdminChange) : Inventory :=
  changes.foldl apply inventory

end Inventory

/-- What belongs to one user of what a broker holds. -/
@[ext] structure Share where
  password : Option String
  permissions : Option Permissions
  dispatcherQueue : Option QueueOptions
  outputsQueue : Option QueueOptions
  inputsQueue : Option QueueOptions
  bindings : Finset Binding
  shovel : Option ShovelDefinition

/-- Nothing belongs to the user. -/
def Share.empty : Share := ⟨none, none, none, none, none, ∅, none⟩

/-- What belongs to a user of what a broker holds. -/
def Inventory.share (inventory : Inventory) (user : UserId) : Share where
  password := inventory.accounts (BrokerNames.account user)
  permissions := inventory.permissions (BrokerNames.account user)
  dispatcherQueue := inventory.queues (BrokerNames.dispatcherQueue user)
  outputsQueue := inventory.queues (BrokerNames.outputsQueue user)
  inputsQueue := inventory.queues (BrokerNames.inputsQueue user)
  bindings := inventory.bindings.filter fun binding => binding.queue ∈ BrokerNames.queues user
  shovel := inventory.shovels (BrokerNames.outputsShovel user)

/-- A change that touches nothing but what belongs to a user. -/
def AdminChange.Concerns (user : UserId) : AdminChange → Prop
  | .createUser name _ | .deleteUser name | .setPermissions name _ =>
    name = BrokerNames.account user
  | .declareQueue name _ | .deleteQueue name | .bindQueue _ name _ => name ∈ BrokerNames.queues user
  | .createShovel name _ | .deleteShovel name => name = BrokerNames.outputsShovel user
  -- Exchanges are shared by all.
  | .declareExchange _ _ | .deleteExchange _ => False

namespace Inventory

variable {user other : UserId}

/-- A queue that belongs to a user is none of the queues of another. -/
private theorem queues_ne {name : String} (own : name ∈ BrokerNames.queues user)
    (different : other ≠ user) : ∀ mine ∈ BrokerNames.queues other, mine ≠ name :=
  -- A name that is in both lists would give the two users one queue.
  fun _ listed same => different (BrokerNames.queues_apart listed (same ▸ own))

/-- What concerns one user leaves alone what belongs to another. -/
theorem share_apply {change : AdminChange} (concerns : change.Concerns user)
    (different : other ≠ user) (inventory : Inventory) :
    (inventory.apply change).share other = inventory.share other := by
  -- The names of two users are apart, be they of accounts or of shovels.
  have account : BrokerNames.account other ≠ BrokerNames.account user :=
    fun same => different (BrokerNames.account_inj.mp same)
  have shovel : BrokerNames.outputsShovel other ≠ BrokerNames.outputsShovel user :=
    fun same => different (BrokerNames.outputsShovel_inj.mp same)
  -- Every change writes under one name, which is none of the other user's.
  cases change with
  | createUser name _ | deleteUser name | setPermissions name _ =>
    cases concerns
    simp [apply, share, account]
  | createShovel name _ | deleteShovel name =>
    cases concerns
    simp [apply, share, shovel]
  | declareQueue name _ =>
    have apart := queues_ne concerns different
    simp only [BrokerNames.queues, List.forall_mem_cons] at apart
    simp [apply, share, apart]
  -- With a queue its bindings go, none of which is the other user's.
  | deleteQueue name =>
    have apart := queues_ne concerns different
    have kept : ∀ binding : Binding, (binding.queue ≠ name ∧
        binding.queue ∈ BrokerNames.queues other) ↔ binding.queue ∈ BrokerNames.queues other :=
      fun binding => and_iff_right_of_imp fun listed => apart _ listed
    simp only [BrokerNames.queues, List.forall_mem_cons] at apart
    simp [apply, share, apart, Finset.filter_filter, kept]
  -- A new binding is on a queue that is not the other user's.
  | bindQueue exchange name routingKey =>
    have foreign : name ∉ BrokerNames.queues other :=
      fun listed => queues_ne concerns different name listed rfl
    simp [apply, share, Finset.filter_insert, foreign]
  | declareExchange _ _ | deleteExchange _ => exact concerns.elim

/-- Changes made one after another are made in two parts. -/
theorem applyAll_append (inventory : Inventory) (first second : List AdminChange) :
    inventory.applyAll (first ++ second) = (inventory.applyAll first).applyAll second :=
  -- The changes are folded in from the left.
  List.foldl_append

end Inventory

end SessionGate
