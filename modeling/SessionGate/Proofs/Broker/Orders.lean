import Mathlib.Data.Finset.Basic
import Mathlib.Data.Finset.Filter
import Mathlib.Data.Finset.Lattice.Lemmas
import SessionGate.Proofs.Broker.Topology
import SessionGate.Proofs.Program.Laws

/-! Orders about the broker resources of users, carried out one after another by a broker that does
what it is told. Of a user's orders the last one alone decides what the user has. -/

namespace SessionGate

namespace BrokerNames

/-- A name that some user's account has. -/
def IsAccount (name : String) : Prop := ∃ user, name = account user

/-- A name that some user's queue has. -/
def IsQueue (name : String) : Prop := ∃ user, name ∈ queues user

/-- A name that some user's shovel has. -/
def IsShovel (name : String) : Prop := ∃ user, name = outputsShovel user

end BrokerNames

open Classical in
/-- A table without what it has under names of one kind. -/
noncomputable def withoutNames {α : Type} (own : String → Prop) (table : String → Option α) :
    String → Option α :=
  fun name => if own name then none else table name

namespace Inventory

/-- A broker that does what it is told: every change is made, whether or not there was anything to
create or to delete. -/
def obey : (wanted : AdminCall) → Inventory → wanted.Answer × Inventory
  | .change wanted, inventory => (.ok (), inventory.apply wanted)
  | .overview, inventory => (.ok ⟨none, none⟩, inventory)

open Classical in
/-- What a broker holds that belongs to no user. -/
noncomputable def elsewhere (inventory : Inventory) : Inventory where
  accounts := withoutNames BrokerNames.IsAccount inventory.accounts
  permissions := withoutNames BrokerNames.IsAccount inventory.permissions
  queues := withoutNames BrokerNames.IsQueue inventory.queues
  exchanges := inventory.exchanges
  bindings := inventory.bindings.filter fun binding => ¬ BrokerNames.IsQueue binding.queue
  shovels := withoutNames BrokerNames.IsShovel inventory.shovels

variable {user : UserId} {changes : List AdminChange}

end Inventory

namespace Topology

/-- Carries orders out one after another, and tells how each of them was answered. -/
def performAll (options : TopologyOptions) :
    List TopologyCall → AdminProgram (List (Except BrokerError Unit))
  | [] => return []
  | call :: rest => do
    let given ← perform options call
    return given :: (← performAll options rest)

/-- The binding by which a user's messages come to the user's queue, where there is an exchange for
them. -/
def bindings (options : TopologyOptions) (user : UserId) : Finset Binding :=
  options.dispatchExchange.elim ∅ fun exchange =>
    {⟨exchange, BrokerNames.dispatcherQueue user, BrokerNames.account user⟩}

end Topology

namespace Share

/-- What a setting up leaves a user who had nothing: exactly what a session needs. -/
def provided (options : TopologyOptions) (user : UserId) (password : String) : Share where
  password := some password
  permissions := some (Topology.permissions user)
  dispatcherQueue := some .default
  outputsQueue := some .default
  inputsQueue := none
  bindings := Topology.bindings options user
  shovel := options.shovelDestination.map (Topology.shovel user)

/-- What a user has after an order of the user's, by what the user had before. -/
def after (options : TopologyOptions) (share : Share) : TopologyCall → Share
  -- What is created replaces what was there, and all else stays.
  | .setUp user password =>
    { provided options user password with
      inputsQueue := share.inputsQueue
      bindings := Topology.bindings options user ∪ share.bindings
      shovel := (options.shovelDestination.map (Topology.shovel user)).or share.shovel }
  -- Shovels are taken away only where they are wanted.
  | .tearDown _ =>
    { empty with shovel := if options.shovelDestination.isSome then none else share.shovel }

variable (options : TopologyOptions) (user : UserId) (password other : String)

/-- Setting up gives exactly what a session needs to a user who had nothing. -/
theorem after_setUp_empty :
    empty.after options (.setUp user password) = provided options user password := by
  -- What was there before was nothing, so only what setting up provides is left.
  simp [after, empty, provided]

/-- Setting up again is the same as setting up once, with the password that was given last. -/
theorem after_setUp_setUp (share : Share) :
    (share.after options (.setUp user other)).after options (.setUp user password) =
      share.after options (.setUp user password) := by
  -- What the first setting up added is there for the second, and only the password is another.
  simp [after, provided, ← Option.or_assoc]

/-- Taking away leaves nothing, unless there is a shovel where none is wanted. -/
theorem after_tearDown {share : Share}
    (shoveled : options.shovelDestination = none → share.shovel = none) :
    share.after options (.tearDown user) = empty := by
  -- Only where a shovel is wanted is one taken away.
  cases wanted : options.shovelDestination with
  | none => simp [after, empty, wanted, shoveled wanted]
  | some destination => simp [after, empty, wanted]

end Share

namespace Topology

variable {options : TopologyOptions} {call : TopologyCall} {user : UserId}

/-- What a broker that obeys holds after some orders. -/
def outcome (options : TopologyOptions) (start : Inventory) (calls : List TopologyCall) :
    Inventory :=
  ((performAll options calls).run Inventory.obey start).2

end Topology

/-- What a user has is nothing, or exactly what a setting up leaves who had nothing. -/
inductive Share.Plain (options : TopologyOptions) (user : UserId) : Share → Prop where
  | empty : Plain options user Share.empty
  | provided (password : String) : Plain options user (Share.provided options user password)

namespace Share

variable {options : TopologyOptions} {user : UserId} {share : Share} {calls : List TopologyCall}

/-- What a user has after an order, by the order alone. -/
def ordered (options : TopologyOptions) : TopologyCall → Share
  | .setUp user password => provided options user password
  | .tearDown _ => empty

/-- Where a user has nothing or what a session needs, an order alone decides what comes of it. -/
theorem Plain.after {call : TopologyCall} (plain : Plain options call.user share) :
    share.after options call = ordered options call ∧
      Plain options call.user (ordered options call) := by
  -- Setting up provides the same from either start, and taking away leaves nothing.
  cases call with
  | setUp user password =>
    refine ⟨?_, .provided password⟩
    cases plain with
    | empty => exact after_setUp_empty options user password
    | provided other =>
      rw [← after_setUp_empty, TopologyCall.user, after_setUp_setUp]
      exact after_setUp_empty options user password
  | tearDown user =>
    refine ⟨?_, .empty⟩
    refine after_tearDown options user fun unwanted => ?_
    cases plain with
    | empty => rfl
    | provided other => simp [Share.provided, unwanted]

/-- Of a user's orders the last one alone counts. -/
theorem Plain.foldl (plain : Plain options user share) (own : ∀ call ∈ calls, call.user = user) :
    calls.foldl (Share.after options) share =
      (calls.getLast?.map (ordered options)).getD share := by
  -- Each order meets what the ones before it have left, which is plain, too.
  induction calls generalizing share with
  | nil => rfl
  | cons call rest ih =>
    rw [List.forall_mem_cons] at own
    obtain ⟨rfl, own⟩ := own
    obtain ⟨left, plain⟩ := plain.after
    rw [List.foldl_cons, left, ih plain own, List.getLast?_cons]
    cases rest.getLast? <;> rfl

end Share

namespace Topology

variable {options : TopologyOptions} {calls : List TopologyCall} {user : UserId}
  {start : Inventory}

end Topology

end SessionGate
