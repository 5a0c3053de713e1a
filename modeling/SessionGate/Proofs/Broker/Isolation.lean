import SessionGate.Proofs.Broker.Topology
import SessionGate.Proofs.Program.Paired

/-! An order about one user's resources names nothing that belongs to another user, and what is
asked of the broker for it does not depend on what the broker holds. -/

namespace SessionGate

/-- Something that a broker has under a name. -/
inductive BrokerResource where
  | account (name : String)
  | queue (name : String)
  | exchange (name : String)
  | shovel (name : String)
  deriving DecidableEq

/-- A resource is the account, a queue or the shovel of a user. Exchanges are shared by all. -/
def BrokerResource.BelongsTo (user : UserId) : BrokerResource → Prop
  | .account name => name = BrokerNames.account user
  | .queue name => name ∈ BrokerNames.queues user
  | .exchange _ => False
  | .shovel name => name = BrokerNames.outputsShovel user

/-- A resource belongs to one user. -/
theorem BrokerResource.BelongsTo.unique {resource : BrokerResource} {first second : UserId}
    (one : resource.BelongsTo first) (two : resource.BelongsTo second) : first = second := by
  -- Each kind of resource has names of its own, and different users have different ones.
  cases resource with
  | account name => exact BrokerNames.account_inj.mp (Eq.trans (Eq.symm one) two)
  | queue name => exact BrokerNames.queues_apart one two
  | exchange name => exact one.elim
  | shovel name => exact BrokerNames.outputsShovel_inj.mp (Eq.trans (Eq.symm one) two)

namespace AdminChange

/-- Everything that a change names. -/
def resources : AdminChange → List BrokerResource
  | .createUser name _ | .deleteUser name | .setPermissions name _ => [.account name]
  | .declareQueue name _ | .deleteQueue name => [.queue name]
  | .declareExchange name _ | .deleteExchange name => [.exchange name]
  -- A dispatcher addresses a user's messages by the name of the account.
  | .bindQueue exchange queue routingKey => [.exchange exchange, .queue queue, .account routingKey]
  | .createShovel name definition =>
    [.shovel name, .queue definition.sourceQueue, .queue definition.destinationQueue]
  | .deleteShovel name => [.shovel name]

/-- Changes are the same, but for the password with which a user's account is made. -/
inductive SameBut (first second : UserId → String) : AdminChange → AdminChange → Prop where
  | account (user : UserId) :
    SameBut first second (.createUser (BrokerNames.account user) (first user))
      (.createUser (BrokerNames.account user) (second user))
  | other {change : AdminChange} (free : ∀ name password, change ≠ .createUser name password) :
      SameBut first second change change

/-- Where the passwords are the same, so are the changes. -/
theorem SameBut.eq {password : UserId → String} {change other : AdminChange}
    (same : SameBut password password change other) : change = other := by
  -- The only difference allowed is in a password, and the passwords are the same.
  cases same with
  | account user => rfl
  | other free => rfl

end AdminChange

namespace Management

/-- Exchanges about changes that are the same but for a password, with one answer. -/
inductive Matching (first second : UserId → String) :
    Exchange AdminCall AdminCall.Answer → Exchange AdminCall AdminCall.Answer → Prop where
  | change {wanted other : AdminChange} (same : wanted.SameBut first second other)
      (given : Except BrokerError Unit) :
      Matching first second ⟨.change wanted, given⟩ ⟨.change other, given⟩

/-- Since the first two of four states, the brokers of the others have been asked for the same
changes with the same answers, but for a password. -/
def InStep (first second : UserId → String) (start origin now beside : Management) : Prop :=
  ∃ noted others, now.journal = start.journal ++ noted ∧ beside.journal = origin.journal ++ others ∧
    List.Forall₂ (fun entry other => entry.1.SameBut first second other.1 ∧ other.2 = entry.2)
      noted others

variable {first second : UserId → String} {start origin before after state : Management}

/-- At the beginning nothing has been asked for. -/
theorem InStep.begin : InStep first second before state before state :=
  -- Neither journal has grown.
  ⟨[], [], (List.append_nil _).symm, (List.append_nil _).symm, .nil⟩

/-- One broker may answer as the other one did, whatever it holds. -/
theorem Matching.keeps {exchange other : Exchange AdminCall AdminCall.Answer}
    (matching : Matching first second exchange other)
    (answered : answers exchange.wanted before exchange.given after)
    (held : InStep first second start origin before state) :
    ∃ final, answers other.wanted state other.given final ∧
      InStep first second start origin after final := by
  -- The other broker may make the change, and both journals grow by one entry.
  cases matching with
  | @change wanted other same given =>
    obtain ⟨journal, -⟩ := answered
    obtain ⟨noted, others, here, there, matched⟩ := held
    refine ⟨⟨state.inventory.apply other, state.journal ++ [(other, given)]⟩, ⟨rfl, Or.inl rfl⟩,
      noted ++ [(wanted, given)], others ++ [(other, given)], ?_, ?_, ?_⟩
    · rw [journal, here, List.append_assoc]
    · rw [there, List.append_assoc]
    · exact List.rel_append matched (.cons ⟨same, rfl⟩ .nil)

end Management

namespace Topology

open Management

variable {options : TopologyOptions} {order other : TopologyCall} {user : UserId}
  {first second : UserId → String} {start origin before after state : Management}

/-- What an order names belongs to its user, but for the exchange that all users share. -/
theorem resources_of_changes {change : AdminChange} (member : change ∈ changes options order) :
    ∀ resource ∈ change.resources, resource.BelongsTo order.user ∨
      ∃ exchange ∈ options.dispatchExchange, resource = .exchange exchange := by
  -- Both lists of changes are spelt out, and in each the only name that is not the user's is the
  -- exchange.
  cases order with
  | setUp user password =>
    simp only [changes, setUpChanges, List.mem_append, List.mem_cons, List.not_mem_nil, or_false,
      Option.mem_toList, Option.map_eq_some_iff] at member
    rcases member with (((rfl | rfl | rfl) | ⟨exchange, wanted, rfl⟩) | rfl) |
      ⟨destination, -, rfl⟩ <;>
      simp [AdminChange.resources, BrokerResource.BelongsTo, TopologyCall.user, bindDispatcher,
        shovel, BrokerNames.queues, *]
  | tearDown user =>
    simp only [changes, tearDownChanges, List.mem_append, List.mem_cons, List.not_mem_nil, or_false,
      Option.mem_toList, Option.map_eq_some_iff] at member
    rcases member with (⟨destination, -, rfl⟩ | rfl | rfl | rfl) | rfl <;>
      simp [AdminChange.resources, BrokerResource.BelongsTo, TopologyCall.user, BrokerNames.queues]

/-- A change that names no account, queue or shovel but those of one user, and that permits the
user's account nothing but what is the user's. The exchange of all users' messages may be named. -/
structure IsFor (options : TopologyOptions) (user : UserId) (change : AdminChange) : Prop where
  resources : ∀ resource ∈ change.resources, (∀ owner, resource.BelongsTo owner ↔ owner = user) ∨
    ∃ exchange ∈ options.dispatchExchange, resource = .exchange exchange
  permissions : ∀ name permissions, change = .setPermissions name permissions →
    permissions = Topology.permissions user

/-- Every change of an order is for the user of the order. -/
theorem isFor_of_changes {change : AdminChange} (member : change ∈ changes options order) :
    IsFor options order.user change := by
  -- A resource that belongs to some user belongs to the order's user alone, and permissions are
  -- only given in setting up.
  refine ⟨fun resource named => ?_, ?_⟩
  · refine (resources_of_changes member resource named).imp_left fun own owner => ?_
    exact ⟨fun belongs => belongs.unique own, fun same => same ▸ own⟩
  · rintro name permissions rfl
    cases order with
    | setUp user password =>
      simp [changes, setUpChanges, bindDispatcher] at member
      exact member.2
    | tearDown user => simp [changes, tearDownChanges] at member

/-- However far an order has got, the changes that it has asked for are for its user. -/
theorem journal_of_course {rest : AdminProgram order.Answer}
    {log : List (Exchange AdminCall AdminCall.Answer)}
    (course : Course answers Program.Turn (perform options order) before log rest after) :
    ∃ noted, after.journal = before.journal ++ noted ∧
      ∀ entry ∈ noted, IsFor options order.user entry.1 := by
  -- The invariant is that the journal has grown by changes of the order's user.
  refine (perform_asks options order).keeps (fun state => ∃ noted,
    state.journal = before.journal ++ noted ∧ ∀ entry ∈ noted, IsFor options order.user entry.1)
    ?_ course ⟨[], (List.append_nil _).symm, List.forall_mem_nil _⟩
  intro wanted given state middle asked answered ⟨noted, journal, own⟩
  obtain ⟨change, member, rfl⟩ := asked
  obtain ⟨grown, -⟩ := answered
  refine ⟨noted ++ [_], by rw [grown, journal, List.append_assoc], ?_⟩
  refine List.forall_mem_append.mpr ⟨own, List.forall_mem_singleton.mpr ?_⟩
  exact isFor_of_changes member

/-- Changes that are the same but for a password fail alike. -/
theorem untilFailure_paired {wanted others : List AdminChange}
    (same : List.Forall₂ (AdminChange.SameBut first second) wanted others) :
    (untilFailure wanted).Paired (Matching first second) Eq (untilFailure others) := by
  -- The induction is on the changes, and either both go on or both stop.
  induction same with
  | nil => rfl
  | cons same _ ih =>
    intro given
    refine ⟨given, .change same given, ?_⟩
    match given with
    | .ok () => exact ih
    | .error fault => rfl

/-- The same changes are made side by side, whatever becomes of them. -/
theorem regardless_paired {wanted : List AdminChange}
    (free : ∀ change ∈ wanted, ∀ name password, change ≠ .createUser name password) :
    (regardless wanted).Paired (Matching first second) Eq (regardless wanted) := by
  -- The induction is on the changes, none of which carries a password.
  induction wanted with
  | nil => rfl
  | cons change rest ih =>
    obtain ⟨free, later⟩ := List.forall_mem_cons.mp free
    exact fun given => ⟨given, .change (.other free) given, ih later⟩

/-- Two orders go on side by side. -/
def Beside (options : TopologyOptions) (first second : UserId → String)
    (order other : TopologyCall) : Prop :=
  (perform options order).Paired (Matching first second) Eq (perform options other)

/-- Setting up goes on alike with two passwords. -/
theorem setUp_beside :
    Beside options first second (.setUp user (first user)) (.setUp user (second user)) := by
  -- Only the first change has the password.
  refine untilFailure_paired (.cons (.account _) (List.forall₂_same.mpr fun change member => ?_))
  refine .other fun name password same => ?_
  subst same
  simp [bindDispatcher] at member

/-- Taking away goes on alike. -/
theorem tearDown_beside : Beside options first second (.tearDown user) (.tearDown user) := by
  -- Neither the changes made regardless nor the last one carries a password.
  refine (regardless_paired fun change member name password same => ?_).bind fun _ _ _ => ?_
  · subst same
    simp [tearDownChanges] at member
  · intro given
    refine ⟨given, .change (.other fun _ _ same => by cases same) given, ?_⟩
    rcases (given : Except BrokerError Unit) with fault | made
    · rfl
    · rfl

/-- What one order is answered, the one beside it can be answered. -/
theorem Beside.answers {given : Except BrokerError Unit}
    (beside : Beside options first second order other)
    (answered : (manager options).answers order before given after)
    (held : InStep first second start origin before state) :
    ∃ final, (manager options).answers other state given final ∧
      InStep first second start origin after final := by
  -- The run of one order is followed step by step by the one beside it.
  obtain ⟨log, ran⟩ := answered
  obtain ⟨notes, told, final, onward, rfl, -, held⟩ :=
    beside.runs (fun _ _ _ _ _ matching answered held => matching.keeps answered held) ran held
  exact ⟨final, ⟨notes, onward⟩, held⟩

/-- Where one order is given up, the one beside it can be given up. -/
theorem Beside.abandons (beside : Beside options first second order other)
    (abandoned : (manager options).abandons order before after)
    (held : InStep first second start origin before state) :
    ∃ final, (manager options).abandons other state final ∧
      InStep first second start origin after final := by
  -- The course of one order is followed as far as it has got.
  obtain ⟨log, rest, course⟩ := abandoned
  obtain ⟨notes, left, final, onward, -, -, held⟩ :=
    beside.follow (fun _ _ _ _ _ matching answered held => matching.keeps answered held) course held
  exact ⟨final, ⟨notes, left, onward⟩, held⟩

end Topology

end SessionGate
