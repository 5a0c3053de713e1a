import SessionGate.Broker.Topology
import SessionGate.Proofs.Broker.Inventory
import SessionGate.Proofs.Program.Course

/-! Setting up a user's resources gives the user all of them, taking them away leaves none, and
neither touches what belongs to others. -/

namespace SessionGate

/-- A broker under administration: what it holds, and the changes that have been asked for, the
earliest first, each with the answer that was given. -/
structure Management where
  inventory : Inventory
  journal : List (AdminChange × Except BrokerError Unit)

/-- A change that is told as made has been made; one that is told as failed may have been made. -/
def Management.answers : Surroundings AdminCall AdminCall.Answer Management
  | .change wanted, before, given, after =>
    let told : Except BrokerError Unit := given
    after.journal = before.journal ++ [(wanted, told)] ∧
      (after.inventory = before.inventory.apply wanted ∨
        told.isOk = false ∧ after.inventory = before.inventory)
  | .overview, before, _, after => after = before

/-- A broker under administration always has some answer. -/
theorem Management.answers_responsive (wanted : AdminCall) (state : Management) :
    ∃ given after, Management.answers wanted state given after := by
  -- A change may succeed, and an overview may tell nothing.
  cases wanted with
  | change wanted =>
    exact ⟨.ok (), ⟨state.inventory.apply wanted, state.journal ++ [(wanted, .ok ())]⟩, rfl,
      Or.inl rfl⟩
  | overview => exact ⟨.ok ⟨none, none⟩, state, rfl⟩

/-- Those who carry out orders about the broker resources of users: how they answer an order, and
what is left of one that is given up before it is answered. -/
structure TopologyManager (M : Type) where
  answers : Surroundings TopologyCall TopologyCall.Answer M
  abandons : TopologyCall → M → M → Prop

namespace Topology

/-- The topology made by administration. An order that is given up may have got anywhere. -/
def manager (options : TopologyOptions) : TopologyManager Management where
  answers call before given after :=
    ∃ log, (perform options call).Runs Management.answers before log given after
  abandons call before after :=
    ∃ log rest, Course Management.answers Program.Turn (perform options call) before log rest after

/-- The changes that an order may come to, in their order. -/
def changes (options : TopologyOptions) : TopologyCall → List AdminChange
  | .setUp user password => setUpChanges options user password
  | .tearDown user => tearDownChanges options user ++ [.deleteUser (BrokerNames.account user)]

/-- A question that asks for one of some changes. -/
def Among (wanted : List AdminChange) (call : AdminCall) : Prop :=
  ∃ change ∈ wanted, call = .change change

/-- Changes made up to a failure are among those that were to be made. -/
theorem untilFailure_asks (wanted : List AdminChange) :
    (untilFailure wanted).Asks (Among wanted) := by
  -- The induction is on the changes, and a failure only cuts the rest off.
  induction wanted with
  | nil => trivial
  | cons change rest ih =>
    refine ⟨⟨change, List.mem_cons_self, rfl⟩, fun given => ?_⟩
    match given with
    | .ok () =>
      exact ih.mono fun call ⟨later, member, same⟩ => ⟨later, List.mem_cons_of_mem _ member, same⟩
    | .error fault => trivial

/-- Changes made regardless of failures are among those that were to be made. -/
theorem regardless_asks (wanted : List AdminChange) : (regardless wanted).Asks (Among wanted) := by
  induction wanted with
  -- The induction is on the changes, and the answer to each is not looked at.
  | nil => trivial
  | cons change rest ih =>
    refine ⟨⟨change, List.mem_cons_self, rfl⟩, fun given => ?_⟩
    exact ih.mono fun call ⟨later, member, same⟩ => ⟨later, List.mem_cons_of_mem _ member, same⟩

/-- An order asks for its own changes only. -/
theorem perform_asks (options : TopologyOptions) (call : TopologyCall) :
    (perform options call).Asks (Among (changes options call)) := by
  -- Taking away makes its last change behind those that are made regardless.
  cases call with
  | setUp user password => exact untilFailure_asks _
  | tearDown user =>
    refine Program.Asks.bind ((regardless_asks _).mono ?_) fun _ => ?_
    · intro call asked
      obtain ⟨change, member, same⟩ := asked
      exact ⟨change, List.mem_append_left _ member, same⟩
    · refine ⟨⟨_, List.mem_append_right _ List.mem_cons_self, rfl⟩, fun given => ?_⟩
      match given with
      | .ok () | .error fault => trivial

/-- The changes of an order concern its user. -/
theorem changes_concern {options : TopologyOptions} {call : TopologyCall} {change : AdminChange}
    (member : change ∈ changes options call) : change.Concerns call.user := by
  -- Each change of either list is about a resource named for the user.
  cases call with
  | setUp user password =>
    simp only [changes, setUpChanges, List.mem_append, List.mem_cons, List.not_mem_nil, or_false,
      Option.mem_toList, Option.map_eq_some_iff] at member
    rcases member with (((rfl | rfl | rfl) | ⟨exchange, -, rfl⟩) | rfl) | ⟨destination, -, rfl⟩ <;>
      simp [AdminChange.Concerns, TopologyCall.user, bindDispatcher, BrokerNames.queues]
  | tearDown user =>
    simp only [changes, tearDownChanges, List.mem_append, List.mem_cons, List.not_mem_nil, or_false,
      Option.mem_toList, Option.map_eq_some_iff] at member
    rcases member with (⟨destination, -, rfl⟩ | rfl | rfl | rfl) | rfl <;>
      simp [AdminChange.Concerns, TopologyCall.user, BrokerNames.queues]

variable {options : TopologyOptions} {call : TopologyCall} {user : UserId} {password : String}
  {before after : Management} {rest : AdminProgram call.Answer}
  {log : List (Exchange AdminCall AdminCall.Answer)}

/-- However far an order has got, it leaves alone what belongs to others than its user. -/
theorem perform_share
    (course : Course Management.answers Program.Turn (perform options call) before log rest after)
    {other : UserId} (different : other ≠ call.user) :
    after.inventory.share other = before.inventory.share other := by
  -- Each change that is made concerns the user, and one that fails is made or not.
  refine (perform_asks options call).keeps
    (fun state => state.inventory.share other = before.inventory.share other) ?_ course rfl
  intro wanted given state middle asked answered kept
  obtain ⟨change, member, rfl⟩ := asked
  rcases answered with ⟨-, made | ⟨-, unmade⟩⟩
  · rw [made, Inventory.share_apply (changes_concern member) different, kept]
  · rw [unmade, kept]

/-- Where no shovel is wanted, an order leaves all shovels as they are. -/
theorem perform_shovels (unwanted : options.shovelDestination = none)
    (course : Course Management.answers Program.Turn (perform options call) before log rest after) :
    after.inventory.shovels = before.inventory.shovels := by
  -- What the order asks for is one of its changes, and none of them is about a shovel here.
  refine (perform_asks options call).keeps
    (fun state => state.inventory.shovels = before.inventory.shovels) ?_ course rfl
  intro wanted given state middle asked answered kept
  obtain ⟨change, member, rfl⟩ := asked
  rcases answered with ⟨-, made | ⟨-, unmade⟩⟩
  · -- Shovels change only by the two changes that are made for a destination.
    have same : (state.inventory.apply change).shovels = state.inventory.shovels := by
      cases call with
      | setUp user password =>
        simp only [changes, setUpChanges, unwanted, List.mem_append, List.mem_cons,
          List.not_mem_nil, or_false, Option.mem_toList, Option.map_eq_some_iff, Option.map_none,
          Option.toList_none] at member
        rcases member with ((rfl | rfl | rfl) | ⟨exchange, -, rfl⟩) | rfl <;> rfl
      | tearDown user =>
        simp only [changes, tearDownChanges, unwanted, List.mem_append, List.mem_cons,
          List.not_mem_nil, or_false, Option.map_none, Option.toList_none, false_or] at member
        rcases member with (rfl | rfl | rfl) | rfl <;> rfl
    rw [made, same, kept]
  · -- A change that was not made leaves everything as it was.
    rw [unmade, kept]

/-- When no change has failed, all of them have been made. -/
theorem inventory_of_untilFailure {wanted : List AdminChange}
    (ran : (untilFailure wanted).Runs Management.answers before log (.ok ()) after) :
    after.inventory = before.inventory.applyAll wanted := by
  -- The induction is on the changes, none of which can have failed.
  induction wanted generalizing before log with
  | nil =>
    obtain ⟨-, -, rfl⟩ := Program.runs_done.mp ran
    rfl
  | cons change wanted ih =>
    obtain ⟨given, middle, later, answered, onward, rfl⟩ := Program.runs_ask.mp ran
    match given with
    | .error fault =>
      obtain ⟨-, failed, -⟩ := Program.runs_done.mp onward
      cases failed
    | .ok () =>
      rcases answered.2 with made | ⟨told, -⟩
      · rw [ih onward, made]
        rfl
      · cases told

/-- Changes made up to a failure end with the one that failed, whose fault is told. -/
theorem journal_of_failure {wanted : List AdminChange} {fault : BrokerError}
    (ran : (untilFailure wanted).Runs Management.answers before log (.error fault) after) :
    ∃ made change unmade, wanted = made ++ change :: unmade ∧
      after.journal =
        before.journal ++ made.map (·, Except.ok ()) ++ [(change, Except.error fault)] := by
  -- The induction is on the changes: the first one fails, or the failure is among the others.
  induction wanted generalizing before log with
  | nil =>
    obtain ⟨-, failed, -⟩ := Program.runs_done.mp ran
    cases failed
  | cons change wanted ih =>
    obtain ⟨given, middle, later, ⟨journal, -⟩, onward, rfl⟩ := Program.runs_ask.mp ran
    match given with
    -- The first failure ends it, so what was to come has not been made.
    | .error cause =>
      obtain ⟨-, failed, rfl⟩ := Program.runs_done.mp onward
      cases failed
      exact ⟨[], change, wanted, rfl, by rw [journal]; simp⟩
    -- A change that was made is noted in front of what the others come to.
    | .ok () =>
      obtain ⟨made, failed, unmade, rfl, rest⟩ := ih onward
      exact ⟨change :: made, failed, unmade, rfl, by rw [rest, journal]; simp⟩

/-- Changes made regardless of failures are all noted, and made when none has failed. -/
theorem journal_of_regardless {wanted : List AdminChange}
    (ran : (regardless wanted).Runs Management.answers before log () after) :
    ∃ noted, after.journal = before.journal ++ noted ∧ noted.map Prod.fst = wanted ∧
      ((∀ entry ∈ noted, entry.2 = .ok ()) →
        after.inventory = before.inventory.applyAll wanted) := by
  -- The induction is on the changes, each of which is noted with its answer.
  induction wanted generalizing before log with
  | nil =>
    obtain ⟨-, -, rfl⟩ := Program.runs_done.mp ran
    exact ⟨[], by simp, rfl, fun _ => rfl⟩
  | cons change wanted ih =>
    obtain ⟨given, middle, later, ⟨journal, effect⟩, onward, rfl⟩ := Program.runs_ask.mp ran
    obtain ⟨noted, rest, same, made⟩ := ih onward
    refine ⟨_ :: noted, by rw [rest, journal, List.append_assoc]; rfl, by simp [same], ?_⟩
    intro succeeded
    rw [made fun entry member => succeeded entry (List.mem_cons_of_mem _ member)]
    -- If all have succeeded, this one has, and so it was made.
    have told : given = .ok () := succeeded _ List.mem_cons_self
    subst told
    rcases effect with effect | ⟨failed, -⟩
    · rw [effect]
      rfl
    · cases failed

/-- Taking away notes every one of its changes, and when none has failed, all have been made. -/
theorem journal_of_tearDown {given : Except BrokerError Unit}
    (ran : (perform options (.tearDown user)).Runs Management.answers before log given after) :
    ∃ noted, after.journal = before.journal ++ noted ∧
      noted.map Prod.fst = changes options (.tearDown user) ∧
      ((∀ entry ∈ noted, entry.2 = .ok ()) →
        after.inventory = before.inventory.applyAll (changes options (.tearDown user))) := by
  -- The taking away is the changes that go on regardless, and then that of the account.
  obtain ⟨first, _, middle, second, removed, ending, rfl⟩ := Program.runs_bind.mp ran
  obtain ⟨noted, journal, same, made⟩ := journal_of_regardless removed
  obtain ⟨told, last, later, ⟨further, effect⟩, onward, rfl⟩ := Program.runs_ask.mp ending
  -- The account goes last, and nothing is asked after it.
  have settled : after = last := by
    match told with
    | .ok () | .error fault => exact (Program.runs_done.mp onward).2.2
  subst settled
  refine ⟨noted ++ [_], by rw [further, journal, List.append_assoc], by simp [same, changes], ?_⟩
  intro succeeded
  have accountGone : told = .ok () := succeeded _ (List.mem_append_right _ List.mem_cons_self)
  subst accountGone
  -- A deletion of the account that is told as done was done.
  rcases effect with effect | ⟨failed, -⟩
  · rw [effect, made fun entry member => succeeded entry (List.mem_append_left _ member), changes,
      Inventory.applyAll_append]
    rfl
  · cases failed

end Topology

/-- What belongs to a user is all that the user's session needs: an account with the session's
password, both queues, the permissions, and the binding and the shovel where they are wanted. -/
structure Share.Serves (options : TopologyOptions) (user : UserId) (password : String)
    (share : Share) : Prop where
  password : share.password = some password
  dispatcherQueue : share.dispatcherQueue = some .default
  outputsQueue : share.outputsQueue = some .default
  permissions : share.permissions = some (Topology.permissions user)
  binding : ∀ exchange ∈ options.dispatchExchange,
    ⟨exchange, BrokerNames.dispatcherQueue user, BrokerNames.account user⟩ ∈ share.bindings
  shovel : ∀ destination ∈ options.shovelDestination,
    share.shovel = some (Topology.shovel user destination)

namespace Topology

/-- Once all changes of a setting up have been made, the user has all that a session needs. -/
theorem serves_of_setUpChanges (options : TopologyOptions) (user : UserId) (password : String)
    (inventory : Inventory) :
    ((inventory.applyAll (setUpChanges options user password)).share user).Serves options user
      password := by
  have apart : BrokerNames.dispatcherQueue user ≠ BrokerNames.outputsQueue user :=
    BrokerNames.dispatcherQueue_ne_outputsQueue
  -- Each wish adds one change to the list, and the four combinations are run through.
  cases options with
  | mk exchange destination =>
    cases exchange <;> cases destination <;> constructor <;>
      simp [setUpChanges, bindDispatcher, Inventory.applyAll, Inventory.apply, Inventory.share,
        BrokerNames.queues, apart]

/-- Once all queues of a user have been taken away with their bindings, the user has no binding. -/
theorem bindings_of_tearDown (bindings : Finset Binding) :
    ((((bindings.filter fun binding => binding.queue ≠ BrokerNames.dispatcherQueue user).filter
      fun binding => binding.queue ≠ BrokerNames.outputsQueue user).filter
        fun binding => binding.queue ≠ BrokerNames.inputsQueue user).filter
          fun binding => binding.queue ∈ BrokerNames.queues user) = ∅ := by
  refine Finset.filter_eq_empty_iff.mpr fun binding member listed => ?_
  simp only [Finset.mem_filter] at member
  -- The binding's queue is one of the three, and was taken away with all its bindings.
  simp only [BrokerNames.queues, List.mem_cons, List.not_mem_nil, or_false] at listed
  rcases listed with here | here | here
  · exact member.1.1.2 here
  · exact member.1.2 here
  · exact member.2 here

/-- Once all changes of a taking away have been made, nothing of the user's is left. -/
theorem share_of_tearDown {inventory : Inventory}
    (shoveled : options.shovelDestination = none →
      inventory.shovels (BrokerNames.outputsShovel user) = none) :
    (inventory.applyAll (changes options (.tearDown user))).share user = Share.empty := by
  -- The three queues of the user are apart, so taking one away does not touch the others.
  have dispatcher : BrokerNames.dispatcherQueue user ≠ BrokerNames.outputsQueue user ∧
      BrokerNames.dispatcherQueue user ≠ BrokerNames.inputsQueue user :=
    ⟨BrokerNames.dispatcherQueue_ne_outputsQueue, BrokerNames.dispatcherQueue_ne_inputsQueue⟩
  have outputs : BrokerNames.outputsQueue user ≠ BrokerNames.inputsQueue user :=
    BrokerNames.outputsQueue_ne_inputsQueue
  cases unwanted : options.shovelDestination with
  | none =>
    simp [changes, tearDownChanges, unwanted, Inventory.applyAll, Inventory.apply, Inventory.share,
      Share.empty, bindings_of_tearDown, dispatcher, outputs, shoveled unwanted]
  | some destination =>
    simp [changes, tearDownChanges, unwanted, Inventory.applyAll, Inventory.apply, Inventory.share,
      Share.empty, bindings_of_tearDown, dispatcher, outputs]

/-- An order leaves alone what belongs to others than its user. -/
theorem share_of_answers {given : Except BrokerError Unit}
    (answered : (manager options).answers call before given after) {other : UserId}
    (different : other ≠ call.user) :
    after.inventory.share other = before.inventory.share other := by
  -- An order that was answered is a course that came to its end.
  obtain ⟨log, ran⟩ := answered
  exact perform_share ran different

/-- What is left of an order that was given up leaves alone what belongs to others, too. -/
theorem share_of_abandons (abandoned : (manager options).abandons call before after)
    {other : UserId} (different : other ≠ call.user) :
    after.inventory.share other = before.inventory.share other := by
  -- An order that was given up is a course that was cut off.
  obtain ⟨log, rest, course⟩ := abandoned
  exact perform_share course different

/-- A setting up that succeeds gives the user all that a session needs. -/
theorem serves_of_setUp
    (answered : (manager options).answers (.setUp user password) before (.ok ()) after) :
    (after.inventory.share user).Serves options user password := by
  -- Success means that no change failed, so all of them have been made.
  obtain ⟨log, ran⟩ := answered
  rw [inventory_of_untilFailure ran]
  exact serves_of_setUpChanges options user password before.inventory

end Topology

end SessionGate
