import SessionGate.Proofs.Identifier.UserId

/-! Every name made for a user is one that the broker takes, and tells whose it is. -/

namespace SessionGate.BrokerNames

/-- The most bytes that the broker takes for a name. -/
def longest : Nat := 255

/-- A name that the broker takes as it is. -/
structure Fit (name : String) : Prop where
  nonempty : name ≠ ""
  short : Text.utf8Length name ≤ longest
  clean : Text.Clean name

/-- The kinds of queues that belong to a user. -/
inductive QueueKind where
  | dispatcher
  | outputs
  | inputs
  deriving DecidableEq

/-- The queue of a kind that belongs to a user. -/
def QueueKind.queue : QueueKind → UserId → String
  | .dispatcher => dispatcherQueue
  | .outputs => outputsQueue
  | .inputs => inputsQueue

/-- Every name that is made for a user. -/
def names (user : UserId) : List String :=
  account user :: outputsShovel user :: queues user

variable {first second user : UserId} {kind other : QueueKind} {name : String}

/-- The queue of a kind is one of the user's queues. -/
theorem QueueKind.queue_mem : kind.queue user ∈ queues user := by
  -- The list has one queue of each kind.
  cases kind <;> simp [QueueKind.queue, queues]

/-- A user's queues of two kinds have different names. -/
theorem QueueKind.eq_of_queue (same : kind.queue user = other.queue user) : kind = other := by
  -- Queues of different kinds have different endings, whoever they belong to.
  cases kind <;> cases other
  case dispatcher.outputs => exact absurd same dispatcherQueue_ne_outputsQueue
  case dispatcher.inputs => exact absurd same dispatcherQueue_ne_inputsQueue
  case outputs.dispatcher => exact absurd same.symm dispatcherQueue_ne_outputsQueue
  case outputs.inputs => exact absurd same outputsQueue_ne_inputsQueue
  case inputs.dispatcher => exact absurd same.symm dispatcherQueue_ne_inputsQueue
  case inputs.outputs => exact absurd same.symm outputsQueue_ne_inputsQueue
  all_goals rfl

/-- The name of a queue tells both its user and its kind. -/
theorem QueueKind.queue_inj :
    kind.queue first = other.queue second ↔ first = second ∧ kind = other := by
  constructor
  · intro same
    -- The user is told by the queue before its kind is.
    have shared : kind.queue first ∈ queues second := same ▸ queue_mem
    obtain rfl : first = second := queues_apart queue_mem shared
    exact ⟨rfl, eq_of_queue same⟩
  · rintro ⟨rfl, rfl⟩
    rfl

/-- The endings that stand behind the text of a user in the names made for it. -/
def endings : List String :=
  ["", "_outputs_shovel", "_dispatcher_queue", "_outputs_cal_queue", "_inputs_cal_queue"]

/-- Each name is the text of the user with an ending. -/
theorem names_eq : names user = endings.map (user.text ++ ·) := by
  -- The account has the empty ending, and all others are made by appending.
  simp [names, endings, account, outputsShovel, queues, dispatcherQueue, outputsQueue, inputsQueue]

/-- What a text of the greatest length leaves to its ending is more than any ending takes. -/
theorem short_of_ending : ∀ ending ∈ endings,
    Text.utf8Length ending ≤ longest - UserId.maxLength := by
  -- Each ending is measured.
  decide

/-- The endings have neither blanks nor control characters. -/
theorem clean_of_ending : ∀ ending ∈ endings, Text.Clean ending := by
  -- Each character of each ending is looked at.
  decide

/-- The broker takes every name made for a user. -/
theorem fit_of_mem (listed : name ∈ names user) : Fit name := by
  -- The user's text is short and clean, and the ending leaves it so.
  obtain ⟨nonempty, short, clean⟩ := UserId.fault?_eq_none.mp user.sound
  rw [names_eq] at listed
  obtain ⟨ending, known, rfl⟩ := List.mem_map.mp listed
  have left : longest - UserId.maxLength + UserId.maxLength = longest := rfl
  have room := short_of_ending ending known
  constructor
  case nonempty => exact fun blank => nonempty (String.append_eq_empty_iff.mp blank).1
  case short =>
    rw [Text.utf8Length_append]
    omega
  case clean => exact clean.append (clean_of_ending ending known)

/-- Two queues have one name only if they are of one user and one kind, two shovels only if they
are of one user, and the broker takes every name made for a user that was read from anywhere, with
the text that stood there. -/
theorem names_apart_within_limits :
    (∀ (first second : UserId) (kind other : QueueKind),
      kind.queue first = other.queue second ↔ first = second ∧ kind = other) ∧
    (∀ first second : UserId, outputsShovel first = outputsShovel second ↔ first = second) ∧
    ∀ (source : UserId.Source) (user : UserId), source.user? = some user →
      source.text? = some user.text ∧ ∀ name ∈ names user, Fit name :=
  -- The three parts were shown one by one, and a user read from anywhere is sound.
  ⟨fun _ _ _ _ => QueueKind.queue_inj, fun _ _ => outputsShovel_inj,
    fun _ _ given => ⟨UserId.Source.text?_of_user? given, fun _ listed => fit_of_mem listed⟩⟩

/-- A user whose text ends like a queue of another user is read from a document. -/
theorem confusable_user_read : ∃ user : UserId, user.text = "u_outputs_cal_queue" ∧
    (UserId.Source.json "\"u_outputs_cal_queue\"").user? = some user ∧
      ∀ name ∈ names user, Fit name :=
  -- The user is read from the document, and its names are within the limits by the general
  -- statement.
  ⟨⟨"u_outputs_cal_queue", by decide⟩, rfl, by decide +kernel,
    (names_apart_within_limits.2.2 (.json "\"u_outputs_cal_queue\"") _ (by decide +kernel)).2⟩

end SessionGate.BrokerNames
