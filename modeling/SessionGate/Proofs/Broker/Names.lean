import Mathlib.Data.List.Basic
import SessionGate.Broker.Names

/-! The names of broker resources tell users and kinds of resources apart. -/

namespace SessionGate

/-- Users of the same text are the same. -/
theorem UserId.eq_of_text {first second : UserId} (same : first.text = second.text) :
    first = second := by
  -- An identifier is its text with a proof about it.
  cases first
  cases second
  cases same
  rfl

/-- A user identifier that was read has the text that it was read from. -/
theorem UserId.text_of_parse {text : String} {user : UserId} (read : UserId.parse text = .ok user) :
    user.text = text := by
  -- The text is taken as it is once it was checked.
  unfold UserId.parse at read
  split at read
  · cases read
    rfl
  · cases read

/-- No blank and no control character stands in a user identifier. -/
theorem UserId.clean (user : UserId) {c : Char} (member : c ∈ user.text.toList) :
    (Text.isBlank c || Text.isControl c) = false := by
  -- An identifier with such a character would have been found at fault.
  have sound := user.sound
  unfold UserId.fault? at sound
  split at sound
  · cases sound
  · split at sound
    · cases sound
    · split at sound
      · cases sound
      next clean =>
        rw [← Bool.not_eq_true]
        exact fun dirty => clean (List.any_eq_true.mpr ⟨c, member, dirty⟩)

namespace BrokerNames

/-- A text followed by one ending is another text followed by it only if the texts are the same. -/
theorem append_ending_inj {first second ending : String} :
    first ++ ending = second ++ ending ↔ first = second := by
  -- What ends alike is the same just if what stands before is.
  rw [← String.toList_inj, String.toList_append, String.toList_append, List.append_left_inj,
    String.toList_inj]

/-- Texts differ when their last characters do, as far back as the endings reach. -/
theorem append_ne_of_ending {first second ending other : String} (length : Nat)
    (long : length ≤ ending.toList.length) (deep : length ≤ other.toList.length)
    (differ : ending.toList.reverse.take length ≠ other.toList.reverse.take length) :
    first ++ ending ≠ second ++ other := by
  intro same
  have reversed := congrArg (fun text => text.toList.reverse.take length) same
  -- The taken characters all stand in the endings.
  simp only [String.toList_append, List.reverse_append] at reversed
  rw [List.take_append_of_le_length (by simpa using long),
    List.take_append_of_le_length (by simpa using deep)] at reversed
  exact differ reversed

variable {first second : UserId}

/-- Users have different accounts. -/
theorem account_inj : account first = account second ↔ first = second :=
  -- The account is the user's text.
  ⟨UserId.eq_of_text, fun same => same ▸ rfl⟩

/-- Users have different dispatcher queues. -/
theorem dispatcherQueue_inj : dispatcherQueue first = dispatcherQueue second ↔ first = second :=
  -- The queue is the account with an ending.
  append_ending_inj.trans account_inj

/-- Users have different outputs queues. -/
theorem outputsQueue_inj : outputsQueue first = outputsQueue second ↔ first = second :=
  -- The queue is the account with an ending.
  append_ending_inj.trans account_inj

/-- Users have different inputs queues. -/
theorem inputsQueue_inj : inputsQueue first = inputsQueue second ↔ first = second :=
  -- The queue is the account with an ending.
  append_ending_inj.trans account_inj

/-- Users have different shovels. -/
theorem outputsShovel_inj : outputsShovel first = outputsShovel second ↔ first = second :=
  -- The shovel is the account with an ending.
  append_ending_inj.trans account_inj

/-- No dispatcher queue is an outputs queue, whoever the users are. -/
theorem dispatcherQueue_ne_outputsQueue : dispatcherQueue first ≠ outputsQueue second :=
  -- The seventh character from the end tells the two endings apart.
  append_ne_of_ending 7 (by decide) (by decide) (by decide)

/-- No dispatcher queue is an inputs queue, whoever the users are. -/
theorem dispatcherQueue_ne_inputsQueue : dispatcherQueue first ≠ inputsQueue second :=
  -- The seventh character from the end tells the two endings apart.
  append_ne_of_ending 7 (by decide) (by decide) (by decide)

/-- No outputs queue is an inputs queue, whoever the users are. -/
theorem outputsQueue_ne_inputsQueue : outputsQueue first ≠ inputsQueue second :=
  -- Only the fifteenth character from the end tells the two endings apart.
  append_ne_of_ending 15 (by decide) (by decide) (by decide)

/-- The queues that belong to a user. -/
def queues (user : UserId) : List String :=
  [dispatcherQueue user, outputsQueue user, inputsQueue user]

/-- No queue belongs to two users. -/
theorem queues_apart {name : String} (one : name ∈ queues first) (two : name ∈ queues second) :
    first = second := by
  simp only [queues, List.mem_cons, List.not_mem_nil, or_false] at one two
  -- Of the nine pairs of kinds only those of one kind can give one name.
  rcases one with rfl | rfl | rfl <;> rcases two with same | same | same
  · exact dispatcherQueue_inj.mp same
  · exact absurd same dispatcherQueue_ne_outputsQueue
  · exact absurd same dispatcherQueue_ne_inputsQueue
  · exact absurd same.symm dispatcherQueue_ne_outputsQueue
  · exact outputsQueue_inj.mp same
  · exact absurd same outputsQueue_ne_inputsQueue
  · exact absurd same.symm dispatcherQueue_ne_inputsQueue
  · exact absurd same.symm outputsQueue_ne_inputsQueue
  · exact inputsQueue_inj.mp same

/-- No line break stands in the name of a user's queue. -/
theorem queue_unbroken {user : UserId} {name : String} (listed : name ∈ queues user) :
    '\n' ∉ name.toList := by
  have text : '\n' ∉ user.text.toList := fun member => absurd (user.clean member) (by decide)
  simp only [queues, List.mem_cons, List.not_mem_nil, or_false] at listed
  -- A break could only stand in the ending of the kind of queue.
  rcases listed with rfl | rfl | rfl
  · simp [dispatcherQueue, text]
  · simp [outputsQueue, text]
  · simp [inputsQueue, text]

/-- No queue of a user is the default exchange. -/
theorem queue_ne_defaultExchange {user : UserId} {name : String} (listed : name ∈ queues user) :
    name ≠ defaultExchange := by
  -- They end in different letters.
  have last : name.toList.getLast? = some 'e' := by
    simp only [queues, List.mem_cons, List.not_mem_nil, or_false] at listed
    rcases listed with rfl | rfl | rfl
    · simp [dispatcherQueue]
    · simp [outputsQueue]
    · simp [inputsQueue]
  intro same
  rw [same] at last
  exact absurd last (by decide)

end BrokerNames

end SessionGate
