import SessionGate.Deadline
import SessionGate.Proofs.Program.Course

/-! What a computation comes to: whatever it is answered, and once it was answered with a fault. -/

namespace SessionGate.Program

variable {Question : Type} {Answer : Question → Type} {σ α β ε : Type}

/-- Whatever it is answered, a computation comes to a value with a property. -/
def Yields (good : α → Prop) : Program Question Answer α → Prop
  | .done value => good value
  | .ask _ next => ∀ given, Yields good (next given)

/-- Once it was answered with a fault, a computation comes to a value that stands for the fault,
whatever else it is answered. -/
def Heeds (fault? : Exchange Question Answer → Option ε) (stands : ε → α → Prop) :
    Program Question Answer α → Prop
  | .done _ => True
  | .ask wanted next => ∀ given, Heeds fault? stands (next given) ∧
      ∀ fault ∈ fault? ⟨wanted, given⟩, Yields (stands fault) (next given)

variable {program : Program Question Answer α} {good : α → Prop} {last : β → Prop}
  {env : Surroundings Question Answer σ} {state final : σ} {value : α}
  {log : List (Exchange Question Answer)} {fault? : Exchange Question Answer → Option ε}
  {stands : ε → α → Prop} {ends : ε → β → Prop} {allowed : Question → Prop}

namespace Yields

/-- A computation in two parts comes to what the second part comes to. -/
theorem bind {after : α → Program Question Answer β} (first : program.Yields good)
    (second : ∀ value, good value → (after value).Yields last) :
    (program.bind after).Yields last := by
  -- Only the value of the first part counts, and the second part starts from it.
  induction program with
  | done value => exact second value first
  | ask wanted next ih => exact fun given => ih given (first given)

/-- Of a computation of which nothing is known nothing is asked, either. -/
theorem trivial (program : Program Question Answer α) : program.Yields fun _ => True := by
  -- Every answer is as good as any other where nothing is demanded.
  induction program with
  | done value => exact True.intro
  | ask wanted next ih => exact ih

/-- The value of a run has the property. -/
theorem of_runs (yields : program.Yields good) (ran : program.Runs env state log value final) :
    good value := by
  -- Whatever was answered, what comes after it has the property, down to the value.
  induction program generalizing state log with
  | done result =>
    obtain ⟨-, rfl, -⟩ := runs_done.mp ran
    exact yields
  | ask wanted next ih =>
    obtain ⟨given, middle, rest, -, onward, -⟩ := runs_ask.mp ran
    exact ih given (yields given) onward

/-- Without a deadline a computation comes to what it would come to. -/
theorem unhurried (yields : program.Yields good) : program.unhurried.Yields good := by
  -- The questions stay as they are, apart from their wrapping.
  induction program with
  | done value => exact yields
  | ask wanted next ih => exact fun given => ih given (yields given)

/-- Put in finer questions, a computation comes to what it would come to. -/
theorem refine {Finer : Type} {Reply : Finer → Type}
    (carry : (wanted : Question) → Program Finer Reply (Answer wanted))
    (yields : program.Yields good) : (program.refine carry).Yields good := by
  -- Nothing is known of what the finer questions find out, and nothing has to be.
  induction program with
  | done value => exact yields
  | ask wanted next ih =>
    exact (Yields.trivial (carry wanted)).bind fun given _ => ih given (yields given)

end Yields

namespace Heeds

/-- A question that was not answered with a fault changes nothing. -/
theorem ask {wanted : Question} {next : Answer wanted → Program Question Answer α}
    (harmless : ∀ given, fault? ⟨wanted, given⟩ = none)
    (onward : ∀ given, (next given).Heeds fault? stands) :
    (Program.ask wanted next).Heeds fault? stands := by
  -- There is no fault to be heeded at this question, so only those that come later matter.
  refine fun given => ⟨onward given, fun fault told => ?_⟩
  rw [harmless given] at told
  cases told

/-- A computation in two parts heeds faults if both parts do, and if the second one does not make
good what the first one has come to by a fault. -/
theorem bind {after : α → Program Question Answer β} (first : program.Heeds fault? stands)
    (yields : program.Yields good)
    (kept : ∀ fault value, stands fault value → (after value).Yields (ends fault))
    (second : ∀ value, good value → (after value).Heeds fault? ends) :
    (program.bind after).Heeds fault? ends := by
  -- A fault of the first part is settled there, and the second part keeps what it has come to.
  induction program with
  | done value => exact second value yields
  | ask wanted next ih =>
    intro given
    obtain ⟨onward, heeded⟩ := first given
    exact ⟨ih given onward (yields given), fun fault told => (heeded fault told).bind (kept fault)⟩

/-- A change of the value that stands for the faults that the value stood for heeds them, too. -/
theorem map {change : α → β} (heeds : program.Heeds fault? stands)
    (kept : ∀ fault value, stands fault value → ends fault (change value)) :
    (program.bind fun value => .done (change value)).Heeds fault? ends :=
  -- To change a value is a second part without any questions.
  heeds.bind (Yields.trivial program) kept fun _ _ => True.intro

/-- A computation that asks nothing that could be answered with a fault heeds every fault. -/
theorem of_asks (asks : program.Asks allowed)
    (harmless : ∀ wanted given, allowed wanted → fault? ⟨wanted, given⟩ = none) :
    program.Heeds fault? stands := by
  -- No question of it may be answered with a fault, so nothing ever has to be heeded.
  induction program with
  | done value => exact True.intro
  | ask wanted next ih =>
    exact ask (fun given => harmless wanted given asks.1) fun given => ih given (asks.2 given)

/-- A run in which a fault was told comes to a value that stands for it. -/
theorem of_runs (heeds : program.Heeds fault? stands)
    (ran : program.Runs env state log value final) {exchange : Exchange Question Answer}
    (member : exchange ∈ log) {fault : ε} (told : fault ∈ fault? exchange) :
    stands fault value := by
  induction program generalizing state log with
  | done result =>
    obtain ⟨rfl, -, -⟩ := runs_done.mp ran
    cases member
  | ask wanted next ih =>
    obtain ⟨given, middle, rest, -, onward, rfl⟩ := runs_ask.mp ran
    obtain ⟨later, heeded⟩ := heeds given
    -- The fault was told here, or further on in the run.
    rcases List.mem_cons.mp member with rfl | member
    · exact (heeded fault told).of_runs onward
    · exact ih given later onward member

/-- Without a deadline a computation heeds the faults that it would heed. -/
theorem unhurried {timed? : Exchange (Timed Question) (Timed.Answer Answer) → Option ε}
    (same : ∀ wanted given, timed? ⟨.unhurried wanted, given⟩ = fault? ⟨wanted, given⟩)
    (heeds : program.Heeds fault? stands) : program.unhurried.Heeds timed? stands := by
  -- A fault that is told to a question in its wrapping is told to the question itself.
  induction program with
  | done value => exact True.intro
  | ask wanted next ih =>
    intro given
    obtain ⟨onward, heeded⟩ := heeds given
    refine ⟨ih given onward, fun fault told => (heeded fault ?_).unhurried⟩
    rwa [same] at told

end Heeds

/-- The question that a computation asks first, if it asks any. -/
def first? : Program Question Answer α → Option Question
  | .done _ => none
  | .ask wanted _ => some wanted

/-- What is asked first is answered first. -/
theorem mem_transcript_of_first? {wanted : Question} (asked : program.first? = some wanted)
    (reply : (wanted : Question) → σ → Answer wanted × σ) (state : σ) :
    ⟨wanted, (reply wanted state).1⟩ ∈ program.transcript reply state := by
  -- The transcript begins with the first question, if there is one.
  cases program with
  | done value => cases asked
  | ask question next =>
    cases asked
    exact List.mem_cons_self

end SessionGate.Program
