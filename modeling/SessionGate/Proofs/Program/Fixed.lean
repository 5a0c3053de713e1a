import SessionGate.Deadline
import SessionGate.Proofs.Program.Laws
import SessionGate.Proofs.Program.Member

/-! Surroundings that behave in one way, and computations that have come part of their way. -/

namespace SessionGate

namespace Surroundings

variable {Question σ : Type} {Answer : Question → Type}

/-- What is answered to a question, and what comes of it, is settled by the state. -/
def Fixed (env : Surroundings Question Answer σ) : Prop :=
  ∀ wanted state given after other last, env wanted state given after →
    env wanted state other last → given = other ∧ after = last

/-- Surroundings that answer by a function of the state. -/
def of (reply : (wanted : Question) → σ → Answer wanted × σ) : Surroundings Question Answer σ :=
  fun wanted state given after => reply wanted state = (given, after)

/-- A function of the state answers in one way. -/
theorem of_fixed (reply : (wanted : Question) → σ → Answer wanted × σ) : (of reply).Fixed := by
  -- Both answers are the value of one function at the same state.
  intro wanted state given after other last answered replied
  exact Prod.mk.inj (answered.symm.trans replied)

end Surroundings

namespace Program

variable {Question : Type} {Answer : Question → Type} {σ α β : Type} {allowed : Question → Prop}
  {env : Surroundings Question Answer σ} {program rest : Program Question Answer α}
  {state middle final : σ} {value : α} {first log : List (Exchange Question Answer)}

/-- A run against a function of the state is one in the surroundings that answer by it. -/
theorem runs_of (reply : (wanted : Question) → σ → Answer wanted × σ)
    (program : Program Question Answer α) (state : σ) :
    program.Runs (.of reply) state (program.transcript reply state) (program.run reply state).1
      (program.run reply state).2 :=
  -- The function allows the answers that it gives, whatever it is.
  runs_run (fun _ _ => rfl) program state

/-- Once the first of two computations is done, the second one may come however far it comes. -/
theorem turns_bind {after : α → Program Question Answer β} {ahead : Program Question Answer β}
    {second : List (Exchange Question Answer)} (ran : program.Runs env state first value middle)
    (course : Course env Turn (after value) middle second ahead final) :
    Course env Turn (program.bind after) state (first ++ second) ahead final := by
  -- The induction is on the first computation, whose state and exchanges change with each answer.
  induction program generalizing state first with
  | done result =>
    obtain ⟨rfl, rfl, rfl⟩ := runs_done.mp ran
    exact course
  | ask wanted next ih =>
    obtain ⟨given, between, rest, answered, onward, rfl⟩ := runs_ask.mp ran
    exact .step (.ask wanted _ given) answered (ih given onward)

/-- A computation comes to what is made of its value. -/
theorem runs_map (change : α → β) (ran : program.Runs env state log value final) :
    (program.bind fun value => done (change value)).Runs env state log (change value) final :=
  -- To change the value takes no exchange of its own.
  runs_bind.mpr ⟨log, value, final, [], ran, runs_done.mpr ⟨rfl, rfl, rfl⟩,
    (List.append_nil log).symm⟩

/-- A computation under a deadline comes to what is made of its value, or is cut off. -/
theorem runs_before_map {timely : Surroundings (Timed Question) (Timed.Answer Answer) σ}
    {deadline : Instant} {steps : List (Exchange (Timed Question) (Timed.Answer Answer))}
    {result : Option α} (change : α → β)
    (ran : (program.before deadline).Runs timely state steps result final) :
    ((program.bind fun value => done (change value)).before deadline).Runs timely state steps
      (result.map change) final := by
  rw [before_bind]
  -- The deadline falls into the first part or is met; what follows asks nothing.
  refine runs_bind.mpr ⟨steps, result, final, [], ran, ?_, (List.append_nil steps).symm⟩
  cases result with
  | none => exact runs_done.mpr ⟨rfl, rfl, rfl⟩
  | some value => exact runs_done.mpr ⟨rfl, rfl, rfl⟩

/-- In surroundings that behave in one way, whatever a computation has come to is on its way to
where it ends. -/
theorem Runs.of_course (fixed : env.Fixed)
    (course : Course env Turn program state first rest middle)
    (ran : program.Runs env state log value final) :
    ∃ more, log = first ++ more ∧ rest.Runs env middle more value final := by
  -- The run is followed along the part that is known, one answer after the other.
  induction course generalizing log with
  | rest => exact ⟨log, rfl, ran⟩
  | step goes answered _ ih =>
    cases goes with
    | ask wanted next given =>
      -- The run can have got no other answer here.
      obtain ⟨other, after, more, replied, onward, rfl⟩ := runs_ask.mp ran
      obtain ⟨rfl, rfl⟩ := fixed _ _ _ _ _ _ answered replied
      obtain ⟨more, rfl, remaining⟩ := ih onward
      exact ⟨more, rfl, remaining⟩

/-- Whatever was answered on the way of a computation is a question of it, and so is whatever it
asks from there on. -/
theorem Asks.course (asks : program.Asks allowed)
    (course : Course env Turn program state log rest final) :
    rest.Asks allowed ∧ ∀ exchange ∈ log, allowed exchange.wanted := by
  let holds : Program Question Answer α → List (Exchange Question Answer) → Prop :=
    fun place log => place.Asks allowed ∧ ∀ exchange ∈ log, allowed exchange.wanted
  -- What was answered and what is still to be asked are kept together: one step moves a question
  -- from the one to the other.
  have first : holds program [] := ⟨asks, fun exchange member => nomatch member⟩
  refine course.tells holds ?_ first
  intro place log exchange ahead goes asked
  cases goes with
  | ask wanted next given =>
    obtain ⟨asks, known⟩ := asked
    refine ⟨asks.2 given, fun exchange member => ?_⟩
    rcases List.mem_append.mp member with earlier | last
    · exact known exchange earlier
    · cases List.mem_singleton.mp last
      exact asks.1

/-- Of the questions of a computation of which nothing is known nothing is demanded, either. -/
theorem Asks.trivial (program : Program Question Answer α) : program.Asks fun _ => True := by
  -- Every question meets no demand at all.
  induction program with
  | done value => exact True.intro
  | ask wanted next ih => exact ⟨True.intro, ih⟩

/-- Without a deadline a computation asks what it would ask. -/
theorem Asks.unhurried (asks : program.Asks allowed) :
    program.unhurried.Asks fun wanted => ∃ plain, allowed plain ∧ wanted = .unhurried plain := by
  -- Each question is wrapped, and the answer to it is passed on as it is.
  induction program with
  | done value => trivial
  | ask wanted next ih => exact ⟨⟨wanted, asks.1, rfl⟩, fun given => ih given (asks.2 given)⟩

/-- Up to a deadline a computation asks at most what it would ask. -/
theorem Asks.before (asks : program.Asks allowed) (deadline : Instant) :
    (program.before deadline).Asks fun wanted =>
      ∃ plain, allowed plain ∧ wanted = .before deadline plain := by
  -- Where a question is cut off, the computation ends, and so it asks no more.
  induction program with
  | done value => trivial
  | ask wanted next ih =>
    rw [before_ask]
    refine ⟨⟨wanted, asks.1, rfl⟩, fun given => ?_⟩
    cases given with
    | none => trivial
    | some given => exact ih given (asks.2 given)

end Program

end SessionGate
