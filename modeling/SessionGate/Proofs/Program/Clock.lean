import SessionGate.Proofs.Program.Fixed

/-! Time that passes until questions are answered, and what a deadline makes of a computation: it
comes to what it would come to by itself, or it is cut off at that moment. -/

namespace SessionGate

/-- How questions are met in a state: after how many nanoseconds, with what answer and with what
left behind, or never. -/
structure Pace (Question : Type) (Answer : Question → Type) (σ : Type) where
  meets : (wanted : Question) → σ → Option (Nat × Answer wanted × σ)

/-- A state with the nanoseconds that a clock shows, and with every question that has been asked and
the moment when it was, the latest first. -/
structure Clocked (Question σ : Type) where
  now : Nat
  inner : σ
  begun : List (Nat × Question)

variable {Question σ : Type} {Answer : Question → Type}

/-- The state at a later moment, when a question is not waited for any more. -/
def Clocked.leave (before : Clocked Question σ) (wanted : Question) (moment : Nat) (inner : σ) :
    Clocked Question σ :=
  ⟨moment, inner, (before.now, wanted) :: before.begun⟩

namespace Pace

/-- Where nobody is in a hurry every question is waited for. -/
def Leisurely (pace : Pace Question Answer σ) : Surroundings Question Answer (Clocked Question σ) :=
  fun wanted before given after => ∃ time inner,
    pace.meets wanted before.inner = some (time, given, inner) ∧
      after = before.leave wanted (before.now + time) inner

/-- A question under a deadline is answered if its time is not over by then, and given up at the
deadline if it is not over before. What a question leaves that was given up is not known. -/
def Hurried (pace : Pace Question Answer σ) :
    Surroundings (Timed Question) (Timed.Answer Answer) (Clocked Question σ)
  | .before deadline wanted, before, some given, after => ∃ time inner,
    pace.meets wanted before.inner = some (time, given, inner) ∧
      before.now + time ≤ deadline.sinceStart ∧
      after = before.leave wanted (before.now + time) inner
  | .before deadline wanted, before, none, after =>
    (∀ time given inner, pace.meets wanted before.inner = some (time, given, inner) →
      deadline.sinceStart ≤ before.now + time) ∧
      ∃ inner, after = before.leave wanted (max before.now deadline.sinceStart) inner
  -- All that is asked here stands under a deadline.
  | .unhurried _, _, _, _ => False

variable {pace : Pace Question Answer σ} {α : Type} {program : Program Question Answer α}
  {deadline : Instant} {before after : Clocked Question σ} {value : α} {result : Option α}

/-- How a question is met is settled by the state. -/
theorem leisurely_fixed (pace : Pace Question Answer σ) : pace.Leisurely.Fixed := by
  -- Both answers come from what the pace makes of one question in one state.
  rintro wanted state given after other last ⟨time, inner, met, rfl⟩ ⟨again, left, meets, rfl⟩
  cases met.symm.trans meets
  exact ⟨rfl, rfl⟩

/-- The clock only goes forward. -/
theorem now_le_of_leisurely {log : List (Exchange Question Answer)}
    (ran : program.Runs pace.Leisurely before log value after) : before.now ≤ after.now := by
  -- A question takes time or none, so no step puts the clock back.
  refine ran.keeps (fun _ state => before.now ≤ state.now) ?_ (Nat.le_refl _)
  rintro _ _ _ state _ - ⟨time, inner, -, rfl⟩ passed
  exact Nat.le_add_right_of_le passed

/-- In one state a computation comes to one value, at one moment. -/
theorem leisurely_unique {first second : List (Exchange Question Answer)} {other : α}
    {last : Clocked Question σ} (ran : program.Runs pace.Leisurely before first value after)
    (again : program.Runs pace.Leisurely before second other last) :
    other = value ∧ last = after := by
  -- Surroundings that answer in one way leave one course, and it ends with one value.
  obtain ⟨more, -, ended⟩ := Program.Runs.of_course pace.leisurely_fixed ran again
  exact (Program.runs_done.mp ended).2

/-- A computation under a deadline comes to what it would come to by itself, and no later than the
deadline. Or it is cut off at the deadline, before which it would not have been done. -/
theorem of_hurried {log : List (Exchange (Timed Question) (Timed.Answer Answer))}
    (ahead : before.now ≤ deadline.sinceStart)
    (ran : (program.before deadline).Runs pace.Hurried before log result after) :
    (∃ value steps, result = some value ∧ program.Runs pace.Leisurely before steps value after ∧
      after.now ≤ deadline.sinceStart) ∨
    result = none ∧ after.now = deadline.sinceStart ∧
      ∀ steps value done, program.Runs pace.Leisurely before steps value done →
        deadline.sinceStart ≤ done.now := by
  -- The induction is on the computation, whose questions are asked at later and later moments.
  induction program generalizing before log with
  | done value =>
    obtain ⟨-, rfl, rfl⟩ := Program.runs_done.mp ran
    exact Or.inl ⟨value, [], rfl, Program.runs_done.mpr ⟨rfl, rfl, rfl⟩, ahead⟩
  | ask wanted next ih =>
    rw [Program.before_ask] at ran
    obtain ⟨given, middle, rest, answered, onward, rfl⟩ := Program.runs_ask.mp ran
    match given with
    | some given =>
      obtain ⟨time, inner, met, early, rfl⟩ := answered
      rcases ih given early onward with ⟨value, steps, rfl, ran, bound⟩ | ⟨rfl, cut, late⟩
      · exact Or.inl ⟨value, _, rfl, Program.runs_ask.mpr
          ⟨given, _, steps, ⟨time, inner, met, rfl⟩, ran, rfl⟩, bound⟩
      · refine Or.inr ⟨rfl, cut, fun steps value done ran => ?_⟩
        obtain ⟨other, _, steps, ⟨again, left, meets, rfl⟩, onward, -⟩ := Program.runs_ask.mp ran
        cases met.symm.trans meets
        exact late steps value done onward
    | none =>
      obtain ⟨late, inner, rfl⟩ := answered
      obtain ⟨-, rfl, rfl⟩ := Program.runs_done.mp onward
      refine Or.inr ⟨rfl, Nat.max_eq_right ahead, fun steps value done ran => ?_⟩
      obtain ⟨other, _, steps, ⟨time, left, meets, rfl⟩, onward, -⟩ := Program.runs_ask.mp ran
      -- The question that was given up alone takes until the deadline.
      exact Nat.le_trans (late _ _ _ meets) (now_le_of_leisurely onward)

/-- A computation that would be done before the deadline comes to its own value under it. -/
theorem hurried_eq_some {log : List (Exchange (Timed Question) (Timed.Answer Answer))}
    {steps : List (Exchange Question Answer)} {done : Clocked Question σ}
    (ahead : before.now ≤ deadline.sinceStart)
    (ran : (program.before deadline).Runs pace.Hurried before log result after)
    (plain : program.Runs pace.Leisurely before steps value done)
    (early : done.now < deadline.sinceStart) : result = some value := by
  -- A computation that was cut off would have run past the deadline, and this one does not.
  rcases of_hurried ahead ran with ⟨own, _, rfl, leisurely, -⟩ | ⟨-, -, late⟩
  · exact congrArg some (leisurely_unique plain leisurely).1
  · exact absurd (late _ _ _ plain) (Nat.not_le_of_lt early)

/-- A computation that would not be done by the deadline, or never, is cut off. -/
theorem hurried_eq_none {log : List (Exchange (Timed Question) (Timed.Answer Answer))}
    (ahead : before.now ≤ deadline.sinceStart)
    (ran : (program.before deadline).Runs pace.Hurried before log result after)
    (late : ∀ steps value done, program.Runs pace.Leisurely before steps value done →
      deadline.sinceStart < done.now) : result = none := by
  -- A value that was had under the deadline was had before it, and there is none so early.
  rcases of_hurried ahead ran with ⟨own, _, rfl, leisurely, early⟩ | ⟨rfl, -, -⟩
  · exact absurd (late _ _ _ leisurely) (Nat.not_lt_of_le early)
  · rfl

/-- Under a deadline nothing is asked after it. -/
theorem begun_of_hurried {log : List (Exchange (Timed Question) (Timed.Answer Answer))}
    (ahead : before.now ≤ deadline.sinceStart)
    (ran : (program.before deadline).Runs pace.Hurried before log result after) :
    after.now ≤ deadline.sinceStart ∧
      ∀ entry ∈ after.begun, entry ∈ before.begun ∨ entry.1 ≤ deadline.sinceStart := by
  -- The invariant is that the deadline has not passed, and all that was begun was begun before it.
  have asks := (Program.Asks.trivial program).before deadline
  refine asks.keeps (fun state : Clocked Question σ => state.now ≤ deadline.sinceStart ∧
    ∀ entry ∈ state.begun, entry ∈ before.begun ∨ entry.1 ≤ deadline.sinceStart) ?_ ran
    ⟨ahead, fun entry member => Or.inl member⟩
  rintro wanted given state middle ⟨plain, -, rfl⟩ answered ⟨early, known⟩
  -- Whatever comes of a question, it was asked before the deadline and is left by then.
  have left : ∃ moment inner, moment ≤ deadline.sinceStart ∧
      middle = state.leave plain moment inner := by
    match given with
    | some given =>
      obtain ⟨time, inner, -, bound, rfl⟩ := answered
      exact ⟨_, inner, bound, rfl⟩
    | none =>
      obtain ⟨-, inner, rfl⟩ := answered
      exact ⟨_, inner, Nat.max_le.mpr ⟨early, Nat.le_refl _⟩, rfl⟩
  obtain ⟨moment, inner, bound, rfl⟩ := left
  exact ⟨bound, List.forall_mem_cons.mpr ⟨Or.inr early, known⟩⟩

/-- Under a deadline every computation comes to something. -/
theorem exists_hurried (pace : Pace Question Answer σ) (program : Program Question Answer α)
    (deadline : Instant) (before : Clocked Question σ) :
    ∃ log result after, (program.before deadline).Runs pace.Hurried before log result after := by
  induction program generalizing before with
  | done value => exact ⟨[], some value, before, Program.runs_done.mpr ⟨rfl, rfl, rfl⟩⟩
  | ask wanted next ih =>
    simp only [Program.before_ask]
    by_cases met : ∃ time given inner, pace.meets wanted before.inner = some (time, given, inner) ∧
        before.now + time ≤ deadline.sinceStart
    · obtain ⟨time, given, inner, met, early⟩ := met
      obtain ⟨log, result, after, ran⟩ := ih given (before.leave wanted (before.now + time) inner)
      exact ⟨_, result, after, Program.runs_ask.mpr
        ⟨some given, _, log, ⟨time, inner, met, early, rfl⟩, ran, rfl⟩⟩
    · -- What cannot be answered in time is given up.
      refine ⟨_, none, _, Program.runs_ask.mpr ⟨none, _, [], ⟨fun time given inner meets => ?_,
        before.inner, rfl⟩, Program.runs_done.mpr ⟨rfl, rfl, rfl⟩, rfl⟩⟩
      exact Nat.le_of_not_le fun early => met ⟨time, given, inner, meets, early⟩

end Pace

end SessionGate
