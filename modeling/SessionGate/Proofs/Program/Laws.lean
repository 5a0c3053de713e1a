import SessionGate.Deadline

/-! How computations are put together, and what a deadline does to their parts. -/

namespace SessionGate.Program

variable {Question : Type} {Answer : Question → Type} {α β γ : Type}

/-- Of three computations it does not matter which two are put together first. -/
theorem bind_assoc (program : Program Question Answer α) (after : α → Program Question Answer β)
    (last : β → Program Question Answer γ) :
    (program.bind after).bind last = program.bind fun value => (after value).bind last := by
  induction program with
  | done value => rfl
  | ask wanted next ih =>
    simp only [bind]
    -- Behind every answer the two ways to put them together agree.
    rw [funext ih]

/-- What two computations come to one after the other, each from the state that it meets. -/
theorem run_bind {σ : Type} (reply : (wanted : Question) → σ → Answer wanted × σ)
    (program : Program Question Answer α) (after : α → Program Question Answer β) (state : σ) :
    (program.bind after).run reply state =
      (after (program.run reply state).1).run reply (program.run reply state).2 := by
  -- Each computation is run from the state that its answers have led to, so the state stays
  -- general.
  induction program generalizing state with
  | done value => rfl
  | ask wanted next ih => exact ih _ _

/-- A question under a deadline is answered in time, or the computation ends there. -/
theorem before_ask (deadline : Instant) (wanted : Question)
    (next : Answer wanted → Program Question Answer α) :
    (ask wanted next).before deadline =
      ask (.before deadline wanted) fun
        | some given => (next given).before deadline
        | none => done none := by
  -- The definition reads its questions by an equation of its own, which the two answers are put
  -- into.
  refine (before.eq_2 deadline wanted next).trans ?_
  refine congrArg (ask _) (funext fun given => ?_)
  cases given with
  | none => rfl
  | some given => rfl

/-- What stands under a deadline is cut off in its first part or in its second one. -/
theorem before_bind (deadline : Instant) (program : Program Question Answer α)
    (after : α → Program Question Answer β) :
    (program.bind after).before deadline =
      (program.before deadline).bind fun
        | some value => (after value).before deadline
        | none => done none := by
  induction program with
  | done value => rfl
  | ask wanted next ih =>
    rw [bind, before_ask, before_ask, bind]
    refine congrArg (ask _) (funext fun given => ?_)
    -- A question that is given up ends both parts, and one that is answered leaves the rest.
    cases given with
    | none => rfl
    | some given => exact ih given

/-- Finer questions are put in the place of those of both parts. -/
theorem refine_bind {Finer : Type} {Reply : Finer → Type}
    (carry : (wanted : Question) → Program Finer Reply (Answer wanted))
    (program : Program Question Answer α) (after : α → Program Question Answer β) :
    (program.bind after).refine carry =
      (program.refine carry).bind fun value => (after value).refine carry := by
  induction program with
  | done value => rfl
  | ask wanted next ih =>
    -- What stands in the place of the first question comes before all else.
    simp only [bind, refine, bind_assoc]
    rw [funext ih]

end SessionGate.Program
