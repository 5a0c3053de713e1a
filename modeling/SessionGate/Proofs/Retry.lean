import Mathlib.Algebra.Order.BigOperators.Group.Finset
import Mathlib.Tactic.Ring
import SessionGate.Proofs.Program.Clock
import SessionGate.Proofs.Program.Outcome
import SessionGate.Retry

/-! How attempts at an operation go: each one that fails is followed by a wait and another attempt,
while any are left. What this takes when no attempt succeeds. -/

namespace SessionGate.RetryPolicy

variable {Question : Type} {Answer : Question → Type} {σ ε α : Type} {policy : RetryPolicy}
  {wait : Duration → Program Question Answer Unit}
  {operation : Nat → Program Question Answer (Except ε α)}

/-- What stands between a failed attempt and the next one. -/
def pauseAfter (policy : RetryPolicy) (wait : Duration → Program Question Answer Unit)
    (attempt : Nat) : Program Question Answer Unit :=
  if policy.delayAfter attempt = .zero then .done () else wait (policy.delayAfter attempt)

/-- An attempt that is not the last one is followed by a pause and the attempts that are left. -/
theorem attemptFrom_succ (left attempt : Nat) :
    policy.attemptFrom wait operation (left + 1) attempt = (operation attempt).bind fun
      | .ok value => .done (.ok value)
      | .error _ => (policy.pauseAfter wait attempt).bind fun _ =>
          policy.attemptFrom wait operation left (attempt + 1) := by
  rw [attemptFrom]
  congr
  funext result
  cases result with
  | ok value => rfl
  | error fault =>
    -- A wait of no length is no question at all.
    simp only [pauseAfter]
    split
    · rfl
    · rfl

/-- Attempts in some surroundings, with `left` more allowed after a given one: what is exchanged in
all of them, and what they come to. -/
inductive Tried (policy : RetryPolicy) (env : Surroundings Question Answer σ)
    (wait : Duration → Program Question Answer Unit)
    (operation : Nat → Program Question Answer (Except ε α)) :
    Nat → Nat → σ → List (Exchange Question Answer) → Except (RetryExhausted ε) α → σ → Prop where
  | succeeded {left attempt : Nat} {state final : σ} {log : List (Exchange Question Answer)}
      {value : α} (ran : (operation attempt).Runs env state log (.ok value) final) :
      Tried policy env wait operation left attempt state log (.ok value) final
  | exhausted {attempt : Nat} {state final : σ} {log : List (Exchange Question Answer)} {fault : ε}
      (ran : (operation attempt).Runs env state log (.error fault) final) :
      Tried policy env wait operation 0 attempt state log (.error ⟨attempt, fault⟩) final
  | again {left attempt : Nat} {state middle between final : σ}
      {first pause rest : List (Exchange Question Answer)} {fault : ε}
      {result : Except (RetryExhausted ε) α}
      (failed : (operation attempt).Runs env state first (.error fault) middle)
      (waited : (policy.pauseAfter wait attempt).Runs env middle pause () between)
      (tried : Tried policy env wait operation left (attempt + 1) between rest result final) :
      Tried policy env wait operation (left + 1) attempt state (first ++ pause ++ rest) result final

variable {env : Surroundings Question Answer σ}

/-- Attempts that are carried through go in one of these ways. -/
theorem tried_of_runs {left attempt : Nat} {state final : σ}
    {log : List (Exchange Question Answer)} {result : Except (RetryExhausted ε) α}
    (ran : (policy.attemptFrom wait operation left attempt).Runs env state log result final) :
    policy.Tried env wait operation left attempt state log result final := by
  -- The induction is on the attempts that are left after the first one.
  induction left generalizing attempt state log with
  | zero =>
    rw [attemptFrom] at ran
    obtain ⟨first, outcome, middle, second, attempted, ended, rfl⟩ := Program.runs_bind.mp ran
    cases outcome with
    | ok value =>
      obtain ⟨rfl, rfl, rfl⟩ := Program.runs_done.mp ended
      rw [List.append_nil]
      exact .succeeded attempted
    | error fault =>
      obtain ⟨rfl, rfl, rfl⟩ := Program.runs_done.mp ended
      rw [List.append_nil]
      exact .exhausted attempted
  | succ left ih =>
    rw [attemptFrom_succ] at ran
    obtain ⟨first, outcome, middle, second, attempted, ended, rfl⟩ := Program.runs_bind.mp ran
    cases outcome with
    | ok value =>
      obtain ⟨rfl, rfl, rfl⟩ := Program.runs_done.mp ended
      rw [List.append_nil]
      exact .succeeded attempted
    | error fault =>
      -- What comes after the failure is a pause and the attempts that are left.
      obtain ⟨pause, _, between, rest, waited, tried, rfl⟩ := Program.runs_bind.mp ended
      rw [← List.append_assoc]
      exact .again attempted waited (ih tried)

/-- Attempts come back to a place of a conduct if the operation and the waits do. -/
theorem attemptFrom_keeps {Place : Type} {conduct : Conduct Question Answer Place} {home : Place}
    (operates : ∀ attempt,
      Program.Keeps conduct (fun last _ => last = home) home (operation attempt))
    (waits : ∀ delay, Program.Keeps conduct (fun last _ => last = home) home (wait delay))
    (left attempt : Nat) :
    Program.Keeps conduct (fun last _ => last = home) home
      (policy.attemptFrom wait operation left attempt) := by
  -- Between two attempts there is nothing or a wait.
  have pauses : ∀ attempt, Program.Keeps conduct (fun last _ => last = home) home
      (policy.pauseAfter wait attempt) := by
    intro attempt
    rw [pauseAfter]
    split
    · exact rfl
    · exact waits _
  -- The induction is on the attempts that are left; each of them ends at home.
  induction left generalizing attempt with
  | zero =>
    rw [attemptFrom]
    -- The last attempt is followed by nothing, whatever it came to.
    refine (operates attempt).bind fun between result back => ?_
    cases result with
    | ok value => exact back
    | error fault => exact back
  | succ left ih =>
    rw [attemptFrom_succ]
    refine (operates attempt).bind fun between result back => ?_
    subst back
    cases result with
    | ok value => exact rfl
    | error fault =>
      -- A failure is followed by the pause, and then by the rest of the attempts.
      refine (pauses attempt).bind fun between _ back => ?_
      subst back
      exact ih _

/-- Attempts ask what the operation and the waits ask. -/
theorem attemptFrom_asks {allowed : Question → Prop}
    (operates : ∀ attempt, (operation attempt).Asks allowed)
    (waits : ∀ delay, (wait delay).Asks allowed) (left attempt : Nat) :
    (policy.attemptFrom wait operation left attempt).Asks allowed := by
  -- A pause is a wait, or it is left out.
  have pauses : ∀ attempt, (policy.pauseAfter wait attempt).Asks allowed := by
    intro attempt
    rw [pauseAfter]
    split
    · trivial
    · exact waits _
  -- The induction is on the attempts that are left, since each begins with the operation.
  induction left generalizing attempt with
  -- The last attempt is followed by no wait.
  | zero =>
    rw [attemptFrom]
    refine (operates attempt).bind fun result => ?_
    cases result with
    | ok value => trivial
    | error fault => trivial
  | succ left ih =>
    rw [attemptFrom_succ]
    refine (operates attempt).bind fun result => ?_
    cases result with
    | ok value => trivial
    -- A failure is followed by a wait and by the attempts that remain.
    | error fault => exact (pauses attempt).bind fun _ => ih _

/-- The wait after an attempt is as long as the backoff says, up to the longest duration. -/
theorem delayAfter_nanoseconds (policy : RetryPolicy) (attempt : Nat) :
    (policy.delayAfter attempt).nanoseconds = match policy.backoff with
      | .linear step => min (attempt * step.nanoseconds) Duration.limit
      | .fixed delay => delay.nanoseconds := by
  -- A wait that grows is a product, and one that is fixed is within the limit already.
  unfold delayAfter
  cases policy.backoff with
  | linear step =>
    show min (step.nanoseconds * attempt) Duration.limit = _
    rw [Nat.mul_comm]
  | fixed delay => rfl

/-- Attempts in finer questions are attempts at the finer operation, with the finer waits. -/
theorem attemptFrom_refine {Finer : Type} {Reply : Finer → Type}
    (carry : (wanted : Question) → Program Finer Reply (Answer wanted)) (left attempt : Nat) :
    (policy.attemptFrom wait operation left attempt).refine carry =
      policy.attemptFrom (fun delay => (wait delay).refine carry)
        (fun number => (operation number).refine carry) left attempt := by
  -- The induction is on the attempts that are left after the first one.
  induction left generalizing attempt with
  | zero =>
    rw [attemptFrom, attemptFrom, Program.refine_bind]
    congr
    funext result
    cases result <;> rfl
  | succ left ih =>
    rw [attemptFrom_succ, attemptFrom_succ, Program.refine_bind]
    congr
    funext result
    -- A success ends both programs, a failure goes on with both.
    cases result with
    | ok value => rfl
    | error fault =>
      simp only [Program.refine_bind, ih, pauseAfter]
      split <;> rfl

/-- Where the attempts come to nothing, all that are allowed have been made. -/
theorem attemptFrom_yields (left attempt : Nat) :
    (policy.attemptFrom wait operation left attempt).Yields fun result =>
      ∀ exhausted, result = .error exhausted → exhausted.attempts = attempt + left := by
  -- Only the last failure is told, and it counts the attempts before it.
  induction left generalizing attempt with
  | zero =>
    rw [attemptFrom]
    refine (Program.Yields.trivial _).bind fun result _ => ?_
    cases result with
    -- A success is told as it is, and there is no fault to be counted.
    | ok value => exact nofun
    | error fault =>
      rintro exhausted ⟨⟩
      rfl
  | succ left ih =>
    rw [attemptFrom_succ]
    refine (Program.Yields.trivial _).bind fun result _ => ?_
    cases result with
    | ok value => exact nofun
    | error fault =>
      refine (Program.Yields.trivial _).bind fun _ _ => ?_
      -- The number of the next attempt and what is left add up to the same.
      rw [show attempt + (left + 1) = attempt + 1 + left by omega]
      exact ih (attempt + 1)

section Failing

variable {pace : Pace Question Answer σ}

/-- Where waits are as long as they are to be, and every attempt fails at once, all attempts take as
long as the waits between them. -/
theorem runs_of_failing
    (waits : ∀ delay state, ∃ steps after, (wait delay).Runs pace.Leisurely state steps () after ∧
      after.now = state.now + delay.nanoseconds)
    (fails : ∀ attempt state, ∃ steps fault after,
      (operation attempt).Runs pace.Leisurely state steps (.error fault) after ∧
        after.now = state.now)
    (left attempt : Nat) (state : Clocked Question σ) :
    ∃ steps last done, (policy.attemptFrom wait operation left attempt).Runs pace.Leisurely state
        steps (.error ⟨attempt + left, last⟩) done ∧
      done.now = state.now +
        ∑ number ∈ Finset.range left, (policy.delayAfter (attempt + number)).nanoseconds := by
  -- The induction is on the attempts that are left after the first one.
  induction left generalizing attempt state with
  | zero =>
    -- The last attempt takes no time, and fails.
    obtain ⟨steps, fault, after, failed, same⟩ := fails attempt state
    refine ⟨steps ++ [], fault, after, ?_, by simpa using same⟩
    rw [attemptFrom]
    exact Program.runs_bind.mpr
      ⟨steps, _, after, [], failed, Program.runs_done.mpr ⟨rfl, rfl, rfl⟩, rfl⟩
  | succ left ih =>
    obtain ⟨steps, fault, failure, failed, same⟩ := fails attempt state
    -- A wait of no length is left out, and takes no time either.
    have paused : ∃ pause between,
        (policy.pauseAfter wait attempt).Runs pace.Leisurely failure pause () between ∧
          between.now = failure.now + (policy.delayAfter attempt).nanoseconds := by
      unfold pauseAfter
      split
      next none => exact ⟨[], failure, Program.runs_done.mpr ⟨rfl, rfl, rfl⟩, by rw [none]; rfl⟩
      next => exact waits _ failure
    obtain ⟨pause, between, waited, passed⟩ := paused
    obtain ⟨rest, last, done, tried, ended⟩ := ih (attempt + 1) between
    rw [show attempt + 1 + left = attempt + (left + 1) by omega] at tried
    refine ⟨steps ++ (pause ++ rest), last, done, ?_, ?_⟩
    · -- The attempt, the pause and the rest are one run.
      rw [attemptFrom_succ]
      exact Program.runs_bind.mpr ⟨steps, _, failure, _, failed,
        Program.runs_bind.mpr ⟨pause, (), between, rest, waited, tried, rfl⟩, rfl⟩
    · -- The waits that are left are counted from the next attempt on.
      have later : ∑ number ∈ Finset.range left,
          (policy.delayAfter (attempt + (number + 1))).nanoseconds =
            ∑ number ∈ Finset.range left, (policy.delayAfter (attempt + 1 + number)).nanoseconds :=
        Finset.sum_congr rfl fun number _ => by rw [Nat.add_assoc, Nat.add_comm 1]
      rw [Finset.sum_range_succ', later]
      simp only [Nat.add_zero]
      omega

end Failing

section Linear

variable (step : Duration) (more : Nat)

/-- The waits that grow by a step, while none of them is cut off. -/
theorem sum_linear :
    ∑ number ∈ Finset.range more, (1 + number) * step.nanoseconds =
      step.nanoseconds * (more + 1) * more / 2 := by
  -- Twice the sum of the first numbers is the product of the last of them with the next.
  have twice : step.nanoseconds * (more + 1) * more =
      (∑ number ∈ Finset.range more, (1 + number) * step.nanoseconds) * 2 := by
    induction more with
    | zero => rfl
    | succ more ih =>
      rw [Finset.sum_range_succ, Nat.add_mul, ← ih]
      ring
  exact (Nat.div_eq_of_eq_mul_left (by decide) twice).symm

/-- The waits between attempts of which each takes a step more than the one before it are as long in
all as this tells, or longer than any time allowed. -/
theorem linear_waits (limit : Duration) :
    let policy : RetryPolicy := ⟨more + 1, .linear step⟩
    let total := ∑ number ∈ Finset.range more, (policy.delayAfter (1 + number)).nanoseconds
    let told := step.nanoseconds * (more + 1) * more / 2
    (told < limit.nanoseconds → total = told) ∧
      (limit.nanoseconds < told → limit.nanoseconds < total) := by
  intro policy total told
  have waits : total =
      ∑ number ∈ Finset.range more, min ((1 + number) * step.nanoseconds) Duration.limit :=
    Finset.sum_congr rfl fun number _ => delayAfter_nanoseconds policy _
  -- Either no wait is cut off, or one is, and takes all the time that there is.
  by_cases fits : ∀ number ∈ Finset.range more, (1 + number) * step.nanoseconds ≤ Duration.limit
  · -- All waits are as long as the policy says, so they add up to what is told.
    have same : total = told := (waits.trans (Finset.sum_congr rfl fun number member =>
      Nat.min_eq_left (fits number member))).trans (sum_linear step more)
    exact ⟨fun _ => same, fun beyond => same ▸ beyond⟩
  · -- The wait that was cut off is not the first one, since a step is within the limit.
    push Not at fits
    obtain ⟨long, member, beyond⟩ := fits
    have within := step.within
    have bounded := limit.within
    have positive : long ≠ 0 := by
      rintro rfl
      omega
    have first : 0 ∈ Finset.range more := by
      rw [Finset.mem_range] at member ⊢
      omega
    -- This wait takes the whole limit, and the first one is added to it.
    have cut : step.nanoseconds + Duration.limit ≤ total := by
      rw [waits]
      refine le_trans ?_ (Finset.add_le_sum (fun _ _ => Nat.zero_le _) first member positive.symm)
      rw [Nat.min_eq_right beyond.le, Nat.add_zero, Nat.one_mul, Nat.min_eq_left within]
    have some : step.nanoseconds ≠ 0 := by
      intro none
      rw [none, Nat.mul_zero] at beyond
      omega
    refine ⟨fun short => ?_, fun _ => ?_⟩
    · -- What is told cannot be short, either, as this wait alone is beyond the limit.
      have part : (1 + long) * step.nanoseconds ≤ told :=
        (Finset.single_le_sum (f := fun number => (1 + number) * step.nanoseconds)
          (fun _ _ => Nat.zero_le _) member).trans (sum_linear step more).le
      omega
    · omega

end Linear

end SessionGate.RetryPolicy
