import Mathlib.Data.Nat.Find
import SessionGate.Proofs.Retry
import SessionGate.Rehearsal.Trial

/-! How an operation is tried of which every outcome is told beforehand: the attempts are made one
after the other with a wait between two of them, up to the first that succeeds or the last that is
allowed. -/

namespace SessionGate

/-- What is asked in a run against a function of the state, one question after the other. -/
def Program.asked {Question : Type} {Answer : Question → Type} {σ α : Type}
    (reply : (wanted : Question) → σ → Answer wanted × σ) (program : Program Question Answer α)
    (state : σ) : List Question :=
  (program.transcript reply state).map Exchange.wanted

variable {ε α : Type}

/-- Answers attempts with outcomes told beforehand, which are counted from one like the attempts;
the state is the number of attempts made so far. -/
def Trial.answer (outcomes : Nat → Except ε α) :
    (call : TrialCall) → Nat → call.Answer ε α × Nat
  | .wait _, made => ((), made)
  -- Which outcome is next depends on how many there were, and not on what the attempt is called.
  | .attempt _, made => (outcomes (made + 1), made + 1)

namespace RetryPolicy

/-- Attempts from a given one on, every attempt and every wait being a question. -/
def trialFrom (policy : RetryPolicy) (left attempt : Nat) :
    Program TrialCall (TrialCall.Answer ε α) (Except (RetryExhausted ε) α) :=
  policy.attemptFrom (fun delay => Program.question (TrialCall.wait delay))
    (fun number => Program.question (TrialCall.attempt number)) left attempt

/-- Trying an operation by a policy, every attempt and every wait being a question. -/
def trial (policy : RetryPolicy) :
    Program TrialCall (TrialCall.Answer ε α) (Except (RetryExhausted ε) α) :=
  policy.run (fun delay => Program.question (TrialCall.wait delay))
    fun number => Program.question (TrialCall.attempt number)

/-- The wait after an attempt, unless it has no length. -/
def waitAfter (policy : RetryPolicy) (attempt : Nat) : List TrialCall :=
  if policy.delayAfter attempt = .zero then [] else [.wait (policy.delayAfter attempt)]

/-- Attempts with the wait after each but the last one: `before` of them, and the last. -/
def callsFrom (policy : RetryPolicy) (first before : Nat) : List TrialCall :=
  (List.range' first before).flatMap
      (fun attempt => .attempt attempt :: policy.waitAfter attempt) ++
    [.attempt (first + before)]

/-- So many attempts, counted from one, with the wait after each but the last one. -/
def calls (policy : RetryPolicy) (count : Nat) : List TrialCall := policy.callsFrom 1 (count - 1)

/-- What the last attempt comes to: its value, or its fault with the number of attempts. -/
def conclude (attempts : Nat) : Except ε α → Except (RetryExhausted ε) α :=
  Except.mapError fun fault => ⟨attempts, fault⟩

variable {policy : RetryPolicy} {outcomes : Nat → Except ε α} {left made before : Nat}

/-- An attempt that fails is followed by its wait, and then by the attempts that are left. -/
theorem trialFrom_failed {fault : ε} (failed : outcomes (made + 1) = .error fault) :
    (policy.trialFrom (left + 1) (made + 1)).run (Trial.answer outcomes) made =
        (policy.trialFrom left (made + 2)).run (Trial.answer outcomes) (made + 1) ∧
      (policy.trialFrom (left + 1) (made + 1)).asked (Trial.answer outcomes) made =
        .attempt (made + 1) :: policy.waitAfter (made + 1) ++
          (policy.trialFrom left (made + 2)).asked (Trial.answer outcomes) (made + 1) := by
  simp only [trialFrom, attemptFrom, Program.question, Program.bind, Program.run, Program.asked,
    Program.transcript, Trial.answer, failed, waitAfter]
  -- A wait of no length is no question at all.
  split <;> exact ⟨rfl, rfl⟩

/-- Attempts end with the first that succeeds, or with the last that is allowed. -/
theorem trialFrom_ends (allowed : before ≤ left)
    (failed : ∀ attempt, made < attempt → attempt ≤ made + before →
      ∃ fault, outcomes attempt = .error fault)
    (last : (∃ value, outcomes (made + 1 + before) = .ok value) ∨ before = left) :
    ((policy.trialFrom left (made + 1)).run (Trial.answer outcomes) made).1 =
        conclude (made + 1 + before) (outcomes (made + 1 + before)) ∧
      (policy.trialFrom left (made + 1)).asked (Trial.answer outcomes) made =
        policy.callsFrom (made + 1) before := by
  -- The induction is on the attempts that fail before the last one.
  induction before generalizing left made with
  | zero =>
    cases outcome : outcomes (made + 1) with
    | ok value =>
      cases left <;>
        simp [trialFrom, attemptFrom, Program.question, Program.bind, Program.run, Program.asked,
          Program.transcript, Trial.answer, outcome, conclude, callsFrom, Except.mapError]
    | error fault =>
      -- A failure ends the attempts only if none is left.
      have none : left = 0 := by
        rcases last with ⟨value, succeeded⟩ | none
        · rw [Nat.add_zero, outcome] at succeeded
          cases succeeded
        · exact none.symm
      subst none
      simp [trialFrom, attemptFrom, Program.question, Program.bind, Program.run, Program.asked,
        Program.transcript, Trial.answer, outcome, conclude, callsFrom, Except.mapError]
  | succ before ih =>
    obtain ⟨left, rfl⟩ : ∃ fewer, left = fewer + 1 := Nat.exists_eq_add_one_of_ne_zero (by omega)
    obtain ⟨fault, early⟩ := failed (made + 1) (by omega) (by omega)
    obtain ⟨result, asked⟩ := @trialFrom_failed _ _ policy _ left _ _ early
    have same : made + 1 + (before + 1) = made + 1 + 1 + before := by omega
    rw [same] at last ⊢
    obtain ⟨ended, calls⟩ := @ih left (made + 1) (by omega)
      (fun attempt later within => failed attempt (by omega) (by omega))
      (last.imp_right fun all => by omega)
    refine ⟨(congrArg Prod.fst result).trans ended, asked.trans ?_⟩
    rw [calls, callsFrom, callsFrom, List.range'_succ, List.flatMap_cons, List.append_assoc, same]

/-- Every attempt among so many has one of their numbers. -/
theorem of_mem_calls {count number : Nat} (some : 1 ≤ count)
    (member : TrialCall.attempt number ∈ policy.calls count) : 1 ≤ number ∧ number ≤ count := by
  rw [calls, callsFrom, List.mem_append, List.mem_flatMap, List.mem_singleton] at member
  rcases member with ⟨attempt, among, call⟩ | last
  · have between := List.mem_range'_1.mp among
    -- A wait is no attempt, so the number is that of the attempt before it.
    have same : number = attempt := by
      rcases List.mem_cons.mp call with named | wait
      · cases named
        rfl
      · unfold waitAfter at wait
        split at wait <;> simp at wait
    omega
  · cases last
    omega

/-- Trying ends with the first attempt that succeeds, or with the last that is allowed. -/
theorem trial_ends {count : Nat} (first : 1 ≤ count) (allowed : count ≤ max 1 policy.maxAttempts)
    (failed : ∀ attempt, 1 ≤ attempt → attempt < count → ∃ fault, outcomes attempt = .error fault)
    (last : (∃ value, outcomes count = .ok value) ∨ count = max 1 policy.maxAttempts) :
    (policy.trial.run (Trial.answer outcomes) 0).1 = conclude count (outcomes count) ∧
      policy.trial.asked (Trial.answer outcomes) 0 = policy.calls count := by
  -- The attempts are numbered from one, so the count leaves one less to go.
  have same : 0 + 1 + (count - 1) = count := by omega
  have ended := @trialFrom_ends _ _ policy outcomes (policy.attempts - 1) 0 (count - 1)
    (by rw [attempts]; omega) (fun attempt later within => failed attempt (by omega) (by omega))
    (by rw [same, attempts]; exact last.imp_right fun all => by omega)
  rw [same] at ended
  exact ended

/-- There is a last attempt among those that are allowed. -/
theorem exists_trial_ends (policy : RetryPolicy) (outcomes : Nat → Except ε α) :
    ∃ count, 1 ≤ count ∧ count ≤ max 1 policy.maxAttempts ∧
      policy.trial.asked (Trial.answer outcomes) 0 = policy.calls count := by
  classical
  -- Only attempts with a number count, so the first one is number one.
  let succeeds : Nat → Prop := fun count => 1 ≤ count ∧ ∃ value, outcomes count = .ok value
  have fails : ∀ attempt, 1 ≤ attempt → ¬ succeeds attempt →
      ∃ fault, outcomes attempt = .error fault := by
    intro attempt first unsuccessful
    cases outcome : outcomes attempt with
    | ok value => exact absurd ⟨first, value, outcome⟩ unsuccessful
    | error fault => exact ⟨fault, rfl⟩
  by_cases early : ∃ count, succeeds count ∧ count ≤ max 1 policy.maxAttempts
  · -- The first attempt that succeeds is the last one.
    have some : ∃ count, succeeds count := early.imp fun _ known => known.1
    obtain ⟨first, succeeded⟩ := Nat.find_spec some
    have within : Nat.find some ≤ max 1 policy.maxAttempts := by
      obtain ⟨count, known, allowed⟩ := early
      exact Nat.le_trans (Nat.find_min' some known) allowed
    exact ⟨_, first, within, (trial_ends first within
      (fun attempt positive before => fails attempt positive (Nat.find_min some before))
      (.inl succeeded)).2⟩
  · -- Otherwise all of the attempts fail, and the last one that is allowed ends the trial.
    have none : ∀ attempt, 1 ≤ attempt → attempt ≤ max 1 policy.maxAttempts →
        ∃ fault, outcomes attempt = .error fault := fun attempt positive within =>
      fails attempt positive fun known => early ⟨attempt, known, within⟩
    exact ⟨_, Nat.le_max_left _ _, Nat.le_refl _, (trial_ends (Nat.le_max_left _ _) (Nat.le_refl _)
      (fun attempt positive before => none attempt positive (Nat.le_of_lt before)) (.inr rfl)).2⟩

/-- An operation is tried with the numbers from one on, up to the first attempt that succeeds or
the last that is allowed, with one wait between two attempts unless it has no length. The wait is
as long as the backoff says, and every number is one of a word. -/
theorem attempts_are_made_in_turn (policy : RetryPolicy) (outcomes : Nat → Except ε α)
    (word : policy.maxAttempts < Nat.pow 2 32) :
    (∀ count value, 1 ≤ count → count ≤ max 1 policy.maxAttempts →
      (∀ attempt, 1 ≤ attempt → attempt < count → ∃ fault, outcomes attempt = .error fault) →
      outcomes count = .ok value →
      (policy.trial.run (Trial.answer outcomes) 0).1 = .ok value ∧
        policy.trial.asked (Trial.answer outcomes) 0 = policy.calls count) ∧
    ((∀ attempt, 1 ≤ attempt → attempt ≤ max 1 policy.maxAttempts →
        ∃ fault, outcomes attempt = .error fault) →
      ∃ fault, outcomes (max 1 policy.maxAttempts) = .error fault ∧
        (policy.trial.run (Trial.answer outcomes) 0).1 =
          .error ⟨max 1 policy.maxAttempts, fault⟩ ∧
        policy.trial.asked (Trial.answer outcomes) 0 =
          policy.calls (max 1 policy.maxAttempts)) ∧
    (∀ attempt, (policy.delayAfter attempt).nanoseconds = match policy.backoff with
      | .linear step => min (attempt * step.nanoseconds) (Nat.pow 2 64 * 1000000000 - 1)
      | .fixed delay => delay.nanoseconds) ∧
    ∀ number, TrialCall.attempt number ∈ policy.trial.asked (Trial.answer outcomes) 0 →
      1 ≤ number ∧ number ≤ max 1 policy.maxAttempts ∧ number < Nat.pow 2 32 := by
  -- The first two parts are the ways in which trying can end, and the numbers told are those of the
  -- calls made.
  refine ⟨fun count value first allowed failed succeeded => ?_, fun failed => ?_,
    delayAfter_nanoseconds policy, fun number member => ?_⟩
  · obtain ⟨result, asked⟩ := trial_ends first allowed failed (.inl ⟨value, succeeded⟩)
    rw [succeeded] at result
    exact ⟨result, asked⟩
  · obtain ⟨fault, lastFailed⟩ := failed _ (Nat.le_max_left _ _) (Nat.le_refl _)
    obtain ⟨result, asked⟩ := trial_ends (Nat.le_max_left _ _) (Nat.le_refl _)
      (fun attempt first before => failed attempt first (Nat.le_of_lt before)) (.inr rfl)
    rw [lastFailed] at result
    exact ⟨fault, lastFailed, result, asked⟩
  · obtain ⟨count, first, allowed, asked⟩ := exists_trial_ends policy outcomes
    rw [asked] at member
    obtain ⟨positive, within⟩ := of_mem_calls first member
    have one : 1 < Nat.pow 2 32 := by decide
    omega

/-- An operation that fails twice before it succeeds. -/
def failingTwice (attempt : Nat) : Except String Nat :=
  if attempt < 3 then .error "busy" else .ok 7

/-- Of three attempts the last one succeeds, after a wait of one second and one of two. -/
theorem third_attempt_succeeds :
    (linear 3).maxAttempts < Nat.pow 2 32 ∧
    (∀ attempt, 1 ≤ attempt → attempt < 3 → ∃ fault, failingTwice attempt = .error fault) ∧
    ((linear 3).trial.run (Trial.answer failingTwice) 0).1 = .ok 7 ∧
    (linear 3).trial.asked (Trial.answer failingTwice) 0 =
      [.attempt 1, .wait (.ofSeconds 1), .attempt 2, .wait (.ofSeconds 2), .attempt 3] := by
  -- The first two attempts fail and the third is allowed.
  have word : (linear 3).maxAttempts < Nat.pow 2 32 := by decide
  have failed : ∀ attempt, 1 ≤ attempt → attempt < 3 →
      ∃ fault, failingTwice attempt = .error fault :=
    fun attempt _ early => ⟨"busy", if_pos early⟩
  obtain ⟨result, asked⟩ := (attempts_are_made_in_turn (linear 3) failingTwice word).1 3 7
    (by decide) (by decide) failed rfl
  exact ⟨word, failed, result, asked⟩

end RetryPolicy

end SessionGate
