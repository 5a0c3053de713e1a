import SessionGate.Retry
import SessionGate.Time.Instant

/-! An operation that is tried again by a policy, with its outcomes told beforehand. -/

namespace SessionGate

/-- How an attempt ends, and how long it takes. -/
structure AttemptOutcome (ε α : Type) where
  delay : Duration
  result : Except ε α

/-- What trying asks for: that time passes, or an attempt. -/
inductive TrialCall where
  | wait (delay : Duration)
  | attempt (number : Nat)

/-- What trying is answered with. -/
def TrialCall.Answer (ε α : Type) : TrialCall → Type
  | .wait _ => Unit
  | .attempt _ => Except ε α

/-- The time, and the attempts with the moments at which they began, the latest first. -/
structure Trial where
  now : Instant
  attempts : List (Nat × Instant)

namespace Trial

/-- Nothing has been tried. -/
def start : Trial := ⟨.start, []⟩

/-- Lets time pass. -/
def pass (trial : Trial) (delay : Duration) : Trial :=
  if delay = .zero then trial else { trial with now := trial.now.after delay }

/-- Answers what trying asks for. Each attempt has an outcome of its own as long as there are
some; the last one stands for all further attempts. -/
def perform {ε α : Type} (outcomes : List (AttemptOutcome ε α))
    (otherwise : AttemptOutcome ε α) : (call : TrialCall) → Trial → call.Answer ε α × Trial
  | .wait delay, trial => ((), trial.pass delay)
  | .attempt number, trial =>
    -- The number of attempts made so far tells which outcome is next.
    let outcome := (outcomes.drop trial.attempts.length).headD otherwise
    (outcome.result, { trial.pass outcome.delay with
      attempts := (number, trial.now) :: trial.attempts })

/-- Tries an operation by a policy. -/
def run {ε α : Type} (policy : RetryPolicy) (outcomes : List (AttemptOutcome ε α))
    (otherwise : AttemptOutcome ε α) : Except (RetryExhausted ε) α × Trial :=
  let wait : Duration → Program TrialCall (TrialCall.Answer ε α) Unit :=
    fun delay => Program.question (TrialCall.wait delay)
  let operation : Nat → Program TrialCall (TrialCall.Answer ε α) (Except ε α) :=
    fun number => Program.question (TrialCall.attempt number)
  (policy.run wait operation).run (perform outcomes otherwise) start

end Trial

end SessionGate
