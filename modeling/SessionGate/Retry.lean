import SessionGate.Program
import SessionGate.Time.Duration

/-! Trying an operation a bounded number of times, with a wait between two attempts. -/

namespace SessionGate

/-- How the wait after an attempt grows: with the number of the attempt, or not at all. -/
inductive Backoff where
  | linear (step : Duration)
  | fixed (delay : Duration)
  deriving DecidableEq

/-- At most so many attempts, with a wait between two of them. -/
structure RetryPolicy where
  maxAttempts : Nat
  backoff : Backoff
  deriving DecidableEq

namespace RetryPolicy

/-- The number of attempts when none is asked for. -/
def defaultAttempts : Nat := 5

/-- A wait of one second after the first attempt, two after the second, and so on. -/
def linear (attempts : Nat) : RetryPolicy := ⟨attempts, .linear (.ofSeconds 1)⟩

/-- No wait between attempts. -/
def immediate (attempts : Nat) : RetryPolicy := ⟨attempts, .fixed .zero⟩

/-- The policy when none is asked for. -/
def default : RetryPolicy := linear defaultAttempts

/-- The wait after an attempt, which are counted from one. -/
def delayAfter (policy : RetryPolicy) (attempt : Nat) : Duration :=
  match policy.backoff with
  | .linear step => step.times attempt
  | .fixed delay => delay

/-- There is at least one attempt. -/
def attempts (policy : RetryPolicy) : Nat := max 1 policy.maxAttempts

end RetryPolicy

/-- Every attempt failed: how many there were, and the fault of the last one. -/
structure RetryExhausted (ε : Type) where
  attempts : Nat
  lastError : ε
  deriving DecidableEq

/-- Attempts from a given one on, `left` more being allowed after it. A wait of no length is
not made, and none follows the last attempt. -/
def RetryPolicy.attemptFrom {Question : Type} {Answer : Question → Type} {ε α : Type}
    (policy : RetryPolicy) (wait : Duration → Program Question Answer Unit)
    (operation : Nat → Program Question Answer (Except ε α)) :
    Nat → Nat → Program Question Answer (Except (RetryExhausted ε) α)
  | 0, attempt => (operation attempt).bind fun
    | .ok value => .done (.ok value)
    | .error fault => .done (.error ⟨attempt, fault⟩)
  | left + 1, attempt => (operation attempt).bind fun
    | .ok value => .done (.ok value)
    | .error _ =>
      -- The wait depends on the number of the attempt that has just failed.
      let delay := policy.delayAfter attempt
      if delay = .zero then policy.attemptFrom wait operation left (attempt + 1)
      else (wait delay).bind fun _ => policy.attemptFrom wait operation left (attempt + 1)

/-- Attempts an operation until it succeeds or the attempts allowed are used up. -/
def RetryPolicy.run {Question : Type} {Answer : Question → Type} {ε α : Type}
    (policy : RetryPolicy) (wait : Duration → Program Question Answer Unit)
    (operation : Nat → Program Question Answer (Except ε α)) :
    Program Question Answer (Except (RetryExhausted ε) α) :=
  -- The first attempt is always made; the others are what may be left after it.
  policy.attemptFrom wait operation (policy.attempts - 1) 1

end SessionGate
