import SessionGate.Program
import SessionGate.Time.Instant

/-! Computations that are cut off at a deadline. Between two questions nothing takes time, so a
computation can be cut only while it waits for an answer. -/

namespace SessionGate

/-- A question that may take as long as it takes, or one that is given up at a moment. -/
inductive Timed (Question : Type) where
  | unhurried (wanted : Question)
  | before (deadline : Instant) (wanted : Question)
  deriving DecidableEq

/-- An answer; it may be missing when the question was given up. -/
def Timed.Answer {Question : Type} (Answer : Question → Type) : Timed Question → Type
  | .unhurried wanted => Answer wanted
  | .before _ wanted => Option (Answer wanted)

/-- The question that is asked, with a deadline or without. -/
def Timed.wanted {Question : Type} : Timed Question → Question
  | .unhurried wanted => wanted
  | .before _ wanted => wanted

namespace Program

variable {Question : Type} {Answer : Question → Type} {α : Type}

/-- A computation without a deadline. -/
def unhurried : Program Question Answer α → Program (Timed Question) (Timed.Answer Answer) α
  | done value => done value
  | ask wanted next => ask (.unhurried wanted) fun given => unhurried (next given)

/-- A computation up to a deadline: nothing comes of it when one of its questions is given up. -/
def before (deadline : Instant) :
    Program Question Answer α → Program (Timed Question) (Timed.Answer Answer) (Option α)
  | done value => done (some value)
  | ask wanted next => ask (.before deadline wanted) fun
    | some given => before deadline (next given)
    -- A question that was given up has no answer to go on with.
    | none => done none

/-- Puts a computation over finer questions in the place of each question; what is asked before a
deadline stays cut off there. -/
def refineTimed {Finer : Type} {Reply : Finer → Type}
    (carry : (wanted : Question) → Program Finer Reply (Answer wanted)) :
    Program (Timed Question) (Timed.Answer Answer) α →
    Program (Timed Finer) (Timed.Answer Reply) α :=
  refine fun
    | .unhurried wanted => (carry wanted).unhurried
    -- Every finer question inherits the deadline of the coarser one.
    | .before deadline wanted => (carry wanted).before deadline

end Program

end SessionGate
