/-! Computations that ask questions of their surroundings one at a time and go on with answers. -/

namespace SessionGate

/-- A computation is done, or it asks a question and goes on with the answer. -/
inductive Program (Question : Type) (Answer : Question → Type) (α : Type) where
  | done (value : α)
  | ask (question : Question) (next : Answer question → Program Question Answer α)

namespace Program

variable {Question : Type} {Answer : Question → Type} {α β : Type}

/-- Goes on with a second computation after the first one is done. -/
def bind : Program Question Answer α → (α → Program Question Answer β) → Program Question Answer β
  | done value, after => after value
  -- The second computation waits behind every answer the first one may get.
  | ask question next, after => ask question fun answer => bind (next answer) after

instance : Monad (Program Question Answer) where
  pure := done
  bind := bind

/-- Asks one question. -/
def question (wanted : Question) : Program Question Answer (Answer wanted) :=
  ask wanted done

/-- Carries a computation out with the answers of a function of the question. -/
def answer (reply : (wanted : Question) → Answer wanted) : Program Question Answer α → α
  | done value => value
  | ask wanted next => answer reply (next (reply wanted))

/-- Carries a computation out against a state that every question may read and change. -/
def run {σ : Type} (reply : (wanted : Question) → σ → Answer wanted × σ) :
    Program Question Answer α → σ → α × σ
  | done value, state => (value, state)
  | ask wanted next, state =>
    -- The state left by one question is the one that the next question meets.
    let (given, state) := reply wanted state
    run reply (next given) state

/-- Puts a computation over other questions in the place of each question. -/
def refine {Finer : Type} {Reply : Finer → Type}
    (carry : (wanted : Question) → Program Finer Reply (Answer wanted)) :
    Program Question Answer α → Program Finer Reply α
  | done value => done value
  -- The finer computation gives the answer with which the coarser one goes on.
  | ask wanted next => (carry wanted).bind fun given => refine carry (next given)

end Program

end SessionGate
