import Mathlib.Data.List.Induction
import SessionGate.Proofs.Program.Member

/-! Tasks that take turns as they are told to, in surroundings that answer by a function. -/

namespace SessionGate

namespace Crowd

variable {Question : Type} {Answer : Question → Type} {σ α : Type}

/-- A task takes its turn, if it has a question to ask. -/
def turn (reply : (wanted : Question) → σ → Answer wanted × σ)
    (crowd : Crowd Question Answer σ (Program Question Answer α)) (task : Nat) :
    Crowd Question Answer σ (Program Question Answer α) :=
  match crowd.tasks[task]? with
  | some (.ask wanted next) =>
    let (given, state) := reply wanted crowd.state
    ⟨state, crowd.tasks.set task (next given), crowd.log ++ [(task, ⟨wanted, given⟩)]⟩
  | some (.done _) | none => crowd

/-- Tasks take turns in a given order. -/
def schedule (reply : (wanted : Question) → σ → Answer wanted × σ)
    (crowd : Crowd Question Answer σ (Program Question Answer α)) (tasks : List Nat) :
    Crowd Question Answer σ (Program Question Answer α) :=
  tasks.foldl (turn reply) crowd

variable {env : Surroundings Question Answer σ}
  {reply : (wanted : Question) → σ → Answer wanted × σ}
  {enters : Program Question Answer α → Prop}

/-- A task that has a question has it answered, and nothing happens where a task has none. -/
theorem turn_cases (allowed : ∀ wanted state, env wanted state (reply wanted state).1
      (reply wanted state).2) (crowd : Crowd Question Answer σ (Program Question Answer α))
    (task : Nat) :
    crowd.turn reply task = crowd ∨ Moves env Program.Turn enters crowd (crowd.turn reply task) ∧
      ∃ exchange, (crowd.turn reply task).log = crowd.log ++ [(task, exchange)] := by
  unfold turn
  -- A task that is not there or that is done asks nothing, and then nothing is answered.
  split
  next wanted next found =>
    exact Or.inr ⟨.turn found (.ask wanted next _) (allowed wanted crowd.state), _, rfl⟩
  · exact Or.inl rfl
  · exact Or.inl rfl

/-- What is scheduled may happen. -/
theorem moves_schedule (allowed : ∀ wanted state, env wanted state (reply wanted state).1
      (reply wanted state).2) (crowd : Crowd Question Answer σ (Program Question Answer α))
    (tasks : List Nat) :
    Relation.ReflTransGen (Moves env Program.Turn enters) crowd (crowd.schedule reply tasks) := by
  -- The tasks are taken in the order of the schedule, each from what the earlier ones have left.
  induction tasks generalizing crowd with
  | nil => exact .refl
  | cons task rest ih =>
    have turned : _ ∨ Moves env Program.Turn enters crowd _ ∧ _ := turn_cases allowed crowd task
    rcases turned with same | ⟨moved, -⟩
    · rw [schedule, List.foldl_cons, same]
      exact ih crowd
    · exact .head moved (ih _)

/-- Tasks may come before anything else happens. -/
theorem moves_gather (state : σ) (programs : List (Program Question Answer α))
    (admitted : ∀ program ∈ programs, enters program) :
    Relation.ReflTransGen (Moves env Program.Turn enters) (alone state) ⟨state, programs, []⟩ := by
  -- The last of them comes to those who are there.
  induction programs using List.reverseRecOn with
  | nil => exact .refl
  | append_singleton programs last ih =>
    refine .tail (ih fun program member => admitted program (List.mem_append_left _ member)) ?_
    exact Moves.enter (admitted last (by simp))

end Crowd

end SessionGate
