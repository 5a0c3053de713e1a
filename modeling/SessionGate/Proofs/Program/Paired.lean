import Mathlib.Data.List.Forall2
import SessionGate.Proofs.Program.Course

/-! Computations that go on side by side: whatever one of them is answered, the other one can be
answered alike. -/

namespace SessionGate.Program

variable {Question : Type} {Answer : Question → Type} {α β σ : Type}

/-- Two computations go on side by side. With every exchange of the first one the second one can
have an exchange that is alike, and what they come to is alike, too. -/
def Paired (alike : Exchange Question Answer → Exchange Question Answer → Prop)
    (ends : α → α → Prop) : Program Question Answer α → Program Question Answer α → Prop
  | .done value, .done other => ends value other
  | .ask wanted next, .ask asked after =>
    ∀ given, ∃ told, alike ⟨wanted, given⟩ ⟨asked, told⟩ ∧ Paired alike ends (next given) (after told)
  | _, _ => False

namespace Paired

variable {alike : Exchange Question Answer → Exchange Question Answer → Prop} {ends : α → α → Prop}
  {last : β → β → Prop} {program beside rest : Program Question Answer α}

/-- Computations whose first and second parts go on side by side do so as a whole. -/
theorem bind {after onward : α → Program Question Answer β}
    (first : Paired alike ends program beside)
    (second : ∀ value other, ends value other → Paired alike last (after value) (onward other)) :
    Paired alike last (program.bind after) (beside.bind onward) := by
  -- Both first parts take the same number of exchanges, so their second parts start together.
  induction program generalizing beside with
  | done value =>
    match beside with
    | .done other => exact second value other first
  | ask wanted next ih =>
    match beside with
    | .ask asked later =>
      intro given
      obtain ⟨told, same, onward⟩ := first given
      exact ⟨told, same, ih given onward⟩

/-- What is beside a computation that is done is done as well. -/
theorem of_done {value : α} (paired : Paired alike ends (.done value) beside) :
    ∃ other, beside = .done other ∧ ends value other := by
  -- A computation with a question is beside none that is done.
  match beside with
  | .done other => exact ⟨other, rfl, paired⟩

variable {env : Surroundings Question Answer σ} {holds : σ → σ → Prop} {before after state : σ}
  {log : List (Exchange Question Answer)}

/-- Where surroundings give an answer that is alike to each exchange that they took part in, what
one computation has gone through the other one can go through, too. -/
theorem follow
    (kept : ∀ exchange other before after state, alike exchange other →
      env exchange.wanted before exchange.given after → holds before state →
      ∃ final, env other.wanted state other.given final ∧ holds after final)
    (paired : Paired alike ends program beside)
    (course : Course env Turn program before log rest after) (held : holds before state) :
    ∃ notes left final, Course env Turn beside state notes left final ∧
      Paired alike ends rest left ∧ List.Forall₂ alike log notes ∧ holds after final := by
  -- The induction follows the first computation turn by turn.
  induction course generalizing beside state with
  | rest => exact ⟨[], beside, state, .rest _ _, paired, .nil, held⟩
  | step goes answered _ ih =>
    cases goes with
    | ask wanted next given =>
      match beside with
      -- The computation beside it asks a question too, and its answer is the one that goes with
      -- this one.
      | .ask asked later =>
        obtain ⟨told, same, onward⟩ := paired given
        obtain ⟨between, replied, still⟩ := kept _ _ _ _ _ same answered held
        obtain ⟨notes, left, final, course, ahead, logged, holds⟩ := ih onward still
        exact ⟨_, left, final, .step (.ask asked later told) replied course, ahead,
          .cons same logged, holds⟩

/-- The same holds of a computation that is carried through. -/
theorem runs {value : α}
    (kept : ∀ exchange other before after state, alike exchange other →
      env exchange.wanted before exchange.given after → holds before state →
      ∃ final, env other.wanted state other.given final ∧ holds after final)
    (paired : Paired alike ends program beside) (ran : program.Runs env before log value after)
    (held : holds before state) :
    ∃ notes other final, beside.Runs env state notes other final ∧ ends value other ∧
      List.Forall₂ alike log notes ∧ holds after final := by
  -- What was followed to a value has come to a value itself.
  obtain ⟨notes, left, final, course, ended, logged, holds⟩ := paired.follow kept ran held
  obtain ⟨other, rfl, same⟩ := ended.of_done
  exact ⟨notes, other, final, course, same, logged, holds⟩

end Paired

end SessionGate.Program
