import SessionGate.Proofs.Program.Crowd

/-! One task of a crowd: what it was asked for, and what it has exchanged with the surroundings. -/

namespace SessionGate

section Path

variable {Question : Type} {Answer : Question → Type} {Place : Type}

/-- Some steps of a conduct, whatever was answered on the way. -/
abbrev Path (conduct : Conduct Question Answer Place) (place : Place)
    (log : List (Exchange Question Answer)) (last : Place) : Prop :=
  Course (fun _ (_ : Unit) _ _ => True) conduct place () log last ()

variable {conduct : Conduct Question Answer Place} {place between last : Place}
  {exchange : Exchange Question Answer} {log : List (Exchange Question Answer)}

/-- A course may be gone on with one more step. -/
theorem Course.snoc {σ : Type} {env : Surroundings Question Answer σ} {state middle final : σ}
    (course : Course env conduct place state log between middle)
    (goes : conduct between exchange last)
    (answered : env exchange.wanted middle exchange.given final) :
    Course env conduct place state (log ++ [exchange]) last final := by
  -- The step is taken where the course has come to rest.
  induction course with
  | rest => exact .step goes answered (.rest _ _)
  | step first given _ ih => exact .step first given (ih goes answered)

/-- What every step keeps of a place and of all that was exchanged is kept by a whole course. -/
theorem Course.tells {σ : Type} {env : Surroundings Question Answer σ} {state final : σ}
    (holds : Place → List (Exchange Question Answer) → Prop)
    (kept : ∀ place log exchange ahead, conduct place exchange ahead → holds place log →
      holds ahead (log ++ [exchange]))
    (course : Course env conduct place state log last final)
    {known : List (Exchange Question Answer)} (held : holds place known) :
    holds last (known ++ log) := by
  -- The induction is on the course, so that what was exchanged before it stays general.
  induction course generalizing known with
  | rest =>
    rw [List.append_nil]
    exact held
  | step goes _ _ ih =>
    rw [List.append_cons]
    exact ih (kept _ _ _ _ goes held)

end Path

/-- Somebody who has been given something to do keeps to a conduct for it. -/
inductive Conduct.Labelled {Question Label : Type} {Answer : Question → Type}
    {Place : Label → Type} (conduct : ∀ label, Conduct Question Answer (Place label)) :
    Conduct Question Answer (Sigma Place) where
  | step {label : Label} {place ahead : Place label} {exchange : Exchange Question Answer}
      (goes : conduct label place exchange ahead) :
      Labelled conduct ⟨label, place⟩ exchange ⟨label, ahead⟩

/-- What somebody has been given to do stays the same, and they keep to the conduct for it. -/
theorem Conduct.Labelled.course {Question Label σ : Type} {Answer : Question → Type}
    {Place : Label → Type} {conduct : ∀ label, Conduct Question Answer (Place label)}
    {env : Surroundings Question Answer σ} {state final : σ} {first last : Sigma Place}
    {log : List (Exchange Question Answer)}
    (course : Course env (Labelled conduct) first state log last final) :
    ∃ place : Place first.1, last = ⟨first.1, place⟩ ∧
      Course env (conduct first.1) first.2 state log place final := by
  -- No step changes the label.
  induction course with
  | rest => exact ⟨_, rfl, .rest _ _⟩
  | step goes answered _ ih =>
    cases goes with
    | step goes =>
      obtain ⟨place, rfl, course⟩ := ih
      exact ⟨place, rfl, .step goes answered course⟩

/-- Whoever keeps to a conduct keeps to it as what they have been given to do. -/
theorem Course.labelled {Question Label σ : Type} {Answer : Question → Type} {Place : Label → Type}
    {conduct : ∀ label, Conduct Question Answer (Place label)}
    {env : Surroundings Question Answer σ} {state final : σ} {label : Label}
    {place last : Place label} {log : List (Exchange Question Answer)}
    (course : Course env (conduct label) place state log last final) :
    Course env (Conduct.Labelled conduct) ⟨label, place⟩ state log ⟨label, last⟩ final := by
  -- What is to be done stays the same in every step.
  induction course with
  | rest => exact .rest _ _
  | step goes answered _ ih => exact .step (.step goes) answered ih

namespace Crowd

variable {Question : Type} {Answer : Question → Type} {σ Place : Type}

/-- What a task has exchanged with the surroundings so far, the earliest first. -/
def heard (crowd : Crowd Question Answer σ Place) (task : Nat) :
    List (Exchange Question Answer) :=
  crowd.log.filterMap fun entry => if entry.1 = task then some entry.2 else none

variable {env : Surroundings Question Answer σ} {conduct : Conduct Question Answer Place}
  {enters : Place → Prop} {crowd : Crowd Question Answer σ Place} {task : Nat} {place : Place}
  {exchange : Exchange Question Answer}

/-- What the log tells of a task is what the task has exchanged. -/
theorem mem_heard : exchange ∈ crowd.heard task ↔ (task, exchange) ∈ crowd.log := by
  -- The log is filtered by the number of the task, which is then left out.
  simp only [heard, List.mem_filterMap, Option.ite_none_right_eq_some, Option.some.injEq,
    Prod.exists]
  constructor
  · intro logged
    obtain ⟨other, given, member, rfl, rfl⟩ := logged
    exact member
  · intro member
    exact ⟨task, exchange, member, rfl, rfl⟩

/-- A turn adds an exchange to what its own task has heard, and to nothing else. -/
theorem heard_turn (state : σ) (tasks : List Place) (other : Nat) :
    heard ⟨state, tasks, crowd.log ++ [(task, exchange)]⟩ other =
      crowd.heard other ++ if task = other then [exchange] else [] := by
  -- Only the last entry of the log is new.
  rw [heard, List.filterMap_append, ← heard]
  congr 1
  by_cases same : task = other
  · simp [same]
  · simp [same]

/-- Whoever takes turns in a crowd goes its own way from where it came in, and those who have not
come have exchanged nothing. -/
theorem Reached.path {start : σ} (reached : Reached env conduct enters start crowd) (task : Nat) :
    (crowd.tasks.length ≤ task → crowd.heard task = []) ∧
      ∀ place, crowd.tasks[task]? = some place →
        ∃ entry, enters entry ∧ Path conduct entry (crowd.heard task) place := by
  -- Only the task that takes its turn hears anything, and only a newcomer is new.
  induction reached with
  | refl => exact ⟨fun _ => rfl, nofun⟩
  | @tail crowd next _ moved ih =>
    obtain ⟨silent, ways⟩ := ih
    cases moved with
    | @enter newcomer admitted =>
      refine ⟨fun beyond => silent ?_, fun place found => ?_⟩
      · exact Nat.le_of_succ_le (by simpa using beyond)
      · rcases placed_of_enter found with found | ⟨last, rfl⟩
        · exact ways place found
        · -- A newcomer has taken no turn yet.
          refine ⟨place, admitted, ?_⟩
          show Path conduct place (crowd.heard task) place
          rw [silent (Nat.le_of_eq last.symm)]
          exact .rest _ _
    | @turn mover stood ahead exchange state found goes answered =>
      rw [heard_turn]
      refine ⟨fun beyond => ?_, fun place located => ?_⟩
      · -- Who takes a turn has come.
        have within := (List.getElem?_eq_some_iff.mp found).1
        rw [List.length_set] at beyond
        rw [silent beyond, if_neg (by omega)]
        rfl
      · rcases placed_of_turn located with ⟨rfl, rfl⟩ | ⟨different, located⟩
        · obtain ⟨entry, admitted, path⟩ := ways stood found
          rw [if_pos rfl]
          exact ⟨entry, admitted, path.snoc goes trivial⟩
        · rw [if_neg (Ne.symm different), List.append_nil]
          exact ways place located

/-- Whoever has exchanged something has come in and gone its own way from there. -/
theorem Reached.path_of_mem {start : σ} (reached : Reached env conduct enters start crowd)
    (logged : (task, exchange) ∈ crowd.log) :
    ∃ entry, enters entry ∧ ∃ place, Path conduct entry (crowd.heard task) place := by
  obtain ⟨silent, ways⟩ := reached.path task
  -- A task that never came has exchanged nothing, so it must be one of those that are there.
  by_cases beyond : crowd.tasks.length ≤ task
  · have heard := mem_heard.mpr logged
    rw [silent beyond] at heard
    cases heard
  · obtain ⟨entry, admitted, path⟩ :=
      ways _ (List.getElem?_eq_getElem (Nat.lt_of_not_le beyond))
    exact ⟨entry, admitted, _, path⟩

/-- What has been logged stays logged, and more comes behind it. -/
theorem log_of_moves {later : Crowd Question Answer σ Place}
    (moved : Relation.ReflTransGen (Moves env conduct enters) crowd later) :
    ∃ more, later.log = crowd.log ++ more := by
  induction moved with
  | refl => exact ⟨[], (List.append_nil _).symm⟩
  | tail _ moved ih =>
    obtain ⟨more, ih⟩ := ih
    -- A newcomer logs nothing, and a turn logs one exchange behind all others.
    cases moved with
    | enter => exact ⟨more, ih⟩
    | @turn task place ahead exchange state found goes answered =>
      exact ⟨more ++ [(task, exchange)], by simp [ih]⟩

/-- What every exchange that was logged since keeps holds still, and it held whenever one of them
took place. -/
theorem kept_since {later : Crowd Question Answer σ Place}
    (moved : Relation.ReflTransGen (Moves env conduct enters) crowd later)
    {more : List (Nat × Exchange Question Answer)} (grown : later.log = crowd.log ++ more)
    (holds : σ → Prop)
    (kept : ∀ entry ∈ more, ∀ before after, env entry.2.wanted before entry.2.given after →
      holds before → holds after) (held : holds crowd.state) :
    holds later.state ∧ ∀ entry ∈ more, ∃ before after, holds before ∧
      env entry.2.wanted before entry.2.given after := by
  induction moved generalizing more with
  | refl =>
    obtain rfl := List.self_eq_append_right.mp grown
    exact ⟨held, nofun⟩
  | tail earlier moved ih =>
    cases moved with
    -- A newcomer logs nothing, so nothing is to be shown of it.
    | enter => exact ih grown kept
    | @turn task place ahead exchange state found goes answered =>
      obtain ⟨since, before⟩ := log_of_moves earlier
      rw [before, List.append_assoc, List.append_cancel_left_eq] at grown
      subst grown
      -- The turn was the last one, and all else had been logged before it.
      obtain ⟨still, each⟩ := ih before fun entry member =>
        kept entry (List.mem_append_left _ member)
      refine ⟨kept _ (List.mem_append_right _ List.mem_cons_self) _ _ answered still, ?_⟩
      intro entry member
      rcases List.mem_append.mp member with early | now
      · exact each entry early
      · cases List.mem_singleton.mp now
        exact ⟨_, _, still, answered⟩

end Crowd

end SessionGate
