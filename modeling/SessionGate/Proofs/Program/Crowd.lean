import Mathlib.Logic.Relation
import SessionGate.Proofs.Program.Course

/-! Tasks that take turns in common surroundings, one question at a time and in any order. -/

namespace SessionGate

/-- The state of the surroundings, where each task stands, and what each has exchanged with the
surroundings so far, the earliest first. Tasks go by the order in which they came. -/
structure Crowd (Question : Type) (Answer : Question → Type) (σ Place : Type) where
  state : σ
  tasks : List Place
  log : List (Nat × Exchange Question Answer)

namespace Crowd

variable {Question : Type} {Answer : Question → Type} {σ Place : Type}

/-- Nobody has come yet. -/
def alone (state : σ) : Crowd Question Answer σ Place := ⟨state, [], []⟩

/-- One thing that can happen in a crowd: a task comes, or a task has its question answered. -/
inductive Moves (env : Surroundings Question Answer σ) (conduct : Conduct Question Answer Place)
    (enters : Place → Prop) (crowd : Crowd Question Answer σ Place) :
    Crowd Question Answer σ Place → Prop where
  | enter {place : Place} (admitted : enters place) :
      Moves env conduct enters crowd { crowd with tasks := crowd.tasks ++ [place] }
  | turn {task : Nat} {place ahead : Place} {exchange : Exchange Question Answer} {state : σ}
      (found : crowd.tasks[task]? = some place) (goes : conduct place exchange ahead)
      (answered : env exchange.wanted crowd.state exchange.given state) :
      Moves env conduct enters crowd
        ⟨state, crowd.tasks.set task ahead, crowd.log ++ [(task, exchange)]⟩

/-- A crowd that can come about from an empty one in a state. -/
def Reached (env : Surroundings Question Answer σ) (conduct : Conduct Question Answer Place)
    (enters : Place → Prop) (start : σ) (crowd : Crowd Question Answer σ Place) : Prop :=
  Relation.ReflTransGen (Moves env conduct enters) (alone start) crowd

section Placing

variable {tasks : List Place} {task other : Nat} {newcomer place ahead : Place}

/-- Once somebody has come, who stands somewhere stood there before or is the newcomer. -/
theorem placed_of_enter (placed : (tasks ++ [newcomer])[task]? = some place) :
    tasks[task]? = some place ∨ task = tasks.length ∧ place = newcomer := by
  -- The newcomer stands behind all others, so a place within the old tasks is an old one.
  rw [List.getElem?_append] at placed
  split at placed
  next => exact Or.inl placed
  next beyond =>
    rw [List.getElem?_singleton] at placed
    split at placed
    next last =>
      cases placed
      exact Or.inr ⟨by omega, rfl⟩
    next => cases placed

/-- Once a task has had its turn, who stands somewhere is this task or stood there before. -/
theorem placed_of_turn (placed : (tasks.set task ahead)[other]? = some place) :
    other = task ∧ place = ahead ∨ other ≠ task ∧ tasks[other]? = some place := by
  -- Only one place in the list has been written.
  rw [List.getElem?_set] at placed
  split at placed
  next same =>
    split at placed
    next =>
      cases placed
      exact Or.inl ⟨same.symm, rfl⟩
    next => cases placed
  next different => exact Or.inr ⟨Ne.symm different, placed⟩

end Placing

variable {env : Surroundings Question Answer σ} {conduct : Conduct Question Answer Place}
  {enters : Place → Prop}

/-- What every move keeps holds of every crowd that comes about. -/
theorem Reached.keeps (holds : Crowd Question Answer σ Place → Prop) {start : σ}
    (first : holds (alone start))
    (kept : ∀ crowd after, Moves env conduct enters crowd after → holds crowd → holds after)
    {crowd : Crowd Question Answer σ Place} (reached : Reached env conduct enters start crowd) :
    holds crowd := by
  -- A crowd comes about by one move after another.
  induction reached with
  | refl => exact first
  | tail _ moved ih => exact kept _ _ moved ih

/-- A task may take some turns before anybody else takes one. -/
theorem advance {state final : σ} {tasks : List Place} {task : Nat} {place last : Place}
    {known : List (Nat × Exchange Question Answer)} {log : List (Exchange Question Answer)}
    (found : tasks[task]? = some place) (course : Course env conduct place state log last final) :
    Relation.ReflTransGen (Moves env conduct enters) ⟨state, tasks, known⟩
      ⟨final, tasks.set task last, known ++ log.map (task, ·)⟩ := by
  -- The induction is on the course, so that what has been logged before it stays general.
  induction course generalizing tasks known with
  | rest place state =>
    have same : tasks.set task place = tasks := by
      obtain ⟨within, rfl⟩ := List.getElem?_eq_some_iff.mp found
      exact List.set_getElem_self within
    rw [List.map_nil, List.append_nil, same]
  | @step place between last state middle final exchange log goes answered onward ih =>
    have placed : (tasks.set task between)[task]? = some between :=
      List.getElem?_set_self (List.getElem?_eq_some_iff.mp found).1
    have advanced := @ih _ (known ++ [(task, exchange)]) placed
    rw [List.set_set, List.append_assoc] at advanced
    exact advanced.head (.turn found goes answered)

/-- A newcomer may take some turns before anybody else takes one. -/
theorem serve {final : σ} {crowd : Crowd Question Answer σ Place} {place last : Place}
    {log : List (Exchange Question Answer)} (admitted : enters place)
    (course : Course env conduct place crowd.state log last final) :
    Relation.ReflTransGen (Moves env conduct enters) crowd
      ⟨final, crowd.tasks ++ [last], crowd.log ++ log.map (crowd.tasks.length, ·)⟩ := by
  -- The newcomer is the last of the tasks, and takes all the turns.
  have found : (crowd.tasks ++ [place])[crowd.tasks.length]? = some place := by simp
  have placed : (crowd.tasks ++ [place]).set crowd.tasks.length last = crowd.tasks ++ [last] := by
    rw [List.set_append_right _ _ (Nat.le_refl _), Nat.sub_self, List.set_cons_zero]
  rw [← placed]
  exact (advance found course).head (.enter admitted)

/-- A crowd that came about may have a newcomer take some turns before anybody else takes one. -/
theorem Reached.serve {start final : σ} {crowd : Crowd Question Answer σ Place} {place last : Place}
    {log : List (Exchange Question Answer)} (reached : Reached env conduct enters start crowd)
    (admitted : enters place) (course : Course env conduct place crowd.state log last final) :
    Reached env conduct enters start
      ⟨final, crowd.tasks ++ [last], crowd.log ++ log.map (crowd.tasks.length, ·)⟩ :=
  -- The turns of the newcomer follow all that has happened before.
  reached.trans (Crowd.serve admitted course)

/-- Two crowds that have seen the same, and whose tasks stand at places that are alike. -/
structure Alike {Other : Type} (alike : Place → Other → Prop)
    (crowd : Crowd Question Answer σ Place) (other : Crowd Question Answer σ Other) : Prop where
  state : other.state = crowd.state
  log : other.log = crowd.log
  length : other.tasks.length = crowd.tasks.length
  tasks : ∀ (task : Nat) place beside, crowd.tasks[task]? = some place →
    other.tasks[task]? = some beside → alike place beside

/-- Where one crowd has a task, a crowd like it has one, too. -/
theorem Alike.task {Other : Type} {alike : Place → Other → Prop}
    {crowd : Crowd Question Answer σ Place} {other : Crowd Question Answer σ Other}
    (same : Alike alike crowd other) {task : Nat} {place : Place}
    (found : crowd.tasks[task]? = some place) :
    ∃ beside, other.tasks[task]? = some beside ∧ alike place beside := by
  -- Both crowds have as many tasks, so there is somebody in the same place.
  have within : task < other.tasks.length := by
    rw [same.length]
    exact (List.getElem?_eq_some_iff.mp found).1
  have located := List.getElem?_eq_getElem within
  exact ⟨_, located, same.tasks task _ _ found located⟩

/-- A crowd is led along by one whose tasks it can follow step by step. -/
theorem Reached.follow {Other : Type} {other : Conduct Question Answer Other}
    (admits : Other → Prop) (alike : Place → Other → Prop)
    (entry : ∀ place, enters place → ∃ beside, admits beside ∧ alike place beside)
    (follows : ∀ place exchange between beside, alike place beside →
      conduct place exchange between → ∃ ahead, other beside exchange ahead ∧ alike between ahead)
    {start : σ} {crowd : Crowd Question Answer σ Place}
    (reached : Reached env conduct enters start crowd) :
    ∃ shadow, Reached env other admits start shadow ∧ Alike alike crowd shadow := by
  -- The second crowd makes the same moves in the same order.
  induction reached with
  | refl => exact ⟨alone start, .refl, rfl, rfl, rfl, by simp [alone]⟩
  | tail _ moved ih =>
    obtain ⟨shadow, reached, same⟩ := ih
    cases moved with
    | enter admitted =>
      obtain ⟨beside, admitted, alike⟩ := entry _ admitted
      refine ⟨_, reached.tail (.enter admitted), same.state, same.log, by simp [same.length], ?_⟩
      intro task place beside' found located
      have length := same.length
      rcases placed_of_enter found with here | ⟨last, rfl⟩
      · have within := (List.getElem?_eq_some_iff.mp here).1
        rcases placed_of_enter located with there | ⟨beyond, -⟩
        · exact same.tasks task _ _ here there
        · omega
      · -- Only the newcomers stand behind all others.
        rcases placed_of_enter located with there | ⟨-, rfl⟩
        · have within := (List.getElem?_eq_some_iff.mp there).1
          omega
        · exact alike
    | turn found goes answered =>
      obtain ⟨beside, located, alike⟩ := same.task found
      obtain ⟨ahead, went, still⟩ := follows _ _ _ _ alike goes
      rw [← same.state] at answered
      refine ⟨_, reached.tail (.turn located went answered), rfl, by rw [same.log],
        by simp [same.length], ?_⟩
      intro other place beside' foundThere locatedThere
      rcases placed_of_turn foundThere with ⟨here, rfl⟩ | ⟨elsewhere, foundThere⟩
      · -- The two tasks that have just moved.
        rcases placed_of_turn locatedThere with ⟨-, rfl⟩ | ⟨elsewhere, -⟩
        · exact still
        · exact absurd here elsewhere
      · rcases placed_of_turn locatedThere with ⟨here, -⟩ | ⟨-, locatedThere⟩
        · exact absurd here elsewhere
        · exact same.tasks other _ _ foundThere locatedThere

/-- What can be read off the place where a task stands. -/
def reading {α : Type} (crowd : Crowd Question Answer σ Place) (read : Place → Option α)
    (task : Nat) : Option α :=
  crowd.tasks[task]?.bind read

variable {α : Type} {read : Place → Option α} {crowd : Crowd Question Answer σ Place}

/-- What is read off the place of a task that is known. -/
theorem reading_of_found {task : Nat} {place : Place} (found : crowd.tasks[task]? = some place) :
    crowd.reading read task = read place := by
  -- The place is looked up where the task is.
  rw [reading, found]
  rfl

/-- Nothing is read off a newcomer, and the others stand where they stood. -/
theorem reading_enter {place : Place} (silent : read place = none) (task : Nat) :
    reading { crowd with tasks := crowd.tasks ++ [place] } read task = crowd.reading read task := by
  -- Within the old tasks the place is the old one, and at their end nothing was read before either.
  rw [reading, reading, List.getElem?_append]
  split
  · rfl
  next beyond =>
    rw [List.getElem?_eq_none (Nat.le_of_not_lt beyond), List.getElem?_singleton]
    split
    · exact silent
    · rfl

/-- A task that takes its turn stands at its new place, and the others stand where they stood. -/
theorem reading_turn {task : Nat} {place : Place} (found : crowd.tasks[task]? = some place)
    (ahead : Place) (state : σ) (log : List (Nat × Exchange Question Answer)) (other : Nat) :
    reading ⟨state, crowd.tasks.set task ahead, log⟩ read other =
      if other = task then read ahead else crowd.reading read other := by
  -- The place of the task is written anew, and the reading is made from what was written.
  obtain ⟨within, -⟩ := List.getElem?_eq_some_iff.mp found
  rw [reading, reading, List.getElem?_set]
  by_cases here : task = other
  · subst here
    simp [within]
  · rw [if_neg here, if_neg fun same => here same.symm]

/-- Where the new place of a task reads like its old one, all reads as before. -/
theorem reading_turn_same {task : Nat} {place ahead : Place}
    (found : crowd.tasks[task]? = some place) (same : read ahead = read place) (state : σ)
    (log : List (Nat × Exchange Question Answer)) (other : Nat) :
    reading ⟨state, crowd.tasks.set task ahead, log⟩ read other = crowd.reading read other := by
  -- The readings differ at most where the task stands, and there they are the same by assumption.
  rw [reading_turn found]
  split
  next here => rw [here, same, reading_of_found found]
  next => rfl

/-- A task that cannot go on stays where it is. -/
theorem Moves.stays {after : Crowd Question Answer σ Place}
    (moved : Moves env conduct enters crowd after)
    {task : Nat} {place : Place} (found : crowd.tasks[task]? = some place)
    (stuck : ∀ exchange ahead, ¬ conduct place exchange ahead) :
    after.tasks[task]? = some place := by
  -- A task that is there keeps its number, whoever comes later.
  obtain ⟨within, -⟩ := List.getElem?_eq_some_iff.mp found
  cases moved with
  | enter =>
    rw [List.getElem?_append_left within]
    exact found
  | turn located goes =>
    rw [List.getElem?_set]
    split
    next same =>
      -- If it had been this task's turn, it would have had to go on.
      subst same
      cases located.symm.trans found
      exact absurd goes (stuck _ _)
    next => exact found

/-- A task that cannot go on stays where it is in whatever happens. -/
theorem stays {later : Crowd Question Answer σ Place}
    (moved : Relation.ReflTransGen (Moves env conduct enters) crowd later) {task : Nat}
    {place : Place} (found : crowd.tasks[task]? = some place)
    (stuck : ∀ exchange ahead, ¬ conduct place exchange ahead) :
    later.tasks[task]? = some place := by
  -- The task stays where it is in each move, and so in all of them.
  induction moved with
  | refl => exact found
  | tail _ moved ih => exact moved.stays ih stuck

end Crowd

end SessionGate
