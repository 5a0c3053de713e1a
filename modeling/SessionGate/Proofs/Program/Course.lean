import SessionGate.Program

/-! How computations fare in surroundings that may answer one question in several ways. -/

namespace SessionGate

/-- What surroundings may answer to a question in a state, and the state that this leaves. -/
abbrev Surroundings (Question : Type) (Answer : Question → Type) (σ : Type) : Type :=
  (wanted : Question) → σ → Answer wanted → σ → Prop

/-- A question that was asked, and the answer that was given. -/
structure Exchange (Question : Type) (Answer : Question → Type) where
  wanted : Question
  given : Answer wanted

/-- How somebody who asks goes on: after an exchange they stand at another place. -/
abbrev Conduct (Question : Type) (Answer : Question → Type) (Place : Type) : Type :=
  Place → Exchange Question Answer → Place → Prop

section Course

variable {Question : Type} {Answer : Question → Type} {σ Place : Type}

/-- Some steps of a conduct in surroundings, with the exchanges on the way. -/
inductive Course (env : Surroundings Question Answer σ) (conduct : Conduct Question Answer Place) :
    Place → σ → List (Exchange Question Answer) → Place → σ → Prop where
  | rest (place : Place) (state : σ) : Course env conduct place state [] place state
  | step {place between last : Place} {state middle final : σ}
      {exchange : Exchange Question Answer} {log : List (Exchange Question Answer)}
      (goes : conduct place exchange between)
      (answered : env exchange.wanted state exchange.given middle)
      (onward : Course env conduct between middle log last final) :
      Course env conduct place state (exchange :: log) last final

namespace Course

variable {env : Surroundings Question Answer σ} {conduct : Conduct Question Answer Place}

/-- What every step keeps is kept by a whole course. -/
theorem keeps (holds : Place → σ → Prop)
    (kept : ∀ place exchange between state middle, conduct place exchange between →
      env exchange.wanted state exchange.given middle → holds place state → holds between middle)
    {place last : Place} {state final : σ} {log : List (Exchange Question Answer)}
    (course : Course env conduct place state log last final) (held : holds place state) :
    holds last final := by
  -- The induction follows the course step by step.
  induction course with
  | rest => exact held
  | step goes answered _ ih => exact ih (kept _ _ _ _ _ goes answered held)

/-- A conduct that another one can follow step by step leads the other along. -/
theorem follow {Other : Type} {other : Conduct Question Answer Other}
    (alike : Place → Other → Prop)
    (follows : ∀ place exchange between beside, alike place beside →
      conduct place exchange between → ∃ ahead, other beside exchange ahead ∧ alike between ahead)
    {place last : Place} {state final : σ} {log : List (Exchange Question Answer)}
    (course : Course env conduct place state log last final) {beside : Other}
    (start : alike place beside) :
    ∃ ahead, Course env other beside state log ahead final ∧ alike last ahead := by
  -- The induction is on the course, and the other place moves on with it.
  induction course generalizing beside with
  | rest place state => exact ⟨beside, .rest beside state, start⟩
  | step goes answered _ ih =>
    obtain ⟨between, moved, still⟩ := follows _ _ _ _ start goes
    -- The same answer carries both of them on.
    obtain ⟨ahead, onward, alike⟩ := ih still
    exact ⟨ahead, .step moved answered onward, alike⟩

/-- A course whose exchanges come in two parts is one course followed by another. -/
theorem of_append {place last : Place} {state final : σ}
    {first second : List (Exchange Question Answer)}
    (course : Course env conduct place state (first ++ second) last final) :
    ∃ between middle, Course env conduct place state first between middle ∧
      Course env conduct between middle second last final := by
  -- The first part is taken off exchange by exchange; when it is used up, the rest of the course is
  -- the second part.
  induction first generalizing place state with
  | nil => exact ⟨place, state, .rest place state, course⟩
  | cons exchange first ih =>
    cases course with
    | step goes answered onward =>
      obtain ⟨between, middle, early, late⟩ := ih onward
      exact ⟨between, middle, .step goes answered early, late⟩

end Course

end Course

namespace Program

variable {Question : Type} {Answer : Question → Type} {σ α β : Type}

/-- A computation goes on with the answer to its question. -/
inductive Turn : Conduct Question Answer (Program Question Answer α) where
  | ask (wanted : Question) (next : Answer wanted → Program Question Answer α)
      (given : Answer wanted) : Turn (.ask wanted next) ⟨wanted, given⟩ (next given)

/-- A computation that is done asks nothing more. -/
theorem Turn.not_done {value : α} {exchange : Exchange Question Answer}
    {rest : Program Question Answer α} : ¬ Turn (.done value) exchange rest := by
  -- The one step of a conduct of computations answers a question, and here there is none.
  intro goes
  cases goes

/-- A computation is carried through to its value. -/
def Runs (env : Surroundings Question Answer σ) (program : Program Question Answer α) (state : σ)
    (log : List (Exchange Question Answer)) (value : α) (final : σ) : Prop :=
  Course env Turn program state log (.done value) final

/-- Every question that a computation may come to satisfies a condition. -/
def Asks (allowed : Question → Prop) : Program Question Answer α → Prop
  | .done _ => True
  -- What is asked later depends on the answer, so every answer counts.
  | .ask wanted next => allowed wanted ∧ ∀ given, Asks allowed (next given)

variable {env : Surroundings Question Answer σ}

variable {program rest : Program Question Answer α} {state final : σ}
  {log : List (Exchange Question Answer)}

/-- What is done already goes no further. -/
theorem turns_done {value : α} :
    Course env Turn (.done value) state log rest final ↔
      log = [] ∧ rest = .done value ∧ final = state := by
  constructor
  · intro course
    cases course with
    | rest => exact ⟨rfl, rfl, rfl⟩
    -- A step would need a question.
    | step goes => exact absurd goes Turn.not_done
  · intro same
    obtain ⟨rfl, rfl, rfl⟩ := same
    exact .rest _ _

/-- A question still waits for its answer, or it is answered and the rest goes on. -/
theorem turns_ask {wanted : Question} {next : Answer wanted → Program Question Answer α} :
    Course env Turn (.ask wanted next) state log rest final ↔
      (log = [] ∧ rest = .ask wanted next ∧ final = state) ∨
      ∃ given middle more, env wanted state given middle ∧
        Course env Turn (next given) middle more rest final ∧ log = ⟨wanted, given⟩ :: more := by
  constructor
  · intro course
    cases course with
    -- No step has been taken.
    | rest => exact Or.inl ⟨rfl, rfl, rfl⟩
    | step goes answered onward =>
      cases goes with
      | ask _ _ given => exact Or.inr ⟨given, _, _, answered, onward, rfl⟩
  · intro course
    rcases course with ⟨rfl, rfl, rfl⟩ | ⟨given, middle, more, answered, onward, rfl⟩
    · exact .rest _ _
    · exact .step (.ask wanted next given) answered onward

/-- What is done already takes no exchange. -/
@[simp] theorem runs_done {value result : α} :
    Runs env (.done value) state log result final ↔ log = [] ∧ result = value ∧ final = state := by
  -- To be carried through is to have gone as far as to a value.
  rw [Runs, turns_done, done.injEq]

/-- A question is answered before the rest is carried through. -/
theorem runs_ask {wanted : Question} {next : Answer wanted → Program Question Answer α}
    {value : α} :
    Runs env (.ask wanted next) state log value final ↔
      ∃ given middle rest, env wanted state given middle ∧
        Runs env (next given) middle rest value final ∧ log = ⟨wanted, given⟩ :: rest := by
  rw [Runs, turns_ask]
  -- What waits for an answer is not done.
  simp [Runs]

/-- A computation followed by another is carried through in two parts. -/
theorem runs_bind {program : Program Question Answer α}
    {after : α → Program Question Answer β} {state final : σ}
    {log : List (Exchange Question Answer)} {value : β} :
    Runs env (program.bind after) state log value final ↔
      ∃ first result middle second, Runs env program state first result middle ∧
        Runs env (after result) middle second value final ∧ log = first ++ second := by
  -- The induction is on the first computation, whose questions come first.
  induction program generalizing state log with
  | done result =>
    simp only [Program.bind, runs_done]
    -- A computation that is done has taken no exchange, so the second one takes them all.
    constructor
    · intro ran
      exact ⟨[], result, state, log, ⟨rfl, rfl, rfl⟩, ran, rfl⟩
    · intro ran
      obtain ⟨_, _, _, _, ⟨rfl, rfl, rfl⟩, ran, rfl⟩ := ran
      exact ran
  | ask wanted next ih =>
    simp only [Program.bind, runs_ask, ih]
    constructor
    · intro ran
      -- The first exchange of the whole is the first one of the first part, and the rest is divided
      -- as before.
      obtain ⟨given, between, _, answered, onward, rfl⟩ := ran
      obtain ⟨first, result, middle, second, ran, rest, rfl⟩ := onward
      exact ⟨_, result, middle, second, ⟨given, between, first, answered, ran, rfl⟩, rest, rfl⟩
    · intro ran
      obtain ⟨_, result, middle, second, early, rest, rfl⟩ := ran
      obtain ⟨given, between, first, answered, ran, rfl⟩ := early
      exact ⟨given, between, _, answered, ⟨first, result, middle, second, ran, rest, rfl⟩, rfl⟩

/-- The exchanges of a run against a function of the state. -/
def transcript (reply : (wanted : Question) → σ → Answer wanted × σ) :
    Program Question Answer α → σ → List (Exchange Question Answer)
  | .done _, _ => []
  | .ask wanted next, state =>
    ⟨wanted, (reply wanted state).1⟩ ::
      transcript reply (next (reply wanted state).1) (reply wanted state).2

/-- A run against a function of the state is one in all surroundings that allow its answers. -/
theorem runs_run {reply : (wanted : Question) → σ → Answer wanted × σ}
    (allowed : ∀ wanted state, env wanted state (reply wanted state).1 (reply wanted state).2)
    (program : Program Question Answer α) (state : σ) :
    program.Runs env state (program.transcript reply state) (program.run reply state).1
      (program.run reply state).2 := by
  -- Each question is answered as the function answers it in the state that it has come to.
  induction program generalizing state with
  | done value => exact .rest _ _
  | ask wanted next ih => exact .step (.ask wanted next _) (allowed wanted state) (ih _ _)

/-- Where every question gets an answer in every state, each computation can be carried through. -/
theorem exists_runs (responsive : ∀ wanted state, ∃ given after, env wanted state given after)
    (program : Program Question Answer α) (state : σ) :
    ∃ log value final, program.Runs env state log value final := by
  -- Whatever is answered first, the rest can be carried through from there.
  induction program generalizing state with
  | done value => exact ⟨[], value, state, runs_done.mpr ⟨rfl, rfl, rfl⟩⟩
  | ask wanted next ih =>
    obtain ⟨given, middle, answered⟩ := responsive wanted state
    obtain ⟨log, value, final, ran⟩ := ih given middle
    exact ⟨_, value, final, runs_ask.mpr ⟨given, middle, log, answered, ran, rfl⟩⟩

/-- What holds of every question still holds when less is demanded. -/
theorem Asks.mono {allowed wider : Question → Prop} {program : Program Question Answer α}
    (asks : program.Asks allowed) (wide : ∀ wanted, allowed wanted → wider wanted) :
    program.Asks wider := by
  -- A weaker demand on a question is met by each of them, whatever was answered before.
  induction program with
  | done value => trivial
  | ask wanted next ih => exact ⟨wide wanted asks.1, fun given => ih given (asks.2 given)⟩

/-- Questions of a computation in two parts are questions of one of them. -/
theorem Asks.bind {allowed : Question → Prop} {program : Program Question Answer α}
    {after : α → Program Question Answer β} (first : program.Asks allowed)
    (second : ∀ value, (after value).Asks allowed) : (program.bind after).Asks allowed := by
  -- The second part takes the place of the value of the first one, so it is asked only there.
  induction program with
  | done value => exact second value
  | ask wanted next ih => exact ⟨first.1, fun given => ih given (first.2 given)⟩

/-- Whatever all allowed questions keep is kept by a course that asks no others. -/
theorem Asks.keeps {allowed : Question → Prop} (holds : σ → Prop)
    (kept : ∀ wanted given state middle, allowed wanted → env wanted state given middle →
      holds state → holds middle)
    {program rest : Program Question Answer α} {state final : σ}
    {log : List (Exchange Question Answer)} (asks : program.Asks allowed)
    (course : Course env Turn program state log rest final) (held : holds state) :
    holds final := by
  -- What is left of the computation asks no other questions than the whole.
  refine (course.keeps (fun place state => place.Asks allowed ∧ holds state) ?_ ⟨asks, held⟩).2
  rintro place exchange between state middle goes answered ⟨asks, held⟩
  cases goes with
  | ask wanted next given =>
    exact ⟨asks.2 given, kept wanted given state middle asks.1 answered held⟩

/-- A computation keeps to a conduct from a place on: the conduct leads on with whatever is
answered, to a place where the computation may be done. -/
def Keeps {Place : Type} (conduct : Conduct Question Answer Place) (ends : Place → α → Prop) :
    Place → Program Question Answer α → Prop
  | place, .done value => ends place value
  | place, .ask wanted next =>
    ∀ given, ∃ ahead, conduct place ⟨wanted, given⟩ ahead ∧ Keeps conduct ends ahead (next given)

namespace Keeps

variable {Place : Type} {conduct : Conduct Question Answer Place} {ends : Place → α → Prop}
  {last : Place → β → Prop} {place : Place}

/-- Where a conduct leads on with every answer, a question keeps to it. -/
theorem ask {wanted : Question} {next : Answer wanted → Program Question Answer α}
    (goes : ∀ given, ∃ ahead, conduct place ⟨wanted, given⟩ ahead ∧
      Keeps conduct ends ahead (next given)) : Keeps conduct ends place (.ask wanted next) :=
  -- At a question this is what keeping to the conduct says.
  goes

/-- A computation in two parts keeps to a conduct if the second part does wherever the first one may
be done. -/
theorem bind {program : Program Question Answer α} {after : α → Program Question Answer β}
    (first : Keeps conduct ends place program)
    (second : ∀ between value, ends between value → Keeps conduct last between (after value)) :
    Keeps conduct last place (program.bind after) := by
  -- The value of the first part says where the second one starts.
  induction program generalizing place with
  | done value => exact second place value first
  | ask wanted next ih =>
    refine ask fun given => ?_
    obtain ⟨ahead, goes, onward⟩ := first given
    exact ⟨ahead, goes, ih given onward⟩

/-- The conduct follows a computation that keeps to it. -/
theorem follow {program rest : Program Question Answer α} {exchange : Exchange Question Answer}
    (keeps : Keeps conduct ends place program) (goes : Turn program exchange rest) :
    ∃ ahead, conduct place exchange ahead ∧ Keeps conduct ends ahead rest := by
  -- What may be answered is up to the surroundings, and the conduct leads on with every answer.
  cases goes with
  | ask wanted next given => exact keeps given

end Keeps

end Program

end SessionGate
