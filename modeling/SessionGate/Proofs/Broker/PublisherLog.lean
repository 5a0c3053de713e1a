import Mathlib.Data.List.Induction
import SessionGate.Proofs.Broker.PublisherStage

/-! A publisher over a channel that behaves as it likes, and what can be told from what has happened
there: who has the channel, and what stands declared on it. -/

namespace SessionGate

/-- How a channel behaves: how it answers a call, and what becomes of it when a call is given up
before it is answered. -/
structure ConfirmChannel (C : Type) where
  answers : Surroundings ChannelCall ChannelCall.Answer C
  abandons : ChannelCall → C → C → Prop

/-- A publisher: its channel, whether somebody has the channel, and the exchanges that are
remembered to be declared on it. -/
structure PublisherState (C : Type) where
  channel : C
  taken : Bool
  declared : List String

namespace PublisherState

variable {C : Type}

/-- A publisher that has not been used. -/
def fresh (channel : C) : PublisherState C := ⟨channel, false, []⟩

/-- How a publisher with a channel answers, and what is left of a question that is given up. -/
def answers (behaviour : ConfirmChannel C) :
    Surroundings (Attended PublisherCall) (Attended.Answer PublisherCall.Answer) (PublisherState C)
  | .answered .acquire, before, _, after =>
    before.taken = false ∧ after = { before with taken := true }
  | .answered .release, before, _, after => after = { before with taken := false }
  | .answered (.channel call), before, given, after =>
    ∃ channel, behaviour.answers call before.channel given channel ∧
      after = { before with channel }
  | .answered (.isDeclared exchange), before, given, after =>
    given = before.declared.contains exchange ∧ after = before
  | .answered (.remember exchange), before, _, after =>
    after = { before with declared := exchange :: before.declared }
  | .answered .forgetAll, before, _, after => after = { before with declared := [] }
  | .answered (.wait _), before, _, after => after = before
  -- Whoever gives up a call gives up the channel with it.
  | .abandoned (.channel call), before, _, after =>
    ∃ channel, behaviour.abandons call before.channel channel ∧
      after = { before with channel, taken := false }
  | .abandoned _, before, _, after => after = before

end PublisherState

/-- The questions that a publisher may have to wait for. All others are answered at once. -/
def PublisherCall.Waits : PublisherCall → Prop
  | .acquire | .channel _ | .wait _ => True
  | .release | .isDeclared _ | .remember _ | .forgetAll => False

/-- What happens at a publisher: a question is answered or given up. -/
abbrev PublisherEvent : Type :=
  Exchange (Attended PublisherCall) (Attended.Answer PublisherCall.Answer)

namespace PublisherEvent

/-- Somebody got the channel. -/
abbrev acquired : PublisherEvent := ⟨.answered .acquire, ()⟩

/-- An exchange was declared on the channel. -/
abbrev declared (exchange : String) : PublisherEvent :=
  ⟨.answered (.channel (.declare exchange)), .ok ()⟩

/-- The call of the channel that is answered or given up in an event. -/
def operation? (event : PublisherEvent) : Option ChannelCall :=
  match event.wanted.question with
  | .channel call => some call
  | _ => none

/-- The call of an event is what was asked in it. -/
theorem operation?_eq_some {event : PublisherEvent} {call : ChannelCall} :
    event.operation? = some call ↔ event.wanted.question = .channel call := by
  -- Only the calls to the channel are operations.
  unfold operation?
  split
  next asked => rw [asked, Option.some.injEq, PublisherCall.channel.injEq]
  next other => exact ⟨nofun, fun asked => absurd asked (other call)⟩

/-- The channel is a new one, or it has been closed: nothing counts as declared any more. -/
def renews : PublisherEvent → Bool
  | ⟨.answered (.channel .ensureOpen), .ok true⟩ | ⟨.answered (.channel .close), .ok ()⟩ => true
  | _ => false

/-- Who has the channel after an event in which a task took part. -/
def holderAfter (holder : Option Nat) (task : Nat) : PublisherEvent → Option Nat
  | ⟨.answered .acquire, _⟩ => some task
  | ⟨.answered .release, _⟩ | ⟨.abandoned (.channel _), _⟩ => none
  | _ => holder

/-- What stands declared on the channel after an event. -/
def standingAfter (standing : List String) : PublisherEvent → List String
  | ⟨.answered (.channel (.declare exchange)), .ok ()⟩ => exchange :: standing
  | event => if event.renews then [] else standing

end PublisherEvent

/-- What has happened at a publisher, with the tasks that took part in it. -/
abbrev PublisherLog : Type := List (Nat × PublisherEvent)

namespace PublisherLog

/-- Who has the channel after all that has happened. -/
def holder (log : PublisherLog) : Option Nat :=
  log.foldl (fun holder entry => entry.2.holderAfter holder entry.1) none

/-- What stands declared on the channel after all that has happened. -/
def standing (log : PublisherLog) : List String :=
  log.foldl (fun standing entry => entry.2.standingAfter standing) []

variable {log : PublisherLog} {task : Nat} {event : PublisherEvent}

/-- Who has the channel after one more event. -/
@[simp] theorem holder_snoc :
    holder (log ++ [(task, event)]) = event.holderAfter (holder log) task := by
  -- The last event is the last to decide.
  simp [holder]

/-- What stands declared after one more event. -/
@[simp] theorem standing_snoc :
    standing (log ++ [(task, event)]) = event.standingAfter (standing log) := by
  -- The last event is the last to decide.
  simp [standing]

/-- Who has the channel after an event has just got it, or has had it before. -/
theorem holderAfter_eq_some {holder : Option Nat} {owner : Nat}
    (has : event.holderAfter holder task = some owner) :
    (event = .acquired ∧ task = owner) ∨ holder = some owner := by
  -- Only getting the channel makes somebody its holder.
  unfold PublisherEvent.holderAfter at has
  split at has
  · cases has
    exact Or.inl ⟨rfl, rfl⟩
  · cases has
  · cases has
  · exact Or.inr has

/-- Whoever has the channel after some events has got it in one of them, or has had it before. -/
theorem holder_append {more : PublisherLog} (has : holder (log ++ more) = some task)
    (kept : (task, .acquired) ∉ more) : holder log = some task := by
  -- The induction takes the events away from the end.
  induction more using List.reverseRecOn with
  | nil => rwa [List.append_nil] at has
  | append_singleton more last ih =>
    obtain ⟨other, event⟩ := last
    rw [← List.append_assoc, holder_snoc] at has
    rcases holderAfter_eq_some has with ⟨rfl, rfl⟩ | has
    · -- The task has not got the channel in any of the events.
      exact absurd (by simp) kept
    · exact ih has fun member => kept (List.mem_append_left _ member)

/-- An exchange has been declared, and the channel is still the one on which that was done. -/
def Declared (log : PublisherLog) (exchange : String) : Prop :=
  ∃ early task late, log = early ++ (task, .declared exchange) :: late ∧
    ∀ entry ∈ late, entry.2.renews = false

/-- An entry of a longer log is the last one, or it has stood there before. -/
theorem snoc_cases {entry last : Nat × PublisherEvent} {early late : PublisherLog}
    (split : log ++ [last] = early ++ entry :: late) :
    (early = log ∧ entry = last ∧ late = []) ∨
      ∃ more, late = more ++ [last] ∧ log = early ++ entry :: more := by
  -- The entry is the last one just if nothing comes behind it.
  rcases late.eq_nil_or_concat with rfl | ⟨more, other, rfl⟩
  · obtain ⟨rfl, same⟩ := List.append_inj' split rfl
    cases same
    exact Or.inl ⟨rfl, rfl, rfl⟩
  · rw [List.concat_eq_append, ← List.cons_append, ← List.append_assoc] at split
    obtain ⟨rfl, same⟩ := List.append_inj' split rfl
    cases List.singleton_inj.mp same
    exact Or.inr ⟨more, List.concat_eq_append, rfl⟩

/-- An exchange stands declared if it has just been declared, or if it stood so and the channel has
remained the same. -/
theorem declared_snoc {exchange : String} : Declared (log ++ [(task, event)]) exchange ↔
    event = .declared exchange ∨
      (event.renews = false ∧ Declared log exchange) := by
  constructor
  · intro declared
    obtain ⟨early, other, late, whole, same⟩ := declared
    -- The declaration is what has just happened, or the event comes behind it and renews nothing.
    rcases snoc_cases whole with ⟨-, last, -⟩ | ⟨more, rfl, rfl⟩
    · cases last
      exact Or.inl rfl
    · refine Or.inr ⟨same (task, event) (by simp), early, other, more, rfl, ?_⟩
      exact fun entry member => same entry (List.mem_append_left _ member)
  · -- A declaration of this moment is standing, and an earlier one is unless the event renews the
    -- channel.
    intro declared
    obtain rfl | ⟨same, early, other, late, rfl, still⟩ := declared
    · exact ⟨log, task, [], rfl, nofun⟩
    · refine ⟨early, other, late ++ [(task, event)], by simp, fun entry member => ?_⟩
      rcases List.mem_append.mp member with before | last
      · exact still entry before
      · cases List.mem_singleton.mp last
        exact same

/-- An event makes an exchange stand declared, or lets it stand. -/
theorem mem_standingAfter {exchange : String} {standing : List String} :
    exchange ∈ event.standingAfter standing ↔
      event = .declared exchange ∨
        (event.renews = false ∧ exchange ∈ standing) := by
  unfold PublisherEvent.standingAfter
  split
  next other =>
    -- A declaration leaves all other exchanges declared.
    constructor
    · intro member
      rcases List.mem_cons.mp member with rfl | member
      · exact Or.inl rfl
      · exact Or.inr ⟨rfl, member⟩
    · intro declared
      obtain same | ⟨-, member⟩ := declared
      · cases same
        exact List.mem_cons_self
      · exact List.mem_cons_of_mem _ member
  next other =>
    -- The event is no declaration that succeeded.
    have silent : event ≠ .declared exchange := by
      intro same
      exact other exchange same
    cases renewed : event.renews <;> simp [silent]

/-- What stands declared has been declared on the same channel. -/
theorem mem_standing {exchange : String} : exchange ∈ standing log ↔ Declared log exchange := by
  -- The induction is on the log from its end, where the latest event stands.
  induction log using List.reverseRecOn with
  | nil => simp [standing, Declared]
  | append_singleton log entry ih =>
    obtain ⟨task, event⟩ := entry
    rw [standing_snoc, mem_standingAfter, declared_snoc, ih]

end PublisherLog

end SessionGate
