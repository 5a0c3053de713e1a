import SessionGate.Proofs.Program.Member

/-! Those who may leave for good while they wait for an answer. -/

namespace SessionGate

/-- A question that is waited for: it is answered, or it is abandoned by the one who has asked. -/
inductive Attended (Question : Type) where
  | answered (wanted : Question)
  | abandoned (wanted : Question)

/-- The question that was answered or abandoned. -/
def Attended.question {Question : Type} : Attended Question → Question
  | .answered wanted | .abandoned wanted => wanted

/-- Nobody is there to be given an answer to a question that was abandoned. -/
def Attended.Answer {Question : Type} (Answer : Question → Type) : Attended Question → Type
  | .answered wanted => Answer wanted
  | .abandoned _ => Unit

section Leaving

variable {Question : Type} {Answer : Question → Type} {Place Other : Type}

/-- An exchange in which the answer was waited for. -/
def Exchange.attended (exchange : Exchange Question Answer) :
    Exchange (Attended Question) (Attended.Answer Answer) :=
  ⟨.answered exchange.wanted, exchange.given⟩

/-- Somebody who keeps to a conduct but may leave while a question of some kinds is not answered. -/
inductive Conduct.Leaving (waits : Question → Prop) (conduct : Conduct Question Answer Place) :
    Conduct (Attended Question) (Attended.Answer Answer) (Option Place) where
  | answered {place ahead : Place} {wanted : Question} {given : Answer wanted}
      (goes : conduct place ⟨wanted, given⟩ ahead) :
      Leaving waits conduct (some place) ⟨.answered wanted, given⟩ (some ahead)
  | left {place ahead : Place} {wanted : Question} {given : Answer wanted} (waited : waits wanted)
      (goes : conduct place ⟨wanted, given⟩ ahead) :
      Leaving waits conduct (some place) ⟨.abandoned wanted, ()⟩ none

namespace Conduct.Leaving

variable {waits : Question → Prop} {conduct : Conduct Question Answer Place}

/-- A conduct that another one can follow can be followed by it with those who leave, too. -/
theorem follow {other : Conduct Question Answer Other} {alike : Place → Other → Prop}
    (follows : ∀ place exchange between beside, alike place beside →
      conduct place exchange between → ∃ ahead, other beside exchange ahead ∧ alike between ahead)
    {place between : Option Place} {beside : Option Other}
    {exchange : Exchange (Attended Question) (Attended.Answer Answer)}
    (same : Option.Rel alike place beside) (goes : Leaving waits conduct place exchange between) :
    ∃ ahead, Leaving waits other beside exchange ahead ∧ Option.Rel alike between ahead := by
  -- Who follows leaves when the other leaves, and takes every step with the other until then.
  cases goes with
  | answered goes =>
    cases same with
    | some same =>
      obtain ⟨ahead, went, still⟩ := follows _ _ _ _ same goes
      exact ⟨some ahead, .answered went, .some still⟩
  | left waited goes =>
    cases same with
    | some same =>
      obtain ⟨ahead, went, -⟩ := follows _ _ _ _ same goes
      exact ⟨none, .left waited went, .none⟩

/-- Nobody comes back. -/
theorem not_left {exchange : Exchange (Attended Question) (Attended.Answer Answer)}
    {ahead : Option Place} : ¬ Leaving waits conduct none exchange ahead := by
  -- A conduct leads on only from a place where somebody stands.
  intro goes
  cases goes

/-- Whoever has not left has waited for every answer. -/
theorem path {place last : Place}
    {log : List (Exchange (Attended Question) (Attended.Answer Answer))}
    (path : Path (Leaving waits conduct) (some place) log (some last)) :
    ∃ plain, log = plain.map Exchange.attended ∧ Path conduct place plain last := by
  -- The induction is on the exchanges, from any place that has not been left.
  induction log generalizing place with
  | nil =>
    cases path
    exact ⟨[], rfl, .rest _ _⟩
  | cons exchange log ih =>
    cases path with
    | step goes _ onward =>
      cases goes with
      | answered goes =>
        obtain ⟨plain, rfl, path⟩ := ih onward
        exact ⟨_ :: plain, rfl, .step goes trivial path⟩
      | left =>
        cases onward with
        | step goes => exact absurd goes not_left

/-- Whatever is answered or abandoned on the way of a computation is a question of it. -/
theorem asks {α : Type} {allowed : Question → Prop} {program : Program Question Answer α}
    {last : Option (Program Question Answer α)}
    {log : List (Exchange (Attended Question) (Attended.Answer Answer))}
    (path : Path (Leaving waits Program.Turn) (some program) log last)
    (asks : program.Asks allowed) : ∀ event ∈ log, allowed event.wanted.question := by
  induction log generalizing program with
  | nil => nofun
  | cons first log ih =>
    intro event member
    cases path with
    | step goes _ onward =>
      -- An answer leads on to what is asked next, and the induction goes on there.
      cases goes with
      | answered goes =>
        cases goes with
        | ask =>
          rcases List.mem_cons.mp member with rfl | later
          · exact asks.1
          · exact ih onward (asks.2 _) event later
      | left _ goes =>
        cases goes with
        | ask =>
          -- Nothing is asked after one has left.
          cases onward with
          | rest =>
            cases List.mem_singleton.mp member
            exact asks.1
          | step goes => exact absurd goes not_left

end Conduct.Leaving

end Leaving

end SessionGate
