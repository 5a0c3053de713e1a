import SessionGate.Proofs.Broker.PublisherLog

/-! Whoever uses a publisher's channel has it alone, and what the publisher remembers of the channel
agrees with what stands declared on it. -/

namespace SessionGate

/-- An exchange that is declared does not stand declared yet, and one to which something is
published does. -/
structure PublisherEvent.Respects (event : PublisherEvent) (standing : List String) : Prop where
  declared : ∀ exchange, event = .declared exchange → exchange ∉ standing
  published : ∀ exchange body, event.operation? = some (.publish exchange body) →
    exchange ∈ standing

namespace PublisherStage

/-- The stage of somebody who has the channel. -/
def amid? : Option PublisherStage → Option PublisherStage
  | none | some .away => none
  | some stage => some stage

/-- What is known of the channel is what stands declared on it, but for what has yet to be taken
note of at a stage. -/
def Fits : PublisherStage → List String → List String → Prop
  | .reopened, _, standing | .closed, _, standing => standing = []
  | .declared exchange, known, standing => standing = exchange :: known
  | .lacking exchange, known, standing => standing = known ∧ exchange ∉ known
  | .ready exchange, known, standing => standing = known ∧ exchange ∈ known
  | .away, known, standing | .holding, known, standing | .opened, known, standing
  | .leaving, known, standing => standing = known

variable {C : Type}

/-- What the turn of a task may do to a publisher: nothing that others could see, or the task takes
the channel, uses it, or gives it up. -/
inductive Effect (task : Nat) (place ahead : Option PublisherStage) (event : PublisherEvent)
    (before after : PublisherState C) : Prop where
  | aloof (outside : amid? place = none) (still : amid? ahead = none)
      (holder : ∀ holder, event.holderAfter holder task = holder)
      (standing : ∀ standing, event.standingAfter standing = standing)
      (silent : event.operation? = none) (same : after = before)
  | takes (outside : amid? place = none) (inside : amid? ahead = some .holding)
      (holder : ∀ holder, event.holderAfter holder task = some task)
      (standing : ∀ standing, event.standingAfter standing = standing)
      (silent : event.operation? = none) (free : before.taken = false)
      (same : after = { before with taken := true })
  | uses {stage next : PublisherStage} (inside : amid? place = some stage)
      (still : amid? ahead = some next)
      (holder : ∀ holder, event.holderAfter holder task = holder)
      (taken : after.taken = before.taken)
      (respects : ∀ standing, stage.Fits before.declared standing → event.Respects standing)
      (fits : ∀ standing, stage.Fits before.declared standing →
        next.Fits after.declared (event.standingAfter standing))
  | frees {stage : PublisherStage} (inside : amid? place = some stage)
      (outside : amid? ahead = none)
      (holder : ∀ holder, event.holderAfter holder task = none) (free : after.taken = false)
      (respects : ∀ standing, stage.Fits before.declared standing → event.Respects standing)
      (same : ∀ standing, stage.Fits before.declared standing →
        event.standingAfter standing = after.declared)

variable {behaviour : ConfirmChannel C} {stage ahead : PublisherStage}
  {before after : PublisherState C}

/-- What is asked at a stage respects what stands declared on the channel. -/
theorem Step.respects {wanted : PublisherCall} {given : wanted.Answer} {event : PublisherEvent}
    {standing : List String} (step : Step stage ⟨wanted, given⟩ ahead)
    (asked : event.wanted.question = wanted) (fits : stage.Fits before.declared standing) :
    event.Respects standing := by
  refine ⟨fun exchange told => ?_, fun exchange body told => ?_⟩
  · subst told
    cases asked
    cases step with
    | undeclared | declared =>
      -- The publisher has looked before, and did not know the exchange.
      obtain ⟨rfl, unknown⟩ := fits
      exact unknown
  · cases asked.symm.trans (PublisherEvent.operation?_eq_some.mp told)
    cases step with
    | published =>
      -- The publisher has known the exchange before, or has declared it itself.
      obtain ⟨rfl, known⟩ := fits
      exact known

/-- A step whose question is answered has one of the four effects. -/
theorem Step.effect (task : Nat) {wanted : PublisherCall} {given : wanted.Answer}
    (step : Step stage ⟨wanted, given⟩ ahead)
    (answered : PublisherState.answers behaviour (.answered wanted) before given after) :
    Effect task (some stage) (some ahead) ⟨.answered wanted, given⟩ before after := by
  have respects : ∀ standing, stage.Fits before.declared standing →
      PublisherEvent.Respects ⟨.answered wanted, given⟩ standing :=
    fun _ fits => step.respects rfl fits
  cases step with
  | waited =>
    cases answered
    exact .aloof rfl rfl (fun _ => rfl) (fun _ => rfl) rfl rfl
  | acquired =>
    obtain ⟨free, rfl⟩ := answered
    exact .takes rfl rfl (fun _ => rfl) (fun _ => rfl) rfl free rfl
  | unopened | opened | unclosed =>
    -- The channel is the same, with the same exchanges.
    obtain ⟨channel, -, rfl⟩ := answered
    exact .uses rfl rfl (fun _ => rfl) rfl respects fun standing fits => fits
  | undeclared | published =>
    -- Whether the exchange is known matters no longer.
    obtain ⟨channel, -, rfl⟩ := answered
    exact .uses rfl rfl (fun _ => rfl) rfl respects fun standing fits => fits.1
  | reopened | closed =>
    -- Nothing stands declared any more, whatever is still known.
    obtain ⟨channel, -, rfl⟩ := answered
    exact .uses rfl rfl (fun _ => rfl) rfl respects fun standing fits => rfl
  | declared =>
    -- The exchange stands declared before it is known to be.
    obtain ⟨channel, -, rfl⟩ := answered
    refine .uses rfl rfl (fun _ => rfl) rfl respects fun standing fits => ?_
    exact congrArg (List.cons _) fits.1
  | renewed | forgotten =>
    -- Now nothing is known, either.
    cases answered
    exact .uses rfl rfl (fun _ => rfl) rfl respects fun standing fits => fits
  | @known exchange =>
    obtain ⟨told, rfl⟩ := answered
    have known : exchange ∈ after.declared := List.contains_iff_mem.mp told.symm
    exact .uses rfl rfl (fun _ => rfl) rfl respects fun standing fits => ⟨fits, known⟩
  | @unknown exchange =>
    obtain ⟨told, rfl⟩ := answered
    have unknown : exchange ∉ after.declared := by
      intro member
      exact Bool.false_ne_true (told.trans (List.contains_iff_mem.mpr member))
    exact .uses rfl rfl (fun _ => rfl) rfl respects fun standing fits => ⟨fits, unknown⟩
  | remembered =>
    -- Now the exchange that stands declared is known to be.
    cases answered
    exact .uses rfl rfl (fun _ => rfl) rfl respects fun standing fits =>
      ⟨fits, List.mem_cons_self⟩
  | released =>
    cases answered
    exact .frees rfl rfl (fun _ => rfl) rfl respects fun standing fits => fits

/-- A turn has one of the four effects. -/
theorem effect (task : Nat) {place next : Option PublisherStage} {event : PublisherEvent}
    (goes : Conduct.Leaving PublisherCall.Waits Step place event next)
    (answered : PublisherState.answers behaviour event.wanted before event.given after) :
    Effect task place next event before after := by
  cases goes with
  | answered goes => exact goes.effect task answered
  | @left stage ahead wanted given waited goes =>
    have respects : ∀ standing, stage.Fits before.declared standing →
        PublisherEvent.Respects ⟨.abandoned wanted, ()⟩ standing :=
      fun _ fits => goes.respects rfl fits
    cases goes with
    | waited | acquired =>
      cases answered
      exact .aloof rfl rfl (fun _ => rfl) (fun _ => rfl) rfl rfl
    -- Wherever the channel is called, all that has happened on it has been noted.
    | unopened | reopened | opened | unclosed | closed =>
      obtain ⟨channel, -, rfl⟩ := answered
      exact .frees rfl rfl (fun _ => rfl) rfl respects fun standing fits => fits
    | undeclared | declared | published =>
      obtain ⟨channel, -, rfl⟩ := answered
      exact .frees rfl rfl (fun _ => rfl) rfl respects fun standing fits => fits.1
    -- At all other stages answers come at once.
    | renewed | known | unknown | remembered | forgotten | released => cases waited

/-- Where nothing is asked of the channel, nothing can be asked amiss. -/
theorem respects_of_silent {event : PublisherEvent} (silent : event.operation? = none)
    (standing : List String) : event.Respects standing := by
  -- Both kinds of respect are about calls to the channel.
  refine ⟨fun exchange told => ?_, fun exchange body told => ?_⟩
  · subst told
    cases silent
  · cases silent.symm.trans told

end PublisherStage

/-- Those who use a publisher, by the stages at which they stand. -/
abbrev PublisherStages (C : Type) : Type :=
  Crowd (Attended PublisherCall) (Attended.Answer PublisherCall.Answer) (PublisherState C)
    (Option PublisherStage)

namespace PublisherStages

open PublisherStage (amid? Effect)
open PublisherLog

variable {C : Type} {crowd : PublisherStages C} {task : Nat} {stage : PublisherStage}

/-- The channel is free, or one task has it and all others stand aside. What is known of the channel
agrees with what stands declared on it, as far as the one who has it has taken note. -/
inductive Hold (crowd : PublisherStages C) : Prop where
  | free (idle : ∀ task, crowd.reading amid? task = none) (holder : holder crowd.log = none)
      (free : crowd.state.taken = false) (same : standing crowd.log = crowd.state.declared)
  | held {task : Nat} {stage : PublisherStage} (inside : crowd.reading amid? task = some stage)
      (alone : ∀ other, other ≠ task → crowd.reading amid? other = none)
      (holder : holder crowd.log = some task) (taken : crowd.state.taken = true)
      (fits : stage.Fits crowd.state.declared (standing crowd.log))

/-- Whoever stands inside is the one who has the channel. -/
theorem Hold.inside (hold : Hold crowd) (inside : crowd.reading amid? task = some stage) :
    (∀ other, other ≠ task → crowd.reading amid? other = none) ∧ holder crowd.log = some task ∧
      crowd.state.taken = true ∧ stage.Fits crowd.state.declared (standing crowd.log) := by
  cases hold with
  | free idle => cases inside.symm.trans (idle task)
  -- There is one place inside, so both have to be the same.
  | @held owner there found alone holder taken fits =>
    by_cases same : task = owner
    · subst same
      cases inside.symm.trans found
      exact ⟨alone, holder, taken, fits⟩
    · cases inside.symm.trans (alone task same)

/-- An event is in order when only the one who has the channel uses it, and the event respects what
stands declared. -/
structure InOrder (log : PublisherLog) (task : Nat) (event : PublisherEvent) : Prop where
  own : event.operation? ≠ none → holder log = some task
  respects : event.Respects (standing log)

variable {place ahead : Option PublisherStage} {event : PublisherEvent} {after : PublisherState C}

/-- A turn with one of the four effects is in order. -/
theorem Hold.inOrder (hold : Hold crowd) (found : crowd.tasks[task]? = some place)
    (effect : Effect task place ahead event crowd.state after) : InOrder crowd.log task event := by
  have reads : crowd.reading amid? task = amid? place := Crowd.reading_of_found found
  cases effect with
  -- From outside nothing is asked of the channel.
  | aloof _ _ _ _ silent | takes _ _ _ _ silent =>
    exact ⟨fun asked => absurd silent asked, PublisherStage.respects_of_silent silent _⟩
  | uses inside _ _ _ respects | frees inside _ _ _ respects =>
    obtain ⟨-, holder, -, fits⟩ := hold.inside (reads.trans inside)
    exact ⟨fun _ => holder, respects _ fits⟩

/-- After a turn with one of the four effects the channel is still free or held by one task. -/
theorem Hold.turn (hold : Hold crowd) (found : crowd.tasks[task]? = some place)
    (effect : Effect task place ahead event crowd.state after) :
    Hold ⟨after, crowd.tasks.set task ahead, crowd.log ++ [(task, event)]⟩ := by
  have reads : crowd.reading amid? task = amid? place := Crowd.reading_of_found found
  -- Only the task that takes the turn can have come in or gone out.
  have turned : ∀ other, Crowd.reading ⟨after, crowd.tasks.set task ahead,
      crowd.log ++ [(task, event)]⟩ amid? other =
        if other = task then amid? ahead else crowd.reading amid? other :=
    Crowd.reading_turn found ahead _ _
  cases effect with
  | aloof outside still holds stands _ same =>
    subst same
    -- Nobody comes in and nobody goes out.
    have kept : ∀ other, Crowd.reading ⟨crowd.state, crowd.tasks.set task ahead,
        crowd.log ++ [(task, event)]⟩ amid? other = crowd.reading amid? other :=
      Crowd.reading_turn_same found (still.trans outside.symm) _ _
    cases hold with
    -- The channel stays free, or it stays with the one that has it.
    | free idle holder free same =>
      refine .free (fun other => (kept other).trans (idle other)) ?_ free ?_
      · rw [holder_snoc, holds, holder]
      · rw [standing_snoc, stands, same]
    | held inside alone holder taken fits =>
      refine .held ((kept _).trans inside)
        (fun other different => (kept other).trans (alone other different)) ?_ taken ?_
      · rw [holder_snoc, holds, holder]
      · rw [standing_snoc, stands]
        exact fits
  | takes _ inside holds stands _ free same =>
    subst same
    cases hold with
    | free idle holder _ same =>
      -- The one that takes the free channel is the first that is inside.
      refine .held ((turned task).trans ((if_pos rfl).trans inside)) (fun other different => ?_)
        (holder_snoc.trans (holds _)) rfl (standing_snoc.trans ((stands _).trans same))
      rw [turned, if_neg different, idle]
    -- The channel is given to nobody while somebody has it.
    | held _ _ _ taken => cases free.symm.trans taken
  -- Whoever is inside is the holder, and so the only one that uses the channel.
  | uses inside still holds taken _ fits =>
    obtain ⟨alone, holder, given, fit⟩ := hold.inside (reads.trans inside)
    refine .held ((turned task).trans ((if_pos rfl).trans still)) (fun other different => ?_)
      (holder_snoc.trans ((holds _).trans holder)) (taken.trans given) ?_
    · rw [turned, if_neg different, alone other different]
    · rw [standing_snoc]
      exact fits _ fit
  | frees inside outside holds free _ same =>
    -- The holder goes out, and nobody is left inside.
    obtain ⟨alone, -, -, fit⟩ := hold.inside (reads.trans inside)
    refine .free (fun other => ?_) (holder_snoc.trans (holds _)) free
      (standing_snoc.trans (same _ fit))
    rw [turned]
    split
    · exact outside
    next different => exact alone other different

/-- Whoever comes stands aside. -/
theorem Hold.enter (hold : Hold crowd) :
    Hold { crowd with tasks := crowd.tasks ++ [some .away] } := by
  -- The newcomer is not amid anything, so who has the channel is as before.
  have kept : ∀ other, Crowd.reading { crowd with tasks := crowd.tasks ++ [some .away] } amid?
      other = crowd.reading amid? other := Crowd.reading_enter rfl
  cases hold with
  | free idle holder free same =>
    exact .free (fun other => (kept other).trans (idle other)) holder free same
  | held inside alone holder taken fits =>
    exact .held ((kept _).trans inside)
      (fun other different => (kept other).trans (alone other different)) holder taken fits

/-- The channel is held by one at a time, and all that has happened was in order. -/
structure Sound (crowd : PublisherStages C) : Prop where
  hold : Hold crowd
  lawful : ∀ early task event late, crowd.log = early ++ (task, event) :: late →
    InOrder early task event

/-- A crowd of those who use a publisher comes about from one that has not been used. -/
abbrev Reached (behaviour : ConfirmChannel C) (channel : C) : PublisherStages C → Prop :=
  Crowd.Reached (PublisherState.answers behaviour)
    (Conduct.Leaving PublisherCall.Waits PublisherStage.Step) (· = some .away) (.fresh channel)

/-- Whatever comes about is sound. -/
theorem Reached.sound {behaviour : ConfirmChannel C} {channel : C}
    (reached : Reached behaviour channel crowd) : Sound crowd := by
  refine Crowd.Reached.keeps Sound ⟨.free (fun _ => rfl) rfl rfl rfl, ?_⟩
    (fun crowd next moved sound => ?_) reached
  · intro early task event late split
    simp [Crowd.alone] at split
  · cases moved with
    | enter admitted =>
      subst admitted
      exact ⟨sound.hold.enter, sound.lawful⟩
    | @turn task place ahead event after found goes answered =>
      have effect := PublisherStage.effect task goes answered
      refine ⟨sound.hold.turn found effect, fun early other given late split => ?_⟩
      -- What happened last was in order, as all that happened before it.
      rcases snoc_cases split with ⟨rfl, last, -⟩ | ⟨more, -, whole⟩
      · cases last
        exact sound.hold.inOrder found effect
      · exact sound.lawful early other given more whole

end PublisherStages

end SessionGate
