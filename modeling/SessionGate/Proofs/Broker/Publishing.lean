import SessionGate.Proofs.Broker.ChannelHolder

/-! Requests to publish and to close over one channel, in any order, whatever fails and whoever
gives up. A message goes to an exchange that has been declared on the same channel, and none is
declared twice there. -/

namespace SessionGate

/-- A request, and what is left of its computation unless it has been given up. -/
abbrev PublisherPlace : Type :=
  (_ : PublisherRequest) × Option (PublisherProgram (Except BrokerError Unit))

/-- Requests to one publisher. -/
abbrev PublisherCrowd (C : Type) : Type :=
  Crowd (Attended PublisherCall) (Attended.Answer PublisherCall.Answer) (PublisherState C)
    PublisherPlace

/-- Some turns of a request that may be given up where it has to wait. -/
abbrev PublisherCourse {C : Type} (behaviour : ConfirmChannel C) :
    Option (PublisherProgram (Except BrokerError Unit)) → PublisherState C → List PublisherEvent →
      Option (PublisherProgram (Except BrokerError Unit)) → PublisherState C → Prop :=
  Course (PublisherState.answers behaviour) (Conduct.Leaving PublisherCall.Waits Program.Turn)

namespace PublisherCrowd

open PublisherLog (Declared standing mem_standing)
open PublisherStage (Step amid?)

variable {C : Type} {behaviour : ConfirmChannel C} {policy : RetryPolicy} {channel : C}
  {crowd : PublisherCrowd C}

/-- Any number of requests have come to a publisher that had not been used, and have got so far.
Each of them may have been given up where it had to wait. -/
def Reached (behaviour : ConfirmChannel C) (policy : RetryPolicy) (channel : C) :
    PublisherCrowd C → Prop :=
  Crowd.Reached (PublisherState.answers behaviour)
    (Conduct.Labelled fun _ => Conduct.Leaving PublisherCall.Waits Program.Turn)
    (fun place => ∃ request, place = ⟨request, some (request.program policy)⟩) (.fresh channel)

/-- A request may come at any time. -/
theorem Reached.enter (reached : Reached behaviour policy channel crowd)
    (request : PublisherRequest) :
    Reached behaviour policy channel
      { crowd with tasks := crowd.tasks ++ [⟨request, some (request.program policy)⟩] } :=
  -- The request comes in with all of its computation before it.
  Relation.ReflTransGen.tail reached (.enter ⟨request, rfl⟩)

/-- A request may get somewhere before anybody else takes a turn. -/
theorem Reached.advance {state final : PublisherState C} {tasks : List PublisherPlace}
    {known : PublisherLog} {request : PublisherRequest} {log : List PublisherEvent}
    {place last : Option (PublisherProgram (Except BrokerError Unit))}
    (reached : Reached behaviour policy channel ⟨state, tasks, known⟩) (task : Nat)
    (found : tasks[task]? = some ⟨request, place⟩)
    (course : PublisherCourse behaviour place state log last final) :
    Reached behaviour policy channel
      ⟨final, tasks.set task ⟨request, last⟩, known ++ log.map (task, ·)⟩ := by
  -- Every request is a label for the same conduct.
  have labelled := @Course.labelled _ PublisherRequest _ _ _
    (fun _ => Conduct.Leaving PublisherCall.Waits Program.Turn) _ _ _ request _ _ _ course
  exact Relation.ReflTransGen.trans reached (Crowd.advance found labelled)

/-- What is left of a computation keeps to the stages from the one at which it stands. -/
def StandsAt (place : PublisherPlace) (stage : Option PublisherStage) : Prop :=
  Option.Rel (fun program stage => Program.Keeps Step (fun last _ => last = .away) stage program)
    place.2 stage

/-- Requests go through the stages. -/
theorem Reached.stages (reached : Reached behaviour policy channel crowd) :
    ∃ stages, PublisherStages.Reached behaviour channel stages ∧
      Crowd.Alike StandsAt crowd stages := by
  refine Crowd.Reached.follow (· = some .away) StandsAt (fun place entered => ?_)
    (fun place event between stage stands goes => ?_) reached
  · obtain ⟨request, rfl⟩ := entered
    exact ⟨some .away, rfl, .some (PublisherStage.program_keeps policy request)⟩
  · cases goes with
    | step goes =>
      -- A computation is followed step by step, and whoever leaves is gone from the stages, too.
      obtain ⟨ahead, went, still⟩ := Conduct.Leaving.follow
        (fun _ _ _ _ keeps goes => Program.Keeps.follow keeps goes) stands goes
      exact ⟨ahead, went, still⟩

/-- Every message goes to an exchange that has been declared on the channel on which it goes out,
and no exchange is declared twice on one channel. -/
structure DeclaredOnce (crowd : PublisherCrowd C) : Prop where
  /-- A message that has yet to be confirmed. -/
  pending : ∀ (task : Nat) request exchange body next, crowd.tasks[task]? =
    some ⟨request, some (.ask (.channel (.publish exchange body)) next)⟩ →
      Declared crowd.log exchange
  /-- A message that was confirmed, failed or was given up. -/
  asked : ∀ (early late : PublisherLog) task event exchange body,
    crowd.log = early ++ (task, event) :: late → event.operation? = some (.publish exchange body) →
      Declared early exchange
  /-- Between two declarations of an exchange the channel was opened again or closed. -/
  once : ∀ (early between late : PublisherLog) first second exchange,
    crowd.log = early ++ (first, .declared exchange) :: between ++ (second, .declared exchange) :: late →
      ∃ entry ∈ between, entry.2.renews = true

/-- However a channel behaves, whatever the policy is, and however requests take turns and are given
up, messages go to exchanges that are declared on the channel of the moment, and each exchange is
declared there at most once. -/
theorem declared_once (reached : Reached behaviour policy channel crowd) : DeclaredOnce crowd := by
  obtain ⟨stages, reached, same⟩ := reached.stages
  have sound := reached.sound
  refine ⟨?_, ?_, ?_⟩
  · intro task request exchange body next found
    obtain ⟨stage, located, stands⟩ := same.task found
    cases stands with
    | @some _ stage keeps =>
      -- Only one stage leads on with a message.
      obtain ⟨ahead, step, -⟩ := keeps (.ok ())
      cases step with
      | published =>
        have inside : stages.reading amid? task = some (.ready exchange) :=
          Crowd.reading_of_found located
        obtain ⟨-, -, -, known, member⟩ := sound.hold.inside inside
        rw [← same.log, ← mem_standing, known]
        exact member
  · intro early late task event exchange body split asked
    have order := sound.lawful early task event late (same.log.trans split)
    exact mem_standing.mp (order.respects.published exchange body asked)
  · intro early between late first second exchange split
    have order := sound.lawful _ second _ late (same.log.trans split)
    have absent := order.respects.declared exchange rfl
    -- It was declared and does not stand declared any more, so the channel is not the same.
    by_contra none
    refine absent (mem_standing.mpr ⟨early, first, between, rfl, fun entry member => ?_⟩)
    rw [← Bool.not_eq_true]
    exact fun renewed => none ⟨entry, member, renewed⟩

/-- One publisher's declaration is given up, and what was known of the channel is forgotten when the
next one finds the channel closed. That one declares the exchange before its message goes out. -/
theorem declared_after_reopening :
    ∃ (crowd : PublisherCrowd Unit) (next : Except BrokerError Unit →
        PublisherProgram (Except BrokerError Unit)),
      crowd.tasks = [⟨.publish "x" "first", none⟩,
        ⟨.publish "x" "second", some (.ask (.channel (.publish "x" "second")) next)⟩] ∧
      DeclaredOnce crowd ∧ Declared crowd.log "x" := by
  -- The first publisher is given up while it declares, and the second finds the channel reopened.
  let behaviour : ConfirmChannel Unit := ⟨fun _ _ _ _ => True, fun _ _ _ => True⟩
  have first : PublisherCourse behaviour
      (some (Publisher.publish (.immediate 1) "x" "first")) (.fresh ())
      [⟨.answered .acquire, ()⟩, ⟨.answered (.channel .ensureOpen), .ok false⟩,
        ⟨.answered (.isDeclared "x"), false⟩, ⟨.abandoned (.channel (.declare "x")), ()⟩]
      none (.fresh ()) :=
    .step (.answered (.ask _ _ _)) ⟨rfl, rfl⟩ <|
    .step (.answered (.ask _ _ _)) ⟨(), trivial, rfl⟩ <|
    .step (.answered (.ask _ _ _)) ⟨rfl, rfl⟩ <|
    .step (.left trivial (.ask _ _ (.ok ()))) ⟨(), trivial, rfl⟩ <|
    .rest _ _
  -- The reopened channel has forgotten what was declared, so the exchange is declared once more.
  obtain ⟨next, second⟩ : ∃ next, PublisherCourse behaviour
      (some (Publisher.publish (.immediate 1) "x" "second")) (.fresh ())
      [⟨.answered .acquire, ()⟩, ⟨.answered (.channel .ensureOpen), .ok true⟩,
        ⟨.answered .forgetAll, ()⟩, ⟨.answered (.isDeclared "x"), false⟩,
        ⟨.answered (.channel (.declare "x")), .ok ()⟩, ⟨.answered (.remember "x"), ()⟩]
      (some (.ask (.channel (.publish "x" "second")) next)) ⟨(), true, ["x"]⟩ :=
    ⟨_,
      .step (.answered (.ask _ _ _)) ⟨rfl, rfl⟩ <|
      .step (.answered (.ask _ _ _)) ⟨(), trivial, rfl⟩ <|
      .step (.answered (.ask _ _ _)) rfl <|
      .step (.answered (.ask _ _ _)) ⟨rfl, rfl⟩ <|
      .step (.answered (.ask _ _ _)) ⟨(), trivial, rfl⟩ <|
      .step (.answered (.ask _ _ _)) rfl <|
      .rest _ _⟩
  -- Both publishers have come before either takes its turns.
  have unused : Reached behaviour (.immediate 1) () (Crowd.alone (.fresh ())) := .refl
  have entered := (unused.enter (.publish "x" "first")).enter (.publish "x" "second")
  have abandoned := entered.advance 0 rfl first
  have reached := abandoned.advance 1 rfl second
  have once := declared_once reached
  exact ⟨_, next, rfl, once, once.pending 1 _ _ _ _ rfl⟩

end PublisherCrowd

end SessionGate
