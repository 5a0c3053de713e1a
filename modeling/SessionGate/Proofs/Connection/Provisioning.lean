import SessionGate.Proofs.Connection.Undoing
import SessionGate.Proofs.Connection.Admitting
import SessionGate.Proofs.Retry
import SessionGate.Rehearsal.Stage

/-! Provisioning against the clock: a new session comes to what setting up and announcing it would
come to by themselves, if there is time enough, and to the end of its time otherwise. -/

namespace SessionGate

open ServiceExchange

variable {Finer σ : Type} {Reply : Finer → Type}

/-- What the service asks for under a deadline is done in finer steps, which are met at a pace. All
else takes any time and comes to anything, but the clock tells the right moment. -/
def ServiceCall.Timely (pace : Pace Finer Reply σ)
    (carry : (call : ServiceCall) → Program Finer Reply call.Answer) :
    Surroundings (Timed ServiceCall) (Timed.Answer ServiceCall.Answer) (Clocked Finer σ)
  | .unhurried (.momentAfter limit), before, deadline, after =>
    deadline = ⟨before.now + limit.nanoseconds⟩ ∧ after = before
  | .unhurried _, before, _, after => before.now ≤ after.now ∧ after.begun = before.begun
  | .before deadline call, before, given, after =>
    ∃ steps, ((carry call).before deadline).Runs pace.Hurried before steps given after

/-- A computation comes at once to a value of some kind. -/
def Pace.AtOnce {α : Type} (pace : Pace Finer Reply σ) (program : Program Finer Reply α)
    (state : Clocked Finer σ) (kind : α → Prop) : Prop :=
  ∃ steps value after, program.Runs pace.Leisurely state steps value after ∧ kind value ∧
    after.now = state.now

/-- The waits between attempts are as long as they are to be. -/
def Pace.WaitsExactly (pace : Pace Finer Reply σ)
    (put : (call : PublisherCall) → Program Finer Reply call.Answer) : Prop :=
  ∀ delay state, ∃ steps after, (put (.wait delay)).Runs pace.Leisurely state steps () after ∧
    after.now = state.now + delay.nanoseconds

variable {pace : Pace Finer Reply σ}
  {carry : (call : ServiceCall) → Program Finer Reply call.Answer}
  {put : (call : PublisherCall) → Program Finer Reply call.Answer} {policy : RetryPolicy}
  {service : ConnectionService} {admission : Admission} {session : Session}

/-- Everything is answered in some way. -/
theorem ServiceCall.timely_responsive (wanted : Timed ServiceCall) (state : Clocked Finer σ) :
    ∃ given after, Timely pace carry wanted state given after := by
  -- An answer without a deadline may come at once, and one with a deadline is carried out that far.
  match wanted with
  | .unhurried (.momentAfter limit) => exact ⟨_, state, rfl, rfl⟩
  | .unhurried (.identity _) => exact ⟨.error (.undecodable ""), state, Nat.le_refl _, rfl⟩
  | .unhurried (.store _) => exact ⟨.error (.database ""), state, Nat.le_refl _, rfl⟩
  | .unhurried (.lockUser _) => exact ⟨.error (.database ""), state, Nat.le_refl _, rfl⟩
  | .unhurried (.unlockUser _) => exact ⟨(), state, Nat.le_refl _, rfl⟩
  | .unhurried (.topology _) => exact ⟨.ok (), state, Nat.le_refl _, rfl⟩
  | .unhurried (.publish _ _) => exact ⟨.ok (), state, Nat.le_refl _, rfl⟩
  | .before deadline call =>
    obtain ⟨steps, given, after, ran⟩ := pace.exists_hurried (carry call) deadline state
    exact ⟨given, after, steps, ran⟩

namespace ConnectionService

/-- Setting up and announcing a session, in finer steps. -/
def provisionSteps (service : ConnectionService)
    (carry : (call : ServiceCall) → Program Finer Reply call.Answer) (admission : Admission)
    (session : Session) : Program Finer Reply (Except ConnectionError Unit) :=
  (service.provision session admission.profile
    (service.key.derive session.id admission.user)).refine carry

/-- One attempt to announce a session, in finer steps. -/
def announceOnce (service : ConnectionService)
    (put : (call : PublisherCall) → Program Finer Reply call.Answer) (admission : Admission)
    (session : Session) : Program Finer Reply (Except BrokerError Unit) :=
  (Publisher.withChannel (Publisher.publishOnce service.settings.notificationExchange
    (notification session admission.profile).toJson.render)).refine put

/-- What a client is told when provisioning has come to something or was cut off. -/
def settle (service : ConnectionService) (admission : Admission) (session : Session) :
    Option (Except ConnectionError Unit) → Except ConnectionError ConnectResponse
  | some result =>
    result.map fun () => service.responseTo admission session ConnectResponse.newSessionMessage
  | none => .error (.provisionTimeout service.settings.provisionTimeout)

/-- A session was set up, or not, and then announced, or not. -/
theorem provisionSteps_eq :
    service.provisionSteps carry admission session =
      (carry (service.setUpOf session admission.user)).bind fun
        | .error cause => .done (.error (.broker cause))
        | .ok () => (carry (service.announcementOf session admission.profile)).bind fun published =>
          .done (published.mapError .broker) := by
  -- Both sides go on with what setting up comes to.
  refine congrArg (Program.bind _) (funext fun given => ?_)
  match given with
  | .error cause => rfl
  | .ok () => rfl

variable {now middle final : Clocked Finer σ} {deadline : Instant}
  {steps more : List (Exchange (Timed Finer) (Timed.Answer Reply))}

/-- A session that could not be set up, or not in time, is not announced. -/
theorem provisionSteps_of_unprepared {prepared : Option (Except BrokerError Unit)}
    (ran : ((carry (service.setUpOf session admission.user)).before deadline).Runs pace.Hurried now
      steps prepared final) (unprepared : prepared ≠ some (.ok ())) :
    ((service.provisionSteps carry admission session).before deadline).Runs pace.Hurried now steps
      (prepared.map (·.mapError ConnectionError.broker)) final := by
  -- The deadline spans both parts, and the second one is not begun.
  rw [provisionSteps_eq, Program.before_bind]
  refine Program.runs_bind.mpr ⟨steps, prepared, final, [], ran, ?_, (List.append_nil steps).symm⟩
  match prepared with
  | none | some (.error cause) => exact Program.runs_done.mpr ⟨rfl, rfl, rfl⟩
  | some (.ok ()) => exact absurd rfl unprepared

/-- A session that was set up in time is announced, or not in time. -/
theorem provisionSteps_of_prepared {published : Option (Except BrokerError Unit)}
    (ran : ((carry (service.setUpOf session admission.user)).before deadline).Runs pace.Hurried now
      steps (some (.ok ())) middle)
    (told : ((carry (service.announcementOf session admission.profile)).before deadline).Runs
      pace.Hurried middle more published final) :
    ((service.provisionSteps carry admission session).before deadline).Runs pace.Hurried now
      (steps ++ more) (published.map (·.mapError ConnectionError.broker)) final := by
  -- The deadline spans both parts, and the second one begins with what is left of it.
  rw [provisionSteps_eq, Program.before_bind]
  exact Program.runs_bind.mpr ⟨steps, some (.ok ()), middle, more, ran,
    Program.runs_before_map _ told, rfl⟩

end ConnectionService

namespace ServiceStage

/-- What was made for a session has been undone at the end of what was exchanged. -/
def Undone (admission : Admission) (session : Session) (log : List ServiceExchange) : Prop :=
  ∃ earlier tornDown deleted, log = earlier ++ [told (.topology (.tearDown session.user)) tornDown,
    told (.store (.delete session.id)) deleted, told (.unlockUser admission.user) ()]

variable {now final : Clocked Finer σ} {log : List ServiceExchange} {outcome : ServiceOutcome}
  {deadline : Instant} {fault : ConnectionError}

/-- Undoing asks for nothing that stands under a deadline. -/
theorem undone_of_course (course : Course (ServiceCall.Timely pace carry) (Step service)
      (.tearingDown admission session fault) now log (.finished outcome) final) :
    outcome = .connected (.error fault) ∧ Undone admission session log ∧
      final.begun = now.begun := by
  -- Undoing makes three calls, all without a deadline.
  obtain ⟨tornDown, deleted, _, _, rfl, rfl, ⟨-, first⟩, ⟨-, second⟩, -, third⟩ :=
    course_of_undoing course
  exact ⟨rfl, ⟨[], tornDown, deleted, rfl⟩, third.trans (second.trans first)⟩

/-- More may have been exchanged before what was made was undone. -/
theorem Undone.cons (undone : Undone admission session log) (exchange : ServiceExchange) :
    Undone admission session (exchange :: log) := by
  -- The three calls are still the last ones.
  obtain ⟨earlier, tornDown, deleted, rfl⟩ := undone
  exact ⟨exchange :: earlier, tornDown, deleted, rfl⟩

/-- A new session is provisioned up to the deadline, and its client is told what came of that. If it
is a fault, all has been undone. -/
theorem provisioned_of_course (course : Course (ServiceCall.Timely pace carry) (Step service)
      (.timing admission session) now log (.finished outcome) final) :
    ∃ steps result provisioned,
      ((service.provisionSteps carry admission session).before
        ⟨now.now + service.settings.provisionTimeout.nanoseconds⟩).Runs pace.Hurried now steps
        result provisioned ∧
      outcome = .connected (service.settle admission session result) ∧
      final.begun = provisioned.begun ∧
      ∀ fault, outcome = .connected (.error fault) → Undone admission session log := by
  -- Each way through the stages is a run of provisioning, followed by what comes of it.
  cases course with
  | step timed answered onward =>
  cases timed
  obtain ⟨rfl, rfl⟩ := answered
  cases onward with
  | step prepared answered onward =>
  cases prepared with
  -- A broker that fails or is cut off leads to the undoing, as does a deadline that has passed.
  | setUpFailed | setUpCut =>
    obtain ⟨steps, ran⟩ := answered
    obtain ⟨rfl, undone, begun⟩ := undone_of_course onward
    exact ⟨_, _, _, service.provisionSteps_of_unprepared ran nofun, rfl, begun,
      fun _ _ => (undone.cons _).cons _⟩
  | setUp =>
    obtain ⟨steps, ran⟩ := answered
    cases onward with
    | step announced answered onward =>
    cases announced with
    -- What was announced is followed by the lock alone.
    | announced =>
      obtain ⟨more, told⟩ := answered
      cases onward with
      | step unlocked answered onward =>
      cases unlocked
      cases onward with
      | step goes => cases goes
      -- The whole run has been gone through: the queues, the announcement, and nothing undone.
      | rest =>
        exact ⟨_, _, _, service.provisionSteps_of_prepared ran told, rfl, answered.2, nofun⟩
    | announcementFailed | announcementCut =>
      obtain ⟨more, told⟩ := answered
      obtain ⟨rfl, undone, begun⟩ := undone_of_course onward
      exact ⟨_, _, _, service.provisionSteps_of_prepared ran told, rfl, begun,
        fun _ _ => ((undone.cons _).cons _).cons _⟩

end ServiceStage

namespace Publisher

variable {exchange body : String}

/-- Publishing in finer steps is trying in finer steps. -/
theorem publish_refine :
    (publish policy exchange body).refine put =
      -- Refining goes through the attempts and the report on them alike.
      (policy.attemptFrom (fun delay => (PublisherCall.wait delay).make.refine put)
        (fun _ => (withChannel (publishOnce exchange body)).refine put) (policy.attempts - 1)
        1).bind fun outcome => .done (outcome.mapError fun exhausted =>
          .publishExhausted exchange exhausted.attempts exhausted.lastError.message) :=
  (Program.refine_bind put _ _).trans
    (congrArg (Program.bind · _) (RetryPolicy.attemptFrom_refine put _ _))

/-- A message is published, or all attempts have failed that are allowed. -/
theorem publish_yields :
    (publish policy exchange body).Yields fun result => result = .ok () ∨
      ∃ last, result = .error (.publishExhausted exchange policy.attempts last) := by
  -- The number of attempts told is that of all attempts allowed.
  refine (RetryPolicy.attemptFrom_yields (policy.attempts - 1) 1).bind fun outcome counted => ?_
  cases outcome with
  | ok value => exact Or.inl rfl
  | error exhausted =>
    have all : exhausted.attempts = policy.attempts := by
      have atLeast : 1 ≤ policy.attempts := Nat.le_max_left _ _
      have told := counted exhausted rfl
      omega
    exact Or.inr ⟨exhausted.lastError.message, by rw [← all]; rfl⟩

end Publisher

/-- What setting up and announcing come to by themselves, and when: success, the fault with which
the session could not be set up, or the end of all attempts to announce it. -/
inductive Provisioned (pace : Pace Finer Reply σ)
    (carry : (call : ServiceCall) → Program Finer Reply call.Answer) (policy : RetryPolicy)
    (service : ConnectionService) (admission : Admission) (session : Session)
    (now done : Clocked Finer σ) : Except ConnectionError Unit → Prop where
  | announced {steps more : List (Exchange Finer Reply)} {prepared : Clocked Finer σ}
      (ready : (carry (service.setUpOf session admission.user)).Runs pace.Leisurely now steps
        (.ok ()) prepared)
      (sent : (carry (service.announcementOf session admission.profile)).Runs pace.Leisurely
        prepared more (.ok ()) done) :
      Provisioned pace carry policy service admission session now done (.ok ())
  | unprepared {steps : List (Exchange Finer Reply)} {cause : BrokerError}
      (failed : (carry (service.setUpOf session admission.user)).Runs pace.Leisurely now steps
        (.error cause) done) :
      Provisioned pace carry policy service admission session now done (.error (.broker cause))
  | unannounced {steps more : List (Exchange Finer Reply)} {prepared : Clocked Finer σ}
      {last : String}
      (ready : (carry (service.setUpOf session admission.user)).Runs pace.Leisurely now steps
        (.ok ()) prepared)
      (unsent : (carry (service.announcementOf session admission.profile)).Runs pace.Leisurely
        prepared more
        (.error (.publishExhausted service.settings.notificationExchange policy.attempts last))
        done) :
      Provisioned pace carry policy service admission session now done
        (.error (.broker
          (.publishExhausted service.settings.notificationExchange policy.attempts last)))

/-- What becomes of a new session and of its client, by the time that provisioning takes. -/
structure KeepsDeadline (pace : Pace Finer Reply σ)
    (carry : (call : ServiceCall) → Program Finer Reply call.Answer)
    (put : (call : PublisherCall) → Program Finer Reply call.Answer) (policy : RetryPolicy)
    (service : ConnectionService) (admission : Admission) (session : Session)
    (now final : Clocked Finer σ) (log : List ServiceExchange) (outcome : ServiceOutcome) :
    Prop where
  /-- Provisioning that would be done in time comes to its own result. -/
  own : ∀ steps result done,
    (service.provisionSteps carry admission session).Runs pace.Leisurely now steps result done →
      Provisioned pace carry policy service admission session now done result ∧
      (done.now < now.now + service.settings.provisionTimeout.nanoseconds →
        outcome = .connected (result.map fun () =>
          service.responseTo admission session ConnectResponse.newSessionMessage))
  /-- Provisioning that would not be done in time, or never, is given up. -/
  late : (∀ steps result done,
    (service.provisionSteps carry admission session).Runs pace.Leisurely now steps result done →
      now.now + service.settings.provisionTimeout.nanoseconds < done.now) →
    outcome = .connected (.error (.provisionTimeout service.settings.provisionTimeout))
  /-- No step of it is begun after its time. -/
  prompt : ∀ entry ∈ final.begun, entry ∈ now.begun ∨
    entry.1 ≤ now.now + service.settings.provisionTimeout.nanoseconds
  /-- Whatever it fails with, it is undone. -/
  undone : ∀ fault, outcome = .connected (.error fault) →
    ServiceStage.Undone admission session log
  /-- Where nothing takes time but the waits between attempts, which grow by a step, and none of the
  attempts succeeds, the sum of the waits decides. -/
  linear : ∀ (step : Duration) (count : Nat), policy = ⟨count, .linear step⟩ → 1 ≤ count →
    pace.WaitsExactly put →
    pace.AtOnce (carry (service.setUpOf session admission.user)) now (· = .ok ()) →
    (∀ state, pace.AtOnce (service.announceOnce put admission session) state (·.isOk = false)) →
    (step.nanoseconds * count * (count - 1) / 2 < service.settings.provisionTimeout.nanoseconds →
      ∃ last, outcome = .connected (.error (.broker
        (.publishExhausted service.settings.notificationExchange count last)))) ∧
    (service.settings.provisionTimeout.nanoseconds < step.nanoseconds * count * (count - 1) / 2 →
      outcome = .connected (.error (.provisionTimeout service.settings.provisionTimeout)))

section Deadline

variable {now done final : Clocked Finer σ} {log : List ServiceExchange} {outcome : ServiceOutcome}
  {steps : List (Exchange Finer Reply)} {result : Except ConnectionError Unit}

/-- Provisioning comes to a result of one of these kinds. -/
theorem provisioned_of_runs
    (published : ∀ exchange body,
      carry (.publish exchange body) = (Publisher.publish policy exchange body).refine put)
    (ran : (service.provisionSteps carry admission session).Runs pace.Leisurely now steps result
      done) : Provisioned pace carry policy service admission session now done result := by
  -- Setting up comes first, and what publishing comes to is told by its attempts.
  rw [ConnectionService.provisionSteps_eq] at ran
  obtain ⟨first, given, prepared, second, ready, onward, rfl⟩ := Program.runs_bind.mp ran
  match given with
  | .error cause =>
    obtain ⟨rfl, rfl, rfl⟩ := Program.runs_done.mp onward
    exact .unprepared ready
  | .ok () =>
    obtain ⟨third, told, between, last, attempts, ended, rfl⟩ := Program.runs_bind.mp onward
    obtain ⟨rfl, rfl, rfl⟩ := Program.runs_done.mp ended
    -- The run of the attempts is wanted as it stands and by what it comes to.
    have kinds := attempts
    rw [published] at kinds
    rcases (Publisher.publish_yields.refine put).of_runs kinds with rfl | ⟨last, rfl⟩
    · exact .announced ready attempts
    · exact .unannounced ready attempts

/-- Where nothing takes time but the waits and no attempt succeeds, all attempts are made, and the
waits are all the time that they take. -/
theorem runs_of_waits
    (published : ∀ exchange body,
      carry (.publish exchange body) = (Publisher.publish policy exchange body).refine put)
    (waits : pace.WaitsExactly put)
    (ready : pace.AtOnce (carry (service.setUpOf session admission.user)) now (· = .ok ()))
    (fails : ∀ state, pace.AtOnce (service.announceOnce put admission session) state
      (·.isOk = false)) :
    ∃ steps last done, (service.provisionSteps carry admission session).Runs pace.Leisurely now
        steps (.error (.broker
          (.publishExhausted service.settings.notificationExchange policy.attempts last))) done ∧
      done.now = now.now + ∑ number ∈ Finset.range (policy.attempts - 1),
        (policy.delayAfter (1 + number)).nanoseconds := by
  -- The session is ready at once, and the attempts begin then.
  obtain ⟨first, _, prepared, ready, rfl, same⟩ := ready
  -- Waiting takes exactly its delay, and an attempt no time at all.
  have waiting : ∀ delay state, ∃ steps after,
      ((PublisherCall.wait delay).make.refine put).Runs pace.Leisurely state steps () after ∧
        after.now = state.now + delay.nanoseconds := by
    intro delay state
    obtain ⟨steps, after, waited, passed⟩ := waits delay state
    exact ⟨steps, after, Program.runs_map (fun _ => ()) waited, passed⟩
  have failing : ∀ (attempt : Nat) state, ∃ steps fault after,
      (service.announceOnce put admission session).Runs pace.Leisurely state steps (.error fault)
        after ∧ after.now = state.now := by
    intro attempt state
    obtain ⟨steps, told, after, ran, refused, still⟩ := fails state
    match told with
    | .error fault => exact ⟨steps, fault, after, ran, still⟩
    | .ok () => cases refused
  -- So the attempts end after as many failures as the policy allows, at the time that the waits add
  -- up to.
  obtain ⟨more, last, done, (tried : (policy.attemptFrom _ _ _ _).Runs _ _ _ _ _), ended⟩ :=
    RetryPolicy.runs_of_failing waiting failing (policy.attempts - 1) 1 prepared
  have all : 1 + (policy.attempts - 1) = policy.attempts :=
    Nat.add_sub_cancel' (Nat.le_max_left 1 policy.maxAttempts)
  rw [all] at tried
  have sent := Program.runs_map (fun outcome => outcome.mapError fun exhausted =>
    BrokerError.publishExhausted service.settings.notificationExchange exhausted.attempts
      exhausted.lastError.message) tried
  refine ⟨first ++ more, last.message, done, ?_, by rw [ended, same]⟩
  -- The steps of provisioning are put together again from these two runs.
  rw [ConnectionService.provisionSteps_eq]
  refine Program.runs_bind.mpr ⟨first, .ok (), prepared, more, ready, ?_, rfl⟩
  dsimp only
  rw [published, Publisher.publish_refine]
  exact Program.runs_map (·.mapError ConnectionError.broker) sent

/-- From the moment at which a session was created, its deadline is kept. -/
theorem keepsDeadline_of_course
    (published : ∀ exchange body,
      carry (.publish exchange body) = (Publisher.publish policy exchange body).refine put)
    (course : Course (ServiceCall.Timely pace carry) (ServiceStage.Step service)
      (.timing admission session) now log (.finished outcome) final) :
    KeepsDeadline pace carry put policy service admission session now final log outcome := by
  -- The run up to the deadline is that of provisioning by itself, either finished before it or cut
  -- off.
  obtain ⟨_, told, provisioned, ran, rfl, begun, undone⟩ :=
    ServiceStage.provisioned_of_course course
  have ahead : now.now ≤ now.now + service.settings.provisionTimeout.nanoseconds :=
    Nat.le_add_right _ _
  refine ⟨fun steps result done plain => ⟨provisioned_of_runs published plain, fun early => ?_⟩,
    fun beyond => by rw [Pace.hurried_eq_none ahead ran beyond]; rfl, ?_, undone, ?_⟩
  · rw [Pace.hurried_eq_some ahead ran plain early]
    rfl
  · rw [begun]
    exact (Pace.begun_of_hurried ahead ran).2
  · -- By itself provisioning would come to the end of all attempts, once all waits are over.
    rintro step count rfl some waits ready fails
    obtain ⟨more, rfl⟩ := Nat.exists_eq_add_of_le' some
    obtain ⟨steps, last, done, plain, ended⟩ := runs_of_waits published waits ready fails
    have count : RetryPolicy.attempts ⟨more + 1, .linear step⟩ = more + 1 :=
      Nat.max_eq_right (Nat.le_add_left 1 more)
    rw [count] at plain ended
    obtain ⟨exact, longer⟩ :=
      RetryPolicy.linear_waits step more service.settings.provisionTimeout
    rw [Nat.add_sub_cancel] at ended ⊢
    refine ⟨fun short => ⟨last, ?_⟩, fun long => ?_⟩
    · have early : done.now < now.now + service.settings.provisionTimeout.nanoseconds := by
        rw [ended, exact short]
        exact Nat.add_lt_add_left short _
      rw [Pace.hurried_eq_some ahead ran plain early]
      rfl
    · rw [Pace.hurried_eq_none ahead ran fun _ _ _ again => ?_]
      · rfl
      · rw [(Pace.leisurely_unique plain again).2, ended]
        exact Nat.add_lt_add_left (longer long) _

/-- A session may be made for any client that is cleared. -/
theorem created_of_cleared {name token : String} {validation : TokenValidation}
    (cleared : Cleared name token validation admission) (session : Session)
    (now : Clocked Finer σ) :
    ∃ early rest, Course (ServiceCall.Timely pace carry) Program.Turn
      ((ServiceRequest.connect name token).program service) now
      (early ++ [told (.store (.create admission.user admission.tokenId)) (.ok session)]) rest
      now := by
  -- The client is let in, gets the lock, has no session, and has one made for it.
  have still : now.now ≤ now.now ∧ now.begun = now.begun := ⟨Nat.le_refl _, rfl⟩
  have onward : ∃ rest, Course (ServiceCall.Timely pace carry) Program.Turn
      ((service.connectLocked admission).bind fun result =>
        .done (ServiceOutcome.connected result)) now
      [told (.lockUser admission.user) (.ok ()),
        told (.store (.activeSession admission.user)) (.ok none),
        told (.store (.create admission.user admission.tokenId)) (.ok session)] rest now :=
    ⟨_, .step (.ask _ _ _) still (.step (.ask _ _ _) still (.step (.ask _ _ _) still
      (.rest _ _)))⟩
  obtain ⟨rest, onward⟩ := onward
  exact ⟨[_, _, _, _], rest, course_of_cleared cleared still still onward⟩

/-- A broker that is ready at once, and takes no message; only waits take time. -/
def Pace.unconfirmed : Pace StageCall StageCall.Answer Unit where
  meets
    | .service (.topology _), _ => some (0, .ok (), ())
    | .service _, _ => none
    | .publisher (.channel .ensureOpen), _ => some (0, .ok false, ())
    | .publisher (.channel (.publish _ _)), _ => some (0, .error (.channel "not confirmed"), ())
    | .publisher (.channel (.declare _)), _ | .publisher (.channel .close), _ =>
      some (0, .ok (), ())
    | .publisher (.isDeclared _), _ => some (0, true, ())
    | .publisher (.wait delay), _ => some (delay.nanoseconds, (), ())
    | .publisher .acquire, _ | .publisher .release, _ | .publisher (.remember _), _
    | .publisher .forgetAll, _ => some (0, (), ())

/-- At most three attempts, with a wait of one second after the first and of two after the
second. -/
def RetryPolicy.threeTimes : RetryPolicy := ⟨3, .linear (.ofSeconds 1)⟩

/-- A service behind which there is such a broker, and whose publisher makes three attempts. -/
abbrev ServiceCall.Unconfirmed :
    Surroundings (Timed ServiceCall) (Timed.Answer ServiceCall.Answer) (Clocked StageCall Unit) :=
  Timely .unconfirmed (staged (.channel .threeTimes))

/-- A service that allows so many seconds for a new session. -/
def ConnectionService.allowing (seconds : Nat) : ConnectionService :=
  ⟨.ofBytes [], { ConnectionSettings.default with provisionTimeout := .ofSeconds seconds }⟩

/-- No attempt to publish succeeds there, and none takes time. -/
theorem Pace.unconfirmed_fails (exchange body : String) (state : Clocked StageCall Unit) :
    Pace.unconfirmed.AtOnce ((Publisher.withChannel (Publisher.publishOnce exchange body)).refine
      fun call => Program.question (StageCall.publisher call)) state (·.isOk = false) := by
  -- Each call of an attempt is answered at once, and the message is not confirmed.
  have step (wanted : StageCall) (given : wanted.Answer) (state : Clocked StageCall Unit)
      (met : Pace.unconfirmed.meets wanted () = some (0, given, ())) :
      Pace.unconfirmed.Leisurely wanted state given (state.leave wanted state.now ()) :=
    ⟨0, (), met, rfl⟩
  exact ⟨_, .error (.channel "not confirmed"), _,
    Program.runs_ask.mpr ⟨(), _, _, step (.publisher .acquire) () state rfl,
      Program.runs_ask.mpr ⟨.ok false, _, _, step (.publisher (.channel .ensureOpen)) _ _ rfl,
        Program.runs_ask.mpr ⟨true, _, _, step (.publisher (.isDeclared exchange)) _ _ rfl,
          Program.runs_ask.mpr ⟨.error _, _, _,
            step (.publisher (.channel (.publish exchange body))) _ _ rfl,
            Program.runs_ask.mpr ⟨(), _, _, step (.publisher .release) _ _ rfl,
              Program.runs_done.mpr ⟨rfl, rfl, rfl⟩, rfl⟩, rfl⟩, rfl⟩, rfl⟩, rfl⟩, rfl, rfl⟩

/-- Whatever a connect has done until it made a session, from there on it keeps the deadline: its
client is told what provisioning comes to by itself if that takes less than the time allowed, and
that the time was too short if it takes longer. No step of it is begun when the time is over, and
whatever it fails with, the session is undone. Provisioning may be done in any steps, and these may
take any time, as long as announcing is publishing under a policy of attempts. -/
theorem new_sessions_keep_deadline {name token tokenId : String} {user : UserId}
    {start : Clocked Finer σ} {early : List ServiceExchange} {rest : ServiceProgram ServiceOutcome}
    (published : ∀ exchange body,
      carry (.publish exchange body) = (Publisher.publish policy exchange body).refine put)
    (created : Course (ServiceCall.Timely pace carry) Program.Turn
      ((ServiceRequest.connect name token).program service) start
      (early ++ [told (.store (.create user tokenId)) (.ok session)]) rest now) :
    (∃ log outcome final, rest.Runs (ServiceCall.Timely pace carry) now log outcome final) ∧
    ∃ admission : Admission, admission.user = user ∧ admission.tokenId = tokenId ∧
      LetIn name token admission early ∧
      ∀ log outcome final, rest.Runs (ServiceCall.Timely pace carry) now log outcome final →
        KeepsDeadline pace carry put policy service admission session now final log outcome := by
  refine ⟨rest.exists_runs ServiceCall.timely_responsive now, ?_⟩
  -- The creation is the last thing that was told.
  have last : told (.store (.create user tokenId)) (.ok session) ∈
      early ++ [told (.store (.create user tokenId)) (.ok session)] :=
    List.mem_append_right early List.mem_cons_self
  rcases gate_of_course created with ⟨fault, refusal, -⟩ | ⟨call, next, inquiry, -⟩ |
    ⟨validation, admission, more, _, second, stage, cleared, same, -, -, course, tracks⟩
  · -- Who is turned away has never asked the store for a session.
    obtain ⟨call, asked⟩ := refusal.inquires _ last
    cases asked
  · obtain ⟨call, asked⟩ := inquiry.inquires _ last
    cases asked
  · -- Something was asked behind the two checks, or the creation would be one of the answers to
    -- them.
    rcases List.eq_nil_or_concat' more with rfl | ⟨more, exchange, rfl⟩
    · have ends := congrArg List.getLast? same
      rw [List.getLast?_concat] at ends
      cases ends
    · have parts : early ++ [told (.store (.create user tokenId)) (.ok session)] =
          (validated token admission.user (.ok validation) ::
            profiled admission.user (.ok admission.profile) :: more) ++ [exchange] := same
      obtain ⟨rfl, ends⟩ := List.append_inj' parts rfl
      -- The two logs end alike, so the last exchange is the creation.
      cases ends
      -- The session was made for the client that was let in, and at the last step so far.
      obtain ⟨place, middle, before, creating⟩ := course.of_append
      have works := before.keeps (fun stage _ => stage.WorksFor admission)
        (fun _ _ _ _ _ step _ works => (step.works works).1) rfl
      cases creating with
      | step goes answered onward =>
      cases goes with
      | created =>
      cases onward with
      | rest =>
      obtain rfl := works
      exact ⟨_, rfl, rfl, ⟨validation, cleared, more, rfl⟩, fun log outcome final ran =>
        -- What follows the creation is a run from the stage that it leads to.
        keepsDeadline_of_course published (ServiceStage.course_of_runs ran tracks)⟩

/-- A message that is not confirmed three times, with waits of one second and of two between them,
is told as such to a client whose session may take five seconds, and not if it may take only
two. -/
theorem third_failure_is_told_in_time :
    ∃ outcome : Nat → ServiceOutcome,
      (∀ seconds, ∃ (early log : List ServiceExchange) (session : Session)
        (rest : ServiceProgram ServiceOutcome) (now final : Clocked StageCall Unit),
        Course ServiceCall.Unconfirmed Program.Turn
          ((ServiceRequest.connect "ada" "token").program (.allowing seconds)) now
          (early ++ [told (.store (.create session.user session.tokenId)) (.ok session)]) rest now ∧
        rest.Runs ServiceCall.Unconfirmed now log (outcome seconds) final) ∧
      (∃ last, outcome 5 = .connected (.error (.broker
        (.publishExhausted BrokerNames.connectionExchange 3 last)))) ∧
      outcome 2 = .connected (.error (.provisionTimeout (.ofSeconds 2))) := by
  -- The client is let in and its session created at once, so that the deadline starts to run then.
  obtain ⟨ada, named⟩ : ∃ ada, UserId.parse "ada" = .ok ada := ⟨_, rfl⟩
  -- There is nothing to wait for but the retries, as each call is answered at once.
  let admission : Admission := ⟨ada, "token", ⟨"ada", "ada", "", "", "", "", true, none⟩⟩
  let session : Session :=
    ⟨.numbered 1, ada, "token", .inProgress, Session.pending, ⟨2024, 1, 1, 0, 0, 0, 0⟩, none⟩
  let put (call : PublisherCall) : Program StageCall StageCall.Answer call.Answer :=
    Program.question (StageCall.publisher call)
  let now : Clocked StageCall Unit := ⟨0, (), []⟩
  have nonempty : "token" ≠ "" := by decide
  have cleared : Cleared "ada" "token" ⟨true, some "token", none, none, none, none⟩ admission :=
    ⟨named, fun blank => absurd (blank 't' (by decide)) (by decide), rfl, rfl, nonempty, rfl⟩
  -- A connect for any deadline gets as far as its session at the same moment.
  have created : ∀ seconds, ∃ early rest, Course ServiceCall.Unconfirmed Program.Turn
      ((ServiceRequest.connect "ada" "token").program (.allowing seconds)) now
      (early ++ [told (.store (.create ada "token")) (.ok session)]) rest now :=
    fun seconds => created_of_cleared cleared session now
  have waits : Pace.unconfirmed.WaitsExactly put := fun delay state =>
    ⟨_, _, Program.runs_ask.mpr ⟨(), _, [], ⟨delay.nanoseconds, (), rfl, rfl⟩,
      Program.runs_done.mpr ⟨rfl, rfl, rfl⟩, rfl⟩, rfl⟩
  have ready : ∀ call, Pace.unconfirmed.AtOnce
      (Program.question (StageCall.service (.topology call))) now (· = .ok ()) := fun call =>
    ⟨_, .ok (), _, Program.runs_ask.mpr ⟨.ok (), _, [], ⟨0, (), rfl, rfl⟩,
      Program.runs_done.mpr ⟨rfl, rfl, rfl⟩, rfl⟩, rfl, rfl⟩
  -- So the theorem applies to either deadline, and its waits are the same ones.
  have decided : ∀ seconds, ∃ early rest log outcome final,
      Course ServiceCall.Unconfirmed Program.Turn
        ((ServiceRequest.connect "ada" "token").program (.allowing seconds)) now
        (early ++ [told (.store (.create ada "token")) (.ok session)]) rest now ∧
      rest.Runs ServiceCall.Unconfirmed now log outcome final ∧
      ∃ admission, KeepsDeadline .unconfirmed (ServiceCall.staged (.channel .threeTimes)) put
        .threeTimes (.allowing seconds) admission session now final log outcome := by
    intro seconds
    obtain ⟨early, rest, made⟩ := created seconds
    obtain ⟨⟨log, outcome, final, ran⟩, admission, -, -, -, keeps⟩ :=
      new_sessions_keep_deadline (fun _ _ => rfl) made
    exact ⟨early, rest, log, outcome, final, made, ran, admission, keeps _ _ _ ran⟩
  choose early rest log outcome final made ran admission keeps using decided
  -- The second and the third attempt come after one and two seconds, that is three in all.
  have told := fun seconds => (keeps seconds).linear (.ofSeconds 1) 3 rfl (by decide) waits
    (ready _) (Pace.unconfirmed_fails _ _)
  exact ⟨outcome, fun seconds => ⟨_, _, session, _, now, _, made seconds, ran seconds⟩,
    (told 5).1 (by decide), (told 2).2 (by decide)⟩

end Deadline

end SessionGate
