import SessionGate.Proofs.Broker.Publishing
import SessionGate.Proofs.Retry

/-! The attempts of a request to publish: no other request uses the channel between two calls of one
attempt, and what the request comes to is what its attempts have come to. -/

namespace SessionGate

/-- What tells how an attempt goes: the channel was got for it, the message was confirmed, or a call
of the channel failed. -/
inductive AttemptSign where
  | begun
  | confirmed
  | failed (fault : BrokerError)
  deriving DecidableEq

namespace PublisherEvent

/-- What an event tells of an attempt. -/
def sign? : PublisherEvent → Option AttemptSign
  | ⟨.answered .acquire, _⟩ => some .begun
  | ⟨.answered (.channel (.publish _ _)), .ok ()⟩ => some .confirmed
  | ⟨.answered (.channel _), .error fault⟩ => some (.failed fault)
  | _ => none

/-- What events tell of attempts. -/
def signs (events : List PublisherEvent) : List AttemptSign := events.filterMap sign?

/-- What events tell one after another. -/
theorem signs_append (first second : List PublisherEvent) :
    signs (first ++ second) = signs first ++ signs second :=
  -- Each event tells its own sign or none.
  List.filterMap_append

end PublisherEvent

open PublisherEvent (signs signs_append)

namespace Publisher

open Program (Runs runs_ask runs_bind runs_done)

variable {σ : Type} {env : Surroundings PublisherCall PublisherCall.Answer σ} {state final : σ}
  {log : List (Exchange PublisherCall PublisherCall.Answer)} {exchange body : String}

/-- What a part of an attempt tells: a fault if there was one, and nothing else. -/
abbrev faultSigns : Except BrokerError Unit → List AttemptSign
  | .ok () => []
  | .error fault => [.failed fault]

/-- Opening the channel tells of a fault with it. -/
theorem prepare_signs {result : Except BrokerError Unit}
    (ran : prepare.Runs env state log result final) :
    signs (log.map Exchange.attended) = faultSigns result := by
  obtain ⟨given, middle, rest, -, onward, rfl⟩ := runs_ask.mp ran
  match given with
  | .error fault | .ok false =>
    obtain ⟨rfl, rfl, -⟩ := runs_done.mp onward
    rfl
  | .ok true =>
    -- Forgetting what was declared tells nothing.
    obtain ⟨_, _, _, -, ended, rfl⟩ := runs_ask.mp onward
    obtain ⟨rfl, rfl, -⟩ := runs_done.mp ended
    rfl

/-- Declaring an exchange tells of a fault with it. -/
theorem declare_signs {result : Except BrokerError Unit}
    (ran : (declare exchange).Runs env state log result final) :
    signs (log.map Exchange.attended) = faultSigns result := by
  obtain ⟨given, middle, rest, -, onward, rfl⟩ := runs_ask.mp ran
  match given with
  | true =>
    -- An exchange that is known is not declared, and nothing can fail.
    obtain ⟨rfl, rfl, -⟩ := runs_done.mp onward
    rfl
  | false =>
    obtain ⟨given, _, _, -, told, rfl⟩ := runs_ask.mp onward
    match given with
    | .error fault =>
      obtain ⟨rfl, rfl, -⟩ := runs_done.mp told
      rfl
    | .ok () =>
      obtain ⟨_, _, _, -, ended, rfl⟩ := runs_ask.mp told
      obtain ⟨rfl, rfl, -⟩ := runs_done.mp ended
      rfl

/-- What an attempt tells of its result. -/
abbrev resultSign : Except BrokerError Unit → AttemptSign
  | .ok () => .confirmed
  | .error fault => .failed fault

/-- An attempt with the channel at hand tells once how it went. -/
theorem publishOnce_signs {result : Except BrokerError Unit}
    (ran : (publishOnce exchange body).Runs env state log result final) :
    signs (log.map Exchange.attended) = [resultSign result] := by
  -- After a fault nothing more is asked, so there is one fault at most.
  obtain ⟨first, opened, middle, rest, prepared, onward, rfl⟩ := runs_bind.mp ran
  have early := prepare_signs prepared
  match opened with
  | .error fault =>
    obtain ⟨rfl, rfl, -⟩ := runs_done.mp onward
    rw [List.append_nil, early]
  | .ok () =>
    obtain ⟨second, known, between, third, declared, told, rfl⟩ := runs_bind.mp onward
    have late := declare_signs declared
    match known with
    | .error fault =>
      obtain ⟨rfl, rfl, -⟩ := runs_done.mp told
      rw [List.append_nil, List.map_append, signs_append, early, late]
      rfl
    | .ok () =>
      obtain ⟨given, _, _, -, ended, rfl⟩ := runs_ask.mp told
      obtain ⟨rfl, rfl, -⟩ := runs_done.mp ended
      rw [List.map_append, List.map_append, signs_append, signs_append, early, late]
      -- All that is told is what came of the message itself.
      match result with
      | .ok () => rfl
      | .error fault => rfl

/-- With the channel got and given up again, an attempt tells that it has begun and how it went. -/
theorem attempt_signs {result : Except BrokerError Unit}
    (ran : (withChannel (publishOnce exchange body)).Runs env state log result final) :
    signs (log.map Exchange.attended) = [.begun, resultSign result] := by
  obtain ⟨_, middle, rest, -, onward, rfl⟩ := runs_ask.mp ran
  have inside : ((publishOnce exchange body).bind fun result => .ask .release fun _ =>
      .done result).Runs env middle rest result final := onward
  obtain ⟨inner, outcome, between, last, attempted, released, rfl⟩ := runs_bind.mp inside
  obtain ⟨_, _, _, -, ended, rfl⟩ := runs_ask.mp released
  obtain ⟨rfl, rfl, -⟩ := runs_done.mp ended
  have told := publishOnce_signs attempted
  -- Getting the channel tells that the attempt has begun, and giving it up tells nothing.
  show AttemptSign.begun :: signs ((inner ++ _).map Exchange.attended) = _
  rw [List.map_append, signs_append, told]
  rfl

/-- A wait between two attempts tells nothing. -/
theorem pause_signs {policy : RetryPolicy} {attempt : Nat}
    (ran : (policy.pauseAfter (fun delay => (PublisherCall.wait delay).make) attempt).Runs env state
      log () final) : signs (log.map Exchange.attended) = [] := by
  -- There is no wait at all, or a single call that is no sign.
  by_cases none : policy.delayAfter attempt = .zero
  · have pause : policy.pauseAfter (fun delay => (PublisherCall.wait delay).make) attempt =
        .done () := if_pos none
    rw [pause] at ran
    obtain ⟨rfl, -, -⟩ := runs_done.mp ran
    rfl
  · have pause : policy.pauseAfter (fun delay => (PublisherCall.wait delay).make) attempt =
        (PublisherCall.wait (policy.delayAfter attempt)).make := if_neg none
    rw [pause] at ran
    obtain ⟨_, _, _, -, ended, rfl⟩ := runs_ask.mp ran
    obtain ⟨rfl, -, -⟩ := runs_done.mp ended
    rfl

end Publisher

/-- What a number of attempts tell that have failed. -/
def AttemptSign.failures (faults : List BrokerError) : List AttemptSign :=
  faults.flatMap fun fault => [.begun, .failed fault]

open AttemptSign (failures)

/-- What attempts tell that have come to a result, with `left` more allowed after a given one: all
but the last one have failed, and so has the last one where no more were left. -/
def Attempted (left attempt : Nat) (told : List AttemptSign) :
    Except (RetryExhausted BrokerError) Unit → Prop
  | .ok () => ∃ faults, told = failures faults ++ [.begun, .confirmed] ∧ faults.length ≤ left
  | .error exhausted => ∃ faults, told = failures (faults ++ [exhausted.lastError]) ∧
      faults.length = left ∧ exhausted.attempts = attempt + left

/-- One more failure comes before what later attempts tell. -/
theorem Attempted.again {left attempt : Nat} {told : List AttemptSign}
    {result : Except (RetryExhausted BrokerError) Unit}
    (later : Attempted left (attempt + 1) told result) (fault : BrokerError) :
    Attempted (left + 1) attempt ([.begun, .failed fault] ++ told) result := by
  -- The failure becomes the first of those that came before the result.
  match result with
  | .ok () =>
    obtain ⟨faults, rfl, few⟩ := later
    exact ⟨fault :: faults, rfl, Nat.succ_le_succ few⟩
  | .error exhausted =>
    obtain ⟨faults, rfl, all, counted⟩ := later
    refine ⟨fault :: faults, rfl, congrArg Nat.succ all, ?_⟩
    omega

/-- Attempts to publish that are carried through tell what they come to. -/
theorem attempted_of_tried {σ : Type} {env : Surroundings PublisherCall PublisherCall.Answer σ}
    {policy : RetryPolicy} {exchange body : String} {left attempt : Nat} {state final : σ}
    {log : List (Exchange PublisherCall PublisherCall.Answer)}
    {result : Except (RetryExhausted BrokerError) Unit}
    (tried : policy.Tried env (fun delay => (PublisherCall.wait delay).make)
      (fun _ => Publisher.withChannel (Publisher.publishOnce exchange body)) left attempt state log
      result final) :
    Attempted left attempt (signs (log.map Exchange.attended)) result := by
  -- The induction is on the attempts, the first of which tells its part first.
  induction tried with
  -- The last attempt is told as it ended, and none is left behind it.
  | succeeded ran =>
    rw [Publisher.attempt_signs ran]
    exact ⟨[], rfl, Nat.zero_le _⟩
  | exhausted ran =>
    rw [Publisher.attempt_signs ran]
    exact ⟨[], rfl, rfl, rfl⟩
  -- Each attempt that is followed by another tells its own refusal.
  | again failed waited _ ih =>
    rw [List.map_append, List.map_append, signs_append, signs_append,
      Publisher.attempt_signs failed, Publisher.pause_signs waited, List.append_nil]
    exact ih.again _

/-- A request to publish asks the channel to publish that message and no other. -/
def PublisherCall.Carries (exchange body : String) (wanted : PublisherCall) : Prop :=
  ∀ other text, wanted = .channel (.publish other text) → other = exchange ∧ text = body

namespace Publisher

open PublisherCall (Carries)

variable {exchange body : String}

/-- Opening the channel asks to publish nothing. -/
theorem prepare_asks : prepare.Asks (Carries exchange body) := by
  -- Neither of the two calls is to publish.
  refine ⟨nofun, fun given => ?_⟩
  match given with
  | .error fault | .ok false => trivial
  | .ok true => exact ⟨nofun, fun _ => trivial⟩

/-- Declaring an exchange asks to publish nothing. -/
theorem declare_asks : (declare exchange).Asks (Carries exchange body) := by
  -- None of the three calls is to publish.
  refine ⟨nofun, fun given => ?_⟩
  match given with
  | true => trivial
  | false =>
    refine ⟨nofun, fun given => ?_⟩
    match given with
    | .error fault => trivial
    | .ok () => exact ⟨nofun, fun _ => trivial⟩

/-- One attempt asks to publish its message alone. -/
theorem publishOnce_asks : (publishOnce exchange body).Asks (Carries exchange body) := by
  -- Only the last of an attempt's calls is to publish, and it carries the message.
  refine prepare_asks.bind fun opened => ?_
  match opened with
  | .error fault => trivial
  | .ok () =>
    refine declare_asks.bind fun known => ?_
    match known with
    | .error fault => trivial
    | .ok () =>
      refine ⟨fun other text same => ?_, fun _ => trivial⟩
      cases same
      exact ⟨rfl, rfl⟩

/-- A request to publish carries its message in all attempts. -/
theorem publish_asks (policy : RetryPolicy) (exchange body : String) :
    (publish policy exchange body).Asks (Carries exchange body) := by
  -- Every attempt carries the same message, and waits carry none.
  have attempts : ∀ attempt : Nat,
      (withChannel (publishOnce exchange body)).Asks (Carries exchange body) :=
    fun _ => ⟨nofun, fun _ => publishOnce_asks.bind fun _ => ⟨nofun, fun _ => trivial⟩⟩
  have waits : ∀ delay : Duration,
      (PublisherCall.wait delay).make.Asks (Carries exchange body) :=
    fun _ => ⟨nofun, fun _ => trivial⟩
  exact (RetryPolicy.attemptFrom_asks attempts waits _ _).bind fun _ => trivial

end Publisher

namespace PublisherCrowd

open PublisherLog

variable {C : Type} {behaviour : ConfirmChannel C} {policy : RetryPolicy} {channel : C}
  {crowd : PublisherCrowd C}

/-- What a request has exchanged leads from its computation to what is left of it. -/
theorem Reached.way (reached : Reached behaviour policy channel crowd) {task : Nat}
    {request : PublisherRequest} {rest : Option (PublisherProgram (Except BrokerError Unit))}
    (found : crowd.tasks[task]? = some ⟨request, rest⟩) :
    Path (Conduct.Leaving PublisherCall.Waits Program.Turn) (some (request.program policy))
      (crowd.heard task) rest := by
  -- The task entered with the request, and its turns are labelled by it.
  obtain ⟨entry, ⟨first, rfl⟩, path⟩ := (Crowd.Reached.path reached task).2 _ found
  obtain ⟨place, same, course⟩ := Conduct.Labelled.course path
  cases same
  exact course

/-- A request to publish that has come to its end has told how its attempts went. -/
theorem Reached.attempted (reached : Reached behaviour policy channel crowd) {task : Nat}
    {exchange body : String} {result : Except BrokerError Unit}
    (found : crowd.tasks[task]? = some ⟨.publish exchange body, some (.done result)⟩) :
    ∃ outcome, Attempted (policy.attempts - 1) 1 (signs (crowd.heard task)) outcome ∧
      result = outcome.mapError fun exhausted =>
        .publishExhausted exchange exhausted.attempts exhausted.lastError.message := by
  -- Whoever has come to the end has not left, and has waited for every answer.
  obtain ⟨plain, heard, path⟩ := Conduct.Leaving.path (reached.way found)
  have ran : ((policy.run (fun delay => (PublisherCall.wait delay).make)
      fun _ => Publisher.withChannel (Publisher.publishOnce exchange body)).bind fun outcome =>
        .done (outcome.mapError fun exhausted =>
          .publishExhausted exchange exhausted.attempts exhausted.lastError.message)).Runs
      (fun _ (_ : Unit) _ _ => True) () plain result () := path
  obtain ⟨first, outcome, middle, second, attempts, ended, rfl⟩ := Program.runs_bind.mp ran
  obtain ⟨rfl, rfl, -⟩ := Program.runs_done.mp ended
  refine ⟨outcome, ?_, rfl⟩
  rw [heard, List.append_nil]
  exact attempted_of_tried (RetryPolicy.tried_of_runs attempts)

/-- Requests to publish are served one attempt at a time. -/
structure PublishedInTurn (policy : RetryPolicy) (crowd : PublisherCrowd C) : Prop where
  /-- What a request to publish sends is its own message. -/
  own : ∀ (task : Nat) exchange body rest event other text,
    crowd.tasks[task]? = some ⟨.publish exchange body, rest⟩ →
      (task, event) ∈ crowd.log → PublisherEvent.operation? event = some (.publish other text) →
      other = exchange ∧ text = body
  /-- No two requests wait for an answer of the channel at the same time. -/
  alone : ∀ (task other : Nat) request another call operation next later,
    crowd.tasks[task]? = some ⟨request, some (.ask (.channel call) next)⟩ →
      crowd.tasks[other]? = some ⟨another, some (.ask (.channel operation) later)⟩ → task = other
  /-- Between two calls of one attempt, which are calls between which the channel was not got again,
  nobody else calls the channel. -/
  apart : ∀ (early between late : PublisherLog) task first last,
    crowd.log = early ++ (task, first) :: between ++ (task, last) :: late →
      first.operation? ≠ none → last.operation? ≠ none → (task, .acquired) ∉ between →
      ∀ entry ∈ between, entry.2.operation? ≠ none → entry.1 = task
  /-- A message has been sent if its last attempt was confirmed, after others that had failed. -/
  confirmed : ∀ (task : Nat) exchange body,
    crowd.tasks[task]? = some ⟨.publish exchange body, some (.done (.ok ()))⟩ →
      ∃ faults, signs (crowd.heard task) = failures faults ++ [.begun, .confirmed] ∧
        faults.length < max 1 policy.maxAttempts
  /-- A message could not be sent if as many attempts have failed as the policy allows, and at least
  one. The last of their faults is told. -/
  exhausted : ∀ (task : Nat) exchange body fault,
    crowd.tasks[task]? = some ⟨.publish exchange body, some (.done (.error fault))⟩ →
      ∃ faults last, signs (crowd.heard task) = failures (faults ++ [last]) ∧
        (faults ++ [last]).length = max 1 policy.maxAttempts ∧
        fault = .publishExhausted exchange (max 1 policy.maxAttempts) last.message

/-- Whoever waits for the channel is at a stage of those who have it. -/
theorem inside_of_asking {stages : PublisherStages C} (same : Crowd.Alike StandsAt crowd stages)
    {task : Nat} {request : PublisherRequest} {call : ChannelCall}
    {next : call.Answer → PublisherProgram (Except BrokerError Unit)}
    (found : crowd.tasks[task]? = some ⟨request, some (.ask (.channel call) next)⟩) :
    ∃ stage, stages.reading PublisherStage.amid? task = some stage := by
  obtain ⟨place, located, stands⟩ := same.task found
  rw [Crowd.reading_of_found located]
  cases stands with
  | some keeps =>
    -- A call may always fail, and only those who have the channel go on from there.
    obtain ⟨ahead, step, -⟩ := keeps (.error (.channel ""))
    cases step with
    | unopened | undeclared | published | unclosed => exact ⟨_, rfl⟩

/-- However a channel behaves, whatever the policy is, and however requests take turns and are
given up, each request to publish has the channel to itself for each of its attempts, sends its own
message and no other, and is told that the message was confirmed just if the last attempt and no
other one was. -/
theorem published_in_turn (reached : Reached behaviour policy channel crowd) :
    PublishedInTurn policy crowd := by
  obtain ⟨stages, staged, same⟩ := reached.stages
  have sound := staged.sound
  -- The first attempt is made in any case, and the others are left after it.
  have count : policy.attempts - 1 + 1 = max 1 policy.maxAttempts := by
    unfold RetryPolicy.attempts
    omega
  refine ⟨?_, ?_, ?_, ?_, ?_⟩
  · -- A message is carried by the request that was entered with it.
    intro task exchange body rest event other text found logged asked
    have carries := Conduct.Leaving.asks (reached.way found)
      (Publisher.publish_asks policy exchange body) event (Crowd.mem_heard.mpr logged)
    exact carries other text (PublisherEvent.operation?_eq_some.mp asked)
  · intro task other request another call operation next later found located
    obtain ⟨stage, inside⟩ := inside_of_asking same found
    obtain ⟨there, located⟩ := inside_of_asking same located
    -- Whoever is not the one who has the channel stands aside.
    by_contra different
    have aside := (sound.hold.inside inside).1 other (Ne.symm different)
    cases located.symm.trans aside
  · intro early between late task first last split _ again kept entry member used
    obtain ⟨user, event⟩ := entry
    obtain ⟨before, after, rfl⟩ := List.append_of_mem member
    have whole := same.log.trans split
    -- Both tasks have the channel when they use it, and the later one has not got it since.
    have there : holder (early ++ (task, first) :: before) = some user := by
      refine (sound.lawful _ user event (after ++ (task, last) :: late) ?_).own used
      rw [whole]
      simp
    have here : holder (early ++ (task, first) :: (before ++ (user, event) :: after)) =
        some task := (sound.lawful _ task last late whole).own again
    rw [← List.cons_append, ← List.append_assoc] at here
    have held := holder_append here fun got => kept (List.mem_append_right _ got)
    exact Option.some.inj (there.symm.trans held)
  · -- What was attempted is told by the list of refusals, which is shorter than the count here.
    intro task exchange body found
    obtain ⟨outcome, attempted, result⟩ := reached.attempted found
    match outcome with
    | .ok () =>
      obtain ⟨faults, told, few⟩ := attempted
      exact ⟨faults, told, by omega⟩
    | .error exhausted => cases result
  · -- Here each of the attempts was refused, and there were as many as the policy has.
    intro task exchange body fault found
    obtain ⟨outcome, attempted, result⟩ := reached.attempted found
    match outcome with
    | .ok () => cases result
    | .error ⟨attempts, last⟩ =>
      obtain ⟨faults, told, all, counted⟩ := attempted
      cases result
      have every : attempts = max 1 policy.maxAttempts := by
        rw [← count, Nat.add_comm]
        exact counted
      refine ⟨faults, last, told, ?_, by rw [every]⟩
      rw [List.length_append, all]
      exact count

/-- A publisher that fails twice lets another one come between its attempts, whose message is
confirmed at the second one. -/
theorem attempts_alternate :
    ∃ crowd : PublisherCrowd Unit, PublishedInTurn (.immediate 2) crowd ∧
      crowd.tasks = [
        ⟨.publish "x" "one", some (.done (.error
          (.publishExhausted "x" 2 "broker channel error: closed")))⟩,
        ⟨.publish "x" "two", some (.done (.ok ()))⟩] ∧
      signs (crowd.heard 1) = [.begun, .failed (.channel "closed"), .begun, .confirmed] := by
  -- The two requests take turns, each finding the channel closed once, and the second one publishes
  -- in the end.
  let behaviour : ConfirmChannel Unit := ⟨fun _ _ _ _ => True, fun _ _ _ => True⟩
  let failing : List PublisherEvent := [⟨.answered .acquire, ()⟩,
    ⟨.answered (.channel .ensureOpen), .error (.channel "closed")⟩, ⟨.answered .release, ()⟩]
  -- One refused attempt takes the channel, finds it closed and gives it up again.
  obtain ⟨rest, first, last⟩ : ∃ rest,
      PublisherCourse behaviour (some (Publisher.publish (.immediate 2) "x" "one")) (.fresh ())
        failing rest (.fresh ()) ∧
      PublisherCourse behaviour rest ⟨(), false, ["x"]⟩ failing (some (.done (.error
        (.publishExhausted "x" 2 "broker channel error: closed")))) ⟨(), false, ["x"]⟩ :=
    ⟨_,
      .step (.answered (.ask _ _ _)) ⟨rfl, rfl⟩ <|
      .step (.answered (.ask _ _ _)) ⟨(), trivial, rfl⟩ <|
      .step (.answered (.ask _ _ _)) rfl <|
      .rest _ _,
      .step (.answered (.ask _ _ _)) ⟨rfl, rfl⟩ <|
      .step (.answered (.ask _ _ _)) ⟨(), trivial, rfl⟩ <|
      .step (.answered (.ask _ _ _)) rfl <|
      .rest _ _⟩
  -- The other request is refused once, and its second attempt opens the channel and publishes.
  have other : PublisherCourse behaviour (some (Publisher.publish (.immediate 2) "x" "two"))
      (.fresh ())
      (failing ++ [⟨.answered .acquire, ()⟩, ⟨.answered (.channel .ensureOpen), .ok true⟩,
        ⟨.answered .forgetAll, ()⟩, ⟨.answered (.isDeclared "x"), false⟩,
        ⟨.answered (.channel (.declare "x")), .ok ()⟩, ⟨.answered (.remember "x"), ()⟩,
        ⟨.answered (.channel (.publish "x" "two")), .ok ()⟩, ⟨.answered .release, ()⟩])
      (some (.done (.ok ()))) ⟨(), false, ["x"]⟩ :=
    .step (.answered (.ask _ _ _)) ⟨rfl, rfl⟩ <|
    .step (.answered (.ask _ _ _)) ⟨(), trivial, rfl⟩ <|
    .step (.answered (.ask _ _ _)) rfl <|
    .step (.answered (.ask _ _ _)) ⟨rfl, rfl⟩ <|
    .step (.answered (.ask _ _ _)) ⟨(), trivial, rfl⟩ <|
    .step (.answered (.ask _ _ _)) rfl <|
    .step (.answered (.ask _ _ _)) ⟨rfl, rfl⟩ <|
    .step (.answered (.ask _ _ _)) ⟨(), trivial, rfl⟩ <|
    .step (.answered (.ask _ _ _)) rfl <|
    .step (.answered (.ask _ _ _)) ⟨(), trivial, rfl⟩ <|
    .step (.answered (.ask _ _ _)) rfl <|
    .rest _ _
  -- The first request is refused, the second one comes to its end, and the first to its own.
  have unused : Reached behaviour (.immediate 2) () (Crowd.alone (.fresh ())) := .refl
  have entered := (unused.enter (.publish "x" "one")).enter (.publish "x" "two")
  have failed := entered.advance 0 rfl first
  have confirmed := failed.advance 1 rfl other
  have reached := confirmed.advance 0 rfl last
  exact ⟨_, published_in_turn reached, rfl, rfl⟩

end PublisherCrowd

end SessionGate
