import SessionGate.Identity.Directory
import SessionGate.Proofs.Connection.Admitting
import SessionGate.Proofs.Connection.Records
import SessionGate.Proofs.Program.Schedule

/-! What the end of a session means for its user: once the authorization is revoked, only those
connects still open a session that had asked for the user before. -/

namespace SessionGate

open ServiceExchange

namespace Directory

variable {directory after : Directory} {user : UserId} {profile : UserProfile}

/-- A directory does not let a user connect. -/
def Bars (directory : Directory) (user : UserId) : Prop :=
  ∀ profile, directory.user? user = some profile → profile.isAuthorized = false

/-- What is done to a directory authorizes nobody who may not connect and is the user. -/
def Spares (user : UserId) (before after : Directory) : Prop := before.Bars user → after.Bars user

/-- The profiles of users after a revocation are those from before, the authorization of the user
taken away. -/
theorem user?_revokeUser (directory : Directory) (other user : UserId) :
    (directory.revokeUser other).user? user = (directory.user? user).map fun profile =>
      if profile.id == other.text then { profile with isAuthorized := false } else profile := by
  unfold revokeUser user?
  rw [List.find?_map]
  -- Revoking changes no identifier, so the search finds the profile at the same place.
  refine congrArg (Option.map _) (congrArg (fun test => directory.users.find? test) ?_)
  funext profile
  by_cases same : profile.id = other.text
  · simp [same]
  · simp [same]

/-- A user whose authorization was revoked may not connect. -/
theorem bars_revokeUser : (directory.revokeUser user).Bars user := by
  -- The profile that is found is the user's, and its authorization was taken away.
  intro profile found
  rw [user?_revokeUser] at found
  obtain ⟨known, located, rfl⟩ := Option.map_eq_some_iff.mp found
  have named : known.id = user.text := by
    simpa using List.find?_some (show _ = some known from located)
  simp [named]

/-- Revoking an authorization lets nobody connect. -/
theorem Bars.revokeUser (bars : directory.Bars user) (other : UserId) :
    (directory.revokeUser other).Bars user := by
  -- The profile found was there before, and a revocation takes authorizations away but grants none.
  intro profile found
  rw [user?_revokeUser] at found
  obtain ⟨known, located, rfl⟩ := Option.map_eq_some_iff.mp found
  split
  · rfl
  · exact bars known located

/-- No question to an identity service lets a user connect. -/
theorem Bars.perform (bars : directory.Bars user) (call : IdentityCall) :
    (directory.perform call).2.Bars user := by
  -- Only a revocation changes the directory, and a failing service changes nothing.
  unfold Directory.perform
  split
  · exact bars
  · cases call with
    | validateToken token other => exact bars
    | getUser other =>
      simp only [serve]
      split
      · exact bars
      · exact bars
    | revokeAuthorization other => exact bars.revokeUser other
    | revokeToken other tokenId => exact bars

/-- Where a revocation is answered with success, the user may not connect. -/
theorem bars_of_revoked
    (revoked : directory.perform (.revokeAuthorization user) = (.ok (), after)) :
    after.Bars user := by
  -- A service that fails does not answer with success.
  unfold perform at revoked
  split at revoked
  · cases revoked
  · cases revoked
    exact bars_revokeUser

/-- Of a user who may not connect the directory does not tell that it is authorized. -/
theorem Bars.told (bars : directory.Bars user)
    (told : directory.perform (.getUser user) = (.ok profile, after)) :
    profile.isAuthorized = false := by
  -- A profile is told only by a service that works, and from the directory.
  unfold Directory.perform at told
  split at told
  · cases told
  · simp only [serve] at told
    split at told
    next found =>
      cases told
      exact bars profile found
    · cases told

/-- What becomes of a directory by a question of the connection service. -/
def Hears (directory : Directory) : (wanted : Timed ServiceCall) →
    wanted.Answer ServiceCall.Answer → Directory → Prop
  | .unhurried (.identity call), given, after | .before _ (.identity call), some given, after =>
    directory.perform call = (given, after)
  -- A question that is given up may have been heard.
  | .before _ (.identity call), none, after =>
    after = directory ∨ after = (directory.perform call).2
  | _, _, after => after = directory

/-- How collaborators answer among which the identity service is a directory. Between two questions
others do to the directory what they may. -/
def answers {M : Type} (manager : TopologyManager M) (fails : StoreCall → Prop)
    (others : Directory → Directory → Prop) :
    Surroundings (Timed ServiceCall) (Timed.Answer ServiceCall.Answer) (Backing M × Directory) :=
  fun wanted before given after =>
    Backing.answers manager fails wanted before.1 given after.1 ∧
      ∃ found, others before.2 found ∧ found.Hears wanted given after.2

/-- A user who may not connect may not do so after a question of the connection service. -/
theorem Bars.hears (bars : directory.Bars user) {wanted : Timed ServiceCall}
    {given : wanted.Answer ServiceCall.Answer} (hears : directory.Hears wanted given after) :
    after.Bars user := by
  -- Only calls to the identity service concern the directory, and one cut off at its deadline may
  -- or may not have taken place.
  match wanted, given with
  | .unhurried (.identity call), given =>
    have kept := bars.perform call
    rw [show directory.perform call = (given, after) from hears] at kept
    exact kept
  | .before _ (.identity call), some given =>
    have kept := bars.perform call
    rw [show directory.perform call = (given, after) from hears] at kept
    exact kept
  | .before _ (.identity call), none =>
    rcases hears with rfl | rfl
    · exact bars
    · exact bars.perform call
  | .unhurried (.store _), _ | .unhurried (.lockUser _), _ | .unhurried (.unlockUser _), _
  | .unhurried (.topology _), _ | .unhurried (.publish _ _), _ | .unhurried (.momentAfter _), _
  | .before _ (.store _), _ | .before _ (.lockUser _), _ | .before _ (.unlockUser _), _
  | .before _ (.topology _), _ | .before _ (.publish _ _), _ | .before _ (.momentAfter _), _ =>
    rw [show after = directory from hears]
    exact bars

end Directory

section Requests

variable {σ : Type} {env : Surroundings (Timed ServiceCall) (Timed.Answer ServiceCall.Answer) σ}
  {service : ConnectionService} {request : ServiceRequest} {stage ahead : ServiceStage}
  {exchange : ServiceExchange} {log : List ServiceExchange} {rest : ServiceProgram ServiceOutcome}
  {state final : σ} {user : UserId}

/-- The identity service has told that a user is authorized. -/
def Vouched (log : List ServiceExchange) (user : UserId) : Prop :=
  ∃ profile : UserProfile, profile.isAuthorized = true ∧ profiled user (.ok profile) ∈ log

/-- What was told once was told. -/
theorem Vouched.snoc (vouched : Vouched log user) (exchange : ServiceExchange) :
    Vouched (log ++ [exchange]) user := by
  -- The log only grows.
  obtain ⟨profile, authorized, member⟩ := vouched
  exact ⟨profile, authorized, List.mem_append_left _ member⟩

namespace ServiceStage

/-- The client for whom a session may still be made. -/
def admitted? : ServiceStage → Option Admission
  | .locking admission | .looking admission | .creating admission => some admission
  | _ => none

/-- Sessions are and were made only for those who are told to be authorized. -/
def Careful (stage : ServiceStage) (log : List ServiceExchange) : Prop :=
  (∀ admission, stage.admitted? = some admission → Vouched log admission.user) ∧
    ∀ user tokenId given, told (.store (.create user tokenId)) given ∈ log → Vouched log user

/-- Before a session is made for a client, the user was told to be authorized. -/
theorem Step.careful (step : Step service stage exchange ahead) (careful : stage.Careful log) :
    ahead.Careful (log ++ [exchange]) := by
  obtain ⟨admits, makes⟩ := careful
  -- It is enough to look at the new exchange, since what was told stays told.
  suffices fresh : (∀ admission, ahead.admitted? = some admission →
      Vouched (log ++ [exchange]) admission.user) ∧
      ∀ user tokenId given, told (.store (.create user tokenId)) given = exchange →
        Vouched (log ++ [exchange]) user by
    refine ⟨fresh.1, fun user tokenId given made => ?_⟩
    rcases List.mem_append.mp made with earlier | last
    · exact (makes user tokenId given earlier).snoc exchange
    · exact fresh.2 user tokenId given (List.mem_singleton.mp last)
  cases step with
  -- The admission is handed out with the answer that vouches for the user.
  | @admitted user tokenId profile authorized =>
    refine ⟨fun admission same => ?_, nofun⟩
    cases same
    exact ⟨profile, authorized, List.mem_append_right _ (List.mem_singleton.mpr rfl)⟩
  -- It is kept from stage to stage until the session is made.
  | locked | absent => exact ⟨fun admission same => (admits admission same).snoc _, nofun⟩
  -- Who asks for a session has been admitted, and so vouched for.
  | created | outrun | uncreated =>
    refine ⟨nofun, fun user tokenId given same => ?_⟩
    cases same
    exact (admits _ rfl).snoc _
  | _ => exact ⟨nofun, nofun⟩

/-- At its start no request has admitted a client. -/
theorem start_admitted? (request : ServiceRequest) : (start request).admitted? = none := by
  -- Each kind of request starts at a stage of its own, and none of these has admitted anyone.
  refine start_holds (fun stage => stage.admitted? = none) ?_ ?_ ?_ ?_ ?_ ?_ request <;>
    · intros
      rfl

/-- A session is made only for a user who was told to be authorized. -/
theorem vouched_of_creation
    (course : Course env Program.Turn (request.program service) state log rest final)
    {tokenId : String} {given : (StoreCall.create user tokenId).Answer}
    (made : told (.store (.create user tokenId)) given ∈ log) : Vouched log user := by
  -- Each step keeps that an admitted user was vouched for and that sessions are made only for such.
  obtain ⟨stage, steps, -⟩ := course_of_start course
  have first : (start request).Careful [] := ⟨by simp [start_admitted?], nofun⟩
  have careful := steps.tells Careful (fun _ _ _ _ step careful => step.careful careful) first
  exact careful.2 user tokenId given made

/-- The session of an identifier was completed, and its user's authorization was revoked. -/
def Disbarred (log : List ServiceExchange) (id : SessionId) : Prop :=
  ∃ session, told (.store (.transition id .completed)) (.ok session) ∈ log ∧
    told (.identity (.revokeAuthorization session.user)) (.ok ()) ∈ log

/-- How far a request has got with completing a session. -/
def Completing (log : List ServiceExchange) : ServiceStage → Prop
  | .dismantling id target session => told (.store (.transition id target)) (.ok session) ∈ log
  | .disbarring id session => told (.store (.transition id .completed)) (.ok session) ∈ log
  | .revoking id _ => Disbarred log id
  | .finished (.changed (.ok response)) =>
    ∀ id, response = .transitioned id .completed → Disbarred log id
  | _ => True

/-- That a session timed out is not told as that one was completed. -/
theorem timeOut_ne_completed (id other : SessionId) :
    StatusResponse.transitioned id .timeout ≠ .transitioned other .completed := by
  -- The two responses differ in their messages.
  intro same
  have told : "Session status updated to TIMEOUT" = "Session status updated to COMPLETED" :=
    congrArg StatusResponse.message same
  exact absurd told (by decide)

/-- A dispatcher's report is not told as that a session was completed. -/
theorem dispatcher_ne_completed (id other : SessionId) (status : String) :
    StatusResponse.dispatcher id status ≠ .transitioned other .completed := by
  -- The two responses differ in their messages.
  intro same
  have told : "Dispatcher status updated" = "Session status updated to COMPLETED" :=
    congrArg StatusResponse.message same
  exact absurd told (by decide)

/-- A request tells that a session was completed only after the authorization was revoked. -/
theorem Step.completing (step : Step service stage exchange ahead)
    (completing : stage.Completing log) : ahead.Completing (log ++ [exchange]) := by
  -- The cases are the steps of a request; the one that tells of completion follows the revocations.
  have last : exchange ∈ log ++ [exchange] := List.mem_append_right _ (List.mem_singleton.mpr rfl)
  -- The store's answer starts the completion, and each revocation adds the answer it got.
  cases step with
  | ended => exact last
  | dismantled => exact List.mem_append_left _ completing
  | @disbarred id session => exact ⟨session, List.mem_append_left _ completing, last⟩
  -- A session without a token has nothing more to be revoked.
  | @tokenless id session =>
    intro other same
    cases same
    exact ⟨session, List.mem_append_left _ completing, last⟩
  | revoked =>
    intro other same
    cases same
    obtain ⟨session, ended, disbarred⟩ := completing
    exact ⟨session, List.mem_append_left _ ended, List.mem_append_left _ disbarred⟩
  -- No other outcome is that of a completed session.
  | timedOut => exact fun other same => absurd same (timeOut_ne_completed _ _)
  | recorded => exact fun other same => absurd same (dispatcher_ne_completed _ _ _)
  | unended | undisbarred | unrevoked | unrecorded => trivial
  | _ => trivial

/-- Whoever is told that a session was completed has had the authorization of its user revoked. -/
theorem disbarred_of_completed {id : SessionId}
    (course : Course env Program.Turn (request.program service) state log
      (.done (.changed (.ok (.transitioned id .completed)))) final) : Disbarred log id := by
  -- The invariant holds at the start, where nothing is completed, and every step keeps it.
  have steps := course_of_runs course (start_tracks service request)
  have ready : (start request).Completing [] := by
    refine start_holds (Completing []) ?_ ?_ ?_ ?_ ?_ ?_ request <;>
      · intros
        trivial
  have completing := steps.tells (fun stage log => stage.Completing log)
    (fun _ _ _ _ step completing => step.completing completing) ready
  exact completing id rfl

end ServiceStage

end Requests

section Crowds

variable {M : Type} {manager : TopologyManager M} {fails : StoreCall → Prop}
  {service : ConnectionService} {user : UserId} {start : Backing M × Directory}

/-- Requests that take turns where the identity service is a directory. -/
abbrev GuardedCrowd (M : Type) : Type :=
  Crowd (Timed ServiceCall) (Timed.Answer ServiceCall.Answer) (Backing M × Directory)
    (ServiceProgram ServiceOutcome)

/-- What may happen among such requests while others do to the directory what they may. -/
abbrev GuardedCrowd.Moves (manager : TopologyManager M) (fails : StoreCall → Prop)
    (service : ConnectionService) (others : Directory → Directory → Prop) :
    GuardedCrowd M → GuardedCrowd M → Prop :=
  Crowd.Moves (Directory.answers manager fails others) Program.Turn
    (ServiceRequest.ServedBy service)

/-- Others may do to a directory what they like. -/
def Directory.anything : Directory → Directory → Prop := fun _ _ => True

variable {before after later : GuardedCrowd M}

/-- What may happen while others hold back may happen anyway. -/
theorem GuardedCrowd.Moves.widen {others : Directory → Directory → Prop}
    (moved : GuardedCrowd.Moves manager fails service others before after) :
    GuardedCrowd.Moves manager fails service Directory.anything before after := by
  -- Only a turn speaks of the others, and they may do anything then.
  cases moved with
  | enter served => exact .enter served
  | turn found goes answered =>
    obtain ⟨backed, directory, -, hears⟩ := answered
    exact .turn found goes ⟨backed, directory, trivial, hears⟩

/-- While nobody authorizes a user who may not connect, the identity service tells of no such
user that it is authorized. -/
theorem GuardedCrowd.unvouched (bars : after.state.2.Bars user)
    (onward : Relation.ReflTransGen
      (GuardedCrowd.Moves manager fails service (Directory.Spares user)) after later) :
    later.state.2.Bars user ∧ ∃ more, later.log = after.log ++ more ∧
      ∀ task profile, (task, profiled user (.ok profile)) ∈ more → profile.isAuthorized = false := by
  -- The induction is on the moves, each of which keeps the user barred and tells of no
  -- authorization.
  induction onward with
  | refl => exact ⟨bars, [], (List.append_nil _).symm, nofun⟩
  | tail _ moved ih =>
    obtain ⟨bars, more, grown, untold⟩ := ih
    cases moved with
    | enter => exact ⟨bars, more, grown, untold⟩
    | @turn task place ahead exchange state found goes answered =>
      obtain ⟨-, directory, spares, hears⟩ := answered
      have bars := spares bars
      refine ⟨bars.hears hears, more ++ [(task, exchange)], by simp [grown], ?_⟩
      intro other profile member
      rcases List.mem_append.mp member with earlier | last
      · exact untold other profile earlier
      · cases List.mem_singleton.mp last
        exact bars.told hears

/-- Right after a revocation was answered with success the user may not connect. -/
theorem GuardedCrowd.bars_of_revoked {others : Directory → Directory → Prop} {task : Nat}
    (revoking : GuardedCrowd.Moves manager fails service others before after)
    (revoked : after.log =
      before.log ++ [(task, told (.identity (.revokeAuthorization user)) (.ok ()))]) :
    after.state.2.Bars user := by
  cases revoking with
  | enter =>
    -- Nothing is logged of a newcomer.
    have longer := congrArg List.length revoked
    simp at longer
  | turn found goes answered =>
    cases List.append_cancel_left revoked
    obtain ⟨-, directory, -, hears⟩ := answered
    exact Directory.bars_of_revoked hears

/-- Whoever is told that a session was completed has had the authorization of its user revoked
before. From a revocation on, as long as nobody authorizes the user again, sessions are made for the
user only by connects that had been told before the revocation that the user is authorized. -/
theorem revocation_leaves_earlier_connects {task : Nat}
    (reached : Relation.ReflTransGen (GuardedCrowd.Moves manager fails service Directory.anything)
      (Crowd.alone start) before)
    (revoking : GuardedCrowd.Moves manager fails service Directory.anything before after)
    (revoked : after.log =
      before.log ++ [(task, told (.identity (.revokeAuthorization user)) (.ok ()))])
    (onward : Relation.ReflTransGen
      (GuardedCrowd.Moves manager fails service (Directory.Spares user)) after later) :
    (∀ (request : Nat) id,
      later.tasks[request]? = some (.done (.changed (.ok (.transitioned id .completed)))) →
        ∃ session, (request, told (.store (.transition id .completed)) (.ok session)) ∈ later.log ∧
          (request, told (.identity (.revokeAuthorization session.user)) (.ok ())) ∈ later.log) ∧
    ∃ more, later.log = after.log ++ more ∧ ∀ (request : Nat) tokenId given,
      (request, told (.store (.create user tokenId)) given) ∈ more →
        ∃ profile : UserProfile, profile.isAuthorized = true ∧
          (request, profiled user (.ok profile)) ∈ before.log := by
  -- From the revocation on the directory bars the user, whoever asks.
  have bars := GuardedCrowd.bars_of_revoked revoking revoked
  obtain ⟨-, more, grown, untold⟩ := GuardedCrowd.unvouched bars onward
  have whole : Crowd.Reached _ _ _ start later := (reached.tail revoking).trans
    (Relation.ReflTransGen.mono (fun _ _ moved => GuardedCrowd.Moves.widen moved) _ _ onward)
  refine ⟨fun request id done => ?_, more, grown, fun request tokenId given made => ?_⟩
  · -- Completed: both answers stand in what the request has heard.
    obtain ⟨program, ⟨asked, rfl⟩, path⟩ := (whole.path request).2 _ done
    obtain ⟨session, ended, disbarred⟩ := ServiceStage.disbarred_of_completed path
    exact ⟨session, Crowd.mem_heard.mp ended, Crowd.mem_heard.mp disbarred⟩
  · -- Whoever makes a session has come, and was told before that the user is authorized.
    have logged : (request, told (.store (.create user tokenId)) given) ∈ later.log :=
      grown ▸ List.mem_append_right _ made
    obtain ⟨program, ⟨asked, rfl⟩, _, path⟩ := whole.path_of_mem logged
    obtain ⟨profile, authorized, heard⟩ :=
      ServiceStage.vouched_of_creation path (Crowd.mem_heard.mpr logged)
    refine ⟨profile, authorized, ?_⟩
    -- It was not told so after the revocation, nor by it.
    have spoken := Crowd.mem_heard.mp heard
    rw [grown, revoked] at spoken
    rcases List.mem_append.mp spoken with earlier | later
    · rcases List.mem_append.mp earlier with earlier | last
      · exact earlier
      · cases List.mem_singleton.mp last
    · rw [untold request profile later] at authorized
      cases authorized

end Crowds

section Runs

/-- Collaborators that do what they are asked, the identity service being a directory. -/
def Directory.comply (options : TopologyOptions) :
    (wanted : Timed ServiceCall) → Backing Management × Directory →
      wanted.Answer ServiceCall.Answer × Backing Management × Directory
  | .unhurried (.identity call), state =>
    let (given, directory) := state.2.perform call
    (given, state.1, directory)
  | .before _ (.identity call), state =>
    let (given, directory) := state.2.perform call
    (some given, state.1, directory)
  | wanted, state =>
    let (given, backing) := Backing.complyTimed options (.ok ()) wanted state.1
    (given, backing, state.2)

/-- Collaborators may do what they are asked, whatever others do that leaves a directory alone. -/
theorem Directory.comply_answers (options : TopologyOptions) {fails : StoreCall → Prop}
    {others : Directory → Directory → Prop} (idle : ∀ directory, others directory directory)
    (failing : ∀ user tokenId, fails (.create user tokenId)) (wanted : Timed ServiceCall)
    (state : Backing Management × Directory) :
    Directory.answers (Topology.manager options) fails others wanted state
      (Directory.comply options wanted state).1 (Directory.comply options wanted state).2 := by
  -- The backing complies by itself, and the directory answers calls to the identity service only.
  have backed := Backing.complyTimed_answers options (.ok ()) failing wanted state.1
  match wanted with
  | .unhurried (.identity call) | .before _ (.identity call) =>
    exact ⟨rfl, state.2, idle state.2, rfl⟩
  | .unhurried (.store _) | .unhurried (.lockUser _) | .unhurried (.unlockUser _)
  | .unhurried (.topology _) | .unhurried (.publish _ _) | .unhurried (.momentAfter _)
  | .before _ (.store _) | .before _ (.lockUser _) | .before _ (.unlockUser _)
  | .before _ (.topology _) | .before _ (.publish _ _) | .before _ (.momentAfter _) =>
    exact ⟨backed, state.2, idle state.2, rfl⟩

/-- A question was answered with success. -/
def ServiceCall.succeeded : (call : ServiceCall) → call.Answer → Bool
  | .identity _, given => given.isOk
  | .store _, given => given.isOk
  | .lockUser _, given => given.isOk
  | .topology _, given => given.isOk
  | .publish _ _, given => given.isOk
  | .unlockUser _, _ | .momentAfter _, _ => true

/-- A question was answered with success, and in time. -/
def ServiceExchange.succeeded : ServiceExchange → Bool
  | ⟨.unhurried call, given⟩ => call.succeeded given
  | ⟨.before _ call, some given⟩ => call.succeeded given
  | ⟨.before _ _, none⟩ => false

/-- What a session change has come to. -/
def ServiceOutcome.change? : ServiceOutcome → Option StatusResponse
  | .changed (.ok response) => some response
  | _ => none

/-- What a computation has come to, if it is done. -/
def Program.value? {Question α : Type} {Answer : Question → Type} :
    Program Question Answer α → Option α
  | .done value => some value
  | .ask _ _ => none

/-- A session change is done with success just if there is a response. -/
theorem change?_eq_some {place : Option (ServiceProgram ServiceOutcome)}
    {response : StatusResponse} :
    (place.bind fun program => program.value?.bind ServiceOutcome.change?) = some response ↔
      place = some (.done (.changed (.ok response))) := by
  -- The value of a program is there only when it is done.
  constructor
  · intro given
    match place with
    | some (.done (.changed (.ok _))) =>
      cases given
      rfl
  · intro done
    rw [done]
    rfl

namespace GuardedCrowd

/-- An identity service that knows one user, who is authorized, and one token. -/
def directory : Directory :=
  (Directory.empty.addUser (Directory.ordinaryUser "ada")).addToken ⟨"token", "ada", "number"⟩

/-- Two requests to connect one user, and one to complete the first session, take turns. -/
def race (turns : List Nat) : GuardedCrowd Management :=
  let service : ConnectionService := ⟨.ofBytes [], .default⟩
  Crowd.schedule (Directory.comply ⟨none, none⟩)
    ⟨(Backing.untouched, directory),
      [(ServiceRequest.connect "ada" "token").program service,
        (ServiceRequest.connect "ada" "token").program service,
        (ServiceRequest.complete (.numbered 1)).program service], []⟩ turns

/-- The first client gets its session, and the second is let in, before the session is completed. -/
def untilRevoked : List Nat := List.replicate 9 0 ++ [1, 1, 2, 2]

variable {others : Directory → Directory → Prop}

/-- The requests may take such turns. -/
theorem moves_race (idle : ∀ directory, others directory directory) (turns : List Nat) :
    Relation.ReflTransGen (Moves (Topology.manager ⟨none, none⟩) Backing.DeletesNothing
      ⟨.ofBytes [], .default⟩ others) (Crowd.alone (Backing.untouched, directory)) (race turns) := by
  refine (Crowd.moves_gather _ _ fun program member => ?_).trans (Crowd.moves_schedule
    -- The requests enter one after the other, and then take their turns.
    (Directory.comply_answers ⟨none, none⟩ idle fun _ _ => nofun) _ turns)
  simp only [List.mem_cons, List.not_mem_nil, or_false] at member
  rcases member with rfl | rfl | rfl
  · exact ⟨_, rfl⟩
  · exact ⟨_, rfl⟩
  · exact ⟨_, rfl⟩

/-- More turns of the requests begin where the earlier ones have led. -/
theorem race_append (turns more : List Nat) :
    race (turns ++ more) =
      (race turns).schedule (Directory.comply ⟨none, none⟩) more := by
  -- Turns are taken from left to right, so the later ones start from the crowd of the earlier.
  rw [race, race, Crowd.schedule, Crowd.schedule, Crowd.schedule, List.foldl_append]

/-- The requests may go on to take more turns. -/
theorem moves_race_append (idle : ∀ directory, others directory directory) (turns more : List Nat) :
    Relation.ReflTransGen (Moves (Topology.manager ⟨none, none⟩) Backing.DeletesNothing
      ⟨.ofBytes [], .default⟩ others) (race turns) (race (turns ++ more)) := by
  -- The collaborators comply in the later turns as well.
  rw [race_append]
  exact Crowd.moves_schedule (Directory.comply_answers ⟨none, none⟩ idle fun _ _ => nofun) _ more

/-- All collaborators do what they are asked, and nobody authorizes anybody. A session is completed
with success, and after that its user, who has no session in progress then, gets one. -/
theorem completed_user_gets_session :
    ∃ (crowd later : GuardedCrowd Management) (user : UserId) (session : Session),
      Relation.ReflTransGen (Moves (Topology.manager ⟨none, none⟩) Backing.DeletesNothing
        ⟨.ofBytes [], .default⟩ Eq) (Crowd.alone (Backing.untouched, directory)) crowd ∧
      crowd.tasks[2]? = some (.done (.changed (.ok (.transitioned (.numbered 1) .completed)))) ∧
      (∃ ended ∈ crowd.state.1.table.rows, ended.id = .numbered 1 ∧ ended.user = user ∧
        ended.status = .completed) ∧
      crowd.state.1.table.active? user = none ∧
      Relation.ReflTransGen (Moves (Topology.manager ⟨none, none⟩) Backing.DeletesNothing
        ⟨.ofBytes [], .default⟩ Eq) crowd later ∧
      later.log.all (fun entry => ServiceExchange.succeeded entry.2) = true ∧
      later.state.1.table.active? user = some session := by
  -- A client connects, another is let in but waits for the lock, and the session of the first is
  -- completed in between.
  let ada : UserId := ⟨"ada", by decide⟩
  let ended := untilRevoked ++ [2, 2]
  have done : ((race ended).tasks[2]?.bind fun program =>
      program.value?.bind ServiceOutcome.change?) =
        some (.transitioned (.numbered 1) .completed) := by
    decide +kernel
  have completed : ((race ended).state.1.table.find? (.numbered 1)).map
      (fun session => (session.user, session.status)) = some (ada, .completed) := by
    decide +kernel
  have idle : (race ended).state.1.table.active? ada = none := by decide +kernel
  have active : ((race (ended ++ List.replicate 7 1)).state.1.table.active? ada).isSome = true := by
    decide +kernel
  have succeeded : (race (ended ++ List.replicate 7 1)).log.all
      (fun entry => ServiceExchange.succeeded entry.2) = true := by
    decide +kernel
  obtain ⟨session, found⟩ := Option.isSome_iff_exists.mp active
  obtain ⟨first, located, same⟩ := Option.map_eq_some_iff.mp completed
  obtain ⟨member, named⟩ := SessionTable.mem_of_find? located
  exact ⟨race ended, _, ada, session, moves_race (fun _ => rfl) _, change?_eq_some.mp done,
    ⟨first, member, named, congrArg Prod.fst same, congrArg Prod.snd same⟩, idle,
    moves_race_append (fun _ => rfl) _ _, succeeded, found⟩

/-- A question without a deadline that was answered with success has an answer of success. -/
theorem told_of_succeeded {exchange : ServiceExchange} {call : ServiceCall}
    (asked : exchange.wanted = .unhurried call)
    (succeeded : ServiceExchange.succeeded exchange = true) :
    ∃ given, exchange = told call given ∧ call.succeeded given = true := by
  -- Whether a call succeeded is read from its answer.
  obtain ⟨wanted, given⟩ := exchange
  cases asked
  exact ⟨given, rfl, succeeded⟩

/-- A client that was let in before the revocation still has a session made for it, and had been
told before to be authorized. -/
theorem earlier_connect_opens_session :
    ∃ (before after later : GuardedCrowd Management) (user : UserId)
      (more : List (Nat × ServiceExchange)) (tokenId : String)
      (given : (StoreCall.create user tokenId).Answer) (profile : UserProfile),
      later.log = after.log ++ more ∧
      (1, told (.store (.create user tokenId)) given) ∈ more ∧ given.isOk = true ∧
      profile.isAuthorized = true ∧ (1, profiled user (.ok profile)) ∈ before.log := by
  -- The second client was vouched for in the first turns; the revocation comes next, and its
  -- session is made after it.
  let ada : UserId := ⟨"ada", by decide⟩
  let turns := untilRevoked ++ [2]
  -- The directory may change in any way before the revocation, and then goes on barring the user.
  have idle : ∀ directory, Directory.Spares ada directory directory := fun _ bars => bars
  have free : ∀ directory, Directory.anything directory directory := fun _ => trivial
  have turned : _ ∨ Moves (Topology.manager ⟨none, none⟩) Backing.DeletesNothing
      ⟨.ofBytes [], .default⟩ Directory.anything (race untilRevoked) _ ∧ _ :=
    Crowd.turn_cases (Directory.comply_answers ⟨none, none⟩ free fun _ _ => nofun) _ 2
  have stepped : race turns = (race untilRevoked).turn (Directory.comply ⟨none, none⟩) 2 :=
    race_append untilRevoked [2]
  -- The turn is not an empty one, so it is a move with an exchange.
  have longer : (race turns).log.length ≠ (race untilRevoked).log.length := by decide +kernel
  have last : (race turns).log.getLast?.all (fun entry =>
      entry.2.wanted == .unhurried (.identity (.revokeAuthorization ada)) &&
        ServiceExchange.succeeded entry.2) = true := by
    decide +kernel
  have making : ((race (turns ++ 2 :: List.replicate 7 1)).log.drop (race turns).log.length).any
      (fun entry => entry.1 == 1 && (entry.2.wanted == .unhurried (.store (.create ada "number")) &&
        ServiceExchange.succeeded entry.2)) = true := by
    decide +kernel
  -- The last entry of the log shows that this exchange is the revocation, and that it went well.
  rcases turned with same | ⟨revoking, exchange, logged⟩
  · rw [stepped, same] at longer
    exact absurd rfl longer
  rw [← stepped] at revoking logged
  simp only [logged, List.getLast?_append, List.getLast?_singleton, Option.some_or, Option.all_some,
    Bool.and_eq_true, beq_iff_eq] at last
  obtain ⟨answer, rfl, revoked⟩ := told_of_succeeded last.1 last.2
  match answer with
  | .ok () =>
    -- The theorem applies to the log behind it, in which the session is made.
    obtain ⟨-, more, grown, earlier⟩ := revocation_leaves_earlier_connects (moves_race free _)
      revoking logged (moves_race_append idle turns (2 :: List.replicate 7 1))
    rw [grown, List.drop_left] at making
    -- There the creation is found, and with it what its request had been told before.
    obtain ⟨⟨task, exchange⟩, member, made⟩ := List.any_eq_true.mp making
    simp only [Bool.and_eq_true, beq_iff_eq] at made
    obtain ⟨rfl, asked, succeeded⟩ := made
    obtain ⟨given, rfl, opened⟩ := told_of_succeeded asked succeeded
    obtain ⟨profile, authorized, told⟩ := earlier 1 "number" given member
    exact ⟨_, _, _, ada, more, "number", given, profile, grown, member, opened, authorized, told⟩

end GuardedCrowd

end Runs

end SessionGate
