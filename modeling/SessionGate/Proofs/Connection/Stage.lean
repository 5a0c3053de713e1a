import SessionGate.Connection.Service
import SessionGate.Proofs.Broker.Names
import SessionGate.Proofs.Program.Course
import SessionGate.Proofs.Program.Laws

/-! The stages that requests to the connection service go through, and the steps between them. -/

namespace SessionGate

/-- What the connection service may be asked for. -/
inductive ServiceRequest where
  | connect (user token : String)
  | complete (id : SessionId)
  | timeOut (id : SessionId)
  | setDispatcherStatus (id : SessionId) (status : String)
  | get (id : SessionId)
  deriving DecidableEq

/-- The user that a request names, if it is one to connect a user. -/
def ServiceRequest.name : ServiceRequest → String
  | .connect user _ => user
  | _ => ""

/-- What a request comes to. -/
inductive ServiceOutcome where
  | connected (result : Except ConnectionError ConnectResponse)
  | changed (result : Except ConnectionError StatusResponse)
  | found (result : Except ConnectionError Session)

/-- The response with which a client was connected. -/
def ServiceOutcome.response? : ServiceOutcome → Option ConnectResponse
  | .connected (.ok response) => some response
  | _ => none

/-- A client was connected just if there is a response. -/
theorem ServiceOutcome.response?_eq_some {outcome : ServiceOutcome} {response : ConnectResponse} :
    outcome.response? = some response ↔ outcome = .connected (.ok response) := by
  -- Only a connect with success has a response.
  constructor
  · intro given
    match outcome with
    | .connected (.ok _) =>
      cases given
      rfl
  · rintro rfl
    rfl

/-- The work for a request. -/
def ServiceRequest.program (service : ConnectionService) :
    ServiceRequest → ServiceProgram ServiceOutcome
  | .connect user token => do
    let handling ← service.connect user token
    -- The work that was handed off is carried through, whether or not anybody waits for it.
    return .connected (← handling.finish)
  | .complete id => return .changed (← (ConnectionService.complete id).unhurried)
  | .timeOut id => return .changed (← (ConnectionService.timeOut id).unhurried)
  | .setDispatcherStatus id status =>
    return .changed (← (ConnectionService.setDispatcherStatus id status).unhurried)
  | .get id => return .found (← (ConnectionService.getSession id).unhurried)

/-- A question of the connection service, and the answer that was given. -/
abbrev ServiceExchange : Type := Exchange (Timed ServiceCall) (Timed.Answer ServiceCall.Answer)

namespace ServiceExchange

/-- A question without a deadline was answered. -/
abbrev told (call : ServiceCall) (given : call.Answer) : ServiceExchange :=
  ⟨.unhurried call, given⟩

/-- A question was answered before its deadline. -/
abbrev inTime (deadline : Instant) (call : ServiceCall) (given : call.Answer) : ServiceExchange :=
  ⟨.before deadline call, some given⟩

/-- A question was given up at its deadline. -/
abbrev tooLate (deadline : Instant) (call : ServiceCall) : ServiceExchange :=
  ⟨.before deadline call, none⟩

end ServiceExchange

namespace ConnectionService

/-- The user of a request that is fit to be served is the one that it names. -/
theorem text_of_parseRequest {name token : String} {user : UserId}
    (parsed : parseRequest name token = .ok user) : user.text = name := by
  -- The text is parsed unchanged, after the two checks.
  simp only [parseRequest] at parsed
  split at parsed
  · cases parsed
  · split at parsed
    · cases parsed
    · split at parsed
      next read =>
        cases parsed
        exact UserId.text_of_parse read
      · cases parsed

/-- The order to set up the broker resources of a session. -/
abbrev setUpOf (service : ConnectionService) (session : Session) (user : UserId) : ServiceCall :=
  .topology (.setUp session.user (service.key.derive session.id user))

/-- The order to announce a session. -/
abbrev announcementOf (service : ConnectionService) (session : Session) (profile : UserProfile) :
    ServiceCall :=
  .publish service.settings.notificationExchange (notification session profile).toJson.render

/-- What a client is told when a session was made for it, or when it comes back to one. -/
def responseTo (service : ConnectionService) (admission : Admission) (session : Session)
    (message : String) : ConnectResponse :=
  service.response session admission.profile (service.key.derive session.id admission.user) message

end ConnectionService

/-- How far a request has got: what it waits for an answer to, and what it needs later on. -/
inductive ServiceStage where
  | identifying (user : UserId) (token : String)
  | profiling (user : UserId) (tokenId : String)
  | locking (admission : Admission)
  | looking (admission : Admission)
  | creating (admission : Admission)
  | timing (admission : Admission) (session : Session)
  | settingUp (admission : Admission) (session : Session) (deadline : Instant)
  | announcing (admission : Admission) (session : Session) (deadline : Instant)
  | tearingDown (admission : Admission) (session : Session) (fault : ConnectionError)
  | discarding (admission : Admission) (session : Session) (fault : ConnectionError)
  | unlocking (user : UserId) (result : Except ConnectionError ConnectResponse)
  | ending (id : SessionId) (target : SessionStatus)
  | dismantling (id : SessionId) (target : SessionStatus) (session : Session)
  | disbarring (id : SessionId) (session : Session)
  | revoking (id : SessionId) (session : Session)
  | recording (id : SessionId) (status : String)
  | reading (id : SessionId)
  | finished (outcome : ServiceOutcome)

namespace ServiceStage

open ServiceExchange

/-- One step of a request: an exchange, and the stage to which it leads. With what fault a client
is turned away before it is admitted is left open. -/
inductive Step (service : ConnectionService) :
    Conduct (Timed ServiceCall) (Timed.Answer ServiceCall.Answer) ServiceStage where
  | identified {user token validation tokenId} (valid : validation.isValid = true)
      (named : validation.tokenId.filter (fun id : String => !id.isEmpty) = some tokenId) :
      Step service (.identifying user token)
        (told (.identity (.validateToken token user)) (.ok validation)) (.profiling user tokenId)
  | unidentified {user token given fault} :
      Step service (.identifying user token) (told (.identity (.validateToken token user)) given)
        (.finished (.connected (.error fault)))
  | admitted {user tokenId profile} (authorized : profile.isAuthorized = true) :
      Step service (.profiling user tokenId) (told (.identity (.getUser user)) (.ok profile))
        (.locking ⟨user, tokenId, profile⟩)
  | turnedAway {user tokenId given fault} :
      Step service (.profiling user tokenId) (told (.identity (.getUser user)) given)
        (.finished (.connected (.error fault)))
  | locked {admission} :
      Step service (.locking admission) (told (.lockUser admission.user) (.ok ()))
        (.looking admission)
  | unlockable {admission fault} :
      Step service (.locking admission) (told (.lockUser admission.user) (.error fault))
        (.finished (.connected (.error (.ofStore fault))))
  | resumed {admission session} (kept : session.status.acceptsReconnect = true) :
      Step service (.looking admission)
        (told (.store (.activeSession admission.user)) (.ok (some session)))
        (.unlocking admission.user
          (.ok (service.responseTo admission session ConnectResponse.reconnectMessage)))
  | absent {admission found}
      (none : found.filter (fun session : Session => session.status.acceptsReconnect) = none) :
      Step service (.looking admission) (told (.store (.activeSession admission.user)) (.ok found))
        (.creating admission)
  | unseen {admission fault} :
      Step service (.looking admission)
        (told (.store (.activeSession admission.user)) (.error fault))
        (.unlocking admission.user (.error (.ofStore fault)))
  | created {admission session} :
      Step service (.creating admission)
        (told (.store (.create admission.user admission.tokenId)) (.ok session))
        (.timing admission session)
  | outrun {admission reason} :
      Step service (.creating admission)
        (told (.store (.create admission.user admission.tokenId)) (.error (.conflict reason)))
        (.unlocking admission.user (.error (.connectInProgress admission.user)))
  | uncreated {admission fault} :
      Step service (.creating admission)
        (told (.store (.create admission.user admission.tokenId)) (.error fault))
        (.unlocking admission.user (.error (.ofStore fault)))
  | timed {admission session deadline} :
      Step service (.timing admission session)
        (told (.momentAfter service.settings.provisionTimeout) deadline)
        (.settingUp admission session deadline)
  | setUp {admission session deadline} :
      Step service (.settingUp admission session deadline)
        (inTime deadline (service.setUpOf session admission.user) (.ok ()))
        (.announcing admission session deadline)
  | setUpFailed {admission session deadline fault} :
      Step service (.settingUp admission session deadline)
        (inTime deadline (service.setUpOf session admission.user) (.error fault))
        (.tearingDown admission session (.broker fault))
  | setUpCut {admission session deadline} :
      Step service (.settingUp admission session deadline)
        (tooLate deadline (service.setUpOf session admission.user))
        (.tearingDown admission session (.provisionTimeout service.settings.provisionTimeout))
  | announced {admission session deadline} :
      Step service (.announcing admission session deadline)
        (inTime deadline (service.announcementOf session admission.profile) (.ok ()))
        (.unlocking admission.user
          (.ok (service.responseTo admission session ConnectResponse.newSessionMessage)))
  | announcementFailed {admission session deadline fault} :
      Step service (.announcing admission session deadline)
        (inTime deadline (service.announcementOf session admission.profile) (.error fault))
        (.tearingDown admission session (.broker fault))
  | announcementCut {admission session deadline} :
      Step service (.announcing admission session deadline)
        (tooLate deadline (service.announcementOf session admission.profile))
        (.tearingDown admission session (.provisionTimeout service.settings.provisionTimeout))
  | tornDown {admission session fault given} :
      Step service (.tearingDown admission session fault)
        (told (.topology (.tearDown session.user)) given) (.discarding admission session fault)
  | discarded {admission session fault given} :
      Step service (.discarding admission session fault) (told (.store (.delete session.id)) given)
        (.unlocking admission.user (.error fault))
  | unlocked {user result} :
      Step service (.unlocking user result) (told (.unlockUser user) ())
        (.finished (.connected result))
  | ended {id target session} :
      Step service (.ending id target) (told (.store (.transition id target)) (.ok session))
        (.dismantling id target session)
  | unended {id target fault} :
      Step service (.ending id target) (told (.store (.transition id target)) (.error fault))
        (.finished (.changed (.error (.ofStore fault))))
  | dismantled {id session given} :
      Step service (.dismantling id .completed session)
        (told (.topology (.tearDown session.user)) given) (.disbarring id session)
  | timedOut {id session given} :
      Step service (.dismantling id .timeout session)
        (told (.topology (.tearDown session.user)) given)
        (.finished (.changed (.ok (.transitioned id .timeout))))
  | disbarred {id session} (nonempty : session.tokenId.isEmpty = false) :
      Step service (.disbarring id session)
        (told (.identity (.revokeAuthorization session.user)) (.ok ())) (.revoking id session)
  | tokenless {id session} (empty : session.tokenId.isEmpty = true) :
      Step service (.disbarring id session)
        (told (.identity (.revokeAuthorization session.user)) (.ok ()))
        (.finished (.changed (.ok (.transitioned id .completed))))
  | undisbarred {id session fault} :
      Step service (.disbarring id session)
        (told (.identity (.revokeAuthorization session.user)) (.error fault))
        (.finished (.changed (.error (.identity fault))))
  | revoked {id session} :
      Step service (.revoking id session)
        (told (.identity (.revokeToken session.user session.tokenId)) (.ok ()))
        (.finished (.changed (.ok (.transitioned id .completed))))
  | unrevoked {id session fault} :
      Step service (.revoking id session)
        (told (.identity (.revokeToken session.user session.tokenId)) (.error fault))
        (.finished (.changed (.error (.identity fault))))
  | recorded {id status} :
      Step service (.recording id status) (told (.store (.setDispatcherStatus id status)) (.ok ()))
        (.finished (.changed (.ok (.dispatcher id status))))
  | unrecorded {id status fault} :
      Step service (.recording id status)
        (told (.store (.setDispatcherStatus id status)) (.error fault))
        (.finished (.changed (.error (.ofStore fault))))
  | read {id session} :
      Step service (.reading id) (told (.store (.session id)) (.ok session))
        (.finished (.found (.ok session)))
  | unread {id fault} :
      Step service (.reading id) (told (.store (.session id)) (.error fault))
        (.finished (.found (.error (.ofStore fault))))

/-- A request that has finished goes no further. -/
theorem Step.not_finished {service : ConnectionService} {outcome : ServiceOutcome}
    {exchange : ServiceExchange} {ahead : ServiceStage} :
    ¬ Step service (.finished outcome) exchange ahead :=
  -- No step leads from there.
  nofun

/-- What a request that has finished has come to. -/
def outcome? : ServiceStage → Option ServiceOutcome
  | .finished outcome => some outcome
  | _ => none

/-- A computation goes through the stages from a given one on: every answer to its question takes
both of them on, and when it is done, so is the stage. -/
def Tracks (service : ConnectionService) : ServiceStage → ServiceProgram ServiceOutcome → Prop
  | stage, .done outcome => stage = .finished outcome
  | stage, .ask wanted next =>
    -- A request that has finished asks nothing more.
    stage.outcome? = none ∧
      ∀ given, ∃ ahead, Step service stage ⟨wanted, given⟩ ahead ∧ Tracks service ahead (next given)

namespace Tracks

variable {service : ConnectionService} {admission : Admission} {session : Session}
  {fault : ConnectionError}

/-- A stage that has not finished waits for an answer, and each answer leads on. -/
theorem ask {stage : ServiceStage} {wanted : Timed ServiceCall}
    {next : wanted.Answer ServiceCall.Answer → ServiceProgram ServiceOutcome}
    (waits : stage.outcome? = none)
    (goes : ∀ given, ∃ ahead, Step service stage ⟨wanted, given⟩ ahead ∧
      Tracks service ahead (next given)) : Tracks service stage (.ask wanted next) :=
  -- The two hypotheses are what it means to track a stage.
  ⟨waits, goes⟩

/-- What stands under a deadline may be given up at its first question. -/
theorem askBefore {α : Type} {stage : ServiceStage} {deadline : Instant} {call : ServiceCall}
    {next : call.Answer → ServiceSteps α} {after : Option α → ServiceProgram ServiceOutcome}
    (waits : stage.outcome? = none)
    (goes : ∀ given, ∃ ahead, Step service stage (inTime deadline call given) ahead ∧
      Tracks service ahead (((next given).before deadline).bind after))
    (cut : ∃ ahead, Step service stage (tooLate deadline call) ahead ∧
      Tracks service ahead (after none)) :
    Tracks service stage (((Program.ask call next).before deadline).bind after) := by
  -- The question is answered in time, or given up.
  rw [Program.before_ask]
  refine ask waits fun given => ?_
  cases given with
  | none => exact cut
  | some given => exact goes given

section Connect

variable {after : Except ConnectionError ConnectResponse → ServiceProgram ServiceOutcome}

/-- Undoing goes through tearing down and discarding, and ends with the fault that led to it. -/
theorem rollBack
    (unlocks : Tracks service (.unlocking admission.user (.error fault)) (after (.error fault))) :
    Tracks service (.tearingDown admission session fault)
      (((ConnectionService.rollBack session).unhurried.bind fun _ => .done (.error fault)).bind
        after) := by
  -- The two calls are made whatever comes of them.
  refine ask rfl fun given => ⟨_, .tornDown, ?_⟩
  exact ask rfl fun given => ⟨_, .discarded, unlocks⟩

/-- Setting up and announcing succeed, fail or are given up. -/
theorem provision {deadline : Instant}
    {after : Option (Except ConnectionError Unit) → ServiceProgram ServiceOutcome}
    (succeeds : Tracks service (.unlocking admission.user
      (.ok (service.responseTo admission session ConnectResponse.newSessionMessage)))
      (after (some (.ok ()))))
    (fails : ∀ fault, Tracks service (.tearingDown admission session (.broker fault))
      (after (some (.error (.broker fault)))))
    (cut : Tracks service (.tearingDown admission session
      (.provisionTimeout service.settings.provisionTimeout)) (after none)) :
    Tracks service (.settingUp admission session deadline)
      (((service.provision session admission.profile
        (service.key.derive session.id admission.user)).before deadline).bind after) := by
  -- Each of the two questions succeeds, fails or is given up, which makes five ways on.
  refine askBefore rfl (fun given => ?_) ⟨_, .setUpCut, cut⟩
  match given with
  | .error fault => exact ⟨_, .setUpFailed, fails fault⟩
  | .ok () =>
    -- The announcement is asked only when the queues are set up.
    refine ⟨_, .setUp, askBefore rfl (fun given => ?_) ⟨_, .announcementCut, cut⟩⟩
    match given with
    | .error fault => exact ⟨_, .announcementFailed, fails fault⟩
    | .ok () => exact ⟨_, .announced, succeeds⟩

/-- A new session is provisioned, and undone if that fails. -/
theorem created
    (unlocks : ∀ result, Tracks service (.unlocking admission.user result) (after result)) :
    Tracks service (.timing admission session)
      (((service.provisionInTime session admission.profile
        (service.key.derive session.id admission.user)).bind fun
          | .ok () =>
            .done (.ok (service.responseTo admission session ConnectResponse.newSessionMessage))
          | .error fault =>
            (ConnectionService.rollBack session).unhurried.bind fun _ => .done (.error fault)).bind
        after) := by
  -- The time is asked for first; the rest goes through provisioning and, if that fails, through
  -- undoing.
  refine ask rfl fun deadline => ⟨_, .timed, ?_⟩
  show Tracks service _ (((((service.provision session admission.profile
    (service.key.derive session.id admission.user)).before deadline).bind _).bind _).bind after)
  rw [Program.bind_assoc, Program.bind_assoc]
  exact provision (unlocks _) (fun fault => rollBack (unlocks _)) (rollBack (unlocks _))

/-- Opening a session goes on from looking to unlocking. -/
theorem openSession
    (unlocks : ∀ result, Tracks service (.unlocking admission.user result) (after result)) :
    Tracks service (.looking admission) ((service.openSession admission).bind after) := by
  refine ask rfl fun given => ?_
  match given with
  | .error fault => exact ⟨_, .unseen, unlocks _⟩
  | .ok found =>
    dsimp only [Program.bind]
    cases kept : found.filter fun session : Session => session.status.acceptsReconnect with
    -- A session that accepts the client is resumed, and any other find counts as none.
    | some session =>
      obtain ⟨rfl, accepts⟩ := Option.filter_eq_some_iff.mp kept
      exact ⟨_, .resumed accepts, unlocks _⟩
    | none =>
      -- Without one a session is created, which may be refused.
      refine ⟨_, .absent kept, ask rfl fun given => ?_⟩
      match given with
      | .ok session => exact ⟨_, .created, created unlocks⟩
      | .error fault =>
        -- A conflict alone is told in words of its own.
        cases fault with
        | conflict reason => exact ⟨_, .outrun, unlocks _⟩
        | notFound _ | notInProgress _ _ | corrupt _ | database _ =>
          exact ⟨_, .uncreated, unlocks _⟩

/-- Connecting an admitted client goes on from locking to the end. -/
theorem connectLocked
    (ends : ∀ result, Tracks service (.finished (.connected result)) (after result)) :
    Tracks service (.locking admission) ((service.connectLocked admission).bind after) := by
  -- The lock is taken or refused, and once it is taken it is given up in the end.
  refine ask rfl fun given => ?_
  match given with
  | .error fault => exact ⟨_, .unlockable, ends _⟩
  | .ok () =>
    refine ⟨_, .locked, ?_⟩
    show Tracks service _ (((service.openSession admission).bind _).bind after)
    rw [Program.bind_assoc]
    exact openSession fun result => ask rfl fun given => ⟨_, .unlocked, ends _⟩

end Connect

/-- A client is admitted, or the request ends. -/
theorem authenticate {user : UserId} {token : String}
    {after : Except ConnectionError Admission → ServiceProgram ServiceOutcome}
    (admits : ∀ admission : Admission, admission.user = user →
      Tracks service (.locking admission) (after (.ok admission)))
    (ends : ∀ fault, Tracks service (.finished (.connected (.error fault)))
      (after (.error fault))) :
    Tracks service (.identifying user token)
      ((ConnectionService.authenticate user token).unhurried.bind after) := by
  -- The token must be valid and identified, and the profile authorized.
  refine ask rfl fun given => ?_
  match given with
  | .error fault => exact ⟨_, .unidentified, ends _⟩
  | .ok validation =>
    dsimp only [Program.bind]
    cases valid : validation.isValid with
    | false => exact ⟨_, .unidentified, ends _⟩
    | true =>
      -- An empty identifier is as good as none.
      cases named : validation.tokenId.filter fun id : String => !id.isEmpty with
      | none => exact ⟨_, .unidentified, ends _⟩
      | some tokenId =>
        refine ⟨_, .identified valid named, ask rfl fun given => ?_⟩
        match given with
        | .error fault => exact ⟨_, .turnedAway, ends _⟩
        | .ok profile =>
          dsimp only [Program.bind]
          cases authorized : profile.isAuthorized with
          | false => exact ⟨_, .turnedAway, ends _⟩
          | true => exact ⟨_, .admitted authorized, admits _ rfl⟩

end Tracks

/-- The stage at which a request starts; one that is not fit to be served has finished. -/
def start : ServiceRequest → ServiceStage
  | .connect user token =>
    match ConnectionService.parseRequest user token with
    | .ok user => .identifying user token
    | .error fault => .finished (.connected (.error fault))
  | .complete id => .ending id .completed
  | .timeOut id => .ending id .timeout
  | .setDispatcherStatus id status =>
    -- A report that is all blank is none.
    if (Text.trim status).isEmpty then
      .finished (.changed (.error (.validation "status is required")))
    else .recording id (Text.trim status)
  | .get id => .reading id

/-- What holds wherever a request may start holds at its start: the request is refused, or it waits
for the identity service or for the store. -/
theorem start_holds (holds : ServiceStage → Prop)
    (identifying : ∀ user token, holds (.identifying user token))
    (refused : ∀ fault, holds (.finished (.connected (.error fault))))
    (ending : ∀ id target, holds (.ending id target))
    (unreported : ∀ fault, holds (.finished (.changed (.error fault))))
    (recording : ∀ id status, holds (.recording id status))
    (reading : ∀ id, holds (.reading id)) (request : ServiceRequest) : holds (start request) := by
  -- Each kind of request has one start, but for those that may be refused at once.
  cases request with
  -- A connect whose texts are no request is finished before it starts.
  | connect user token =>
    simp only [start]
    split
    · exact identifying _ _
    · exact refused _
  -- Both ends go through the same stages, and differ in their target.
  | complete id | timeOut id => exact ending _ _
  | setDispatcherStatus id status =>
    simp only [start]
    split
    · exact unreported _
    · exact recording _ _
  | get id => exact reading _

/-- Every request goes through the stages from its start on. -/
theorem start_tracks (service : ConnectionService) (request : ServiceRequest) :
    Tracks service (start request) (request.program service) := by
  -- For each kind of request the stages are gone through in the order of its questions.
  cases request with
  | connect user token =>
    simp only [start, ServiceRequest.program, ConnectionService.connect]
    cases ConnectionService.parseRequest user token with
    | error fault => rfl
    | ok user =>
      -- Authentication comes first, and what is done under the lock follows it.
      show Tracks service _ (((ConnectionService.authenticate user token).unhurried.bind _).bind _)
      rw [Program.bind_assoc]
      exact Tracks.authenticate (fun admission _ => Tracks.connectLocked fun result => rfl)
        fun fault => rfl
  | complete id =>
    refine Tracks.ask rfl fun given => ?_
    match given with
    | .error fault => exact ⟨_, .unended, rfl⟩
    | .ok session =>
      -- The teardown is answered without a failure, so it always leads on.
      refine ⟨_, .ended, Tracks.ask rfl fun given => ⟨_, .dismantled, ?_⟩⟩
      refine Tracks.ask rfl fun given => ?_
      match given with
      | .error fault => exact ⟨_, .undisbarred, rfl⟩
      | .ok () =>
        dsimp only [Program.bind]
        -- Only a token that is there is revoked.
        cases empty : session.tokenId.isEmpty with
        | true => exact ⟨_, .tokenless empty, rfl⟩
        | false =>
          refine ⟨_, .disbarred empty, Tracks.ask rfl fun given => ?_⟩
          match given with
          | .error fault => exact ⟨_, .unrevoked, rfl⟩
          | .ok () => exact ⟨_, .revoked, rfl⟩
  -- A session that timed out is torn down, and nothing is revoked for it.
  | timeOut id =>
    refine Tracks.ask rfl fun given => ?_
    match given with
    | .error fault => exact ⟨_, .unended, rfl⟩
    | .ok session => exact ⟨_, .ended, Tracks.ask rfl fun given => ⟨_, .timedOut, rfl⟩⟩
  | setDispatcherStatus id status =>
    simp only [start, ServiceRequest.program, ConnectionService.setDispatcherStatus]
    -- A blank report is refused, and no store is asked.
    cases empty : (Text.trim status).isEmpty with
    | true => rfl
    | false =>
      refine Tracks.ask rfl fun given => ?_
      match given with
      | .error fault => exact ⟨_, .unrecorded, rfl⟩
      | .ok () => exact ⟨_, .recorded, rfl⟩
  | get id =>
    refine Tracks.ask rfl fun given => ?_
    match given with
    | .error fault => exact ⟨_, .unread, rfl⟩
    | .ok session => exact ⟨_, .read, rfl⟩

/-- Whatever takes a computation on takes its stage on, too. -/
theorem tracks_follow (service : ConnectionService) (program : ServiceProgram ServiceOutcome)
    (exchange : ServiceExchange) (rest : ServiceProgram ServiceOutcome) (stage : ServiceStage)
    (tracks : Tracks service stage program) (goes : Program.Turn program exchange rest) :
    ∃ ahead, Step service stage exchange ahead ∧ Tracks service ahead rest := by
  -- Every turn is the answer to a question, and each answer leads on.
  cases goes with
  | ask wanted next given => exact tracks.2 given

section Courses

variable {σ : Type} {env : Surroundings (Timed ServiceCall) (Timed.Answer ServiceCall.Answer) σ}
  {service : ConnectionService} {state final : σ} {log : List ServiceExchange}

/-- The turns of a computation are steps of its stage. -/
theorem course_of_turns {program rest : ServiceProgram ServiceOutcome} {stage : ServiceStage}
    (course : Course env Program.Turn program state log rest final)
    (tracks : Tracks service stage program) :
    ∃ ahead, Course env (Step service) stage state log ahead final ∧ Tracks service ahead rest :=
  -- Whatever a turn leads to still tracks a stage.
  course.follow (fun program stage => Tracks service stage program) (tracks_follow service) tracks

/-- The turns of a request are steps from its first stage on. -/
theorem course_of_start {request : ServiceRequest} {rest : ServiceProgram ServiceOutcome}
    (course : Course env Program.Turn (request.program service) state log rest final) :
    ∃ ahead, Course env (Step service) (start request) state log ahead final ∧
      Tracks service ahead rest :=
  -- The request tracks its first stage.
  course_of_turns course (start_tracks service request)

/-- What is carried through from a stage on ends at the stage of its outcome. -/
theorem course_of_runs {program : ServiceProgram ServiceOutcome} {stage : ServiceStage}
    {outcome : ServiceOutcome} (ran : program.Runs env state log outcome final)
    (tracks : Tracks service stage program) :
    Course env (Step service) stage state log (.finished outcome) final := by
  -- The value of the program is the outcome of the last stage.
  obtain ⟨ahead, course, tracks⟩ := course_of_turns ran tracks
  rw [← show ahead = .finished outcome from tracks]
  exact course

end Courses

end ServiceStage

end SessionGate
