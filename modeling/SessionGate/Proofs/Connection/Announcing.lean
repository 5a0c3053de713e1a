import SessionGate.Proofs.Connection.Admitting
import SessionGate.Proofs.Connection.Notification
import SessionGate.Proofs.Connection.Records

/-! Every session is announced once at most: after it was set up, and before anybody is told of
it. -/

namespace SessionGate

open ServiceExchange

namespace ServiceExchange

/-- Where and what a question is to publish. -/
def published? (exchange : ServiceExchange) : Option (String × String) :=
  match exchange.wanted.wanted with
  | .publish name body => some (name, body)
  | _ => none

/-- The session that a question is to announce, whatever becomes of the question. -/
def announces? (exchange : ServiceExchange) : Option SessionId :=
  exchange.published?.bind fun sent => (ConnectionNotification.read? sent.2).map (·.session)

/-- A question announces only by what it publishes. -/
theorem published_of_announces {exchange : ServiceExchange} {id : SessionId}
    (announces : exchange.announces? = some id) : exchange.published? ≠ none := by
  -- What publishes nothing cannot announce.
  intro silent
  rw [announces?, silent] at announces
  cases announces

variable {service : ConnectionService} {session : Session} {profile : UserProfile}
  {exchange : ServiceExchange}

/-- The order to announce a session goes to the exchange in the settings, and tells the session. -/
theorem published?_announcement
    (wanted : exchange.wanted.wanted = service.announcementOf session profile) :
    exchange.published? = some (service.settings.notificationExchange,
      (ConnectionService.notification session profile).toJson.render) := by
  -- The order is to publish, and names the exchange and the body.
  rw [published?, wanted]

/-- The order to announce a session announces this session. -/
theorem announces?_announcement
    (wanted : exchange.wanted.wanted = service.announcementOf session profile) :
    exchange.announces? = some session.id := by
  -- The body is the document of the notification, which is read back as it was.
  rw [announces?, published?_announcement wanted, Option.bind_some,
    ConnectionNotification.read?_render]
  rfl

end ServiceExchange

namespace ServiceStage

variable {service : ConnectionService} {stage ahead : ServiceStage} {exchange : ServiceExchange}
  {admission : Admission} {session : Session} {response : ConnectResponse}
  {log : List ServiceExchange}

/-- The session that may still be announced at a stage. -/
def upcoming? : ServiceStage → Option Session
  | .timing _ session | .settingUp _ session _ | .announcing _ session _ => some session
  | _ => none

/-- Nothing was published. -/
def Silent (log : List ServiceExchange) : Prop := ∀ exchange ∈ log, exchange.published? = none

/-- A session was made for a client whose profile had been told. -/
def Opened (admission : Admission) (session : Session) (log : List ServiceExchange) : Prop :=
  profiled admission.user (.ok admission.profile) ∈ log ∧
    told (.store (.create admission.user admission.tokenId)) (.ok session) ∈ log

/-- A session was announced with success. -/
def Announced (id : SessionId) (log : List ServiceExchange) : Prop :=
  ∃ deadline name body, inTime deadline (.publish name body) (.ok ()) ∈ log ∧
    (inTime deadline (.publish name body) (.ok ())).announces? = some id

/-- A client that is told of a new session has had it announced, and one that comes back has
published nothing. -/
def Entitled (response : ConnectResponse) (log : List ServiceExchange) : Prop :=
  (response.message = ConnectResponse.newSessionMessage → Announced response.session log) ∧
    (response.message = ConnectResponse.reconnectMessage → Silent log)

/-- What has been exchanged by the time a request stands at a stage. -/
def Attests (service : ConnectionService) (log : List ServiceExchange) : ServiceStage → Prop
  | .locking admission | .looking admission | .creating admission =>
    Silent log ∧ profiled admission.user (.ok admission.profile) ∈ log
  | .timing admission session | .settingUp admission session _ =>
    Silent log ∧ Opened admission session log
  | .announcing admission session _ =>
    Silent log ∧ Opened admission session log ∧
      ∃ deadline, inTime deadline (service.setUpOf session admission.user) (.ok ()) ∈ log
  | .unlocking _ (.ok response) | .finished (.connected (.ok response)) => Entitled response log
  | .tearingDown _ _ _ | .discarding _ _ _ | .unlocking _ (.error _) | .finished _ => True
  | .identifying _ _ | .profiling _ _ | .ending _ _ | .dismantling _ _ _ | .disbarring _ _
  | .revoking _ _ | .recording _ _ | .reading _ => Silent log

/-- What publishes nothing adds to the silence. -/
theorem Silent.snoc (silent : Silent log) (quiet : exchange.published? = none) :
    Silent (log ++ [exchange]) := by
  -- The entry is an earlier one, or the last one that is silent.
  intro other member
  rcases List.mem_append.mp member with earlier | last
  · exact silent other earlier
  · rw [List.mem_singleton.mp last]
    exact quiet

/-- What was opened stays so. -/
theorem Opened.snoc (opened : Opened admission session log) (exchange : ServiceExchange) :
    Opened admission session (log ++ [exchange]) :=
  -- Both entries stay in the log.
  ⟨List.mem_append_left _ opened.1, List.mem_append_left _ opened.2⟩

/-- What was announced stays so. -/
theorem Announced.snoc {id : SessionId} (announced : Announced id log)
    (exchange : ServiceExchange) : Announced id (log ++ [exchange]) := by
  -- The entry stays in the log.
  obtain ⟨deadline, name, body, member, told⟩ := announced
  exact ⟨deadline, name, body, List.mem_append_left _ member, told⟩

/-- The messages for a new session and for one that a client comes back to are different. -/
theorem newSession_ne_reconnect :
    ConnectResponse.newSessionMessage ≠ ConnectResponse.reconnectMessage := by
  -- The two texts are compared.
  decide

/-- At its start a request has exchanged nothing. -/
theorem start_attests (request : ServiceRequest) : (start request).Attests service [] := by
  -- Nothing has been exchanged, so nothing was published, and no stage attests more at the start.
  have silent : Silent [] := List.forall_mem_nil _
  exact start_holds (Attests service []) (fun _ _ => silent) (fun _ => trivial)
    (fun _ _ => silent) (fun _ => trivial) (fun _ _ => silent) (fun _ => silent) request

/-- What has been exchanged leads from stage to stage: a session is made after its client's profile
was told, it is set up after it was made, and announced after it was set up. -/
theorem Step.attests (step : Step service stage exchange ahead)
    (attests : stage.Attests service log) : ahead.Attests service (log ++ [exchange]) := by
  have last : exchange ∈ log ++ [exchange] := List.mem_append_right _ List.mem_cons_self
  -- What was exchanged before stays, and the new exchange is what the next stage adds to it.
  cases step with
  | admitted => exact ⟨attests.snoc rfl, last⟩
  | locked | absent => exact ⟨attests.1.snoc rfl, List.mem_append_left _ attests.2⟩
  | created => exact ⟨attests.1.snoc rfl, List.mem_append_left _ attests.2, last⟩
  | timed => exact ⟨attests.1.snoc rfl, attests.2.snoc _⟩
  | @setUp admission session deadline =>
    exact ⟨attests.1.snoc rfl, attests.2.snoc _, deadline, last⟩
  | @resumed admission session =>
    exact ⟨fun message => absurd message.symm newSession_ne_reconnect,
      fun _ => attests.1.snoc rfl⟩
  | @announced admission session deadline =>
    -- The call that was just answered is the one that the response relies on.
    exact ⟨fun _ => ⟨deadline, _, _, last, announces?_announcement rfl⟩,
      fun message => absurd message newSession_ne_reconnect⟩
  | @unlocked user result =>
    cases result with
    | error fault => trivial
    | ok response =>
      exact ⟨fun message => (attests.1 message).snoc _, fun message => (attests.2 message).snoc rfl⟩
  | identified | ended | dismantled | disbarred => exact attests.snoc rfl
  | _ => trivial

/-- A step publishes nothing but the announcement of a session that has been set up. -/
theorem Step.publishing (step : Step service stage exchange ahead)
    (sent : exchange.published? ≠ none) :
    ∃ admission session deadline, stage = .announcing admission session deadline ∧
      exchange.wanted.wanted = service.announcementOf session admission.profile := by
  -- All three ways in which an announcement may go leave from one stage.
  cases step with
  | announced | announcementFailed | announcementCut => exact ⟨_, _, _, rfl, rfl⟩
  | _ => exact absurd rfl sent

/-- Whoever may still announce a session holds the lock of the client that it was made for. -/
theorem Attests.upcoming (attests : stage.Attests service log)
    (upcoming : stage.upcoming? = some session) :
    ∃ admission, stage.holds = some admission.user ∧ Silent log ∧ Opened admission session log := by
  -- Only the stages between the making of a session and its announcement have one to announce.
  cases stage with
  | timing admission other | settingUp admission other deadline =>
    cases upcoming
    exact ⟨admission, rfl, attests⟩
  | announcing admission other deadline =>
    cases upcoming
    exact ⟨admission, rfl, attests.1, attests.2.1⟩
  | _ => cases upcoming

/-- At its start a request has no session that may be announced. -/
theorem start_upcoming (request : ServiceRequest) : (start request).upcoming? = none := by
  -- No request starts between the making of a session and its announcement.
  refine start_holds (fun stage => stage.upcoming? = none) ?_ ?_ ?_ ?_ ?_ ?_ request <;>
    · intros
      rfl

/-- Once there is a response, nothing is announced any more. -/
theorem upcoming_of_response (given : stage.response? = some response) :
    stage.upcoming? = none := by
  -- A response is there only when the lock is being given up, or after that.
  cases stage with
  | unlocking | finished => rfl
  | _ => cases given

variable {M : Type} {manager : TopologyManager M} {fails : StoreCall → Prop}
  {before after : Backing M}

/-- A step makes a session under a fresh identifier, or it brings no session into the table and
none that may still be announced. -/
theorem Step.making_cases (step : Step service stage exchange ahead)
    (answered : Backing.answers manager fails exchange.wanted before exchange.given after)
    (sound : before.table.Sound before.spent) :
    (∃ admission session, stage = .creating admission ∧ ahead = .timing admission session ∧
      exchange = told (.store (.create admission.user admission.tokenId)) (.ok session) ∧
      session.user = admission.user ∧ session.id ∉ before.spent ∧
      after.spent = session.id :: before.spent ∧
      ∀ id owner, after.table.Has id owner →
        (session.id = id ∧ session.user = owner) ∨ before.table.Has id owner) ∨
    ((∀ user tokenId session, exchange ≠ told (.store (.create user tokenId)) (.ok session)) ∧
      (∀ session, ahead.upcoming? = some session → stage.upcoming? = some session) ∧
      after.spent = before.spent ∧
      ∀ id owner, after.table.Has id owner → before.table.Has id owner) := by
  -- Rows are changed and taken away by others, too, but they keep their identifiers and users.
  cases step with
  | created =>
    obtain ⟨unused, owner, -, -, rfl⟩ := StoreCall.Answered.created answered
    refine Or.inl ⟨_, _, rfl, rfl, rfl, owner, unused, rfl, fun id user has => ?_⟩
    exact (SessionTable.has_insert_new (sound.unknown unused)).mp has
  -- Whoever is told of a session, or of none, has only looked for it.
  | resumed | absent | unseen =>
    obtain ⟨rfl, -⟩ := StoreCall.Answered.activeSession answered
    exact Or.inr ⟨nofun, nofun, rfl, fun _ _ has => has⟩
  | outrun | uncreated =>
    cases StoreCall.Answered.uncreated answered
    refine Or.inr ⟨fun user tokenId session same => ?_, nofun, rfl, fun _ _ has => has⟩
    cases same
  | discarded =>
    rcases StoreCall.Answered.deleted answered with rfl | ⟨-, -, rfl⟩
    · exact Or.inr ⟨nofun, nofun, rfl, fun _ _ has => (SessionTable.has_erase.mp has).1⟩
    · exact Or.inr ⟨nofun, nofun, rfl, fun _ _ has => has⟩
  -- An end or a report replaces a row by one of the same identifier and user.
  | ended =>
    obtain ⟨old, member, same, owner, -, -, rfl⟩ := StoreCall.Answered.transitioned answered
    exact Or.inr ⟨nofun, nofun, rfl, fun _ _ has => (sound.has_insert member same owner).mp has⟩
  | unended =>
    cases StoreCall.Answered.untransitioned answered
    exact Or.inr ⟨nofun, nofun, rfl, fun _ _ has => has⟩
  | recorded | unrecorded =>
    rcases StoreCall.Answered.recorded answered with rfl | ⟨old, member, rfl⟩
    · exact Or.inr ⟨nofun, nofun, rfl, fun _ _ has => has⟩
    · refine Or.inr ⟨nofun, nofun, rfl, fun _ _ has => (sound.has_insert member ?_ ?_).mp has⟩
      · rfl
      · rfl
  | read | unread =>
    cases StoreCall.Answered.looked answered
    exact Or.inr ⟨nofun, nofun, rfl, fun _ _ has => has⟩
  | timed | setUp =>
    obtain ⟨table, spent⟩ := Backing.answers_store answered nofun
    exact Or.inr ⟨nofun, fun _ upcoming => upcoming, spent, fun _ _ has => table ▸ has⟩
  -- All other questions are none of the store's, which stays as it is.
  | _ =>
    obtain ⟨table, spent⟩ := Backing.answers_store answered nofun
    exact Or.inr ⟨nofun, nofun, spent, fun _ _ has => table ▸ has⟩

/-- Who has come to a response has had it before, comes back to a session found in the table, or
had the session in hand that it is told of. -/
theorem Step.response_cases (step : Step service stage exchange ahead)
    (answered : Backing.answers manager fails exchange.wanted before exchange.given after)
    (given : ahead.response? = some response) :
    stage.response? = some response ∨
      (∃ user, ∃ session : Session, stage.holds = some user ∧ stage.upcoming? = none ∧
        before.table.Has session.id user ∧ response.session = session.id) ∨
      ∃ session, stage.upcoming? = some session ∧ response.session = session.id := by
  -- A client is told of a session in two places, and the lock is given up behind both of them.
  cases step with
  | @resumed admission session =>
    obtain ⟨rfl, active⟩ := StoreCall.Answered.activeSession answered
    obtain ⟨member, owner, -⟩ := SessionTable.mem_of_active? (active _ rfl)
    cases given
    -- The session that is resumed stands in its row, under the lock that the task holds.
    exact Or.inr (Or.inl ⟨_, session, rfl, rfl, ⟨session, member, rfl, owner⟩, rfl⟩)
  | announced =>
    cases given
    -- The session that is announced was in the hands of the task until this turn.
    exact Or.inr (Or.inr ⟨_, rfl, rfl⟩)
  | @unlocked user result =>
    cases result with
    | ok other => exact Or.inl given
    | error fault => cases given
  | _ => cases given

end ServiceStage

namespace ServiceCrowd

open ServiceStage (Step holds response? upcoming? Attests)

variable {M : Type} {manager : TopologyManager M} {fails : StoreCall → Prop}
  {service : ConnectionService} {start : Backing M} {crowd : ServiceCrowd M} {task : Nat}
  {stage ahead : ServiceStage} {exchange : ServiceExchange} {after : Backing M}

/-- Every request has exchanged what its stage attests. -/
theorem attests_of_reached (reached : Reached manager fails service start crowd)
    (found : crowd.tasks[task]? = some stage) : stage.Attests service (crowd.heard task) := by
  -- The task's own path leads from its start to its stage, and every step keeps what is attested.
  obtain ⟨entry, admitted, path⟩ := (Crowd.Reached.path reached task).2 stage found
  obtain ⟨request, rfl⟩ := admitted
  exact path.tells (fun stage log => stage.Attests service log)
    (fun _ _ _ _ step attests => step.attests attests) (ServiceStage.start_attests request)

/-- What has come before a question that publishes: the profile of a user was told, a session was
made for this user, and it was set up. The question goes to the exchange in the settings, and what
it publishes tells of this session, this user and this profile. -/
def Due (service : ConnectionService) (earlier : List (Nat × ServiceExchange)) (task : Nat)
    (exchange : ServiceExchange) : Prop :=
  ∃ user tokenId profile deadline body, ∃ session : Session, session.user = user ∧
    (task, profiled user (.ok profile)) ∈ earlier ∧
    (task, told (.store (.create user tokenId)) (.ok session)) ∈ earlier ∧
    (task, inTime deadline (service.setUpOf session user) (.ok ())) ∈ earlier ∧
    exchange.published? = some (service.settings.notificationExchange, body) ∧
    ConnectionNotification.read? body = some
      ⟨user.text, session.id, profile.email, profile.inputsFormat, profile.outputsFormat,
        profile.modelType⟩

/-- An identifier has been given out, and nobody may announce its session any more. -/
def Past (crowd : ServiceCrowd M) (id : SessionId) : Prop :=
  id ∈ crowd.state.spent ∧
    ∀ task session, crowd.reading upcoming? task = some session → session.id ≠ id

/-- Sessions are made under identifiers of their own, and whoever was told of a session may rely on
nobody announcing it any more. -/
structure Heralding (service : ConnectionService) (crowd : ServiceCrowd M) : Prop where
  locks : Locks crowd
  sound : crowd.state.table.Sound crowd.state.spent
  made : ∀ task user tokenId session,
    (task, told (.store (.create user tokenId)) (.ok session)) ∈ crowd.log →
      session.user = user ∧ session.id ∈ crowd.state.spent ∧
        ∀ owner, crowd.state.table.Has session.id owner → owner = user
  alone : ∀ task other user owner tokenId token (first second : Session),
    (task, told (.store (.create user tokenId)) (.ok first)) ∈ crowd.log →
    (other, told (.store (.create owner token)) (.ok second)) ∈ crowd.log →
    first.id = second.id → task = other
  past : ∀ task response, crowd.reading response? task = some response →
    Past crowd response.session
  due : ∀ earlier task exchange later, crowd.log = earlier ++ (task, exchange) :: later →
    exchange.published? ≠ none → Due service earlier task exchange
  once : (crowd.log.filterMap fun entry => announces? entry.2).Nodup

namespace Heralding

variable {session : Session} {response : ConnectResponse}

/-- Whoever may still announce a session has had it made, and holds the lock of its user. -/
theorem inHand (heralding : Heralding service crowd)
    (reached : Reached manager fails service start crowd)
    (upcoming : crowd.reading upcoming? task = some session) :
    crowd.reading holds task = some session.user ∧ ∃ tokenId,
      (task, told (.store (.create session.user tokenId)) (.ok session)) ∈ crowd.log := by
  obtain ⟨stage, found, upcoming⟩ := Option.bind_eq_some_iff.mp upcoming
  obtain ⟨admission, holding, -, -, opened⟩ :=
    (attests_of_reached reached found).upcoming upcoming
  have logged := Crowd.mem_heard.mp opened
  -- The lock is that of the admitted client, who is the user of the session that was made.
  obtain ⟨owner, -⟩ := heralding.made _ _ _ _ logged
  rw [owner, Crowd.reading_of_found found]
  exact ⟨holding, admission.tokenId, logged⟩

/-- No two tasks may still announce the same session. -/
theorem apart (heralding : Heralding service crowd)
    (reached : Reached manager fails service start crowd) {other : Nat} {twin : Session}
    (one : crowd.reading upcoming? task = some session)
    (two : crowd.reading upcoming? other = some twin) (same : session.id = twin.id) :
    task = other := by
  -- Each of the two has made the session, and a session is made once.
  obtain ⟨-, tokenId, first⟩ := heralding.inHand reached one
  obtain ⟨-, token, second⟩ := heralding.inHand reached two
  exact heralding.alone _ _ _ _ _ _ _ _ first second same

/-- A turn keeps sessions under identifiers of their own. -/
theorem made_turn (heralding : Heralding service crowd) (step : Step service stage exchange ahead)
    (answered : Backing.answers manager fails exchange.wanted crowd.state exchange.given after)
    {maker : Nat} {user : UserId} {tokenId : String}
    (logged : (maker, told (.store (.create user tokenId)) (.ok session)) ∈
      crowd.log ++ [(task, exchange)]) :
    session.user = user ∧ session.id ∈ after.spent ∧
      ∀ owner, after.table.Has session.id owner → owner = user := by
  rcases step.making_cases answered heralding.sound with
    ⟨admission, fresh, -, -, rfl, owned, unused, spent, has⟩ | ⟨unmade, -, spent, has⟩
  · -- A session is made in this turn, or none is; the entry is an earlier one, or that of this
    -- turn.
    rcases List.mem_append.mp logged with early | now
    · obtain ⟨owner, known, only⟩ := heralding.made _ _ _ _ early
      refine ⟨owner, by simp [spent, known], fun other present => ?_⟩
      -- The identifier was given out for the earlier session, so what is made now has another.
      rcases has _ _ present with ⟨same, -⟩ | older
      · exact absurd (same ▸ known) unused
      · exact only other older
    · cases List.mem_singleton.mp now
      refine ⟨owned, by simp [spent], fun other present => ?_⟩
      rcases has _ _ present with ⟨-, rfl⟩ | older
      · exact owned
      · -- An identifier that was not given out belongs to no session.
        exact absurd (heralding.sound.mem_spent older) unused
  · -- A turn that makes no session leaves what was said of the sessions made before.
    rcases List.mem_append.mp logged with early | now
    · obtain ⟨owner, known, only⟩ := heralding.made _ _ _ _ early
      exact ⟨owner, by rw [spent]; exact known, fun other present => only other (has _ _ present)⟩
    · cases List.mem_singleton.mp now
      exact absurd rfl (unmade user tokenId session)

/-- A turn makes no session under the identifier of one that another task has made. -/
theorem alone_turn (heralding : Heralding service crowd) (step : Step service stage exchange ahead)
    (answered : Backing.answers manager fails exchange.wanted crowd.state exchange.given after)
    {maker other : Nat} {user owner : UserId} {tokenId token : String} {twin : Session}
    (one : (maker, told (.store (.create user tokenId)) (.ok session)) ∈
      crowd.log ++ [(task, exchange)])
    (two : (other, told (.store (.create owner token)) (.ok twin)) ∈
      crowd.log ++ [(task, exchange)]) (same : session.id = twin.id) : maker = other := by
  -- What is made in this turn has an identifier that had not been given out.
  have unused : ∀ maker user tokenId session,
      (maker, told (.store (.create user tokenId)) (.ok session)) = (task, exchange) →
        session.id ∉ crowd.state.spent := by
    intro maker user tokenId session equal
    cases equal
    rcases step.making_cases answered heralding.sound with
      ⟨admission, fresh, -, -, equal, -, unused, -⟩ | ⟨unmade, -⟩
    · cases equal
      exact unused
    · exact absurd rfl (unmade user tokenId session)
  -- Both makings may be early, or one or both of them that of this turn.
  rcases List.mem_append.mp one with early | now <;>
    rcases List.mem_append.mp two with prior | last
  · exact heralding.alone _ _ _ _ _ _ _ _ early prior same
  · have fresh := unused _ _ _ _ (List.mem_singleton.mp last)
    exact absurd (same ▸ (heralding.made _ _ _ _ early).2.1) fresh
  · have fresh := unused _ _ _ _ (List.mem_singleton.mp now)
    exact absurd (same ▸ (heralding.made _ _ _ _ prior).2.1) fresh
  · cases List.mem_singleton.mp now
    cases List.mem_singleton.mp last
    rfl

/-- A turn takes a session in hand only under a new identifier. -/
theorem past_turn (heralding : Heralding service crowd) (found : crowd.tasks[task]? = some stage)
    (step : Step service stage exchange ahead)
    (answered : Backing.answers manager fails exchange.wanted crowd.state exchange.given after)
    {id : SessionId} (spent : id ∈ crowd.state.spent)
    (others : ∀ other session, other ≠ task → crowd.reading upcoming? other = some session →
      session.id ≠ id)
    (own : ∀ session, ahead.upcoming? = some session → stage.upcoming? = some session →
      session.id ≠ id) :
    Past ⟨after, crowd.tasks.set task ahead, crowd.log ++ [(task, exchange)]⟩ id := by
  -- The turn makes a new session or leaves those in hand, and in either case the identifier is not
  -- among them.
  rcases step.making_cases answered heralding.sound with
    ⟨admission, fresh, -, rfl, -, -, unused, grown, -⟩ | ⟨-, kept, same, -⟩
  · refine ⟨by simp [grown, spent], fun other session upcoming => ?_⟩
    rw [Crowd.reading_turn found] at upcoming
    split at upcoming
    · cases upcoming
      exact fun equal => unused (equal ▸ spent)
    next elsewhere => exact others other session elsewhere upcoming
  · refine ⟨by rw [same]; exact spent, fun other session upcoming => ?_⟩
    rw [Crowd.reading_turn found] at upcoming
    split at upcoming
    · exact own session upcoming (kept session upcoming)
    next elsewhere => exact others other session elsewhere upcoming

/-- Whoever is told of a session in a turn is told of one that nobody may announce any more. -/
theorem told_turn (heralding : Heralding service crowd)
    (reached : Reached manager fails service start crowd)
    (found : crowd.tasks[task]? = some stage) (step : Step service stage exchange ahead)
    (answered : Backing.answers manager fails exchange.wanted crowd.state exchange.given after)
    {other : Nat}
    (given : Crowd.reading ⟨after, crowd.tasks.set task ahead, crowd.log ++ [(task, exchange)]⟩
      response? other = some response) :
    Past ⟨after, crowd.tasks.set task ahead, crowd.log ++ [(task, exchange)]⟩
      response.session := by
  -- Those who were told before are told of sessions that are past, and they stay so.
  have earlier : ∀ other, crowd.reading response? other = some response →
      Past ⟨after, crowd.tasks.set task ahead, crowd.log ++ [(task, exchange)]⟩
        response.session := by
    intro other given
    obtain ⟨spent, free⟩ := heralding.past other response given
    -- The others keep clear of a past session, and so must the task that takes the turn.
    refine heralding.past_turn found step answered spent (fun other session _ => free other session)
      fun session _ upcoming => ?_
    exact free task session ((Crowd.reading_of_found found).trans upcoming)
  by_cases mine : other = task
  case neg =>
    rw [Crowd.reading_turn found, if_neg mine] at given
    exact earlier other given
  rw [Crowd.reading_turn found, if_pos mine] at given
  have idle := ServiceStage.upcoming_of_response given
  rcases step.response_cases answered given with
    old | ⟨user, session, holding, -, has, named⟩ | ⟨session, upcoming, named⟩
  · exact earlier task ((Crowd.reading_of_found found).trans old)
  · -- Whoever might still announce the session would hold the lock that this task holds.
    refine heralding.past_turn found step answered ?_ ?_ (by simp [idle])
    · rw [named]
      exact heralding.sound.mem_spent has
    · intro another twin elsewhere upcoming same
      obtain ⟨owning, tokenId, logged⟩ := heralding.inHand reached upcoming
      obtain ⟨-, -, only⟩ := heralding.made _ _ _ _ logged
      rw [same, named] at only
      rw [← only user has] at owning
      exact elsewhere (heralding.locks.alone another task user owning
        ((Crowd.reading_of_found found).trans holding))
  · -- What the task announced itself nobody else has in hand.
    have held := (Crowd.reading_of_found found).trans upcoming
    obtain ⟨-, tokenId, logged⟩ := heralding.inHand reached held
    refine heralding.past_turn found step answered ?_ ?_ (by simp [idle])
    · rw [named]
      exact (heralding.made _ _ _ _ logged).2.1
    · intro another twin elsewhere others same
      exact elsewhere (heralding.apart reached others held (same.trans named))

/-- What is published in a turn is due. -/
theorem due_turn (heralding : Heralding service crowd)
    (reached : Reached manager fails service start crowd)
    (found : crowd.tasks[task]? = some stage) (step : Step service stage exchange ahead)
    (sent : exchange.published? ≠ none) : Due service crowd.log task exchange := by
  -- Only the announcing stage publishes, and it attests that the session was made and set up.
  obtain ⟨admission, session, deadline, rfl, wanted⟩ := step.publishing sent
  obtain ⟨-, ⟨told, made⟩, earlier, setUp⟩ := attests_of_reached reached found
  have logged := Crowd.mem_heard.mp made
  obtain ⟨owner, -⟩ := heralding.made _ _ _ _ logged
  refine ⟨admission.user, admission.tokenId, admission.profile, earlier, _, session, owner,
    Crowd.mem_heard.mp told, logged, Crowd.mem_heard.mp setUp, published?_announcement wanted, ?_⟩
  rw [ConnectionNotification.read?_render, ConnectionService.notification, owner]

/-- Whoever has announced a session has made it. -/
theorem maker (heralding : Heralding service crowd) {id : SessionId}
    (logged : (task, exchange) ∈ crowd.log) (announces : exchange.announces? = some id) :
    ∃ user tokenId, ∃ session : Session, session.id = id ∧
      (task, told (.store (.create user tokenId)) (.ok session)) ∈ crowd.log := by
  -- What was announced was due, so its session was made before by the same task.
  obtain ⟨earlier, later, split⟩ := List.append_of_mem logged
  obtain ⟨user, tokenId, profile, deadline, body, session, owner, -, made, -, published, read⟩ :=
    heralding.due earlier task exchange later split (published_of_announces announces)
  rw [announces?, published, Option.bind_some, read] at announces
  exact ⟨user, tokenId, session, Option.some.inj announces,
    split ▸ List.mem_append_left _ made⟩

/-- No turn announces a session again. -/
theorem once_turn (heralding : Heralding service crowd)
    (reached : Reached manager fails service start crowd)
    (found : crowd.tasks[task]? = some stage) (step : Step service stage exchange ahead) :
    ((crowd.log ++ [(task, exchange)]).filterMap fun entry => announces? entry.2).Nodup := by
  -- The list of announcements grows by that of this turn, if it announces anything.
  simp only [List.filterMap_append, List.filterMap_cons, List.filterMap_nil]
  cases announces : exchange.announces? with
  | none =>
    rw [List.append_nil]
    exact heralding.once
  | some id =>
    -- It would have to be announced already for an identifier to come twice.
    refine heralding.once.append (List.nodup_singleton id) ?_
    rw [List.disjoint_singleton]
    intro member
    obtain ⟨⟨other, sent⟩, logged, before⟩ := List.mem_filterMap.mp member
    obtain ⟨user, tokenId, twin, named, made⟩ := heralding.maker logged before
    obtain ⟨admission, session, deadline, rfl, wanted⟩ :=
      step.publishing (published_of_announces announces)
    obtain ⟨silent, ⟨-, opened⟩, -⟩ := attests_of_reached reached found
    cases (announces?_announcement wanted).symm.trans announces
    -- Who announced the session before has made it, and so it is the task that has been silent.
    cases heralding.alone _ _ _ _ _ _ _ _ made (Crowd.mem_heard.mp opened) named
    exact published_of_announces before (silent sent (Crowd.mem_heard.mpr logged))

/-- A turn keeps what is known of announcements. -/
theorem turn (heralding : Heralding service crowd)
    (reached : Reached manager fails service start crowd)
    (found : crowd.tasks[task]? = some stage) (step : Step service stage exchange ahead)
    (answered : Backing.answers manager fails exchange.wanted crowd.state exchange.given after) :
    Heralding service ⟨after, crowd.tasks.set task ahead, crowd.log ++ [(task, exchange)]⟩ where
  locks := heralding.locks.move (.turn found step answered)
  sound := Backing.answers_sound answered heralding.sound
  made _ _ _ _ logged := heralding.made_turn step answered logged
  alone _ _ _ _ _ _ _ _ one two same := heralding.alone_turn step answered one two same
  past _ _ given := heralding.told_turn reached found step answered given
  due earlier maker sending later split sent := by
    -- Only the last exchange is new.
    rcases List.eq_nil_or_concat later with rfl | ⟨before, last, rfl⟩
    · obtain ⟨rfl, same⟩ := List.append_inj' split rfl
      cases same
      exact heralding.due_turn reached found step sent
    · rw [List.concat_eq_append, ← List.cons_append, ← List.append_assoc] at split
      exact heralding.due earlier maker sending before (List.append_inj' split rfl).1 sent
  once := heralding.once_turn reached found step

/-- A newcomer has made no session and announces none. -/
theorem enter (heralding : Heralding service crowd) (request : ServiceRequest) :
    Heralding service { crowd with tasks := crowd.tasks ++ [ServiceStage.start request] } := by
  -- A newcomer has no answer and nothing to announce.
  obtain ⟨-, -, -, unanswered⟩ := ServiceStage.start_idle request
  refine { heralding with locks := heralding.locks.enter request, past := ?_ }
  intro task response given
  rw [Crowd.reading_enter unanswered] at given
  obtain ⟨spent, free⟩ := heralding.past task response given
  refine ⟨spent, fun other session upcoming => free other session ?_⟩
  rw [Crowd.reading_enter (ServiceStage.start_upcoming request)] at upcoming
  exact upcoming

/-- However requests take turns, sessions are made under identifiers of their own and announced once
at most. -/
theorem of_reached (empty : start.table = .empty)
    (reached : Reached manager fails service start crowd) : Heralding service crowd := by
  -- What tasks have heard is read off the way that led to the crowd, so the way is kept at hand.
  induction reached with
  | refl =>
    have sound : start.table.Sound start.spent := by
      rw [empty]
      exact .empty
    exact ⟨⟨nofun, nofun, nofun⟩, sound, nofun, nofun, nofun, by simp [Crowd.alone], .nil⟩
  | tail reached moved ih =>
    cases moved with
    | enter admitted =>
      obtain ⟨request, rfl⟩ := admitted
      exact ih.enter request
    | turn found step answered => exact ih.turn reached found step answered

end Heralding

end ServiceCrowd

section Programs

variable {M : Type} {manager : TopologyManager M} {fails : StoreCall → Prop}
  {service : ConnectionService} {start : Backing M} {task : Nat} {response : ConnectResponse}
  {crowd : Crowd (Timed ServiceCall) (Timed.Answer ServiceCall.Answer) (Backing M)
    (ServiceProgram ServiceOutcome)}

/-- Once a client was told of a session, the next turn does not announce it. -/
theorem ServiceCrowd.unannounced_turn (empty : start.table = .empty)
    (reached : Crowd.Reached (Backing.answers manager fails) Program.Turn
      (ServiceRequest.ServedBy service) start crowd)
    (done : crowd.tasks[task]? = some (.done (.connected (.ok response)))) {other : Nat}
    {program rest : ServiceProgram ServiceOutcome} {exchange : ServiceExchange}
    (found : crowd.tasks[other]? = some program) (goes : Program.Turn program exchange rest) :
    exchange.announces? ≠ some response.session := by
  intro announces
  obtain ⟨stages, reached, alike⟩ := stages_of_reached reached
  have heralding := Heralding.of_reached empty reached
  have ended := (done_iff_finished alike).mp done
  obtain ⟨-, free⟩ := heralding.past task response (Crowd.reading_of_found ended)
  -- Only a task that still has the session in hand could announce it.
  obtain ⟨stage, located, tracks⟩ := alike.task found
  obtain ⟨ahead, step, -⟩ := ServiceStage.tracks_follow service _ _ _ _ tracks goes
  obtain ⟨admission, session, deadline, rfl, wanted⟩ :=
    step.publishing (published_of_announces announces)
  have named := Option.some.inj ((announces?_announcement wanted).symm.trans announces)
  exact free other session (Crowd.reading_of_found located) named

/-- Once a client was told of a session, nothing announces it any more. -/
theorem ServiceCrowd.unannounced_of_told (empty : start.table = .empty)
    (reached : Crowd.Reached (Backing.answers manager fails) Program.Turn
      (ServiceRequest.ServedBy service) start crowd)
    (done : crowd.tasks[task]? = some (.done (.connected (.ok response))))
    {later : Crowd (Timed ServiceCall) (Timed.Answer ServiceCall.Answer) (Backing M)
      (ServiceProgram ServiceOutcome)}
    (moved : Relation.ReflTransGen (Crowd.Moves (Backing.answers manager fails) Program.Turn
      (ServiceRequest.ServedBy service)) crowd later) :
    ∃ more, later.log = crowd.log ++ more ∧
      ∀ entry ∈ more, announces? entry.2 ≠ some response.session := by
  -- The induction is on the moves behind the answer; each of them announces another session or
  -- none.
  induction moved with
  | refl => exact ⟨[], (List.append_nil _).symm, List.forall_mem_nil _⟩
  | @tail middle later earlier moved ih =>
    obtain ⟨more, grown, silent⟩ := ih
    -- What is done stays done, so the turn is one after the client was told.
    have still := Crowd.stays earlier done fun _ _ => Program.Turn.not_done
    cases moved with
    | enter => exact ⟨more, grown, silent⟩
    | @turn other program rest exchange state found goes answered =>
      refine ⟨more ++ [(other, exchange)], by simp [grown], fun entry member => ?_⟩
      rcases List.mem_append.mp member with before | now
      · exact silent entry before
      · rw [List.mem_singleton.mp now]
        exact unannounced_turn empty (reached.trans earlier) still found goes

/-- How sessions are announced: each of them once at most, in due order and to the exchange in the
settings; none once a client was told of it; each new one that a client is told of, with success;
and none by a task that comes back to a session or has set up none. -/
structure AnnouncedOnce (manager : TopologyManager M) (fails : StoreCall → Prop)
    (service : ConnectionService)
    (crowd : Crowd (Timed ServiceCall) (Timed.Answer ServiceCall.Answer) (Backing M)
      (ServiceProgram ServiceOutcome)) : Prop where
  once : (crowd.log.filterMap fun entry => announces? entry.2).Nodup
  due : ∀ earlier task exchange later, crowd.log = earlier ++ (task, exchange) :: later →
    exchange.published? ≠ none → ServiceCrowd.Due service earlier task exchange
  untold : ∀ (task : Nat) (response : ConnectResponse) later,
    crowd.tasks[task]? = some (.done (.connected (.ok response))) →
    Relation.ReflTransGen (Crowd.Moves (Backing.answers manager fails) Program.Turn
      (ServiceRequest.ServedBy service)) crowd later →
    ∃ more, later.log = crowd.log ++ more ∧
      ∀ entry ∈ more, announces? entry.2 ≠ some response.session
  succeeded : ∀ (task : Nat) (response : ConnectResponse),
    crowd.tasks[task]? = some (.done (.connected (.ok response))) →
    response.message = ConnectResponse.newSessionMessage →
    ServiceStage.Announced response.session (crowd.heard task)
  resumed : ∀ (task : Nat) (response : ConnectResponse),
    crowd.tasks[task]? = some (.done (.connected (.ok response))) →
    response.message = ConnectResponse.reconnectMessage → ServiceStage.Silent (crowd.heard task)
  unprepared : ∀ task, (∀ deadline user password,
      inTime deadline (.topology (.setUp user password)) (.ok ()) ∉ crowd.heard task) →
    ServiceStage.Silent (crowd.heard task)

/-- However requests take turns and whatever fails, sessions are announced once at most, after they
were set up and before a client is told of them. -/
theorem sessions_are_announced_once (empty : start.table = .empty)
    (reached : Crowd.Reached (Backing.answers manager fails) Program.Turn
      (ServiceRequest.ServedBy service) start crowd) :
    AnnouncedOnce manager fails service crowd := by
  -- The statement is about programs, and it is read from the stages that go alike with them.
  obtain ⟨stages, staged, alike⟩ := ServiceCrowd.stages_of_reached reached
  have heralding := ServiceCrowd.Heralding.of_reached empty staged
  -- A task has heard the same at its stage as in its program.
  have heard : ∀ task, stages.heard task = crowd.heard task := fun task => by
    rw [Crowd.heard, alike.log, Crowd.heard]
  have entitled : ∀ (task : Nat) (response : ConnectResponse),
      crowd.tasks[task]? = some (.done (.connected (.ok response))) →
      ServiceStage.Entitled response (crowd.heard task) := by
    intro task response done
    rw [← heard]
    exact ServiceCrowd.attests_of_reached staged ((ServiceCrowd.done_iff_finished alike).mp done)
  refine ⟨?_, ?_, ?_, ?_, ?_, ?_⟩
  · -- The first two parts are those of the invariant.
    rw [← alike.log]
    exact heralding.once
  · rw [← alike.log]
    exact heralding.due
  · exact fun task response later done moved =>
      ServiceCrowd.unannounced_of_told empty reached done moved
  · exact fun task response done => (entitled task response done).1
  · exact fun task response done => (entitled task response done).2
  · intro task unprepared exchange member
    -- What was published was due, so the task had set a session up.
    by_contra sent
    obtain ⟨earlier, later, split⟩ := List.append_of_mem (Crowd.mem_heard.mp member)
    rw [← alike.log] at split
    obtain ⟨user, tokenId, profile, deadline, body, session, -, -, -, setUp, -⟩ :=
      heralding.due earlier task exchange later split sent
    have logged : (task, inTime deadline (service.setUpOf session user) (.ok ())) ∈ crowd.log := by
      rw [← alike.log, split]
      exact List.mem_append_left _ setUp
    exact unprepared deadline _ _ (Crowd.mem_heard.mpr logged)

/-- Of two clients that connect as one user, the first has its session announced, and the second
announces nothing. -/
theorem second_connect_is_not_announced :
    ∃ (crowd : Crowd (Timed ServiceCall) (Timed.Answer ServiceCall.Answer) (Backing Management)
        (ServiceProgram ServiceOutcome)) (first second : ConnectResponse) (body : String)
      (earlier : List (Nat × ServiceExchange)) (exchange : ServiceExchange),
      crowd.tasks[0]? = some (.done (.connected (.ok first))) ∧
      crowd.tasks[1]? = some (.done (.connected (.ok second))) ∧
      second.session = first.session ∧
      exchange.published? = some (BrokerNames.connectionExchange, body) ∧
      exchange.announces? = some first.session ∧
      ServiceCrowd.Due ⟨.ofBytes [], .default⟩ earlier 0 exchange ∧
      ServiceStage.Silent (crowd.heard 1) := by
  -- Two clients connect as one user, one after the other, and all collaborators comply.
  -- One backing serves both programs, so the second finds the session of the first.
  let options : TopologyOptions := ⟨none, none⟩
  let service : ConnectionService := ⟨.ofBytes [], .default⟩
  let reply := Backing.complyTimed options (.ok ())
  let program := (ServiceRequest.connect "ada" "token").program service
  let between := (program.run reply Backing.untouched).2
  have failing : ∀ user tokenId, Backing.DeletesNothing (.create user tokenId) := fun _ _ => nofun
  have runs := Program.runs_run (Backing.complyTimed_answers options (.ok ()) failing) program
  have served : ServiceRequest.ServedBy service program := ⟨_, rfl⟩
  have reached := (Crowd.Reached.serve .refl served (runs Backing.untouched)).serve served
    (runs between)
  -- The first client is told of a new session, and the second of the same one.
  have opened : (program.run reply Backing.untouched).1.response?.map ConnectResponse.message =
      some ConnectResponse.newSessionMessage := by
    decide +kernel
  have resumed : (program.run reply between).1.response?.map ConnectResponse.message =
      some ConnectResponse.reconnectMessage := by
    decide +kernel
  have alike : (program.run reply between).1.response?.map ConnectResponse.session =
      (program.run reply Backing.untouched).1.response?.map ConnectResponse.session := by
    decide +kernel
  obtain ⟨first, told, created⟩ := Option.map_eq_some_iff.mp opened
  obtain ⟨second, again, found⟩ := Option.map_eq_some_iff.mp resumed
  rw [told, again] at alike
  rw [ServiceOutcome.response?_eq_some.mp told, ServiceOutcome.response?_eq_some.mp again]
    at reached
  -- The theorem says of the first client when it was told, and of the second that nothing was.
  have announced := sessions_are_announced_once rfl reached
  obtain ⟨deadline, name, body, member, named⟩ := announced.succeeded 0 first rfl created
  obtain ⟨earlier, later, split⟩ := List.append_of_mem (Crowd.mem_heard.mp member)
  have due := announced.due earlier 0 _ later split nofun
  obtain ⟨_, _, _, _, _, _, -, -, -, -, published, -⟩ := id due
  cases published
  exact ⟨_, first, second, _, earlier, _, rfl, rfl, Option.some.inj alike, rfl, named, due,
    announced.resumed 1 second rfl found⟩

end Programs

end SessionGate
