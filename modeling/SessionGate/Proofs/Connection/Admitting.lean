import Mathlib.Data.List.DropRight
import SessionGate.Proofs.Connection.Compliance
import SessionGate.Proofs.Program.Member

/-! Who is let in: nothing but the identity service is asked before a client has named a user and a
token, the token was found valid, and the user is authorized. -/

namespace SessionGate

open ServiceExchange

/-- Nothing but blank characters stands in a text. -/
def Text.AllBlank (text : String) : Prop := ∀ c ∈ text.toList, Text.isBlank c = true

/-- Nothing is left of a text without its blank ends just if it is all blank. -/
theorem Text.trim_isEmpty {text : String} : (Text.trim text).isEmpty = true ↔ AllBlank text := by
  -- Cutting at both ends leaves nothing just if the first cut does already.
  show (String.ofList (text.toList.dropWhile isBlank |>.rdropWhile isBlank)).isEmpty = true ↔ _
  rw [String.isEmpty_iff, String.ofList_eq_empty_iff, List.rdropWhile_eq_nil_iff,
    ← List.dropWhile_eq_nil_iff, List.dropWhile_idempotent, List.dropWhile_eq_nil_iff]
  rfl

/-- A user identifier has a character that is not blank. -/
theorem UserId.not_allBlank (user : UserId) : ¬ Text.AllBlank user.text := by
  -- An identifier is not empty, and none of its characters is a control character, let alone a
  -- blank.
  intro blank
  cases chars : user.text.toList with
  | nil =>
    have sound := user.sound
    simp [fault?, String.isEmpty_iff, ← String.toList_inj, chars] at sound
  | cons c rest =>
    have member : c ∈ user.text.toList := by simp [chars]
    have clean := user.clean member
    rw [blank c member] at clean
    cases clean

namespace ConnectionService

variable {name token : String} {user : UserId} {fault : ConnectionError}

/-- A request is fit to be served just if it names a user and has a token that is not all blank. -/
theorem parseRequest_eq_ok :
    parseRequest name token = .ok user ↔ UserId.parse name = .ok user ∧ ¬ Text.AllBlank token := by
  unfold parseRequest
  rw [← Text.trim_isEmpty]
  by_cases blank : Text.AllBlank name
  · -- A name that is all blank is no user identifier.
    rw [if_pos (Text.trim_isEmpty.mpr blank)]
    simp only [reduceCtorEq, false_iff, not_and]
    intro read
    exact absurd (UserId.text_of_parse read ▸ blank) user.not_allBlank
  · rw [if_neg (mt Text.trim_isEmpty.mp blank)]
    split
    next missing => simp [missing]
    next present =>
      cases read : UserId.parse name with
      | error fault => simp
      | ok other => simp [present]

/-- A request that is not fit to be served is told so. -/
theorem parseRequest_eq_error (refused : parseRequest name token = .error fault) :
    (∃ reason, fault = .validation reason) ∧
      ((∀ user, UserId.parse name ≠ .ok user) ∨ Text.AllBlank token) := by
  -- Three checks can refuse, and each tells a reason; what passes all three is parsed.
  refine ⟨?_, ?_⟩
  · unfold parseRequest at refused
    split at refused
    · exact ⟨_, (Except.error.inj refused).symm⟩
    · split at refused
      · exact ⟨_, (Except.error.inj refused).symm⟩
      · split at refused
        · cases refused
        · exact ⟨_, (Except.error.inj refused).symm⟩
  · by_cases blank : Text.AllBlank token
    · exact Or.inr blank
    · refine Or.inl fun user read => ?_
      rw [parseRequest_eq_ok.mpr ⟨read, blank⟩] at refused
      cases refused

/-- Who a client is and what it may do, the identity service is asked and nobody else. -/
theorem authenticate_inquires (user : UserId) (token : String) :
    (authenticate user token).Asks fun call => ∃ inquiry, call = .identity inquiry := by
  -- Both questions go to the identity service, and the second is asked only after the first went
  -- well.
  refine ⟨⟨_, rfl⟩, fun given => ?_⟩
  match given with
  | .error fault => trivial
  | .ok validation =>
    dsimp only [Program.bind]
    split
    · trivial
    · split
      · trivial
      · refine ⟨⟨_, rfl⟩, fun given => ?_⟩
        match given with
        | .error fault => trivial
        | .ok profile =>
          dsimp only [Program.bind]
          split
          · trivial
          · trivial

end ConnectionService

/-- A token was given to the identity service to be validated. -/
abbrev validated (token : String) (user : UserId)
    (given : (IdentityCall.validateToken token user).Answer) : ServiceExchange :=
  told (.identity (.validateToken token user)) given

/-- The identity service was asked about a user. -/
abbrev profiled (user : UserId) (given : (IdentityCall.getUser user).Answer) : ServiceExchange :=
  told (.identity (.getUser user)) given

/-- What lets a client in: it names a user and has a token, the token was found valid and can be
revoked later, and the user is authorized. -/
structure Cleared (name token : String) (validation : TokenValidation) (admission : Admission) :
    Prop where
  named : UserId.parse name = .ok admission.user
  present : ¬ Text.AllBlank token
  valid : validation.isValid = true
  identified : validation.tokenId = some admission.tokenId
  nonempty : admission.tokenId ≠ ""
  authorized : admission.profile.isAuthorized = true

/-- A client has been let in: it is cleared, and the identity service has told so at first. -/
def LetIn (name token : String) (admission : Admission) (log : List ServiceExchange) : Prop :=
  ∃ validation, Cleared name token validation admission ∧
    [validated token admission.user (.ok validation),
      profiled admission.user (.ok admission.profile)] <+: log

/-- What the identity service was asked and has answered when a client is turned away, and with what
fault. -/
inductive Refusal (name token : String) : List ServiceExchange → ConnectionError → Prop where
  | unfit {reason : String}
      (unfit : (∀ user, UserId.parse name ≠ .ok user) ∨ Text.AllBlank token) :
      Refusal name token [] (.validation reason)
  | unvalidated {user : UserId} {fault : IdentityError} (named : UserId.parse name = .ok user)
      (present : ¬ Text.AllBlank token) :
      Refusal name token [validated token user (.error fault)] (.identity fault)
  | invalid {user : UserId} {validation : TokenValidation} (named : UserId.parse name = .ok user)
      (present : ¬ Text.AllBlank token) (invalid : validation.isValid = false) :
      Refusal name token [validated token user (.ok validation)]
        (.unauthorized ("token is not valid for user " ++ user.text))
  | unidentified {user : UserId} {validation : TokenValidation}
      (named : UserId.parse name = .ok user) (present : ¬ Text.AllBlank token)
      (valid : validation.isValid = true)
      (unidentified : ∀ tokenId, validation.tokenId = some tokenId → tokenId = "") :
      Refusal name token [validated token user (.ok validation)]
        (.identity (.undecodable "token validation did not include a token_id"))
  | unknown {user : UserId} {validation : TokenValidation} {tokenId : String}
      {fault : IdentityError} (named : UserId.parse name = .ok user)
      (present : ¬ Text.AllBlank token) (valid : validation.isValid = true)
      (identified : validation.tokenId = some tokenId) (nonempty : tokenId ≠ "") :
      Refusal name token [validated token user (.ok validation), profiled user (.error fault)]
        (.identity fault)
  | forbidden {user : UserId} {validation : TokenValidation} {tokenId : String}
      {profile : UserProfile} (named : UserId.parse name = .ok user)
      (present : ¬ Text.AllBlank token) (valid : validation.isValid = true)
      (identified : validation.tokenId = some tokenId) (nonempty : tokenId ≠ "")
      (unauthorized : profile.isAuthorized = false) :
      Refusal name token [validated token user (.ok validation), profiled user (.ok profile)]
        (.forbidden ("user " ++ user.text ++ " is not authorized to connect"))

/-- What the identity service was asked and has answered when the next question is put to it. -/
inductive Inquiry (name token : String) : List ServiceExchange → IdentityCall → Prop where
  | validating {user : UserId} (named : UserId.parse name = .ok user)
      (present : ¬ Text.AllBlank token) : Inquiry name token [] (.validateToken token user)
  | profiling {user : UserId} {validation : TokenValidation} {tokenId : String}
      (named : UserId.parse name = .ok user) (present : ¬ Text.AllBlank token)
      (valid : validation.isValid = true) (identified : validation.tokenId = some tokenId)
      (nonempty : tokenId ≠ "") :
      Inquiry name token [validated token user (.ok validation)] (.getUser user)

section Courses

variable {σ : Type} {env : Surroundings (Timed ServiceCall) (Timed.Answer ServiceCall.Answer) σ}
  {service : ConnectionService} {name token : String} {state final : σ}
  {log : List ServiceExchange} {rest : ServiceProgram ServiceOutcome}

/-- However far a request to connect has come, the client was turned away, the identity service is
asked next, or the client was let in and the work goes on under the lock of its user. -/
theorem gate_of_course
    (course : Course env Program.Turn ((ServiceRequest.connect name token).program service) state
      log rest final) :
    (∃ fault, Refusal name token log fault ∧ rest = .done (.connected (.error fault))) ∨
      (∃ call next, Inquiry name token log call ∧ rest = .ask (.unhurried (.identity call)) next) ∨
      ∃ validation admission more first second stage, Cleared name token validation admission ∧
        log = validated token admission.user (.ok validation) ::
          profiled admission.user (.ok admission.profile) :: more ∧
        env (validated token admission.user (.ok validation)).wanted state (.ok validation) first ∧
        env (profiled admission.user (.ok admission.profile)).wanted first
          (.ok admission.profile) second ∧
        Course env (ServiceStage.Step service) (.locking admission) second more stage final ∧
        ServiceStage.Tracks service stage rest := by
  -- The cases follow the checks in their order: the text, the token, its identifier and the
  -- profile, each of which may end the request.
  simp only [ServiceRequest.program, ConnectionService.connect] at course
  -- A text that is no request ends it before anything is asked.
  cases parsed : ConnectionService.parseRequest name token with
  | error fault =>
    rw [parsed] at course
    obtain ⟨rfl, rfl, -⟩ := Program.turns_done.mp course
    obtain ⟨⟨reason, rfl⟩, unfit⟩ := ConnectionService.parseRequest_eq_error parsed
    exact Or.inl ⟨_, .unfit unfit, rfl⟩
  | ok user =>
    obtain ⟨named, present⟩ := ConnectionService.parseRequest_eq_ok.mp parsed
    rw [parsed] at course
    rcases Program.turns_ask.mp course with ⟨rfl, rfl, -⟩ | ⟨given, first, more, early, onward, rfl⟩
    · -- The validation has been asked for and not yet answered, or its answer is at hand.
      exact Or.inr (Or.inl ⟨_, _, .validating named present, rfl⟩)
    cases given with
    | error fault =>
      obtain ⟨rfl, rfl, -⟩ := Program.turns_done.mp onward
      exact Or.inl ⟨_, .unvalidated named present, rfl⟩
    | ok validation =>
      dsimp only [Program.bind] at onward
      -- The answer itself may say that the token is not valid.
      cases valid : validation.isValid with
      | false =>
        simp only [valid] at onward
        obtain ⟨rfl, rfl, -⟩ := Program.turns_done.mp onward
        exact Or.inl ⟨_, .invalid named present valid, rfl⟩
      | true =>
        -- An empty identifier counts as none.
        cases identified : validation.tokenId.filter fun id : String => !id.isEmpty with
        | none =>
          simp only [valid, identified] at onward
          obtain ⟨rfl, rfl, -⟩ := Program.turns_done.mp onward
          have empty : ∀ tokenId, validation.tokenId = some tokenId → tokenId = "" := by
            simpa [Option.filter_eq_none_iff, String.isEmpty_iff] using identified
          exact Or.inl ⟨_, .unidentified named present valid empty, rfl⟩
        | some tokenId =>
          have kept : validation.tokenId = some tokenId ∧ tokenId ≠ "" := by
            simpa [Option.filter_eq_some_iff, String.isEmpty_iff] using identified
          obtain ⟨known, nonempty⟩ := kept
          simp only [valid, identified] at onward
          rcases Program.turns_ask.mp onward with
            ⟨rfl, rfl, -⟩ | ⟨given, second, more, next, later, rfl⟩
          · exact Or.inr (Or.inl ⟨_, _, .profiling named present valid known nonempty, rfl⟩)
          cases given with
          | error fault =>
            obtain ⟨rfl, rfl, -⟩ := Program.turns_done.mp later
            exact Or.inl ⟨_, .unknown named present valid known nonempty, rfl⟩
          | ok profile =>
            dsimp only [Program.bind] at later
            -- What is known of the client decides last.
            cases authorized : profile.isAuthorized with
            | false =>
              simp only [authorized] at later
              obtain ⟨rfl, rfl, -⟩ := Program.turns_done.mp later
              exact Or.inl ⟨_, .forbidden named present valid known nonempty authorized, rfl⟩
            | true =>
              simp only [authorized] at later
              -- All checks are passed, and the rest of the run is that of a stage.
              obtain ⟨stage, steps, tracks⟩ := ServiceStage.course_of_turns
                (show Course env Program.Turn ((service.connectLocked ⟨user, tokenId, profile⟩).bind
                  fun result => .done (.connected result)) second more rest final from later)
                (ServiceStage.Tracks.connectLocked fun result => rfl)
              exact Or.inr (Or.inr ⟨validation, _, more, first, second, stage,
                ⟨named, present, valid, known, nonempty, authorized⟩, rfl, early, next, steps,
                tracks⟩)

/-- Once a client was let in, the work goes on under the lock of its user. -/
theorem course_of_cleared {validation : TokenValidation} {admission : Admission} {first second : σ}
    (cleared : Cleared name token validation admission)
    (vetted : env (validated token admission.user (.ok validation)).wanted state (.ok validation)
      first)
    (known : env (profiled admission.user (.ok admission.profile)).wanted first
      (.ok admission.profile) second)
    (onward : Course env Program.Turn ((service.connectLocked admission).bind fun result =>
      .done (.connected result)) second log rest final) :
    Course env Program.Turn ((ServiceRequest.connect name token).program service) state
      (validated token admission.user (.ok validation) ::
        profiled admission.user (.ok admission.profile) :: log) rest final := by
  -- Each check is passed for the reason given, so the request goes on to the next question.
  obtain ⟨user, tokenId, profile⟩ := admission
  have fit := ConnectionService.parseRequest_eq_ok.mpr ⟨cleared.named, cleared.present⟩
  -- The identifier is not empty, so the filter keeps it.
  have kept : validation.tokenId.filter (fun id : String => !id.isEmpty) = some tokenId := by
    rw [cleared.identified, Option.filter_some, if_pos]
    simpa [String.isEmpty_iff] using cleared.nonempty
  have authorized : profile.isAuthorized = true := cleared.authorized
  simp only [ServiceRequest.program, ConnectionService.connect, fit]
  -- The validation is answered first, the profile second, and the rest follows.
  refine Program.turns_ask.mpr (Or.inr ⟨.ok validation, first, _, vetted, ?_, rfl⟩)
  dsimp only [Program.bind]
  simp only [cleared.valid, kept]
  refine Program.turns_ask.mpr (Or.inr ⟨.ok profile, second, _, known, ?_, rfl⟩)
  dsimp only [Program.bind]
  simp only [authorized]
  exact onward

end Courses

/-- Whoever is turned away has caused questions to the identity service at most. -/
theorem Refusal.inquires {name token : String} {log : List ServiceExchange}
    {fault : ConnectionError} (refusal : Refusal name token log fault) :
    ∀ exchange ∈ log, ∃ call, exchange.wanted = .unhurried (.identity call) := by
  -- The log of each refusal is spelt out by its case.
  cases refusal with
  | unfit => exact nofun
  | unvalidated | invalid | unidentified => simp
  | unknown | forbidden => simp

/-- Who is turned away has not been let in. -/
theorem Refusal.not_letIn {name token : String} {log : List ServiceExchange}
    {fault : ConnectionError} {admission : Admission} (refusal : Refusal name token log fault) :
    ¬ LetIn name token admission log := by
  -- A refusal has fewer entries than being let in takes, or has one that tells of no authorization.
  rintro ⟨validation, cleared, rest, same⟩
  obtain ⟨user, tokenId, profile⟩ := admission
  cases refusal with
  | forbidden _ _ _ _ _ unauthorized =>
    cases same
    cases unauthorized.symm.trans cleared.authorized
  | _ => cases same

/-- Until a client is let in there are questions to the identity service at most. -/
theorem Inquiry.inquires {name token : String} {log : List ServiceExchange} {next : IdentityCall}
    (inquiry : Inquiry name token log next) :
    ∀ exchange ∈ log, ∃ call, exchange.wanted = .unhurried (.identity call) := by
  -- The log up to the question is spelt out by its case.
  cases inquiry with
  | validating => exact nofun
  | profiling => simp

namespace ServiceStage

/-- A request works for an admitted client. -/
def WorksFor (admission : Admission) : ServiceStage → Prop
  | .locking other | .looking other | .creating other | .timing other _ | .settingUp other _ _
  | .announcing other _ _ | .tearingDown other _ _ | .discarding other _ _ => other = admission
  | .unlocking user _ => user = admission.user
  | .finished (.connected _) => True
  | _ => False

variable {service : ConnectionService} {stage ahead : ServiceStage} {exchange : ServiceExchange}
  {admission : Admission}

/-- What a request that works for a client may ask of the session store. -/
def Needs (admission : Admission) : StoreCall → Prop
  | .activeSession user => user = admission.user
  | .create user tokenId => user = admission.user ∧ tokenId = admission.tokenId
  | .delete _ => True
  | .session _ | .setStatus _ _ | .complete _ | .transition _ _ | .setDispatcherStatus _ _
  | .ping => False

/-- A request goes on to work for the same client, and asks nothing of the store but what it needs
for this one. -/
theorem Step.works (step : Step service stage exchange ahead) (works : stage.WorksFor admission) :
    ahead.WorksFor admission ∧ ((∃ order given, exchange = told (.store order) given ∧
      Needs admission order) ∨ ∀ order, exchange.wanted.wanted ≠ .store order) := by
  -- Each step of a request that works for a client keeps the admission in its stage.
  cases step with
  -- A request that looks for a session looks for that of its own user.
  | resumed | absent | unseen =>
    cases works
    exact ⟨rfl, Or.inl ⟨_, _, rfl, rfl⟩⟩
  -- One that creates a session creates it for its user and its token.
  | created | outrun | uncreated =>
    cases works
    exact ⟨rfl, Or.inl ⟨_, _, rfl, rfl, rfl⟩⟩
  | discarded =>
    cases works
    exact ⟨rfl, Or.inl ⟨_, _, rfl, trivial⟩⟩
  | announced | announcementFailed | announcementCut | locked | timed | setUp | setUpFailed
  | setUpCut | tornDown =>
    cases works
    exact ⟨rfl, Or.inr nofun⟩
  -- At the end there is nothing left to work for.
  | unlockable | unlocked => exact ⟨trivial, Or.inr nofun⟩
  | _ => exact works.elim

variable {M : Type} {manager : TopologyManager M} {fails : StoreCall → Prop}
  {before after : Backing M}

/-- Sessions that come into a table by what a client needs are sessions of this client, opened with
its token. -/
theorem Needs.rows {order : StoreCall} {given : order.Answer} (needs : Needs admission order)
    (answered : order.Answered fails before given after) :
    ∀ row ∈ after.table.rows, row ∈ before.table.rows ∨
      row.user = admission.user ∧ row.tokenId = admission.tokenId := by
  -- The cases are the three calls that a client may need.
  intro row member
  rcases answered with ⟨fresh, table, -, performed, rfl⟩ | ⟨-, -, rfl⟩
  · match order with
    -- To look for a session adds no row.
    | .activeSession user =>
      cases performed
      exact Or.inl member
    | .create user tokenId =>
      obtain ⟨rfl, rfl⟩ := needs
      -- Only a creation that goes well adds a row, which carries the user and the token.
      match given with
      | .error fault =>
        obtain ⟨-, rfl⟩ := SessionTable.perform_create_error performed
        exact Or.inl member
      | .ok session =>
        obtain ⟨rfl, rfl, -⟩ := SessionTable.perform_create_ok performed
        rcases SessionTable.mem_insert.mp member with rfl | ⟨older, -⟩
        · exact Or.inr ⟨rfl, rfl⟩
        · exact Or.inl older
    | .delete id =>
      cases performed
      exact Or.inl (SessionTable.mem_erase.mp member).1
  · -- A call that is not carried out leaves the table as it is.
    exact Or.inl member

/-- Sessions that come into a table by a request that works for a client are sessions of this
client, opened with its token. -/
theorem rows_of_works {state final : Backing M} {log : List ServiceExchange} {last : ServiceStage}
    (course : Course (Backing.answers manager fails) (Step service) stage state log last final)
    (works : stage.WorksFor admission) :
    ∀ row ∈ final.table.rows, row ∈ state.table.rows ∨
      row.user = admission.user ∧ row.tokenId = admission.tokenId := by
  -- The invariant is that the request works for the client and every new row is the client's.
  refine (course.keeps (fun stage middle => stage.WorksFor admission ∧
    ∀ row ∈ middle.table.rows, row ∈ state.table.rows ∨
      row.user = admission.user ∧ row.tokenId = admission.tokenId) ?_
    ⟨works, fun row member => Or.inl member⟩).2
  intro stage exchange ahead before after step answered held
  obtain ⟨works, rows⟩ := held
  -- Each step needs one of the store's calls for the client, or it asks none of the store.
  obtain ⟨onward, needs | elsewhere⟩ := step.works works
  · obtain ⟨order, given, rfl, needs⟩ := needs
    refine ⟨onward, fun row member => ?_⟩
    rcases needs.rows answered row member with older | own
    · exact rows row older
    · exact Or.inr own
  · rw [(Backing.answers_store answered elsewhere).1]
    exact ⟨onward, rows⟩

/-- A request that works for a client has sessions made for this client alone, with its token. -/
theorem creations_of_works {σ : Type}
    {env : Surroundings (Timed ServiceCall) (Timed.Answer ServiceCall.Answer) σ} {state final : σ}
    {log : List ServiceExchange} {last : ServiceStage}
    (course : Course env (Step service) stage state log last final)
    (works : stage.WorksFor admission) {user : UserId} {tokenId : String}
    {given : (StoreCall.create user tokenId).Answer}
    (made : told (.store (.create user tokenId)) given ∈ log) :
    user = admission.user ∧ tokenId = admission.tokenId := by
  -- The invariant is about the stage and about the calls in the log.
  let holds : ServiceStage → List ServiceExchange → Prop := fun stage log =>
    stage.WorksFor admission ∧
      ∀ order given, told (.store order) given ∈ log → Needs admission order
  have first : holds stage [] := ⟨works, nofun⟩
  have held := course.tells holds ?_ first
  · exact held.2 _ _ made
  · intro stage log exchange ahead step held
    obtain ⟨works, needed⟩ := held
    -- What is logged in this step is needed, or is no call of the store.
    obtain ⟨onward, needs⟩ := step.works works
    refine ⟨onward, fun order given logged => ?_⟩
    rcases List.mem_append.mp logged with earlier | last
    · exact needed order given earlier
    · cases List.mem_singleton.mp last
      rcases needs with ⟨order, given, same, needs⟩ | elsewhere
      · cases same
        exact needs
      · exact absurd rfl (elsewhere order)

end ServiceStage

section Admission

variable {M : Type} {manager : TopologyManager M} {fails : StoreCall → Prop}
  {service : ConnectionService} {name token : String} {state final : Backing M}
  {log : List ServiceExchange} {rest : ServiceProgram ServiceOutcome}

/-- Questions to the identity service change nothing behind the connection service. -/
theorem unchanged_of_inquiries {Place : Type}
    {conduct : Conduct (Timed ServiceCall) (Timed.Answer ServiceCall.Answer) Place}
    {place last : Place}
    (course : Course (Backing.answers manager fails) conduct place state log last final)
    (only : ∀ exchange ∈ log, ∃ call, exchange.wanted = .unhurried (.identity call)) :
    final = state := by
  -- The induction is on the course, each question of which leaves the state alone.
  induction course with
  | rest => rfl
  | @step _ _ _ _ _ _ exchange _ goes answered _ ih =>
    rw [ih fun exchange member => only exchange (List.mem_cons_of_mem _ member)]
    obtain ⟨wanted, given⟩ := exchange
    obtain ⟨call, rfl⟩ := only _ List.mem_cons_self
    exact answered

/-- Of a request to connect, the store, the topology manager and the publisher hear nothing and
nothing of theirs changes unless the client is let in: it has named a user and a token, the token
was found valid and can be revoked later, and after that the user was found authorized. Otherwise
the client is turned away, or the identity service is asked next. Whoever is let in has sessions
made in its own name, and for that very token. -/
theorem only_cleared_clients_are_served
    (course : Course (Backing.answers manager fails) Program.Turn
      ((ServiceRequest.connect name token).program service) state log rest final) :
    (∃ validation admission more, Cleared name token validation admission ∧
      log = validated token admission.user (.ok validation) ::
        profiled admission.user (.ok admission.profile) :: more ∧
      (∀ user tokenId given, told (.store (.create user tokenId)) given ∈ more →
        user = admission.user ∧ tokenId = admission.tokenId) ∧
      ∀ row ∈ final.table.rows, row ∈ state.table.rows ∨
        row.user = admission.user ∧ row.tokenId = admission.tokenId) ∨
    final = state ∧ (∀ exchange ∈ log, ∃ call, exchange.wanted = .unhurried (.identity call)) ∧
      ((∃ fault, Refusal name token log fault ∧ rest = .done (.connected (.error fault))) ∨
        ∃ call next, Inquiry name token log call ∧ rest = .ask (.unhurried (.identity call)) next)
    := by
  rcases gate_of_course course with ⟨fault, refusal, rfl⟩ | ⟨call, next, inquiry, rfl⟩ | entered
  · -- Refused: the request has asked only the identity service.
    have only := refusal.inquires
    exact Or.inr ⟨unchanged_of_inquiries course only, only, Or.inl ⟨fault, refusal, rfl⟩⟩
  · -- Not yet cleared: it has asked no other either.
    have only := inquiry.inquires
    exact Or.inr ⟨unchanged_of_inquiries course only, only, Or.inr ⟨call, next, inquiry, rfl⟩⟩
  · obtain ⟨validation, admission, more, first, second, stage, cleared, rfl, one, two, steps, -⟩ :=
      entered
    -- The two answers of the identity service have left everything as it was.
    cases one
    cases two
    refine Or.inl ⟨validation, admission, more, cleared, rfl, fun user tokenId given made => ?_, ?_⟩
    · exact ServiceStage.creations_of_works steps rfl made
    · exact ServiceStage.rows_of_works steps rfl

/-- A client that the identity service vouches for gets a session for the identifier of its
token. -/
theorem session_of_cleared_client :
    ∃ (log : List ServiceExchange) (rest : ServiceProgram ServiceOutcome)
      (final : Backing Management) (validation : TokenValidation) (admission : Admission)
      (session : Session),
      Course (Backing.answers (Topology.manager ⟨none, none⟩) Backing.DeletesNothing) Program.Turn
        ((ServiceRequest.connect "ada" "token").program ⟨.ofBytes [], .default⟩) Backing.untouched
        log rest final ∧
      Cleared "ada" "token" validation admission ∧ session ∈ final.table.rows ∧
      session.user = admission.user ∧ session.tokenId = admission.tokenId := by
  -- The collaborators comply with the request of the client, and the table has a row in the end.
  let options : TopologyOptions := ⟨none, none⟩
  have failing : ∀ user tokenId, Backing.DeletesNothing (.create user tokenId) := fun _ _ => nofun
  have ran := Program.runs_run (Backing.complyTimed_answers options (.ok ()) failing)
    ((ServiceRequest.connect "ada" "token").program ⟨.ofBytes [], .default⟩) Backing.untouched
  have filled : ((((ServiceRequest.connect "ada" "token").program ⟨.ofBytes [], .default⟩).run
      (Backing.complyTimed options (.ok ())) Backing.untouched).2.table.rows.head?).isSome := by
    decide +kernel
  obtain ⟨session, first⟩ := Option.isSome_iff_exists.mp filled
  have member := List.mem_of_mem_head? first
  -- Where nothing has changed there is no row, so the client has been let in.
  rcases only_cleared_clients_are_served ran with
    ⟨validation, admission, more, cleared, -, -, rows⟩ | ⟨same, -⟩
  · rcases rows session member with older | ⟨owner, opened⟩
    · cases older
    · exact ⟨_, _, _, validation, admission, session, ran, cleared, member, owner, opened⟩
  · rw [same] at member
    cases member

end Admission

end SessionGate
