import SessionGate.Gateway.Basic
import SessionGate.Proofs.Connection.Compliance
import SessionGate.Proofs.Connection.Stage
import SessionGate.Proofs.Json.Documents
import SessionGate.Proofs.Program.Fixed
import SessionGate.Proofs.Program.Outcome

/-! Which errors of the gateway are told as problem documents, and which are not. -/

namespace SessionGate

/-- An answer whose body is a problem document that tells the status of the answer and a place. -/
structure Response.TellsProblem (response : Response) : Prop where
  media : response.headers.filter (fun header => header.1 == "content-type") =
    [("content-type", Problem.mediaType)]
  body : ∃ problem, Problem.shape.decode? Problem.ofJson? response.content.render = some problem ∧
    problem.status = response.status ∧ problem.instancePath ≠ ""

/-- The part of a path that names a session. -/
def Route.segment? : Route → Option String
  | .session segment | .complete segment | .timeOut segment | .dispatcherStatus segment =>
    some segment
  | .health | .ready | .connect => none

namespace Gateway

/-- Carries a request through to its answer, for a client that waits as long as it takes. -/
def answer (gateway : Gateway) (request : Request) : ServiceProgram Response :=
  (gateway.respond request).bind Handling.finish

/-- A client gets the answer to its request, or is told that it took too long. -/
inductive Answers (gateway : Gateway) (request : Request) {σ : Type}
    (env : Surroundings (Timed ServiceCall) (Timed.Answer ServiceCall.Answer) σ) (state : σ)
    (log : List ServiceExchange) : Response → Prop where
  | told {response : Response} {final : σ}
      (ran : (gateway.answer request).Runs env state log response final) :
      Answers gateway request env state log response
  | late {rest : ServiceProgram Response} {final : σ}
      (course : Course env Program.Turn (gateway.answer request) state log rest final) :
      Answers gateway request env state log .timedOut

/-- The statuses and bodies of errors that are told without a problem document, or in one that
does not tell a place. -/
inductive Exempt (gateway : Gateway) (request : Request) : Nat → Content → Prop where
  | late : Exempt gateway request 408 .empty
  | tooLong (refused : request.admittedLength? gateway.maxBodyBytes = none) :
      Exempt gateway request 413 (.text "length limit exceeded")
  | notServed {route : Route} (found : Route.ofPath? request.path = some route)
      (refused : route.serves request.method = false) : Exempt gateway request 405 .empty
  | unreadable {route : Route} {segment : String}
      (found : Route.ofPath? request.path = some route) (named : route.segment? = some segment)
      (unreadable : Text.ofUtf8? (Url.decode segment.toList) = none) :
      Exempt gateway request 400 unreadablePath.content
  | pathless (nowhere : request.path = "") :
      Exempt gateway request 404 (.problem (GatewayError.notFound "no such endpoint").toProblem)

/-- An error is told in a problem document, or it is exempt. -/
def Explains (gateway : Gateway) (request : Request) (response : Response) : Prop :=
  400 ≤ response.status →
    response.TellsProblem ∨ gateway.Exempt request response.status response.content

/-- What the places of the gateway answer: a document, a fault, or words where a request does not
get as far as to them. -/
inductive Told (request : Request) : Response → Prop where
  | document (value : Json) : Told request (.ofJson value)
  | fault (cause : GatewayError) (placed : request.path ≠ "") : Told request (.ofError cause)
  | nowhere (pathless : request.path = "") :
      Told request (.ofError (.notFound "no such endpoint"))
  | notServed {route : Route} (found : Route.ofPath? request.path = some route)
      (refused : route.serves request.method = false) : Told request .notServed
  | unreadable {route : Route} {segment : String}
      (found : Route.ofPath? request.path = some route) (named : route.segment? = some segment)
      (unreadable : Text.ofUtf8? (Url.decode segment.toList) = none) :
      Told request unreadablePath

end Gateway

/-- Whether a request is answered now or later, its answer has a property. -/
def Handling.Yields {α : Type} (good : α → Prop) : Handling α → Prop
  | .answered result => good result
  | .handedOff work => work.Yields good

/-- What a request is carried through to has the property. -/
theorem Handling.Yields.finish {α : Type} {good : α → Prop} {handling : Handling α}
    (yields : handling.Yields good) : handling.finish.Yields good := by
  -- The work handed off is what finishing carries out.
  cases handling with
  | answered result => exact yields
  | handedOff work => exact yields

/-- A change of answers that brings one property about from another does so for a request. -/
theorem Handling.Yields.map {α β : Type} {good : α → Prop} {better : β → Prop} {change : α → β}
    {handling : Handling α} (yields : handling.Yields good)
    (gives : ∀ result, good result → better (change result)) :
    (handling.map change).Yields better := by
  -- An answer is changed at once, and work handed off is changed when it comes to its answer.
  cases handling with
  | answered result => exact gives result yields
  | handedOff work => exact Program.Yields.bind yields gives

/-- A change that gives every answer a property gives it to what a request is answered. -/
theorem Handling.yields_map {α β : Type} {good : β → Prop} {change : α → β}
    (gives : ∀ result, good (change result)) (handling : Handling α) :
    (handling.map change).Yields good := by
  -- Whatever the work comes to, the change is made to it.
  cases handling with
  | answered result => exact gives result
  | handedOff work => exact (Program.Yields.trivial work).bind fun result _ => gives result

namespace Gateway

variable {gateway : Gateway} {request : Request} {longest : Nat} {route : Route}
  {segment : String}

/-- There is nothing at no path. -/
theorem ofPath?_empty : Route.ofPath? "" = none := by
  -- No place is found for the one segment that the empty path has.
  decide +kernel

/-- A request that goes to a place has a path. -/
theorem path_ne_empty (found : Route.ofPath? request.path = some route) : request.path ≠ "" := by
  -- The empty path leads to no place.
  intro nowhere
  rw [nowhere, ofPath?_empty] at found
  cases found

/-- An answer that is given while the client waits is one of its place. -/
theorem yields_answered {program : ServiceProgram Response}
    (tells : program.Yields (Told request)) :
    (Handling.answered <$> program).Yields (Handling.Yields (Told request)) :=
  -- What the program comes to is wrapped as an answer.
  tells.bind fun _ told => told

section Places

variable (found : Route.ofPath? request.path = some route)

include found

/-- What the connection service says is told as a document or as a fault. -/
theorem told_ofResult {α : Type} (toJson : α → Json) (result : Except ConnectionError α) :
    Told request (.ofResult toJson result) := by
  -- A result is told in its document, and a fault in its problem.
  cases result with
  | ok value => exact .document _
  | error fault => exact .fault _ (path_ne_empty found)

/-- Whatever is asked of the connection service, what it says is told. -/
theorem told_after {α : Type} (toJson : α → Json)
    (program : ServiceProgram (Except ConnectionError α)) :
    (program.bind fun result => .done (.ofResult toJson result)).Yields (Told request) :=
  -- Whatever is asked on the way, only the result is told.
  (Program.Yields.trivial program).bind fun result _ => told_ofResult found toJson result

/-- Where a session is named, the answer is that of the session's place, or says why there is
none. -/
theorem told_withSession (named : route.segment? = some segment)
    {answer : SessionId → ServiceProgram Response}
    (tells : ∀ session, (answer session).Yields (Told request)) :
    (withSession segment answer).Yields (Told request) := by
  -- The name is decoded first, then read as an identifier, and both can fail.
  unfold withSession
  split
  next unreadable => exact .unreadable found named unreadable
  next =>
    split
    next => exact .fault _ (path_ne_empty found)
    next => exact tells _

/-- What is asked of the connection service about a session is told as it says. -/
theorem told_withService {α : Type} (named : route.segment? = some segment) (toJson : α → Json)
    (steps : SessionId → ServiceSteps (Except ConnectionError α)) :
    (withService segment toJson steps).Yields (Told request) :=
  -- The steps depend on the session that the name stands for.
  told_withSession found named fun _ => told_after found toJson _

/-- The report of a dispatcher is taken, or refused with its fault. -/
theorem told_recordReport (session : SessionId) :
    (recordReport request longest session).Yields (Told request) := by
  -- The report is read from the body before anything is asked.
  unfold recordReport
  split
  next => exact .fault _ (path_ne_empty found)
  next report _ =>
    generalize (ConnectionService.setDispatcherStatus session report.status).unhurried = recording
    exact told_after found StatusResponse.toJson recording

/-- A client is connected, or refused with a fault. -/
theorem told_connect :
    (gateway.connect request longest).Yields (Handling.Yields (Told request)) := by
  -- The credentials are read from the body before anything is asked.
  unfold connect
  split
  next => exact Told.fault _ (path_ne_empty found)
  next wanted _ =>
    generalize gateway.service.connect wanted.user wanted.token = connecting
    exact (Program.Yields.trivial connecting).bind fun handling _ =>
      Handling.yields_map (told_ofResult found ConnectResponse.toJson) handling

/-- Every place answers with a document or a fault. -/
theorem told_serve :
    (gateway.serve request longest route).Yields (Handling.Yields (Told request)) := by
  -- Each place is told for itself, and only a connect may be handed off.
  cases route with
  | health => exact .document _
  | ready =>
    refine yields_answered ((Program.Yields.trivial _).bind fun result _ => ?_)
    cases result with
    | ok _ => exact .document _
    | error _ => exact .fault _ (path_ne_empty found)
  | connect => exact told_connect found
  | session segment => exact yields_answered (told_withService found rfl _ _)
  | complete segment => exact yields_answered (told_withService found rfl _ _)
  | timeOut segment => exact yields_answered (told_withService found rfl _ _)
  | dispatcherStatus segment =>
    exact yields_answered (told_withSession found rfl (told_recordReport found))

end Places

/-- What is answered at the place of a request is told by this place, if there is one. -/
theorem told_dispatch :
    (gateway.dispatch request longest (Route.ofPath? request.path)).Yields
      (Handling.Yields (Told request)) := by
  -- The place is looked up first, then whether it serves the method.
  unfold dispatch
  split
  next nowhere =>
    by_cases pathless : request.path = ""
    · exact Told.nowhere pathless
    · exact Told.fault _ pathless
  next route found =>
    split
    next => exact told_serve found
    next refused => exact Told.notServed found (Bool.eq_false_iff.mpr refused)

/-- Every fault is told with a status of three digits. -/
theorem status_le (fault : GatewayError) : fault.status ≤ 999 := by
  -- Only a remote problem states a status of its own, and it is kept only in the range of statuses.
  cases fault with
  | rejected problem =>
    rw [GatewayError.status]
    split
    next known =>
      simp only [GatewayError.isStatus, Bool.and_eq_true, decide_eq_true_eq] at known
      exact known.2
    next => decide
  | _ => exact Nat.le_of_ble_eq_true rfl

/-- The problem of a fault tells the status of the answer. -/
theorem toProblem_status (fault : GatewayError) : fault.toProblem.status = fault.status := by
  -- Each fault builds its problem with its own status.
  cases fault <;> rfl

/-- None of the headers about other pages is the media type. -/
theorem filter_headers (policy : OriginPolicy) (request : Request) :
    (policy.headers request).filter (fun header => header.1 == "content-type") = [] := by
  -- The headers are about origins whether or not the origin is admitted.
  rw [OriginPolicy.headers]
  cases policy.admitted? request <;> rfl

/-- The header about the methods of a place is not the media type. -/
theorem filter_allow (place : Option Route) :
    ((place.map fun place : Route => ("allow", place.allow)).toList).filter
      (fun header => header.1 == "content-type") = [] := by
  -- There is at most one header, and it is named for the methods.
  cases place <;> rfl

/-- A fault is told in a problem document, and the place in it is that of the request if the fault
tells none. -/
theorem locate_ofError (fault : GatewayError) (path : String) :
    ∃ problem : Problem, problem.status = fault.status ∧
      (problem.instancePath = "" → path = "") ∧
      (Response.ofError fault).locate path =
        ⟨fault.status, [("content-type", Problem.mediaType)], .problem problem⟩ := by
  -- The place is filled in only if the fault told none, which the two cases set apart.
  rw [Response.locate]
  cases missing : fault.toProblem.instancePath.isEmpty with
  | true =>
    refine ⟨fault.toProblem.withInstance path, toProblem_status fault, id, ?_⟩
    simp only [Response.ofError, Response.make, missing, if_true]
    rfl
  | false =>
    refine ⟨fault.toProblem, toProblem_status fault, fun empty => ?_, ?_⟩
    · rw [empty] at missing
      cases missing
    · simp only [Response.ofError, Response.make, missing, Bool.false_eq_true, if_false]
      rfl

/-- What is answered under a place keeps its status and its body, and gets no second media type. -/
theorem frame_eq (get : request.method ≠ "HEAD") (place : Option Route) (response : Response) :
    ∃ more, more.filter (fun header => header.1 == "content-type") = [] ∧
      frame request place response = response.withHeaders more := by
  -- The method is not HEAD, so the body stays, and only the header about methods is added.
  rw [frame, if_neg get]
  exact ⟨_, filter_allow _, rfl⟩

/-- What the places answer is told, if it is an error, in a problem document, or it is exempt. -/
theorem explains_frame (get : request.method ≠ "HEAD") {response : Response}
    (told : Told request response) (place : Option Route) :
    gateway.Explains request (frame request place
      ((response.locate request.path).withHeaders (gateway.origins.headers request))) := by
  obtain ⟨more, bare, framed⟩ := frame_eq get place
    ((response.locate request.path).withHeaders (gateway.origins.headers request))
  rw [framed]
  intro failed
  -- The answer is a success, one of the exempt ones, or a fault, and only a fault is told in a
  -- problem document.
  cases told with
  | document value =>
    have succeeded : (400 : Nat) ≤ 200 := failed
    exact absurd succeeded (by decide)
  | notServed found refused => exact .inr (.notServed found refused)
  | unreadable found named unreadable => exact .inr (.unreadable found named unreadable)
  | nowhere pathless =>
    rw [pathless]
    exact .inr (.pathless pathless)
  | fault cause placed =>
    obtain ⟨problem, status, located, same⟩ := locate_ofError cause request.path
    have half : problem.status ≤ 65535 := by
      have three := status_le cause
      omega
    rw [same]
    refine .inl ⟨?_, problem, Problem.decode?_render half, status, fun empty => ?_⟩
    · show ((_ :: gateway.origins.headers request) ++ more).filter _ = _
      rw [List.filter_append, bare, List.filter_cons_of_pos (by rfl), filter_headers]
      rfl
    · exact placed (located empty)

/-- An error that is told without a problem document, or without a place, tells no problem. -/
theorem Exempt.not_tellsProblem {response : Response}
    (exempt : gateway.Exempt request response.status response.content) :
    ¬ response.TellsProblem := by
  intro tells
  obtain ⟨problem, decoded, -, placed⟩ := tells.body
  generalize response.status = status, response.content = content at exempt decoded
  have nothing : Problem.shape.decode? Problem.ofJson? "" = none := rfl
  have tooLong : Problem.shape.decode? Problem.ofJson? "length limit exceeded" = none := by decide +kernel
  have words : Problem.shape.decode? Problem.ofJson? unreadablePath.content.render = none := by decide +kernel
  have bounded : (GatewayError.notFound "no such endpoint").toProblem.status ≤ 65535 := by decide
  cases exempt with
  | late | notServed => cases nothing.symm.trans decoded
  | tooLong => cases tooLong.symm.trans decoded
  | unreadable => cases words.symm.trans decoded
  | pathless =>
    -- This one is a problem document, but it tells no place.
    cases (Problem.decode?_render bounded).symm.trans decoded
    exact placed rfl

/-- Whatever a request is carried through to is, if it is an error, told in a problem document, or
exempt. -/
theorem yields_explains (get : request.method ≠ "HEAD") :
    (gateway.answer request).Yields (gateway.Explains request) := by
  -- The response is framed at last, whatever it is, so the cases are those of how it comes about.
  refine Program.Yields.bind ?_ fun handling yields => Handling.Yields.finish yields
  unfold respond
  split
  -- A body that is too large is refused before it is read.
  next refused =>
    obtain ⟨more, -, framed⟩ := frame_eq get (Route.ofPath? request.path) .tooLarge
    show gateway.Explains request (frame request _ .tooLarge)
    rw [framed]
    exact fun _ => .inr (.tooLong refused)
  next longest _ =>
    split
    next =>
      -- A question about what pages may ask is always answered with success.
      obtain ⟨more, -, framed⟩ := frame_eq get (Route.ofPath? request.path)
        ((Response.make 200 .empty).withHeaders
          (gateway.origins.headers request ++ OriginPolicy.preflightHeaders))
      show gateway.Explains request (frame request _ _)
      rw [framed]
      intro failed
      have succeeded : (400 : Nat) ≤ 200 := failed
      exact absurd succeeded (by decide)
    -- What is left is dispatched, and each place tells its errors as problems unless it is exempt.
    next =>
      exact Program.Yields.bind told_dispatch fun handling yields =>
        Handling.Yields.map yields fun response told => explains_frame get told _

variable {σ : Type} {env : Surroundings (Timed ServiceCall) (Timed.Answer ServiceCall.Answer) σ}
  {state : σ} {log : List ServiceExchange} {response : Response}

/-- An error is told in a problem document, with the status of the answer and the place of the
request, except for a request that is late or too long, to a place that does not serve its method,
of which the path cannot be read, or that has no path. -/
theorem errors_are_problems_unless_exempt (get : request.method ≠ "HEAD")
    (answered : gateway.Answers request env state log response) (failed : 400 ≤ response.status) :
    response.TellsProblem ↔ ¬ gateway.Exempt request response.status response.content := by
  -- Nothing exempt is such a document, and everything else was shown to be one.
  constructor
  · exact fun tells exempt => exempt.not_tellsProblem tells
  · intro ordinary
    refine Or.resolve_right ?_ ordinary
    cases answered with
    | told ran => exact (yields_explains get).of_runs ran failed
    | late => exact .inr .late

/-- A gateway that anyone's pages may ask, with bodies of up to a megabyte. -/
def ofAnyone : Gateway := ⟨⟨.ofBytes [], .default⟩, .anyone, 1048576⟩

/-- A request to read what is at a target. -/
def reading (target : String) : Request := ⟨"GET", target, [], []⟩

/-- An answer to a request to read, with what is told at every place. -/
def shown (target : String) (place : Option Route) (response : Response) : Response :=
  frame (reading target) place
    ((response.locate target).withHeaders (ofAnyone.origins.headers (reading target)))

/-- What is told at every place changes neither the status of an answer nor words in it. -/
theorem shown_eq (target : String) (place : Option Route) (response : Response) :
    (shown target place response).status = response.status ∧
      (shown target place response).content = (response.locate target).content := by
  have get : (reading target).method ≠ "HEAD" := by
    show "GET" ≠ "HEAD"
    decide
  -- The headers are put around the answer, so only the place in its problem may change.
  obtain ⟨more, -, framed⟩ := frame_eq get place
    ((response.locate target).withHeaders (ofAnyone.origins.headers (reading target)))
  rw [shown, framed]
  refine ⟨?_, rfl⟩
  show (response.locate target).status = response.status
  rw [Response.locate]
  split
  · split <;> rfl
  · rfl

/-- A request to read a path is answered with what is told at its place. -/
theorem answers_reading {target : String} {place : Option Route}
    (path : (reading target).path = target) (found : Route.ofPath? target = place)
    (told : ofAnyone.dispatch (reading target) 1048576 place = .done (.answered response)) :
    ofAnyone.Answers (reading target) env state [] (shown target place response) := by
  -- The request is short enough, asks for no permission, and goes to the place whose answer is
  -- known.
  have admitted : (reading target).admittedLength? ofAnyone.maxBodyBytes = some 1048576 := rfl
  have plain : ¬ (reading target).method = "OPTIONS" := by
    show ¬ "GET" = "OPTIONS"
    decide
  have ran : ofAnyone.answer (reading target) = .done (shown target place response) := by
    rw [answer, respond]
    simp only [admitted, if_neg plain, path, found, told]
    rfl
  refine .told (?_ : (ofAnyone.answer (reading target)).Runs env state [] _ state)
  rw [ran]
  exact .rest _ _

/-- Collaborators that do what they are asked. -/
abbrev helpful : Surroundings (Timed ServiceCall) (Timed.Answer ServiceCall.Answer)
    (Backing Management) :=
  .of (Backing.complyTimed ⟨none, none⟩ (.ok ()))

/-- There is no place at this path. -/
theorem ofPath?_nowhere : Route.ofPath? "/nowhere" = none := by
  -- No place has this name.
  decide +kernel

/-- The path goes to where it says. -/
theorem path_nowhere : (reading "/nowhere").path = "/nowhere" := by
  -- Nothing in the path is an escape, so it is told as it was sent.
  decide +kernel

/-- Where there is no place, this is told in a problem document with the path. -/
theorem unknown_place_is_told_in_problem :
    "GET" ≠ "HEAD" ∧
    ofAnyone.Answers (reading "/nowhere") helpful .untouched []
      (shown "/nowhere" none (.ofError (.notFound "no such endpoint"))) ∧
    (shown "/nowhere" none (.ofError (.notFound "no such endpoint"))).status = 404 ∧
    (shown "/nowhere" none (.ofError (.notFound "no such endpoint"))).TellsProblem := by
  have get : "GET" ≠ "HEAD" := by decide
  -- No place has this path, and the answer says so.
  have answered : ofAnyone.Answers (reading "/nowhere") helpful .untouched []
      (shown "/nowhere" none (.ofError (.notFound "no such endpoint"))) :=
    answers_reading path_nowhere ofPath?_nowhere rfl
  have status := (shown_eq "/nowhere" none (.ofError (.notFound "no such endpoint"))).1
  have failed : 400 ≤ (shown "/nowhere" none (.ofError (.notFound "no such endpoint"))).status := by
    rw [status]
    decide
  refine ⟨get, answered, status,
    (errors_are_problems_unless_exempt get answered failed).mpr fun exempt => ?_⟩
  rw [status] at exempt
  -- Of what is exempt only a request without a path has this status.
  generalize (shown "/nowhere" none (.ofError (.notFound "no such endpoint"))).content =
    content at exempt
  cases exempt with
  | pathless nowhere =>
    rw [path_nowhere] at nowhere
    exact absurd nowhere (by decide)

/-- The path goes to a session whose name cannot be read. -/
theorem ofPath?_unreadable : Route.ofPath? "/sessions/%FF" = some (.session "%FF") := by
  -- The path has the form of a session's, whatever stands for the session.
  decide +kernel

/-- The path is told with its escapes. -/
theorem path_unreadable : (reading "/sessions/%FF").path = "/sessions/%FF" := by
  -- The escape stays in the path and is decoded only at the place.
  decide +kernel

/-- Without its escapes the name is no text. -/
theorem unreadable_name : Text.ofUtf8? (Url.decode "%FF".toList) = none := by
  -- The byte 255 occurs in no text.
  decide +kernel

/-- A path whose escapes stand for no text is an error that is told in words. -/
theorem unreadable_path_is_told_in_words :
    ofAnyone.Answers (reading "/sessions/%FF") helpful .untouched []
      (shown "/sessions/%FF" (some (.session "%FF")) unreadablePath) ∧
    (shown "/sessions/%FF" (some (.session "%FF")) unreadablePath).status = 400 ∧
    ¬ (shown "/sessions/%FF" (some (.session "%FF")) unreadablePath).TellsProblem := by
  -- The status and the content of the answer are those of the unreadable path.
  obtain ⟨status, content⟩ := shown_eq "/sessions/%FF" (some (.session "%FF")) unreadablePath
  refine ⟨answers_reading path_unreadable ofPath?_unreadable ?_, status, ?_⟩
  · -- The name cannot be decoded, so the place answers in words before it asks anything.
    have silent : withService "%FF" Session.toClientJson ConnectionService.getSession =
        .done unreadablePath := by
      rw [withService, withSession, unreadable_name]
      rfl
    have served : (Route.session "%FF").serves (reading "/sessions/%FF").method = true := by
      show (Route.session "%FF").serves "GET" = true
      decide
    simp only [dispatch, served, if_true, serve, silent]
    rfl
  · -- It is exempt, so it tells of no problem.
    have exempt : ofAnyone.Exempt (reading "/sessions/%FF")
        (shown "/sessions/%FF" (some (.session "%FF")) unreadablePath).status
        (shown "/sessions/%FF" (some (.session "%FF")) unreadablePath).content := by
      rw [status, content]
      exact .unreadable (path_unreadable ▸ ofPath?_unreadable) rfl unreadable_name
    exact exempt.not_tellsProblem

end Gateway

end SessionGate
