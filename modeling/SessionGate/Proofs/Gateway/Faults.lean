import SessionGate.Proofs.Gateway.Problems

/-! How faults of the connection service are told: the status, the media type and the body of an
answer agree, and a refusal of another service is told as it was. -/

namespace SessionGate

/-- A problem that tells no place gets one. -/
def Problem.placedAt (problem : Problem) (path : String) : Problem :=
  { problem with
    instancePath := if problem.instancePath = "" then path else problem.instancePath }

/-- The answer that a problem document makes by itself: with its status, if that is one. -/
def Response.ofProblem (problem : Problem) : Response :=
  .make (if GatewayError.isStatus problem.status then problem.status else 500) (.problem problem)

/-- The refusal of another service that a fault passes on. -/
def ConnectionError.refusal? : ConnectionError → Option Problem
  | .identity (.rejected problem) => some problem
  | _ => none

namespace Gateway

variable {fault : ConnectionError}

/-- Every fault is told with a status. -/
theorem isStatus_status (fault : GatewayError) : GatewayError.isStatus fault.status = true := by
  -- Only a refusal states a status of its own, which is kept if it is one.
  cases fault with
  | rejected problem =>
    rw [GatewayError.status]
    split
    next known => exact known
    next => decide
  | _ => rfl

/-- The answer to a fault is the one that its problem document makes. -/
theorem ofError_eq (fault : GatewayError) :
    Response.ofError fault = .ofProblem fault.toProblem := by
  -- The answer takes its status from the fault, and so does the problem.
  rw [Response.ofProblem, toProblem_status, if_pos (isStatus_status fault)]
  rfl

/-- With the place, too, an answer is the one that its problem document makes. -/
theorem locate_ofProblem (problem : Problem) (path : String) :
    (Response.ofProblem problem).locate path = .ofProblem (problem.placedAt path) := by
  show (if problem.instancePath.isEmpty = true then _ else _) = _
  rw [Problem.placedAt]
  -- The place is filled in where the problem tells none.
  by_cases unplaced : problem.instancePath = ""
  · rw [if_pos (String.isEmpty_iff.mpr unplaced), if_pos unplaced]
    rfl
  · rw [if_neg (mt String.isEmpty_iff.mp unplaced), if_neg unplaced]

/-- A fault that is no refusal is told without a place. -/
theorem toProblem_unplaced (own : fault.refusal? = none) :
    (GatewayError.ofConnection fault).toProblem.instancePath = "" := by
  -- Only a refusal comes with a place, and this is none.
  cases fault with
  | identity cause =>
    cases cause with
    | rejected problem => cases own
    | _ => rfl
  | broker cause =>
    rw [GatewayError.ofConnection]
    split <;> rfl
  | _ => rfl

/-- A refusal is told as it was, but for a status that is none. -/
theorem toProblem_refusal {refusal : Problem} (refused : fault.refusal? = some refusal) :
    (GatewayError.ofConnection fault).toProblem =
      { refusal with status := (GatewayError.ofConnection fault).status } := by
  -- A refusal is a fault of the identity service, and its problem is taken over.
  cases fault with
  | identity cause =>
    cases cause with
    | rejected problem =>
      cases refused
      rfl
    | _ => cases refused
  | _ => cases refused

/-- A fault is told with its own status, if that is one. -/
theorem status_ofConnection (fault : ConnectionError) :
    (GatewayError.ofConnection fault).status =
      if 100 ≤ fault.httpStatus ∧ fault.httpStatus ≤ 999 then fault.httpStatus else 502 := by
  cases fault with
  | identity cause =>
    cases cause with
    | rejected problem =>
      show (if GatewayError.isStatus problem.status then problem.status else 502) = _
      simp only [GatewayError.isStatus, Bool.and_eq_true, decide_eq_true_eq]
      rfl
    | _ => rfl
  | broker cause =>
    -- Of the faults of a broker only that of its settings is told as our own.
    cases cause <;> rfl
  | _ => rfl

/-- Every fault is answered by a problem document that tells the status of the answer. The status
is that of the fault, if it is one, and the place that of the refusal or of the request; of a
refusal the kind, the title and the detail are told as they were. -/
theorem faults_are_told_as_problems (fault : ConnectionError) (path : String)
    (placed : path ≠ "") :
    ∃ problem : Problem,
      (Response.ofError (.ofConnection fault)).locate path = .ofProblem problem ∧
      ((Response.ofError (.ofConnection fault)).locate path).headers =
        [("content-type", "application/problem+json")] ∧
      Problem.shape.decode? Problem.ofJson?
        ((Response.ofError (.ofConnection fault)).locate path).content.render = some problem ∧
      ((Response.ofError (.ofConnection fault)).locate path).status = problem.status ∧
      problem.status =
        (if 100 ≤ fault.httpStatus ∧ fault.httpStatus ≤ 999 then fault.httpStatus else 502) ∧
      problem.instancePath ≠ "" ∧
      (fault.refusal? = none → problem.instancePath = path) ∧
      ∀ refusal ∈ fault.refusal?,
        problem.instancePath = (if refusal.instancePath = "" then path else refusal.instancePath) ∧
          problem.kind = refusal.kind ∧ problem.title = refusal.title ∧
          problem.detail = refusal.detail := by
  -- The status is one that a document can tell, so the problem is read back.
  have status := status_ofConnection fault
  have half : (GatewayError.ofConnection fault).toProblem.status ≤ 65535 := by
    have three := status_le (.ofConnection fault)
    rw [toProblem_status]
    omega
  -- The document is put at its place, and read back as it was written.
  rw [ofError_eq, locate_ofProblem]
  refine ⟨_, rfl, rfl, Problem.decode?_render half, ?_, (toProblem_status _).trans status, ?_,
    fun own => if_pos (toProblem_unplaced own), fun refusal refused => ?_⟩
  · show (if GatewayError.isStatus (GatewayError.ofConnection fault).toProblem.status then _
      else _) = _
    rw [toProblem_status, if_pos (isStatus_status _)]
  · -- The instance is the place if the fault has none of its own, and neither is empty.
    show (if _ = "" then path else _) ≠ ""
    split
    next => exact placed
    next told => exact told
  · -- A refusal of a remote service keeps all that its document says.
    rw [toProblem_refusal refused]
    exact ⟨rfl, rfl, rfl, rfl⟩

/-- A refusal with a number that is no status, which tells a place of its own. -/
def strangeRefusal : ConnectionError :=
  .identity (.rejected ⟨"about:blank", "Gone", 1000, "no such user", "/users/9"⟩)

/-- A number that is no status is told as a fault of the other service, at the place it told. -/
theorem strange_refusal_is_told_at_its_place :
    "/users/connect" ≠ "" ∧
    ∃ problem,
      Problem.shape.decode? Problem.ofJson?
        ((Response.ofError (.ofConnection strangeRefusal)).locate "/users/connect").content.render =
          some problem ∧
      ((Response.ofError (.ofConnection strangeRefusal)).locate "/users/connect").status = 502 ∧
      problem = ⟨"about:blank", "Gone", 502, "no such user", "/users/9"⟩ := by
  -- The general statement tells the problem field by field.
  have placed : "/users/connect" ≠ "" := by decide
  obtain ⟨problem, -, -, decoded, answered, status, -, -, refusal⟩ :=
    faults_are_told_as_problems strangeRefusal "/users/connect" placed
  have gone : problem.status = 502 := status
  obtain ⟨place, kind, title, detail⟩ := refusal _ rfl
  refine ⟨placed, problem, decoded, answered.trans gone, ?_⟩
  cases problem
  cases kind
  cases title
  cases detail
  cases gone
  cases place
  rfl

end Gateway

end SessionGate
