import SessionGate.Proofs.Connection.Stage
import SessionGate.Proofs.Program.Leaving

/-! Requests whose callers may leave at any time. What is carried on within a request ends when its
caller leaves, and work that was handed off goes on. -/

namespace SessionGate

/-- How a request stands with its caller: it is carried on while the caller waits, its work goes on
by itself whether or not the caller still waits, or it has ended with the caller's leaving. -/
inductive Visit (α : Type) where
  | attended (rest : ServiceProgram (Handling α))
  | detached (work : ServiceProgram α) (awaited : Bool)
  | dropped

/-- Work goes on by itself as soon as it is handed off. -/
def Visit.of {α : Type} : ServiceProgram (Handling α) → Visit α
  | .done (.handedOff work) => .detached work true
  | rest => .attended rest

/-- Nothing more is done for a request: it has an answer, or it has ended with its caller's
leaving. -/
def Visit.Over {α : Type} : Visit α → Prop
  | .attended (.done _) | .detached (.done _) _ | .dropped => True
  | .attended (.ask _ _) | .detached (.ask _ _) _ => False

/-- A question of a request and its answer, or one that was abandoned by the caller. -/
abbrev VisitExchange : Type :=
  Exchange (Attended (Timed ServiceCall)) (Attended.Answer (Timed.Answer ServiceCall.Answer))

/-- A request with its caller, the state of the surroundings, and what has been exchanged so far. -/
structure Encounter (σ α : Type) where
  visit : Visit α
  state : σ
  log : List VisitExchange

namespace Encounter

variable {σ α : Type}

/-- A request has been made, and nothing has been asked for it. -/
def start (program : ServiceProgram (Handling α)) (state : σ) : Encounter σ α :=
  ⟨.of program, state, []⟩

/-- One thing that can happen to a request: a question is answered, or the caller leaves. What is
left of the question that the caller waited for is up to the surroundings, and no work that goes on
by itself takes notice. -/
inductive Moves (env : Surroundings (Timed ServiceCall) (Timed.Answer ServiceCall.Answer) σ)
    (leaves : Timed ServiceCall → σ → σ → Prop) : Encounter σ α → Encounter σ α → Prop where
  | told {wanted : Timed ServiceCall} {next : wanted.Answer ServiceCall.Answer → _}
      {given : wanted.Answer ServiceCall.Answer} {before after : σ} {log : List VisitExchange}
      (answered : env wanted before given after) :
      Moves env leaves ⟨.attended (.ask wanted next), before, log⟩
        ⟨.of (next given), after, log ++ [⟨.answered wanted, given⟩]⟩
  | left {wanted : Timed ServiceCall} {next : wanted.Answer ServiceCall.Answer → _}
      {before after : σ} {log : List VisitExchange} (abandoned : leaves wanted before after) :
      Moves env leaves ⟨.attended (.ask wanted next), before, log⟩
        ⟨.dropped, after, log ++ [⟨.abandoned wanted, ()⟩]⟩
  | worked {wanted : Timed ServiceCall} {next : wanted.Answer ServiceCall.Answer → _}
      {given : wanted.Answer ServiceCall.Answer} {awaited : Bool} {before after : σ}
      {log : List VisitExchange} (answered : env wanted before given after) :
      Moves env leaves ⟨.detached (.ask wanted next) awaited, before, log⟩
        ⟨.detached (next given) awaited, after, log ++ [⟨.answered wanted, given⟩]⟩
  | unawaited {work : ServiceProgram α} {state : σ} {log : List VisitExchange} :
      Moves env leaves ⟨.detached work true, state, log⟩ ⟨.detached work false, state, log⟩

variable {env : Surroundings (Timed ServiceCall) (Timed.Answer ServiceCall.Answer) σ}
  {leaves : Timed ServiceCall → σ → σ → Prop} {program rest : ServiceProgram (Handling α)}
  {work ahead : ServiceProgram α} {state now : σ} {encounter : Encounter σ α}
  {log : List VisitExchange} {plain : List ServiceExchange}

/-- How a request may stand that began in a state: it has come so far while the caller waited, it
has come to work that has come so far by itself, or it has come to the question that the caller did
not wait for. -/
inductive Stands (env : Surroundings (Timed ServiceCall) (Timed.Answer ServiceCall.Answer) σ)
    (leaves : Timed ServiceCall → σ → σ → Prop) (program : ServiceProgram (Handling α))
    (state : σ) : Encounter σ α → Prop where
  | attended {plain : List ServiceExchange} {rest : ServiceProgram (Handling α)} {now : σ}
      (course : Course env Program.Turn program state plain rest now) :
      Stands env leaves program state ⟨.attended rest, now, plain.map Exchange.attended⟩
  | detached {first second : List ServiceExchange} {work rest : ServiceProgram α} {middle now : σ}
      {awaited : Bool} (came : program.Runs env state first (.handedOff work) middle)
      (course : Course env Program.Turn work middle second rest now) :
      Stands env leaves program state
        ⟨.detached rest awaited, now, (first ++ second).map Exchange.attended⟩
  | dropped {plain : List ServiceExchange} {wanted : Timed ServiceCall}
      {next : wanted.Answer ServiceCall.Answer → ServiceProgram (Handling α)} {middle now : σ}
      (course : Course env Program.Turn program state plain (.ask wanted next) middle)
      (abandoned : leaves wanted middle now) :
      Stands env leaves program state
        ⟨.dropped, now, plain.map Exchange.attended ++ [⟨.abandoned wanted, ()⟩]⟩

/-- A request that has come so far while its caller waited stands there, or its work goes on. -/
theorem Stands.of (course : Course env Program.Turn program state plain rest now) :
    Stands env leaves program state ⟨.of rest, now, plain.map Exchange.attended⟩ := by
  match rest with
  | .done (.handedOff work) =>
    -- Work that has just been handed off has come no way by itself.
    have stands : Stands env leaves program state
        ⟨.detached work true, now, (plain ++ []).map Exchange.attended⟩ :=
      .detached course (.rest work now)
    rw [List.append_nil] at stands
    exact stands
  | .done (.answered result) | .ask wanted next => exact .attended course

/-- Whatever happens to a request, it stands as it may. -/
theorem Stands.move {after : Encounter σ α} (stands : Stands env leaves program state encounter)
    (moved : Moves env leaves encounter after) : Stands env leaves program state after := by
  -- What happens is one more exchange at the end of the course on which the request is.
  cases moved with
  | told answered =>
    cases stands with
    | attended course =>
      rw [show [⟨.answered _, _⟩] = [Exchange.attended ⟨_, _⟩] from rfl, ← List.map_singleton,
        ← List.map_append]
      exact .of (course.snoc (.ask _ _ _) answered)
  | left abandoned =>
    cases stands with
    | attended course => exact .dropped course abandoned
  | worked answered =>
    cases stands with
    | detached came course =>
      rw [show [⟨.answered _, _⟩] = [Exchange.attended ⟨_, _⟩] from rfl, ← List.map_singleton,
        ← List.map_append, List.append_assoc]
      exact .detached came (course.snoc (.ask _ _ _) answered)
  | unawaited =>
    -- Nobody tells the work that its caller has left.
    cases stands with
    | detached came course => exact .detached came course

/-- However far a request has come, it stands as it may. -/
theorem stands_of_moves
    (moved : Relation.ReflTransGen (Moves env leaves) (start program state) encounter) :
    Stands env leaves program state encounter := by
  -- The induction is on the moves, each of which keeps what the request stands for.
  induction moved with
  | refl => exact .of (.rest program state)
  | tail _ moved ih => exact ih.move moved

/-- A request may be carried on while its caller waits. -/
theorem moves_of_course (course : Course env Program.Turn program state plain rest now)
    (log : List VisitExchange) :
    Relation.ReflTransGen (Moves env leaves) ⟨.of program, state, log⟩
      ⟨.of rest, now, log ++ plain.map Exchange.attended⟩ := by
  -- The induction is on the course, each turn of which is told to the caller.
  induction course generalizing log with
  | rest => rw [List.map_nil, List.append_nil]
  | step goes answered _ ih =>
    cases goes with
    | ask =>
      rw [List.map_cons, List.append_cons]
      exact .head (.told answered) (ih _)

/-- Work that was handed off may go on, whether or not its caller waits. -/
theorem moves_of_work {awaited : Bool} (course : Course env Program.Turn work state plain ahead now)
    (log : List VisitExchange) :
    Relation.ReflTransGen (Moves env leaves) ⟨.detached work awaited, state, log⟩
      ⟨.detached ahead awaited, now, log ++ plain.map Exchange.attended⟩ := by
  -- The induction is on the course, each turn of which is worked off.
  induction course generalizing log with
  | rest => rw [List.map_nil, List.append_nil]
  | step goes answered _ ih =>
    cases goes with
    | ask =>
      rw [List.map_cons, List.append_cons]
      exact .head (.worked answered) (ih _)

end Encounter

/-- The work for a request as its caller meets it, within the request or handed off. -/
def ServiceRequest.handling (service : ConnectionService) :
    ServiceRequest → ServiceProgram (Handling ServiceOutcome)
  | .connect user token => do return (← service.connect user token).map .connected
  | .complete id => do return .answered (.changed (← (ConnectionService.complete id).unhurried))
  | .timeOut id => do return .answered (.changed (← (ConnectionService.timeOut id).unhurried))
  | .setDispatcherStatus id status => do
    return .answered (.changed (← (ConnectionService.setDispatcherStatus id status).unhurried))
  | .get id => do return .answered (.found (← (ConnectionService.getSession id).unhurried))

/-- The work for a request is what is done for a caller who waits to the end. -/
theorem ServiceRequest.program_eq (service : ConnectionService) (request : ServiceRequest) :
    request.program service = (request.handling service).bind Handling.finish := by
  -- Four of the five requests are carried out within the request, and hand nothing off.
  have answered {α : Type} (first : ServiceProgram α) (outcome : α → ServiceOutcome) :
      (first.bind fun result => .done (outcome result)) =
        (first.bind fun result => .done (Handling.answered (outcome result))).bind
          Handling.finish := by
    rw [Program.bind_assoc]
    rfl
  cases request with
  -- A connect alone hands its work off, and what is handed off is finished in the same way.
  | connect user token =>
    refine Eq.trans ?_ (Program.bind_assoc _ _ _).symm
    refine congrArg (Program.bind _) (funext fun handling => ?_)
    cases handling with
    | answered result => rfl
    | handedOff work => rfl
  | complete id => exact answered (ConnectionService.complete id).unhurried .changed
  | timeOut id => exact answered (ConnectionService.timeOut id).unhurried .changed
  | setDispatcherStatus id status =>
    exact answered (ConnectionService.setDispatcherStatus id status).unhurried .changed
  | get id => exact answered (ConnectionService.getSession id).unhurried .found

end SessionGate
