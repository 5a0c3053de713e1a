import SessionGate.Proofs.Connection.Admitting
import SessionGate.Proofs.Connection.Visit
import SessionGate.Proofs.Program.Fixed

/-! A client that does not wait to be connected. Until it is let in nothing is begun for it, and
from then on all is done that would be done if it waited. -/

namespace SessionGate

/-- A question to the identity service. -/
def Timed.Inquires (wanted : Timed ServiceCall) : Prop :=
  ∃ call, wanted = .unhurried (.identity call)

/-- Before the work is handed off, a client that is being connected has the identity service asked
and nobody else. -/
theorem ConnectionService.connect_inquires (service : ConnectionService) (name token : String) :
    (service.connect name token).Asks Timed.Inquires := by
  -- Whatever the identity service answers, the next thing is an answer or the handing off.
  unfold connect
  cases parseRequest name token with
  | error fault => trivial
  | ok user =>
    have asks : (authenticate user token).unhurried.Asks Timed.Inquires := by
      refine (authenticate_inquires user token).unhurried.mono fun wanted inquires => ?_
      obtain ⟨call, ⟨inquiry, rfl⟩, rfl⟩ := inquires
      exact ⟨inquiry, rfl⟩
    refine asks.bind fun admitted => ?_
    cases admitted with
    | error fault => trivial
    | ok admission => trivial

/-- The work for a client is handed off without a further question. -/
theorem ServiceRequest.handling_inquires (service : ConnectionService) (name token : String) :
    ((ServiceRequest.connect name token).handling service).Asks Timed.Inquires := by
  have inquires := service.connect_inquires name token
  rw [handling]
  -- What is asked in connecting is known, and need not be looked into again.
  generalize service.connect name token = program at inquires ⊢
  exact inquires.bind fun handling => trivial

namespace Encounter

variable {σ : Type} {env : Surroundings (Timed ServiceCall) (Timed.Answer ServiceCall.Answer) σ}
  {leaves : Timed ServiceCall → σ → σ → Prop} {service : ConnectionService} {name token : String}
  {state : σ} {encounter : Encounter σ ServiceOutcome}

/-- A caller may leave as soon as work is handed off, and the work be carried through without it. -/
theorem moves_to_end {program : ServiceProgram (Handling ServiceOutcome)}
    {work : ServiceProgram ServiceOutcome} {first second : List ServiceExchange} {middle final : σ}
    {result : ServiceOutcome} (leaves : Timed ServiceCall → σ → σ → Prop)
    (came : program.Runs env state first (.handedOff work) middle)
    (worked : work.Runs env middle second result final) :
    Relation.ReflTransGen (Moves env leaves) (start program state)
      ⟨.detached (.done result) false, final,
        first.map Exchange.attended ++ second.map Exchange.attended⟩ :=
  -- The request is carried on until the work is handed off, and then the work goes on unawaited.
  ((moves_of_course came []).tail .unawaited).trans (moves_of_work worked _)

/-- Whenever a client that is being connected leaves, in surroundings that behave in one way: If it
leaves before the work is handed off, nobody but the identity service is asked anything for it, then
or later. From then on all that is asked is what is asked for a client that waits, in the same order
and with the same answers; what is left of the work comes to where it comes for a client that waits;
and once it has come there, the whole of what was exchanged and the state that it leaves are the
same, sessions and locks included. -/
theorem connect_outlives_caller (fixed : env.Fixed)
    (moved : Relation.ReflTransGen (Moves env leaves)
      (start ((ServiceRequest.connect name token).handling service) state) encounter) :
    (encounter.visit = .dropped → ∀ event ∈ encounter.log, event.wanted.question.Inquires) ∧
      ∀ work awaited, encounter.visit = .detached work awaited → ∃ known,
        encounter.log = known.map Exchange.attended ∧
        Course env Program.Turn ((ServiceRequest.connect name token).program service) state known
          work encounter.state ∧
        ∀ log outcome final,
          ((ServiceRequest.connect name token).program service).Runs env state log outcome final →
            (∃ more, log = known ++ more ∧ work.Runs env encounter.state more outcome final) ∧
            ∀ result, work = .done result → known = log ∧ result = outcome ∧
              encounter.state = final := by
  have asks := ServiceRequest.handling_inquires service name token
  cases stands_of_moves moved with
  | attended => exact ⟨nofun, nofun⟩
  | dropped course =>
    refine ⟨fun _ event member => ?_, nofun⟩
    obtain ⟨remaining, known⟩ := asks.course course
    rcases List.mem_append.mp member with earlier | last
    · obtain ⟨exchange, logged, rfl⟩ := List.mem_map.mp earlier
      exact known exchange logged
    · -- The question that was abandoned is one like all others.
      cases List.mem_singleton.mp last
      exact remaining.1
  | @detached first second work rest _ now awaited came course =>
    -- Both parts together are on the way of the run for a caller that waits.
    have whole : Course env Program.Turn ((ServiceRequest.connect name token).program service) state
        (first ++ second) rest now := by
      rw [ServiceRequest.program_eq]
      exact Program.turns_bind came course
    refine ⟨nofun, fun work awaited same => ?_⟩
    cases same
    refine ⟨first ++ second, rfl, whole, fun log outcome final ran => ?_⟩
    obtain ⟨more, rfl, remaining⟩ := Program.Runs.of_course fixed whole ran
    refine ⟨⟨more, rfl, remaining⟩, fun result done => ?_⟩
    subst done
    obtain ⟨rfl, rfl, rfl⟩ := Program.runs_done.mp remaining
    exact ⟨(List.append_nil _).symm, rfl, rfl⟩

/-- A client that leaves as soon as the work is handed off gets its session, and the lock of its
user is given up. -/
theorem impatient_client_gets_session :
    ∃ (encounter : Encounter (Backing Management) ServiceOutcome) (result : ServiceOutcome)
      (log : List ServiceExchange),
      Relation.ReflTransGen (Moves (.of (Backing.complyTimed ⟨none, none⟩ (.ok ())))
        fun _ _ _ => False) (start ((ServiceRequest.connect "ada" "token").handling
          ⟨.ofBytes [], .default⟩) Backing.untouched) encounter ∧
      encounter.visit = .detached (.done result) false ∧
      ((ServiceRequest.connect "ada" "token").program ⟨.ofBytes [], .default⟩).Runs
        (.of (Backing.complyTimed ⟨none, none⟩ (.ok ()))) Backing.untouched log result
        encounter.state ∧
      encounter.log = log.map Exchange.attended ∧ encounter.state.table.rows ≠ [] ∧
      encounter.state.locked = ∅ := by
  -- The request is carried through by collaborators that comply, with and without its caller.
  let service : ConnectionService := ⟨.ofBytes [], .default⟩
  let reply := Backing.complyTimed ⟨none, none⟩ (.ok ())
  let program := (ServiceRequest.connect "ada" "token").handling service
  let final := (((ServiceRequest.connect "ada" "token").program service).run reply
    Backing.untouched).2
  -- Where nothing fails the request comes as far as its work.
  obtain ⟨work, handed⟩ : ∃ work, (program.run reply Backing.untouched).1 = .handedOff work := by
    cbv
    exact ⟨_, rfl⟩
  have came := Program.runs_of reply program Backing.untouched
  rw [handed] at came
  obtain ⟨second, result, last, worked⟩ : ∃ second result last,
      work.Runs (.of reply) (program.run reply Backing.untouched).2 second result last :=
    ⟨_, _, _, Program.runs_of reply work _⟩
  -- The caller may leave at any time, and the work goes on to its end.
  have moved := moves_to_end (fun _ _ _ => False) came worked
  obtain ⟨known, logged, -, same⟩ :=
    (connect_outlives_caller (Surroundings.of_fixed reply) moved).2 _ _ rfl
  obtain ⟨-, ended⟩ := same _ _ _ (Program.runs_of reply _ _)
  obtain ⟨rfl, rfl, rfl⟩ := ended result rfl
  -- What is stored in the end is computed from the run that nobody left.
  have stored : final.table.rows ≠ [] ∧ final.locked = ∅ := by decide +kernel
  exact ⟨_, _, _, moved, rfl, Program.runs_of reply _ _, logged, stored⟩

end Encounter

end SessionGate
