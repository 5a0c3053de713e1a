import SessionGate.Broker.Publisher
import SessionGate.Proofs.Program.Leaving
import SessionGate.Proofs.Retry

/-! The stages that a publisher's computations go through, and the steps between them. -/

namespace SessionGate

/-- What a publisher may be asked for. -/
inductive PublisherRequest where
  | publish (exchange body : String)
  | close
  deriving DecidableEq

/-- The work for a request. -/
def PublisherRequest.program (policy : RetryPolicy) :
    PublisherRequest → PublisherProgram (Except BrokerError Unit)
  | .publish exchange body => Publisher.publish policy exchange body
  | .close => Publisher.close

/-- How far a computation has got. Without the channel all of them are away; with it they are about
to ask for something, or have been told what they have yet to take note of. -/
inductive PublisherStage where
  | away
  | holding
  | reopened
  | opened
  | lacking (exchange : String)
  | declared (exchange : String)
  | ready (exchange : String)
  | closed
  | leaving
  deriving DecidableEq

namespace PublisherStage

/-- How a computation goes on. -/
inductive Step : Conduct PublisherCall PublisherCall.Answer PublisherStage where
  | waited {delay : Duration} : Step .away ⟨.wait delay, ()⟩ .away
  | acquired : Step .away ⟨.acquire, ()⟩ .holding
  | unopened {fault : BrokerError} : Step .holding ⟨.channel .ensureOpen, .error fault⟩ .leaving
  | reopened : Step .holding ⟨.channel .ensureOpen, .ok true⟩ .reopened
  | opened : Step .holding ⟨.channel .ensureOpen, .ok false⟩ .opened
  | renewed : Step .reopened ⟨.forgetAll, ()⟩ .opened
  | known {exchange : String} : Step .opened ⟨.isDeclared exchange, true⟩ (.ready exchange)
  | unknown {exchange : String} : Step .opened ⟨.isDeclared exchange, false⟩ (.lacking exchange)
  | undeclared {exchange : String} {fault : BrokerError} :
      Step (.lacking exchange) ⟨.channel (.declare exchange), .error fault⟩ .leaving
  | declared {exchange : String} :
      Step (.lacking exchange) ⟨.channel (.declare exchange), .ok ()⟩ (.declared exchange)
  | remembered {exchange : String} :
      Step (.declared exchange) ⟨.remember exchange, ()⟩ (.ready exchange)
  | published {exchange body : String} {given : Except BrokerError Unit} :
      Step (.ready exchange) ⟨.channel (.publish exchange body), given⟩ .leaving
  | unclosed {fault : BrokerError} : Step .holding ⟨.channel .close, .error fault⟩ .leaving
  | closed : Step .holding ⟨.channel .close, .ok ()⟩ .closed
  | forgotten : Step .closed ⟨.forgetAll, ()⟩ .leaving
  | released : Step .leaving ⟨.release, ()⟩ .away

open Program (Keeps)

variable {exchange : String} {α : Type}

/-- Opening the channel ends with the channel open, or with a fault to leave with. -/
theorem prepare_keeps : Keeps Step
    (fun stage result => stage = match result with | .ok () => .opened | .error _ => .leaving)
    .holding Publisher.prepare := by
  refine Keeps.ask fun given => ?_
  match given with
  | .error fault => exact ⟨_, .unopened, rfl⟩
  | .ok false => exact ⟨_, .opened, rfl⟩
  -- On a new channel nothing is declared yet, which has to be noted before anything else.
  | .ok true => exact ⟨_, .reopened, Keeps.ask fun given => ⟨_, .renewed, rfl⟩⟩

/-- Declaring an exchange ends with the exchange declared, or with a fault to leave with. -/
theorem declare_keeps : Keeps Step
    (fun stage result => stage = match result with | .ok () => .ready exchange | .error _ => .leaving)
    .opened (Publisher.declare exchange) := by
  -- The exchange is known already, or it is declared and remembered.
  refine Keeps.ask fun given => ?_
  match given with
  | true => exact ⟨_, .known, rfl⟩
  | false =>
    refine ⟨_, .unknown, Keeps.ask fun given => ?_⟩
    match given with
    | .error fault => exact ⟨_, .undeclared, rfl⟩
    | .ok () => exact ⟨_, .declared, Keeps.ask fun given => ⟨_, .remembered, rfl⟩⟩

/-- One attempt to publish ends with the channel ready to be given up. -/
theorem publishOnce_keeps {body : String} :
    Keeps Step (fun stage _ => stage = .leaving) .holding (Publisher.publishOnce exchange body) := by
  -- A fault ends the attempt wherever it turns up, and the channel is given up all the same.
  refine prepare_keeps.bind fun between result stands => ?_
  subst stands
  match result with
  | .error fault => exact rfl
  | .ok () =>
    refine declare_keeps.bind fun between result stands => ?_
    subst stands
    match result with
    | .error fault => exact rfl
    | .ok () => exact Keeps.ask fun given => ⟨_, .published, rfl⟩

/-- Whoever does something with the channel comes back from it. -/
theorem withChannel_keeps {action : PublisherProgram α}
    (acts : Keeps Step (fun stage _ => stage = .leaving) .holding action) :
    Keeps Step (fun stage _ => stage = .away) .away (Publisher.withChannel action) := by
  -- The action begins with the channel in hand and ends about to give it back.
  refine Keeps.ask fun given => ⟨_, .acquired, acts.bind fun between result stands => ?_⟩
  subst stands
  exact Keeps.ask fun given => ⟨_, .released, rfl⟩

/-- Every request comes back from the channel. -/
theorem program_keeps (policy : RetryPolicy) (request : PublisherRequest) :
    Keeps Step (fun stage _ => stage = .away) .away (request.program policy) := by
  -- Each attempt comes back by itself, and the waits are made away from the channel.
  cases request with
  | publish exchange body =>
    have attempts : ∀ attempt : Nat, Keeps Step (fun stage _ => stage = .away) .away
        (Publisher.withChannel (Publisher.publishOnce exchange body)) :=
      fun _ => withChannel_keeps publishOnce_keeps
    have waits : ∀ delay : Duration, Keeps Step (fun stage _ => stage = .away) .away
        (PublisherCall.wait delay).make :=
      fun _ => Keeps.ask fun given => ⟨_, .waited, rfl⟩
    exact (RetryPolicy.attemptFrom_keeps attempts waits _ _).bind fun between result stands => stands
  | close =>
    refine withChannel_keeps (Keeps.ask fun given => ?_)
    match given with
    | .error fault => exact ⟨_, .unclosed, rfl⟩
    | .ok () => exact ⟨_, .closed, Keeps.ask fun given => ⟨_, .forgotten, rfl⟩⟩

end PublisherStage

end SessionGate
