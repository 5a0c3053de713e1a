import SessionGate.Broker.Topology
import SessionGate.Deadline
import SessionGate.Identity.Call
import SessionGate.Store.Call

/-! What the connection service asks of its collaborators. -/

namespace SessionGate

/-- A question of the connection service: to the identity service, to the session store, about a
user's broker resources, to the notification publisher, or to the clock. -/
inductive ServiceCall where
  | identity (call : IdentityCall)
  | store (call : StoreCall)
  | lockUser (user : UserId)
  | unlockUser (user : UserId)
  | topology (call : TopologyCall)
  | publish (exchange body : String)
  | momentAfter (limit : Duration)
  deriving DecidableEq

/-- What a question is answered with. The lock of a user is given when nobody else holds it. -/
def ServiceCall.Answer : ServiceCall → Type
  | .identity call => call.Answer
  | .store call => call.Answer
  | .lockUser _ => Except StoreError Unit
  | .unlockUser _ => Unit
  | .topology call => call.Answer
  | .publish _ _ => Except BrokerError Unit
  | .momentAfter _ => Instant

/-- A computation of the connection service that no deadline cuts off. -/
abbrev ServiceSteps := Program ServiceCall ServiceCall.Answer

/-- A computation of the connection service, parts of which may stand under a deadline. -/
abbrev ServiceProgram := Program (Timed ServiceCall) (Timed.Answer ServiceCall.Answer)

/-- Asks a collaborator one thing. -/
def ServiceCall.make (call : ServiceCall) : ServiceSteps call.Answer := Program.question call

/-- Asks the session store for what a computation asks of it. -/
def StoreProgram.steps {α : Type} (program : StoreProgram α) : ServiceSteps α :=
  program.refine fun call => (ServiceCall.store call).make

end SessionGate
