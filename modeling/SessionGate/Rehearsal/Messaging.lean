import SessionGate.Broker.Amqp
import SessionGate.Broker.Publisher
import SessionGate.Rehearsal.Domain

/-! A scripted broker at the other end of a messaging connection. -/

namespace SessionGate

/-- What a scripted broker does with a declaration or a publication: it takes it, it refuses to
acknowledge it, or it closes the channel. -/
inductive BrokerMove where
  | accept
  | refuse
  | closeChannel
  deriving DecidableEq, Repr

/-- A broker with its moves in order, whether it keeps the connection and the channel open, and the
methods that have reached it, the latest first. -/
structure ScriptedBroker where
  moves : List BrokerMove
  isConnectionOpen : Bool
  isChannelOpen : Bool
  seen : List AmqpCall

namespace ScriptedBroker

/-- A broker to which nobody is connected. -/
def ofMoves (moves : List BrokerMove) : ScriptedBroker := ⟨moves, false, false, []⟩

/-- The virtual host that the path of a URI names, with dot segments resolved and escapes undone. -/
def vhostOfPath (path : String) : String :=
  match Url.parse ("amqp://broker/" ++ path) with
  -- The slash that begins the path is no part of the name.
  | .ok url => Text.ofUtf8Repaired (Url.decode (url.path.chars.drop 1))
  | .error _ => path

/-- The fault of a method whose channel the broker closes. -/
def precondition : BrokerError :=
  .channel "protocol error: AMQP soft error: PRECONDITION-FAILED: PRECONDITION_FAILED"

/-- The fault of a method on a channel that is closed. -/
def closedChannel : BrokerError := .channel "invalid channel state: Closed"

/-- The broker after a method has reached it. -/
def see (broker : ScriptedBroker) (call : AmqpCall) : ScriptedBroker :=
  { broker with seen := call :: broker.seen }

/-- The next move; a broker without moves takes everything. -/
def nextMove (broker : ScriptedBroker) : BrokerMove × ScriptedBroker :=
  match broker.moves with
  | [] => (.accept, broker)
  | move :: rest => (move, { broker with moves := rest })

/-- Meets a method by the next move, and tells whether it is acknowledged. -/
def meet (broker : ScriptedBroker) (call : AmqpCall) : Except BrokerError Bool × ScriptedBroker :=
  -- A method on a closed channel never leaves, so the broker does not see it.
  if broker.isChannelOpen = false then (.error closedChannel, broker)
  else
    let (move, broker) := (broker.see call).nextMove
    match move with
    | .accept => (.ok true, broker)
    | .refuse => (.ok false, broker)
    -- A channel closed by the broker stays closed until it is opened again.
    | .closeChannel => (.error precondition, { broker with isChannelOpen := false })

/-- Answers a call. -/
def perform : (call : AmqpCall) → ScriptedBroker → call.Answer × ScriptedBroker
  | .isConnectionOpen, broker => (broker.isConnectionOpen, broker)
  | .isChannelOpen, broker => (broker.isChannelOpen, broker)
  | .openConnection vhost, broker =>
    (.ok (), { broker.see (.openConnection vhost) with isConnectionOpen := true })
  | .openChannel, broker => (.ok (), { broker.see .openChannel with isChannelOpen := true })
  | .selectConfirms, broker => (.ok (), broker.see .selectConfirms)
  | .declareExchange exchange, broker =>
    let (met, broker) := broker.meet (.declareExchange exchange)
    -- Refusing to acknowledge is no answer to a declaration, which has then been made.
    (met.map fun _ => (), broker)
  | .publish exchange body, broker => broker.meet (.publish exchange body)
  | .closeChannel code reason, broker =>
    (.ok (), { broker.see (.closeChannel code reason) with isChannelOpen := false })
  | .closeConnection code, broker =>
    (.ok (), { broker.see (.closeConnection code) with
      isConnectionOpen := false, isChannelOpen := false })

end ScriptedBroker

/-- A publisher over a scripted broker, and the exchanges that it knows to be declared. -/
structure MessagingDesk where
  broker : ScriptedBroker
  declared : List String

namespace MessagingDesk

/-- Carries out a computation over the connection. -/
def carryOut {α : Type} (desk : MessagingDesk) (program : AmqpProgram α) : α × MessagingDesk :=
  let (result, broker) := program.run ScriptedBroker.perform desk.broker
  (result, { desk with broker })

/-- Answers the publisher. Nobody else uses the channel, and waiting takes no time. -/
def perform : (call : PublisherCall) → MessagingDesk → call.Answer × MessagingDesk
  | .channel call, desk => desk.carryOut (Amqp.perform call)
  | .isDeclared exchange, desk => (desk.declared.contains exchange, desk)
  | .remember exchange, desk => ((), { desk with declared := exchange :: desk.declared })
  | .forgetAll, desk => ((), { desk with declared := [] })
  | .acquire, desk | .release, desk | .wait _, desk => ((), desk)

/-- Publishes a message. -/
def publish (desk : MessagingDesk) (policy : RetryPolicy) (exchange body : String) :
    Except BrokerError Unit × MessagingDesk :=
  (Publisher.publish policy exchange body).run perform desk

/-- Closes the publisher's channel. -/
def close (desk : MessagingDesk) : Except BrokerError Unit × MessagingDesk :=
  Publisher.close.run perform desk

/-- The methods that have reached the broker since they were last asked for. -/
def takeSeen (desk : MessagingDesk) : List AmqpCall × MessagingDesk :=
  (desk.broker.seen.reverse, { desk with broker := { desk.broker with seen := [] } })

end MessagingDesk

end SessionGate
