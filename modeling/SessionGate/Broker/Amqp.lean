import SessionGate.Broker.Channel

/-! A channel over the broker's messaging protocol. -/

namespace SessionGate

/-- What is asked of a messaging connection and of its channel: whether they are open, and to send
a method. -/
inductive AmqpCall where
  | isConnectionOpen
  | isChannelOpen
  | openConnection (vhost : String)
  | openChannel
  | selectConfirms
  | declareExchange (exchange : String)
  | publish (exchange body : String)
  | closeChannel (code : Nat) (reason : String)
  | closeConnection (code : Nat)
  deriving DecidableEq

namespace AmqpCall

/-- What a call is answered with; a publication is acknowledged or not. -/
def Answer : AmqpCall → Type
  | .isConnectionOpen | .isChannelOpen => Bool
  | .publish _ _ => Except BrokerError Bool
  | .openConnection _ | .openChannel | .selectConfirms | .declareExchange _ | .closeChannel _ _
  | .closeConnection _ => Except BrokerError Unit

end AmqpCall

/-- A computation over a messaging connection. -/
abbrev AmqpProgram := Program AmqpCall AmqpCall.Answer

/-- Asks for one thing. -/
def AmqpCall.make (call : AmqpCall) : AmqpProgram call.Answer := Program.question call

namespace Amqp

/-- The code of an orderly end. -/
def success : Nat := 200

/-- Why a channel is closed. -/
def shutdownReason : String := "shutting down"

/-- The fault of a message that the broker did not take. -/
def unacknowledged (exchange : String) : BrokerError :=
  .channel ("broker did not acknowledge publish to " ++ exchange)

/-- Opens a channel on which messages are confirmed. -/
def openChannel : AmqpProgram (Except BrokerError Unit) := do
  -- Without confirmations a publication could not be told from a lost one.
  match ← AmqpCall.openChannel.make with
  | .error fault => return .error fault
  | .ok () => AmqpCall.selectConfirms.make

/-- Opens a connection to a virtual host, and a channel on it. -/
def connect (vhost : String) : AmqpProgram (Except BrokerError Unit) := do
  match ← (AmqpCall.openConnection vhost).make with
  | .error fault => return .error fault
  | .ok () => openChannel

/-- Opens the channel again if it is closed and its connection is not. -/
def ensureOpen : AmqpProgram (Except BrokerError Bool) := do
  match ← AmqpCall.isChannelOpen.make with
  | true => return .ok false
  | false =>
    -- A closed connection is not opened again, since that is for whoever made it.
    match ← AmqpCall.isConnectionOpen.make with
    | false => return .error (.channel "AMQP connection is closed")
    | true => return (← openChannel).map fun _ => true

/-- Publishes a message and awaits the broker's acknowledgement. -/
def publish (exchange body : String) : AmqpProgram (Except BrokerError Unit) := do
  match ← (AmqpCall.publish exchange body).make with
  | .error fault => return .error fault
  | .ok true => return .ok ()
  | .ok false => return .error (unacknowledged exchange)

/-- Closes the connection if it is open. -/
def closeConnection : AmqpProgram (Except BrokerError Unit) := do
  match ← AmqpCall.isConnectionOpen.make with
  | true => (AmqpCall.closeConnection success).make
  | false => return .ok ()

/-- Closes the channel if it is open, and then the connection. -/
def close : AmqpProgram (Except BrokerError Unit) := do
  match ← AmqpCall.isChannelOpen.make with
  | false => closeConnection
  | true =>
    -- A channel that could not be closed leaves its connection open.
    match ← (AmqpCall.closeChannel success shutdownReason).make with
    | .error fault => return .error fault
    | .ok () => closeConnection

/-- Carries out what is asked of the channel. -/
def perform : (call : ChannelCall) → AmqpProgram call.Answer
  | .ensureOpen => ensureOpen
  | .declare exchange => (AmqpCall.declareExchange exchange).make
  | .publish exchange body => publish exchange body
  | .close => close

end Amqp

end SessionGate
