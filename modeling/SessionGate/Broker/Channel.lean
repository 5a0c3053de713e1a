import SessionGate.Broker.Error
import SessionGate.Program

/-! A channel to the broker on which every message is confirmed. -/

namespace SessionGate

/-- What is asked of a channel: to open it again if the broker closed it, to declare a durable
exchange that delivers to all queues, to publish a message and await its confirmation, and to close
it with its connection. -/
inductive ChannelCall where
  | ensureOpen
  | declare (exchange : String)
  | publish (exchange body : String)
  | close
  deriving DecidableEq

namespace ChannelCall

/-- What a call finds out: whether the channel had to be opened again. -/
def Result : ChannelCall → Type
  | .ensureOpen => Bool
  | .declare _ | .publish _ _ | .close => Unit

/-- What a call is answered with. -/
abbrev Answer (call : ChannelCall) : Type := Except BrokerError call.Result

/-- The name of a call. -/
def name : ChannelCall → String
  | .ensureOpen => "ensure_open"
  | .declare _ => "declare"
  | .publish _ _ => "publish"
  | .close => "close"

/-- The texts a call is made with. -/
def arguments : ChannelCall → List String
  | .ensureOpen | .close => []
  | .declare exchange => [exchange]
  | .publish exchange body => [exchange, body]

end ChannelCall

end SessionGate
