import SessionGate.Broker.Channel
import SessionGate.Retry

/-! Publishing over one channel that many share: one attempt at a time has the channel to itself,
and between two attempts it is free for others. -/

namespace SessionGate

/-- What a publisher asks for: the channel for itself, to give it up again, something of the
channel, what it knows about exchanges declared on the channel, or that time passes. -/
inductive PublisherCall where
  | acquire
  | release
  | channel (call : ChannelCall)
  | isDeclared (exchange : String)
  | remember (exchange : String)
  | forgetAll
  | wait (delay : Duration)
  deriving DecidableEq

/-- What a publisher is answered with. The channel is given when nobody else has it. -/
def PublisherCall.Answer : PublisherCall → Type
  | .channel call => call.Answer
  | .isDeclared _ => Bool
  | .acquire | .release | .remember _ | .forgetAll | .wait _ => Unit

/-- A computation of a publisher. -/
abbrev PublisherProgram := Program PublisherCall PublisherCall.Answer

/-- Asks for one thing. -/
def PublisherCall.make (call : PublisherCall) : PublisherProgram call.Answer :=
  Program.question call

namespace Publisher

/-- Opens the channel if need be; what was declared on an older one does not count any more. -/
def prepare : PublisherProgram (Except BrokerError Unit) := do
  match ← (PublisherCall.channel .ensureOpen).make with
  | .error fault => return .error fault
  | .ok true =>
    -- A declaration is remembered for the channel it was made on and for no other.
    PublisherCall.forgetAll.make
    return .ok ()
  | .ok false => return .ok ()

/-- Declares an exchange unless that has been done on this channel. -/
def declare (exchange : String) : PublisherProgram (Except BrokerError Unit) := do
  match ← (PublisherCall.isDeclared exchange).make with
  | true => return .ok ()
  | false =>
    match ← (PublisherCall.channel (.declare exchange)).make with
    | .error fault => return .error fault
    | .ok () =>
      (PublisherCall.remember exchange).make
      return .ok ()

/-- One attempt to publish, with the channel at hand. -/
def publishOnce (exchange body : String) : PublisherProgram (Except BrokerError Unit) := do
  match ← prepare with
  | .error fault => return .error fault
  | .ok () =>
    match ← declare exchange with
    | .error fault => return .error fault
    | .ok () => (PublisherCall.channel (.publish exchange body)).make

/-- Does something with the channel at hand. -/
def withChannel {α : Type} (action : PublisherProgram α) : PublisherProgram α := do
  PublisherCall.acquire.make
  let result ← action
  PublisherCall.release.make
  return result

/-- Publishes a message; after as many failures as the policy allows, the last one is told. -/
def publish (policy : RetryPolicy) (exchange body : String) :
    PublisherProgram (Except BrokerError Unit) := do
  -- Each attempt has the channel to itself, and gives it up for the wait after it.
  let outcome ← policy.run (fun delay => (PublisherCall.wait delay).make)
    fun _ => withChannel (publishOnce exchange body)
  return outcome.mapError fun exhausted =>
    .publishExhausted exchange exhausted.attempts exhausted.lastError.message

/-- Closes the channel; nothing counts as declared after that. -/
def close : PublisherProgram (Except BrokerError Unit) :=
  withChannel do
    match ← (PublisherCall.channel .close).make with
    -- A channel that could not be closed keeps what was declared on it.
    | .error fault => return .error fault
    | .ok () =>
      PublisherCall.forgetAll.make
      return .ok ()

end Publisher

end SessionGate
