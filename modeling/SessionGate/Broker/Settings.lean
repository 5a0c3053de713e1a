import SessionGate.Broker.Error
import SessionGate.Url.Parser

/-! The settings of the broker, and the URI of its messaging port. -/

namespace SessionGate

/-- Where the broker is, and the administrative account. -/
structure BrokerSettings where
  host : String
  amqpPort : Nat
  managementUrl : String
  username : String
  password : String
  vhost : String
  requestTimeoutSeconds : Nat
  deriving DecidableEq

namespace BrokerSettings

/-- The settings when none are given. -/
def default : BrokerSettings :=
  ⟨"rabbitmq", 5672, "http://rabbitmq:15672", "guest", "guest", "/", 10⟩

/-- The URI of the messaging port, with the administrative account and the virtual host as the
one segment of its path. -/
def amqpUri [Url.DomainLookup] (settings : BrokerSettings) : Except BrokerError Url := do
  let address := "amqp://" ++ settings.host ++ ":" ++ toString settings.amqpPort
  -- The host is put into the text as it is, so it may bring marks of a URL with it.
  let base ← match Url.parse address with
    | .ok url => pure url
    | .error fault => throw (.settings ("invalid broker host: " ++ fault.message))
  -- A URL that has no host for an account to belong to carries no account.
  let some named := base.withUsername? settings.username
    | throw (.settings "broker username rejected")
  let some trusted := named.withPassword? settings.password
    | throw (.settings "broker password rejected")
  if trusted.cannotBeBase then throw (.settings "broker URI cannot carry a vhost")
  -- Pushed as one segment, a slash in the name of the virtual host is escaped.
  return trusted.clearPath.push [settings.vhost]

end BrokerSettings

end SessionGate
