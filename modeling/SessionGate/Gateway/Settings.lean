import SessionGate.Broker.Settings
import SessionGate.Broker.Topology
import SessionGate.Connection.Documents
import SessionGate.Credential
import SessionGate.Gateway.Environment
import SessionGate.Identity.HttpClient
import SessionGate.Retry
import SessionGate.Time.Duration

/-! The settings of the gateway, read once from variables. -/

namespace SessionGate

/-- The URL of the session database, and the bounds of the pool of connections to it. -/
structure DatabaseSettings where
  url : String
  maxConnections : Nat
  minConnections : Nat
  acquireTimeout : Duration
  maxLifetime : Duration
  deriving DecidableEq

/-- The settings of a database of which only the URL is told. -/
def DatabaseSettings.ofUrl (url : String) : DatabaseSettings :=
  ⟨url, 25, 5, .ofSeconds 5, .ofSeconds 300⟩

/-- All settings of the gateway. -/
structure GatewaySettings where
  listenAddress : String
  origins : List String
  maxBodyBytes : Nat
  requestTimeoutSeconds : Nat
  database : DatabaseSettings
  identity : IdentitySettings
  broker : BrokerSettings
  publicHost : String
  publicPort : Nat
  publishAttempts : Nat
  key : CredentialKey
  provisionTimeoutSeconds : Nat
  dispatchExchange : Option String
  shovelDestination : Option String
  deriving DecidableEq

namespace GatewaySettings

/-- The largest number of two bytes. -/
def twoBytes : Nat := Nat.pow 2 16 - 1

/-- The largest number of four bytes. -/
def fourBytes : Nat := Nat.pow 2 32 - 1

/-- The largest number of eight bytes. -/
def eightBytes : Nat := Nat.pow 2 64 - 1

/-- A URL of the database by its host, port, account and name. -/
def databaseUrl [Url.DomainLookup] (host : String) (port : Nat) (user password name : String) :
    Except SettingsError String := do
  let refuse := SettingsError.invalid "POSTGRES_HOST"
  let base ← match Url.parse ("postgres://" ++ host ++ ":" ++ toString port) with
    | .ok url => pure url
    | .error fault => throw (refuse fault.message)
  let some named := base.withUsername? user | throw (refuse "cannot carry credentials")
  -- An empty password is not written at all.
  let some trusted := if password.isEmpty then some named else named.withPassword? password
    | throw (refuse "cannot carry credentials")
  if trusted.cannotBeBase then throw (refuse "cannot carry a database name")
  return (trusted.push [name]).render

/-- The URL of the database: told as a whole, or by its parts. -/
def readDatabaseUrl [Url.DomainLookup] (environment : Environment) :
    Except SettingsError String := do
  match environment.get? "DATABASE_URL" with
  -- A URL that is told as a whole is taken unread.
  | some url => return url
  | none =>
    let some host := environment.get? "POSTGRES_HOST"
      | throw (.missing "DATABASE_URL or POSTGRES_HOST")
    let port ← environment.numberOr "POSTGRES_PORT" twoBytes 5432
    let user ← environment.require "POSTGRES_USER"
    let password := (environment.get? "POSTGRES_PASS").getD ""
    let name ← environment.require "POSTGRES_DB"
    databaseUrl host port user password name

/-- The settings of the database. -/
def readDatabase [Url.DomainLookup] (environment : Environment) :
    Except SettingsError DatabaseSettings := do
  let settings := DatabaseSettings.ofUrl (← readDatabaseUrl environment)
  let maxConnections ←
    environment.numberOr "DB_MAX_CONNECTIONS" fourBytes settings.maxConnections
  let acquireTimeout ← environment.number? "DB_ACQUIRE_TIMEOUT_SECONDS" eightBytes
  return { settings with
    maxConnections
    acquireTimeout := (acquireTimeout.map Duration.ofSeconds).getD settings.acquireTimeout }

/-- The settings of the identity service. -/
def readIdentity (environment : Environment) : IdentitySettings :=
  { IdentitySettings.default with
    baseUrl := (environment.get? "USERS_SERVICE_URL").getD IdentitySettings.default.baseUrl }

/-- The settings of the broker. Its management API is on the broker's host unless told
otherwise. -/
def readBroker (environment : Environment) : Except SettingsError BrokerSettings := do
  let default := BrokerSettings.default
  let host := (environment.get? "RABBITMQ_HOST").getD default.host
  let amqpPort ← environment.numberOr "RABBITMQ_PORT" twoBytes default.amqpPort
  return {
    host
    amqpPort
    managementUrl :=
      (environment.get? "RABBITMQ_MANAGEMENT_URL").getD ("http://" ++ host ++ ":15672")
    username := (environment.get? "RABBITMQ_USER").getD default.username
    password := (environment.get? "RABBITMQ_PASS").getD default.password
    vhost := (environment.get? "RABBITMQ_VHOST").getD default.vhost
    requestTimeoutSeconds := default.requestTimeoutSeconds }

/-- The key of the passwords. -/
def readKey (environment : Environment) : Except SettingsError CredentialKey := do
  match CredentialKey.ofHex (← environment.require "CREDENTIAL_SECRET") with
  | .ok key => return key
  | .error fault =>
    throw (.invalid "CREDENTIAL_SECRET" ("expected 64 hex characters: " ++ fault.message))

/-- How often a message is tried to be published, at least once. -/
def readPublishAttempts (environment : Environment) : Except SettingsError Nat := do
  let attempts ←
    environment.numberOr "PUBLISH_MAX_RETRIES" fourBytes RetryPolicy.defaultAttempts
  if attempts = 0 then throw (.invalid "PUBLISH_MAX_RETRIES" "must be at least 1")
  return attempts

/-- The parts of a text between commas, without blanks around them and without empty ones. -/
def readOrigins (text : String) : List String :=
  ((text.splitOn ",").map Text.trim).filter fun origin => !origin.isEmpty

/-- Reads all settings; the first variable that is missing or cannot be used is told. -/
def read [Url.DomainLookup] (environment : Environment) : Except SettingsError GatewaySettings := do
  -- The order of reading decides which fault is told if there are several.
  let database ← readDatabase environment
  let identity := readIdentity environment
  let broker ← readBroker environment
  let key ← readKey environment
  let publishAttempts ← readPublishAttempts environment
  let maxBodyBytes ← environment.numberOr "MAX_BODY_BYTES" eightBytes 1048576
  let requestTimeoutSeconds ← environment.numberOr "REQUEST_TIMEOUT_SECONDS" eightBytes 30
  let publicPort ← environment.numberOr "RABBITMQ_PUBLIC_PORT" twoBytes broker.amqpPort
  let provisionTimeoutSeconds ← environment.numberOr "PROVISION_TIMEOUT_SECONDS" eightBytes 60
  return {
    listenAddress := (environment.get? "LISTEN_ADDR").getD "0.0.0.0:8080"
    origins := ((environment.get? "CORS_ORIGINS").map readOrigins).getD ["*"]
    maxBodyBytes
    requestTimeoutSeconds
    database
    identity
    broker
    publicHost := (environment.get? "RABBITMQ_PUBLIC_HOST").getD broker.host
    publicPort
    publishAttempts
    key
    provisionTimeoutSeconds
    dispatchExchange := environment.get? "DISPATCH_EXCHANGE"
    shovelDestination := environment.get? "SHOVEL_DESTINATION_URI" }

/-- How long a request may take. -/
def requestTimeout (settings : GatewaySettings) : Duration :=
  .ofSeconds settings.requestTimeoutSeconds

/-- The settings of the connection service. -/
def connection (settings : GatewaySettings) : ConnectionSettings :=
  ⟨settings.publicHost, settings.publicPort, BrokerNames.connectionExchange,
    .ofSeconds settings.provisionTimeoutSeconds⟩

/-- The features of the broker resources of users. -/
def topology (settings : GatewaySettings) : TopologyOptions :=
  ⟨settings.dispatchExchange, settings.shovelDestination⟩

/-- How publishing is tried again. -/
def publishPolicy (settings : GatewaySettings) : RetryPolicy := .linear settings.publishAttempts

end GatewaySettings

end SessionGate
