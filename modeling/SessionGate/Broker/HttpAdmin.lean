import SessionGate.Broker.Admin
import SessionGate.Broker.Settings
import SessionGate.Http.Outgoing

/-! Administering a broker over its management API. -/

namespace SessionGate

/-- The management API of one virtual host, and the account it is used under. -/
structure HttpAdmin where
  base : Url
  vhost : String
  username : String
  password : String
  deriving DecidableEq

namespace HttpAdmin

/-- The management API that settings name, if its URL can have paths. -/
def ofSettings [Url.DomainLookup] (settings : BrokerSettings) : Except BrokerError HttpAdmin :=
  match Url.parse settings.managementUrl with
  | .error fault => .error (.settings ("invalid management URL: " ++ fault.message))
  | .ok base =>
    -- The URL is told as it was understood, not as it was written.
    if base.cannotBeBase then
      .error (.settings ("management URL cannot have paths: " ++ base.render))
    else .ok ⟨base, settings.vhost, settings.username, settings.password⟩

/-- The URL of a resource, each segment being escaped so that it stays one. -/
def resource (admin : HttpAdmin) (segments : List String) : Url :=
  -- A slash at the end of the base must not leave an empty segment behind.
  admin.base.popIfEmpty.push ("api" :: segments)

/-- The segments that lead to what a change is made of. -/
def segments (vhost : String) : AdminChange → List String
  | .createUser name _ => ["users", name]
  | .deleteUser name => ["users", name]
  | .declareQueue name _ => ["queues", vhost, name]
  | .deleteQueue name => ["queues", vhost, name]
  | .declareExchange name _ => ["exchanges", vhost, name]
  | .deleteExchange name => ["exchanges", vhost, name]
  | .setPermissions name _ => ["permissions", vhost, name]
  | .bindQueue exchange queue _ => ["bindings", vhost, "e", exchange, "q", queue]
  | .createShovel name _ => ["parameters", "shovel", vhost, name]
  | .deleteShovel name => ["parameters", "shovel", vhost, name]

/-- The method of a change. -/
def method : AdminChange → String
  | .deleteUser _ | .deleteQueue _ | .deleteExchange _ | .deleteShovel _ => "DELETE"
  | .bindQueue _ _ _ => "POST"
  | _ => "PUT"

/-- The document that a change is described by. -/
def document : AdminChange → Option Json
  | .createUser _ password => some (.object [("password", .text password), ("tags", .text "")])
  | .declareQueue _ options =>
    -- Members stand in the order of their names.
    some (.object [("arguments", .object []), ("auto_delete", .boolean options.autoDelete),
      ("durable", .boolean options.durable)])
  | .declareExchange _ kind =>
    some (.object [("arguments", .object []), ("auto_delete", .boolean false),
      ("durable", .boolean true), ("internal", .boolean false), ("type", .text kind.name)])
  | .setPermissions _ permissions => some permissions.toJson
  | .bindQueue _ _ routingKey =>
    some (.object [("arguments", .object []), ("routing_key", .text routingKey)])
  | .createShovel _ definition =>
    some (.object [("value", .object [("dest-protocol", .text "amqp091"),
      ("dest-queue", .text definition.destinationQueue),
      ("dest-uri", .text definition.destinationUri), ("src-protocol", .text "amqp091"),
      ("src-queue", .text definition.sourceQueue), ("src-uri", .text "amqp://")])])
  | .deleteUser _ | .deleteQueue _ | .deleteExchange _ | .deleteShovel _ => none

/-- The statuses that tell of success: what is created may be there already, and what is deleted
may be missing. -/
def successes : AdminChange → List Nat
  | .deleteUser _ | .deleteQueue _ | .deleteExchange _ | .deleteShovel _ => [204, 404]
  | _ => [201, 204]

/-- The request for a resource, under the account of the API. -/
def request (admin : HttpAdmin) (method : String) (segments : List String)
    (document : Option Json) : Outgoing :=
  ⟨method, admin.resource segments, some (admin.username, admin.password),
    document.map Json.render⟩

/-- The answer to a request, if its status tells of success. -/
def expect (operation : String) (successes : List Nat) :
    Except SendFault Reply → Except BrokerError Reply
  | .error fault => .error (.transport (operation ++ ": " ++ fault.message))
  | .ok reply =>
    -- The body is told whatever its bytes are.
    if successes.contains reply.status then .ok reply
    else .error (.unexpectedStatus operation reply.status (Text.ofUtf8Repaired reply.body))

/-- Makes a change by one request. -/
def change (admin : HttpAdmin) (wanted : AdminChange) : SendProgram (Except BrokerError Unit) := do
  let sent ← (admin.request (method wanted) (segments admin.vhost wanted) (document wanted)).send
  return (expect wanted.operation (successes wanted) sent).map fun _ => ()

/-- Asks for the overview by one request. -/
def overview (admin : HttpAdmin) : SendProgram (Except BrokerError BrokerOverview) := do
  let sent ← (admin.request "GET" ["overview"] none).send
  return do
    let reply ← expect "overview" [200] sent
    -- A body that is no overview is as good as none, whatever is wrong with it.
    match BrokerOverview.shape.read reply.body with
    | .ok document =>
      match BrokerOverview.ofJson? document with
      | some overview => .ok overview
      | none => .error (.transport "overview: error decoding response body")
    | .error _ => .error (.transport "overview: error decoding response body")

/-- Carries out what is asked of the broker. -/
def perform (admin : HttpAdmin) : (call : AdminCall) → SendProgram call.Answer
  | .change wanted => admin.change wanted
  | .overview => admin.overview

end HttpAdmin

end SessionGate
