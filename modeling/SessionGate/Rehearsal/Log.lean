import SessionGate.Broker.Admin
import SessionGate.Broker.Amqp
import SessionGate.Broker.Channel
import SessionGate.Broker.Topology
import SessionGate.Http.Outgoing
import SessionGate.Identity.Call
import SessionGate.Store.Statement

/-! What can be seen of a rehearsal: the calls that reach the collaborators. As a document each call
is a list of its name and of what it was made with. -/

namespace SessionGate

/-- A call that has reached a collaborator. -/
inductive Event where
  | identity (call : IdentityCall)
  | store (call : StoreCall)
  | locked (user : UserId)
  | unlocked (user : UserId)
  | topology (call : TopologyCall)
  | admin (call : AdminCall)
  | published (exchange body : String)
  | channel (call : ChannelCall)
  | sent (request : Outgoing)
  deriving DecidableEq

/-- The document of what a call to the identity service finds out. -/
def IdentityCall.resultLog : (call : IdentityCall) → call.Result → Json
  | .validateToken _ _ => TokenValidation.toJson
  | .getUser _ => UserProfile.toJson
  | .revokeAuthorization _ | .revokeToken _ _ => fun _ => .null

/-- The document of what a call to a session store finds out. -/
def StoreCall.resultLog : (call : StoreCall) → call.Result → Json
  | .activeSession _ => fun found : Option Session => Json.ofOption Session.toJson found
  | .session _ | .create _ _ | .transition _ _ => Session.toJson
  | .setStatus _ _ | .complete _ | .setDispatcherStatus _ _ | .delete _ | .ping => fun _ => .null

/-- The document of a call. -/
def callDocument (name : String) (arguments : List Json) : Json := .list (.text name :: arguments)

/-- The document of options of a queue. -/
def QueueOptions.toJson (options : QueueOptions) : Json :=
  .object [("auto_delete", .boolean options.autoDelete), ("durable", .boolean options.durable)]

/-- The document of a shovel. -/
def ShovelDefinition.toJson (definition : ShovelDefinition) : Json :=
  .list [.text definition.sourceQueue, .text definition.destinationUri,
    .text definition.destinationQueue]

/-- What a change is made with, as documents. -/
def AdminChange.arguments : AdminChange → List Json
  | .createUser name password => [.text name, .text password]
  | .declareQueue name options => [.text name, options.toJson]
  | .declareExchange name kind => [.text name, .text kind.name]
  | .setPermissions name permissions => [.text name, permissions.toJson]
  | .bindQueue exchange queue routingKey => [.text exchange, .text queue, .text routingKey]
  | .createShovel name definition => [.text name, definition.toJson]
  | .deleteUser name | .deleteQueue name | .deleteExchange name | .deleteShovel name =>
    [.text name]

/-- The document of a change; a mark may stand before its name. -/
def AdminChange.log (mark : String) (wanted : AdminChange) : Json :=
  callDocument (mark ++ wanted.operation) wanted.arguments

/-- The document of a request to another service. What it does not have is left out. -/
def Outgoing.log (request : Outgoing) : Json :=
  let authorizations := request.authorizations
  .object ([("method", .text request.method), ("url", .text request.sentUrl.render),
    ("body", .text (request.body.getD ""))] ++
    -- A request without an account has no such header, rather than an empty one.
    (if authorizations.isEmpty then []
      else [("authorization", .list (authorizations.map .text))]) ++
    (request.body.map fun _ => ("content-type", Json.list [.text "application/json"])).toList)

/-- The document of something seen. -/
def Event.log : Event → Json
  | .identity call => callDocument ("identity." ++ call.name) (call.arguments.map .text)
  | .store call => callDocument ("store." ++ call.name) (call.arguments.map .text)
  | .locked user => callDocument "store.lock_user" [.text user.text]
  | .unlocked user => callDocument "store.unlock_user" [.text user.text]
  | .topology (.setUp user password) =>
    callDocument "topology.set_up" [.text user.text, .text password]
  | .topology (.tearDown user) => callDocument "topology.delete" [.text user.text]
  | .admin (.change wanted) => wanted.log "admin."
  | .admin .overview => callDocument "admin.overview" []
  | .published exchange body => callDocument "publisher.publish" [.text exchange, .text body]
  | .channel call => callDocument ("channel." ++ call.name) (call.arguments.map .text)
  | .sent request => .object [("upstream", request.log)]

/-- The changes among what has been seen. -/
def Event.change? : Event → Option AdminChange
  | .admin (.change wanted) => some wanted
  | _ => none

/-- The document of a method on a messaging connection. Whether something is open is found out
without a method. -/
def AmqpCall.log? : AmqpCall → Option Json
  | .isConnectionOpen | .isChannelOpen => none
  | .openConnection vhost => some (callDocument "amqp.connection.open" [.text vhost])
  | .openChannel => some (callDocument "amqp.channel.open" [])
  | .selectConfirms => some (callDocument "amqp.confirm.select" [])
  | .declareExchange exchange =>
    some (callDocument "amqp.exchange.declare" [.text exchange, .text ExchangeKind.fanout.name,
      .object [("auto_delete", .boolean false), ("durable", .boolean true),
        ("internal", .boolean false), ("passive", .boolean false)]])
  | .publish exchange body =>
    some (callDocument "amqp.basic.publish" [.text exchange, .text "",
      .object [("immediate", .boolean false), ("mandatory", .boolean false)],
      .object [("content_type", .text "application/json")], .text body])
  | .closeChannel code reason =>
    some (callDocument "amqp.channel.close" [.number code, .text reason])
  | .closeConnection code => some (callDocument "amqp.connection.close" [.number code])

/-- The values of a statement as they are shown: an identifier made for a new session differs from
run to run. -/
def Statement.shownValues (statement : Statement) : List String :=
  match statement, statement.values with
  -- The first value of an insertion is the new identifier.
  | .insert _ _ _, _ :: rest => "<generated>" :: rest
  | _, values => values

/-- The document of a statement. -/
def Statement.log (statement : Statement) : Json :=
  callDocument "sql" [.text statement.text, .list (statement.shownValues.map .text)]

end SessionGate
