import SessionGate.Broker.Error
import SessionGate.Json.Shape
import SessionGate.Program

/-! The administrative operations of a broker. -/

namespace SessionGate

/-- How a queue is declared. -/
structure QueueOptions where
  durable : Bool
  autoDelete : Bool
  deriving DecidableEq, Repr

/-- A queue survives restarts and stays when nothing consumes from it. -/
def QueueOptions.default : QueueOptions := ⟨true, false⟩

/-- How an exchange delivers: to all queues, by the exact key, or by a pattern. -/
inductive ExchangeKind where
  | fanout
  | direct
  | topic
  deriving DecidableEq, Repr

/-- The name of a kind of exchange. -/
def ExchangeKind.name : ExchangeKind → String
  | .fanout => "fanout"
  | .direct => "direct"
  | .topic => "topic"

/-- The kind of exchange of a name. -/
def ExchangeKind.ofName? (name : String) : Option ExchangeKind :=
  -- A name is looked up among those the kinds are written by, so reading undoes writing.
  [.fanout, .direct, .topic].find? fun kind => kind.name == name

/-- The patterns of the resources that an account may configure, write to and read from. -/
structure Permissions where
  configure : String
  write : String
  read : String
  deriving DecidableEq, Repr

/-- The document of permissions. -/
def Permissions.toJson (permissions : Permissions) : Json :=
  .object [("configure", .text permissions.configure), ("write", .text permissions.write),
    ("read", .text permissions.read)]

/-- A shovel moves messages from a queue here to a queue of another broker. -/
structure ShovelDefinition where
  sourceQueue : String
  destinationUri : String
  destinationQueue : String
  deriving DecidableEq, Repr

/-- What a broker tells about itself. -/
structure BrokerOverview where
  version : Option String
  clusterName : Option String
  deriving DecidableEq, Repr

/-- The document of an overview. -/
def BrokerOverview.toJson (overview : BrokerOverview) : Json :=
  .object [("rabbitmq_version", Json.ofOption .text overview.version),
    ("cluster_name", Json.ofOption .text overview.clusterName)]

/-- The shape of an overview, all of which may be left out. -/
def BrokerOverview.shape : Json.Shape :=
  .record [.withDefault "rabbitmq_version" .null (.optional .anyText),
    .withDefault "cluster_name" .null (.optional .anyText)]

/-- The overview that a document of the shape tells. -/
def BrokerOverview.ofJson? (document : Json) : Option BrokerOverview :=
  match document.fieldValues with
  | [version, clusterName] => do
    return ⟨← Json.optional? Json.text? version, ← Json.optional? Json.text? clusterName⟩
  | _ => none

/-- A change to what the broker holds. -/
inductive AdminChange where
  | createUser (name password : String)
  | deleteUser (name : String)
  | declareQueue (name : String) (options : QueueOptions)
  | deleteQueue (name : String)
  | declareExchange (name : String) (kind : ExchangeKind)
  | deleteExchange (name : String)
  | setPermissions (name : String) (permissions : Permissions)
  | bindQueue (exchange queue routingKey : String)
  | createShovel (name : String) (definition : ShovelDefinition)
  | deleteShovel (name : String)
  deriving DecidableEq, Repr

/-- The name of a change as faults tell it. -/
def AdminChange.operation : AdminChange → String
  | .createUser _ _ => "create_user"
  | .deleteUser _ => "delete_user"
  | .declareQueue _ _ => "declare_queue"
  | .deleteQueue _ => "delete_queue"
  | .declareExchange _ _ => "declare_exchange"
  | .deleteExchange _ => "delete_exchange"
  | .setPermissions _ _ => "set_permissions"
  | .bindQueue _ _ _ => "bind_queue"
  | .createShovel _ _ => "create_shovel"
  | .deleteShovel _ => "delete_shovel"

/-- What is asked of a broker: a change, or what it tells about itself. -/
inductive AdminCall where
  | change (wanted : AdminChange)
  | overview
  deriving DecidableEq, Repr

/-- The name of what is asked as faults tell it. -/
def AdminCall.operation : AdminCall → String
  | .change wanted => wanted.operation
  | .overview => "overview"

/-- What a broker answers. -/
def AdminCall.Answer : AdminCall → Type
  | .change _ => Except BrokerError Unit
  | .overview => Except BrokerError BrokerOverview

/-- A computation that administers a broker. -/
abbrev AdminProgram := Program AdminCall AdminCall.Answer

/-- Asks for one change. -/
def AdminChange.make (wanted : AdminChange) : AdminProgram (Except BrokerError Unit) :=
  Program.question (AdminCall.change wanted)

end SessionGate
