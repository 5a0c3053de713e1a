import SessionGate.Broker.HttpAdmin
import SessionGate.Broker.Topology
import SessionGate.Identity.Directory
import SessionGate.Identity.HttpClient
import SessionGate.Rehearsal.Log
import SessionGate.Rehearsal.Script
import SessionGate.Retry
import SessionGate.Store.Table
import SessionGate.Time.Instant

/-! The collaborators of a rehearsal, and how they answer. -/

namespace SessionGate

/-- Who plays the identity service. -/
inductive IdentityRole where
  | directory (directory : Directory)
  | http (service : HttpIdentity)

/-- Who plays the administration of the broker: one who accepts all but some operations, or the
management API of a scripted server. -/
inductive AdminRole where
  | accepting (failing : List String)
  | http (admin : HttpAdmin)

/-- Who plays the broker resources of users: one who takes orders as a whole and remembers them,
or the topology made by administration. -/
inductive TopologyRole where
  | whole (failsSetUp failsTearDown : Bool) (orders : List TopologyCall)
  | administered (options : TopologyOptions)

/-- Who plays the publisher: one who takes messages, or a publisher over a scripted channel. -/
inductive PublisherRole where
  | whole (fails : Bool) (accepted : Nat)
  | channel (policy : RetryPolicy)

/-- A table of sessions whose identifiers are numbered and whose clock advances by a second with
each reading, and the ways in which it fails for now. -/
structure StoreRole where
  table : SessionTable
  created : Nat
  ticks : Nat
  failures : List (String × StoreError)
  hiddenLookups : Nat

/-- The collaborators of a rehearsal, the time, and what has been seen, the latest first. -/
structure World where
  now : Instant
  seen : List Event
  servers : RemoteServers
  identity : IdentityRole
  identityFailures : List (String × IdentityError)
  forcedValidation : Option TokenValidation
  store : StoreRole
  admin : AdminRole
  topology : TopologyRole
  publisher : PublisherRole
  script : ChannelScript
  declared : List String

namespace StoreRole

/-- A store without sessions and without faults. -/
def empty : StoreRole := ⟨.empty, 0, 0, [], 0⟩

/-- The moment at which the clock of a store starts. -/
def epoch : Timestamp := ⟨2024, 1, 1, 0, 0, 0, 0⟩

/-- What the next call may take from outside. -/
def fresh (role : StoreRole) : Fresh :=
  ⟨.numbered (role.created + 1), epoch.addSeconds (role.ticks + 1)⟩

/-- A call that succeeded has read the clock. -/
def readsClock : StoreCall → Bool
  | .create _ _ | .complete _ => true
  | .transition _ target => target == .completed
  | _ => false

/-- A call that succeeded has used an identifier. -/
def usesIdentifier : StoreCall → Bool
  | .create _ _ => true
  | _ => false

/-- Answers a call by the table. -/
def serve (role : StoreRole) (call : StoreCall) : call.Answer × StoreRole :=
  let (given, table) := role.table.perform role.fresh call
  -- A call that failed has neither read the clock nor used the identifier.
  match given with
  | .error fault => (.error fault, { role with table })
  | .ok found =>
    (.ok found, { role with
      table
      created := if usesIdentifier call then role.created + 1 else role.created
      ticks := if readsClock call then role.ticks + 1 else role.ticks })

/-- Answers a call, unless it is to fail, or to overlook the session that it asks for. -/
def perform (role : StoreRole) (call : StoreCall) : call.Answer × StoreRole :=
  match role.failures.lookup call.name with
  | some fault => (.error fault, role)
  | none =>
    match call with
    | .activeSession user =>
      -- Overlooking a session is what happens when another one is inserted meanwhile.
      if 0 < role.hiddenLookups then
        (.ok none, { role with hiddenLookups := role.hiddenLookups - 1 })
      else role.serve (.activeSession user)
    | call => role.serve call

end StoreRole

/-- Puts a fault in the place of the one under the same name, or takes it away. -/
def setFault {ε : Type} (faults : List (String × ε)) (name : String) (fault : Option ε) :
    List (String × ε) :=
  let others := faults.filter fun known => known.1 != name
  match fault with
  | some fault => (name, fault) :: others
  | none => others

namespace World

/-- A world in which everything succeeds and nobody is known. -/
def initial : World where
  now := .start
  seen := []
  servers := ⟨false, []⟩
  identity := .directory .empty
  identityFailures := []
  forcedValidation := none
  store := .empty
  admin := .accepting []
  topology := .administered ⟨none, none⟩
  publisher := .channel .default
  script := .empty
  declared := []

/-- The world after something has been seen. -/
def see (world : World) (event : Event) : World := { world with seen := event :: world.seen }

/-- Sends a request to the scripted servers; only those that can be reached see it. -/
def send (request : Outgoing) (world : World) : Except SendFault Reply × World :=
  let (given, servers) := world.servers.serve request
  let world := { world with servers }
  -- Whoever cannot be reached sees no request.
  (given, if servers.hear request then world.see (.sent request) else world)

/-- Answers a call to the identity service, unless it is to fail or its answer is forced. -/
def askIdentity (call : IdentityCall) (world : World) : call.Answer × World :=
  let world := world.see (.identity call)
  match world.identityFailures.lookup call.name with
  | some fault => (.error fault, world)
  | none =>
    -- A forced answer is given without asking whoever plays the service.
    match call, world.forcedValidation with
    | .validateToken _ _, some validation => (.ok validation, world)
    | call, _ =>
      match world.identity with
      | .directory directory =>
        let (given, directory) := directory.perform call
        (given, { world with identity := .directory directory })
      | .http service => (service.perform call).run send world

/-- Answers a call to the session store. -/
def askStore (call : StoreCall) (world : World) : call.Answer × World :=
  let world := world.see (.store call)
  let (given, store) := world.store.perform call
  (given, { world with store })

/-- The fault of an operation that is to fail. -/
def injected : (call : AdminCall) → call.Answer
  | .change wanted => .error (.unexpectedStatus wanted.operation 500 "injected failure")
  | .overview => .error (.transport "injected failure")

/-- The answer of a broker that accepts everything and tells nothing about itself. -/
def accepted : (call : AdminCall) → call.Answer
  | .change _ => .ok ()
  | .overview => .ok ⟨none, none⟩

/-- Answers what is asked of the broker's administration. -/
def askAdmin (call : AdminCall) (world : World) : call.Answer × World :=
  match world.admin with
  | .accepting failing =>
    let world := world.see (.admin call)
    (if failing.contains call.operation then injected call else accepted call, world)
  | .http admin => (admin.perform call).run send world

/-- Answers an order about the broker resources of a user. -/
def askTopology (call : TopologyCall) (world : World) : call.Answer × World :=
  match world.topology with
  | .administered options => (Topology.perform options call).run askAdmin world
  | .whole failsSetUp failsTearDown orders =>
    -- An order is remembered even if it is to fail.
    let world := { world.see (.topology call) with
      topology := .whole failsSetUp failsTearDown (orders ++ [call]) }
    match call with
    | .setUp _ _ =>
      (if failsSetUp then .error (.unexpectedStatus "create_user" 500 "injected failure")
        else .ok (), world)
    | .tearDown user =>
      (if failsTearDown then
          .error (.teardownIncomplete user.text (.transport "injected failure"))
        else .ok (), world)

/-- The fault of a publisher that takes no message. -/
def refusal (exchange : String) : BrokerError := .publishExhausted exchange 5 "injected failure"

/-- Takes a message as a whole. A publisher over a channel is asked in parts instead. -/
def askPublisher (exchange body : String) (world : World) : Except BrokerError Unit × World :=
  match world.publisher with
  | .whole fails accepted =>
    let world := world.see (.published exchange body)
    if fails then (.error (refusal exchange), world)
    else (.ok (), { world with publisher := .whole fails (accepted + 1) })
  | .channel _ => (.ok (), world)

end World

end SessionGate
