import SessionGate.Broker.Admin
import SessionGate.Broker.Error
import SessionGate.Broker.Names
import SessionGate.Identifier.UserId

/-! The broker resources of one user: an account, two queues, permissions, and on wish a binding
to a dispatch exchange and a shovel to another broker. -/

namespace SessionGate

/-- An order to set up or to take away all broker resources of a user. -/
inductive TopologyCall where
  | setUp (user : UserId) (password : String)
  | tearDown (user : UserId)
  deriving DecidableEq

namespace TopologyCall

/-- What an order is answered with. -/
abbrev Answer (_call : TopologyCall) : Type := Except BrokerError Unit

/-- The user whose resources are concerned. -/
def user : TopologyCall → UserId
  | .setUp user _ | .tearDown user => user

end TopologyCall

/-- The features that a topology may have. -/
structure TopologyOptions where
  dispatchExchange : Option String
  shovelDestination : Option String
  deriving DecidableEq, Repr

namespace Topology

/-- What a user's account may do: consume from one queue and publish to the other. -/
def permissions (user : UserId) : Permissions :=
  ⟨"", BrokerNames.writePattern user, BrokerNames.readPattern user⟩

/-- The shovel that carries a user's output to another broker. -/
def shovel (user : UserId) (destination : String) : ShovelDefinition :=
  ⟨BrokerNames.outputsQueue user, destination, BrokerNames.outputsQueue user⟩

/-- The binding by which an exchange delivers a user's messages to the user's queue. -/
def bindDispatcher (user : UserId) (exchange : String) : AdminChange :=
  .bindQueue exchange (BrokerNames.dispatcherQueue user) (BrokerNames.account user)

/-- The changes that set a user's resources up, in their order. -/
def setUpChanges (options : TopologyOptions) (user : UserId) (password : String) :
    List AdminChange :=
  -- The account comes first, since permissions can be given only to one that exists.
  [.createUser (BrokerNames.account user) password,
    .declareQueue (BrokerNames.dispatcherQueue user) .default,
    .declareQueue (BrokerNames.outputsQueue user) .default] ++
  (options.dispatchExchange.map (bindDispatcher user)).toList ++
  -- Permissions come after all that they are about.
  [.setPermissions (BrokerNames.account user) (permissions user)] ++
  (options.shovelDestination.map fun destination =>
    AdminChange.createShovel (BrokerNames.outputsShovel user) (shovel user destination)).toList

/-- The changes that take a user's resources away before the account goes. -/
def tearDownChanges (options : TopologyOptions) (user : UserId) : List AdminChange :=
  (options.shovelDestination.map fun _ =>
    AdminChange.deleteShovel (BrokerNames.outputsShovel user)).toList ++
  -- The third queue is declared no longer, but older sessions may have left one.
  [.deleteQueue (BrokerNames.dispatcherQueue user), .deleteQueue (BrokerNames.outputsQueue user),
    .deleteQueue (BrokerNames.inputsQueue user)]

/-- The changes that declare what all sessions share. -/
def sharedChanges (options : TopologyOptions) (notificationExchange : String) : List AdminChange :=
  .declareExchange notificationExchange .fanout ::
    (options.dispatchExchange.map fun exchange =>
      AdminChange.declareExchange exchange .direct).toList

/-- Makes changes one after another up to the first that fails. -/
def untilFailure : List AdminChange → AdminProgram (Except BrokerError Unit)
  | [] => return .ok ()
  | change :: rest => do
    match ← change.make with
    | .ok () => untilFailure rest
    | .error fault => return .error fault

/-- Makes changes one after another, whatever becomes of them. -/
def regardless : List AdminChange → AdminProgram Unit
  | [] => return ()
  | change :: rest => do
    -- Each change is made on its own, so that one failure leaves as little behind as possible.
    let _ ← change.make
    regardless rest

/-- Sets a user's resources up, or tells the first change that failed. -/
def setUp (options : TopologyOptions) (user : UserId) (password : String) :
    AdminProgram (Except BrokerError Unit) :=
  untilFailure (setUpChanges options user password)

/-- Takes a user's resources away. It fails only if the account could not be deleted. -/
def tearDown (options : TopologyOptions) (user : UserId) :
    AdminProgram (Except BrokerError Unit) := do
  regardless (tearDownChanges options user)
  -- Without its account nobody can use what may be left, so the account alone decides.
  match ← (AdminChange.deleteUser (BrokerNames.account user)).make with
  | .ok () => return .ok ()
  | .error fault => return .error (.teardownIncomplete user.text fault)

/-- Declares the exchanges that all sessions share. -/
def declareShared (options : TopologyOptions) (notificationExchange : String) :
    AdminProgram (Except BrokerError Unit) :=
  untilFailure (sharedChanges options notificationExchange)

/-- Carries out an order about a user's resources. -/
def perform (options : TopologyOptions) : (call : TopologyCall) → AdminProgram call.Answer
  | .setUp user password => setUp options user password
  | .tearDown user => tearDown options user

end Topology

end SessionGate
