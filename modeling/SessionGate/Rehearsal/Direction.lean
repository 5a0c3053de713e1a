import SessionGate.Rehearsal.World

/-! What the collaborators of a rehearsal can be told between two requests. -/

namespace SessionGate

/-- How a collaborator is to behave from now on, or what it is to know. -/
inductive Direction where
  | addUser (profile : UserProfile)
  | identityDown (isDown : Bool)
  | identityRefusal (problem : Option Problem)
  | forcedValidation (validation : Option TokenValidation)
  | identityFault (name : String) (fault : Option IdentityError)
  | storeFault (name : String) (fault : Option StoreError)
  | hideActive (times : Nat)
  | session (session : Session)
  | failTopology (setUp tearDown : Option Bool)
  | failAdmin (operation : String)
  | failPublisher (fails : Bool)

namespace StoreRole

/-- The store with a session put into its table as it is. -/
def put (role : StoreRole) (session : Session) : StoreRole :=
  { role with table := role.table.insert session }

/-- The store that fails a call in some way, or does not any more. -/
def withFault (role : StoreRole) (name : String) (fault : Option StoreError) : StoreRole :=
  { role with failures := setFault role.failures name fault }

/-- The sessions of the store in the order of their identifiers. -/
def sessions (role : StoreRole) : List Session :=
  role.table.rows.mergeSort fun first second => first.id.le second.id

end StoreRole

namespace IdentityRole

/-- Changes the directory, if there is one. -/
def mapDirectory (change : Directory → Directory) : IdentityRole → IdentityRole
  | .directory known => .directory (change known)
  | .http service => .http service

/-- The users and the tokens that a directory was told to revoke. -/
def revoked : IdentityRole → List String × List String
  | .directory known => (known.revokedUsers, known.revokedTokens)
  | .http _ => ([], [])

end IdentityRole

namespace TopologyRole

/-- The orders that a topology has taken as a whole. -/
def orders : TopologyRole → List TopologyCall
  | .whole _ _ orders => orders
  | .administered _ => []

/-- The users whose resources were to be set up, each with a password. -/
def setUps (role : TopologyRole) : List (String × String) :=
  role.orders.filterMap fun
    | .setUp user password => some (user.text, password)
    | .tearDown _ => none

/-- The users whose resources were to be taken away. -/
def tearDowns (role : TopologyRole) : List String :=
  role.orders.filterMap fun
    | .setUp _ _ => none
    | .tearDown user => some user.text

end TopologyRole

/-- The number of messages that a publisher has taken as a whole. -/
def PublisherRole.accepted : PublisherRole → Nat
  | .whole _ accepted => accepted
  | .channel _ => 0

namespace World

/-- Changes the directory of users, if the world has one. -/
def mapDirectory (world : World) (change : Directory → Directory) : World :=
  { world with identity := world.identity.mapDirectory change }

/-- Tells a collaborator something. One that is not there is told nothing. -/
def follow (world : World) : Direction → World
  | .addUser profile => world.mapDirectory fun directory => directory.addUser profile
  | .identityDown isDown => world.mapDirectory fun directory => { directory with isDown }
  | .identityRefusal problem =>
    world.mapDirectory fun directory => { directory with rejection := problem }
  | .forcedValidation validation => { world with forcedValidation := validation }
  | .identityFault name fault =>
    { world with identityFailures := setFault world.identityFailures name fault }
  | .storeFault name fault => { world with store := world.store.withFault name fault }
  | .hideActive times => { world with store := { world.store with hiddenLookups := times } }
  | .session session => { world with store := world.store.put session }
  -- What is not mentioned stays as it was.
  | .failTopology setUp tearDown =>
    match world.topology with
    | .whole failsSetUp failsTearDown orders =>
      { world with
        topology := .whole (setUp.getD failsSetUp) (tearDown.getD failsTearDown) orders }
    | .administered _ => world
  | .failAdmin operation =>
    match world.admin with
    | .accepting failing => { world with admin := .accepting (operation :: failing) }
    | .http _ => world
  | .failPublisher fails =>
    match world.publisher with
    | .whole _ accepted => { world with publisher := .whole fails accepted }
    | .channel _ => world

end World

end SessionGate
