import SessionGate.Rehearsal.Basic
import SessionGate.Rehearsal.Domain

/-! Who plays which part in a rehearsal. -/

namespace SessionGate

/-- The parts of a rehearsal, as far as settings do not tell them: whether the identity service and
the broker's administration are asked over HTTP, whether orders about broker resources and messages
are taken as a whole, and what servers and the channel do. -/
structure Casting where
  directory : Directory
  hasHttpIdentity : Bool
  hasHttpAdmin : Bool
  takesWholeOrders : Bool
  takesWholeMessages : Bool
  servers : RemoteServers
  script : ChannelScript

/-- Why a rehearsal cannot begin. -/
inductive CastingFault where
  | settings (fault : SettingsError)
  | identity (fault : IdentityError)
  | broker (fault : BrokerError)

namespace Casting

/-- Who plays the identity service. -/
def identity (casting : Casting) (settings : IdentitySettings) :
    Except IdentityError IdentityRole :=
  if casting.hasHttpIdentity then (HttpIdentity.ofSettings settings).map .http
  else .ok (.directory casting.directory)

/-- Who plays the administration of the broker. -/
def admin (casting : Casting) (settings : BrokerSettings) : Except BrokerError AdminRole :=
  if casting.hasHttpAdmin then (HttpAdmin.ofSettings settings).map .http else .ok (.accepting [])

/-- The collaborators as settings name them. The identity service is looked at before the broker's
administration. -/
def world (casting : Casting) (settings : GatewaySettings) : Except CastingFault World := do
  -- Of two parts that cannot be played, the first is told.
  let identity ← (casting.identity settings.identity).mapError .identity
  let admin ← (casting.admin settings.broker).mapError .broker
  return { World.initial with
    identity
    admin
    servers := casting.servers
    script := casting.script
    topology :=
      if casting.takesWholeOrders then .whole false false [] else .administered settings.topology
    publisher :=
      if casting.takesWholeMessages then .whole false 0 else .channel settings.publishPolicy }

/-- The rehearsal of a gateway with its settings, for a connection service with its own. -/
def rehearsal (casting : Casting) (settings : GatewaySettings) (connection : ConnectionSettings) :
    Except CastingFault Rehearsal := do
  return {
    gateway := .ofSettings ⟨settings.key, connection⟩ settings
    requestTimeout := settings.requestTimeout
    topology := settings.topology
    schedule := .ofWorld (← casting.world settings) }

/-- The passing of time shows only where no collaborator is asked over HTTP. -/
def isTimed (casting : Casting) : Bool := !casting.hasHttpIdentity && !casting.hasHttpAdmin

end Casting

end SessionGate
