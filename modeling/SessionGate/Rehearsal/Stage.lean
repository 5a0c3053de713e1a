import SessionGate.Broker.Publisher
import SessionGate.Connection.Call
import SessionGate.Rehearsal.Holding
import SessionGate.Rehearsal.World

/-! A stage on which tasks take turns: each goes on until it has to wait. -/

namespace SessionGate

/-- What a task asks for: a collaborator of the service, or something of the publisher. -/
inductive StageCall where
  | service (call : ServiceCall)
  | publisher (call : PublisherCall)
  deriving DecidableEq

/-- What a task is answered with. -/
def StageCall.Answer : StageCall → Type
  | .service call => call.Answer
  | .publisher call => call.Answer

/-- What a task carries out. -/
abbrev StageProgram := Program (Timed StageCall) (Timed.Answer StageCall.Answer)

/-- A publisher's computation on a stage. -/
def PublisherProgram.staged {α : Type} (program : PublisherProgram α) :
    Program StageCall StageCall.Answer α :=
  program.refine fun call => Program.question (StageCall.publisher call)

/-- A question of the service on a stage: a message is published in parts, if there is a channel
for it. -/
def ServiceCall.staged (role : PublisherRole) :
    (call : ServiceCall) → Program StageCall StageCall.Answer call.Answer
  | .publish exchange body =>
    match role with
    -- Publishing over a channel takes time, so others may have their turns in between.
    | .channel policy => (Publisher.publish policy exchange body).staged
    | .whole _ _ => Program.question (StageCall.service (.publish exchange body))
  | call => Program.question (StageCall.service call)

/-- A computation of the service on a stage. -/
def ServiceProgram.staged {α : Type} (role : PublisherRole) (program : ServiceProgram α) :
    StageProgram α :=
  program.refineTimed (ServiceCall.staged role)

/-- How a question fares: it is answered now, at some moment, or never; or it is to be asked again
when what it waits for has been handed over. -/
inductive Fare (α : Type) where
  | now (given : α)
  | at (moment : Instant) (given : α)
  | never
  | queued

/-- A task that waits: what it goes on with when its answer has come, and what instead when its
deadline has come before. -/
structure Waiting (R : Type) where
  wakes : Option Instant
  resume : StageProgram R
  deadline : Option (Instant × StageProgram R)

/-- A task has its result, or it waits. -/
inductive Halt (R : Type) where
  | finished (result : R)
  | waiting (state : Waiting R)

/-- The world, who holds what in it, and the tasks to which something has been handed over, the
latest first. -/
structure Scene where
  world : World
  holdings : Holdings
  handedTo : List Nat

namespace Scene

/-- The scene after something has been given up. -/
def handOver (scene : Scene) (change : Option Nat × Holdings) : Scene :=
  { scene with holdings := change.2, handedTo := change.1.toList ++ scene.handedTo }

/-- The scene after something has been seen. -/
def see (scene : Scene) (event : Event) : Scene := { scene with world := scene.world.see event }

/-- Gives a resource to a task if it can have it now. -/
def acquire (scene : Scene) (task : Nat) (resource : Resource) : Bool × Scene :=
  let (given, holdings) := scene.holdings.acquire task resource
  (given, { scene with holdings })

/-- Gives up a resource. -/
def release (scene : Scene) (resource : Resource) : Scene :=
  scene.handOver (scene.holdings.release resource)

/-- Locks a user for a task. A lock that is to fail is taken all the same, and given up at once. -/
def lockUser (scene : Scene) (task : Nat) (user : UserId) :
    Fare (Except StoreError Unit) × Scene :=
  match scene.acquire task (.user user) with
  | (false, scene) => (.queued, scene)
  | (true, scene) =>
    -- The lock is seen when it is had, and not when it is asked for.
    let scene := scene.see (.locked user)
    match scene.world.store.failures.lookup "lock_user" with
    | none => (.now (.ok ()), scene)
    | some fault => (.now (.error fault), scene.release (.user user))

/-- Answers a question of the service. -/
def askService (scene : Scene) (task : Nat) : (call : ServiceCall) → Fare call.Answer × Scene
  | .identity call =>
    let (given, world) := scene.world.askIdentity call
    (.now given, { scene with world })
  | .store call =>
    let (given, world) := scene.world.askStore call
    (.now given, { scene with world })
  | .lockUser user => scene.lockUser task user
  | .unlockUser user => (.now (), (scene.see (.unlocked user)).release (.user user))
  | .topology call =>
    let (given, world) := scene.world.askTopology call
    (.now given, { scene with world })
  | .publish exchange body =>
    let (given, world) := scene.world.askPublisher exchange body
    (.now given, { scene with world })
  | .momentAfter limit => (.now (scene.world.now.after limit), scene)

/-- An answer that comes after some time. -/
def afterDelay {α : Type} (scene : Scene) (delay : Duration) (given : α) : Fare α :=
  if delay = .zero then .now given else .at (scene.world.now.after delay) given

/-- Answers a call of the channel by its script. -/
def askChannel (scene : Scene) (call : ChannelCall) : Fare call.Answer × Scene :=
  let (move, script) := scene.world.script.next call
  -- A call is seen when it begins, even if it never ends.
  let scene := { scene with world := { scene.world.see (.channel call) with script } }
  match move with
  | .finish delay how => (scene.afterDelay delay (how.answer call), scene)
  | .hang => (.never, scene)

/-- Changes what is known about declared exchanges. -/
def setDeclared (scene : Scene) (declared : List String) : Scene :=
  { scene with world := { scene.world with declared } }

/-- Answers a question of the publisher. -/
def askPublisher (scene : Scene) (task : Nat) :
    (call : PublisherCall) → Fare call.Answer × Scene
  | .acquire =>
    match scene.acquire task .channel with
    | (true, scene) => (.now (), scene)
    | (false, scene) => (.queued, scene)
  | .release => (.now (), scene.release .channel)
  | .channel call => scene.askChannel call
  | .isDeclared exchange => (.now (scene.world.declared.contains exchange), scene)
  | .remember exchange => (.now (), scene.setDeclared (exchange :: scene.world.declared))
  | .forgetAll => (.now (), scene.setDeclared [])
  | .wait delay => (scene.afterDelay delay (), scene)

/-- Answers a question. -/
def ask (scene : Scene) (task : Nat) : (call : StageCall) → Fare call.Answer × Scene
  | .service call => scene.askService task call
  | .publisher call => scene.askPublisher task call

/-- Goes on with a task until it is finished or has to wait. A question whose deadline has come
is given up rather than waited for. -/
def advance {R : Type} (task : Nat) : StageProgram R → Scene → Halt R × Scene
  | .done result, scene => (.finished result, scene)
  | .ask (.unhurried call) next, scene =>
    match scene.ask task call with
    | (.now given, scene) => advance task (next given) scene
    | (.at moment given, scene) => (.waiting ⟨some moment, next given, none⟩, scene)
    -- What never ends goes on waiting without any moment to wake at.
    | (.never, scene) => (.waiting ⟨none, .ask (.unhurried call) next, none⟩, scene)
    | (.queued, scene) => (.waiting ⟨none, .ask (.unhurried call) next, none⟩, scene)
  | .ask (.before deadline call) next, scene =>
    -- Nobody waits at a deadline that has come; elsewhere the wait ends at the deadline at the
    -- latest.
    let giveUp := fun (scene : Scene) (state : Waiting R) =>
      if deadline.hasCome scene.world.now then
        advance task (next none) (scene.handOver (scene.holdings.withdraw task))
      else (.waiting { state with deadline := some (deadline, next none) }, scene)
    match scene.ask task call with
    | (.now given, scene) => advance task (next (some given)) scene
    | (.at moment given, scene) => giveUp scene ⟨some moment, next (some given), none⟩
    | (.never, scene) => giveUp scene ⟨none, .ask (.before deadline call) next, none⟩
    | (.queued, scene) => giveUp scene ⟨none, .ask (.before deadline call) next, none⟩

end Scene

end SessionGate
