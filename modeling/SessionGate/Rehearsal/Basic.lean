import SessionGate.Gateway.Basic
import SessionGate.Rehearsal.Direction
import SessionGate.Rehearsal.Schedule

/-! Rehearsals: a gateway is used with scripted collaborators, on a clock that passes only while
everybody waits. -/

namespace SessionGate

/-- What comes of a task that goes on by itself. -/
inductive TaskResult where
  | connected (result : Except ConnectionError ConnectResponse)
  | answered (response : Response)
  | closed (result : Except BrokerError Unit)

/-- A gateway on a stage. -/
structure Rehearsal where
  gateway : Gateway
  requestTimeout : Duration
  topology : TopologyOptions
  schedule : Schedule TaskResult

namespace Rehearsal

/-- The collaborators at this moment. -/
def world (rehearsal : Rehearsal) : World := rehearsal.schedule.world

/-- Tells a collaborator something. -/
def direct (rehearsal : Rehearsal) (direction : Direction) : Rehearsal :=
  { rehearsal with schedule := rehearsal.schedule.mapWorld fun world => world.follow direction }

/-- What has been seen since it was last asked for. -/
def takeEvents (rehearsal : Rehearsal) : List Event × Rehearsal :=
  let (seen, schedule) := rehearsal.schedule.takeEvents
  (seen, { rehearsal with schedule })

/-- Carries out steps that wait for nothing; nothing comes of steps that would have to. -/
def immediately {α : Type} (rehearsal : Rehearsal) (program : ServiceProgram α) :
    Option α × Rehearsal :=
  -- How a message is published depends on who plays the publisher now.
  let staged := program.staged rehearsal.world.publisher
  let (result, schedule) := rehearsal.schedule.immediately staged
  (result, { rehearsal with schedule })

/-- Takes up work that goes on by itself. -/
def enter {α : Type} (rehearsal : Rehearsal) (work : ServiceProgram α) (result : α → TaskResult) :
    Nat × Rehearsal :=
  let program : ServiceProgram TaskResult := result <$> work
  let (task, schedule) := rehearsal.schedule.enter (program.staged rehearsal.world.publisher)
  (task, { rehearsal with schedule })

/-- Waits until tasks are finished, or up to a limit. -/
def await (rehearsal : Rehearsal) (tasks : List Nat) (limit : Option Instant) : Rehearsal :=
  { rehearsal with schedule := rehearsal.schedule.await none tasks limit }

/-- What came of a task, if it is finished. -/
def result? (rehearsal : Rehearsal) (task : Nat) : Option TaskResult :=
  rehearsal.schedule.results.lookup task

/-- A client that is being connected: it has its answer, a task works on it, or it waits for
something that never comes. -/
inductive Connecting where
  | answered (result : Except ConnectionError ConnectResponse)
  | working (task : Nat)
  | stuck

/-- The tasks that work on a client. -/
def Connecting.tasks : Connecting → List Nat
  | .working task => [task]
  | .answered _ | .stuck => []

/-- Begins to connect a client. -/
def beginConnect (rehearsal : Rehearsal) (user token : String) : Connecting × Rehearsal :=
  match rehearsal.immediately (rehearsal.gateway.service.connect user token) with
  | (some (.answered result), rehearsal) => (.answered result, rehearsal)
  -- The rest of the work is a task of its own, which nobody's patience ends.
  | (some (.handedOff work), rehearsal) =>
    let (task, rehearsal) := rehearsal.enter work .connected
    (.working task, rehearsal)
  | (none, rehearsal) => (.stuck, rehearsal)

/-- What a client that is being connected got, if it got an answer. -/
def connected? (rehearsal : Rehearsal) :
    Connecting → Option (Except ConnectionError ConnectResponse)
  | .answered result => some result
  | .working task =>
    match rehearsal.result? task with
    | some (.connected result) => some result
    | _ => none
  | .stuck => none

/-- Connects a client that waits for its answer, or only for some time. -/
def connect (rehearsal : Rehearsal) (user token : String) (patience : Option Duration) :
    Option (Except ConnectionError ConnectResponse) × Rehearsal :=
  -- Patience is counted from the request on, before anything is asked of anybody.
  let limit := patience.map rehearsal.schedule.now.after
  let (connecting, rehearsal) := rehearsal.beginConnect user token
  let rehearsal := rehearsal.await connecting.tasks limit
  (rehearsal.connected? connecting, rehearsal)

/-- Begins to connect clients, one after another. -/
def beginAll (rehearsal : Rehearsal) : List (String × String) → List Connecting × Rehearsal
  | [] => ([], rehearsal)
  | (user, token) :: rest =>
    let (connecting, rehearsal) := rehearsal.beginConnect user token
    let (others, rehearsal) := rehearsal.beginAll rest
    (connecting :: others, rehearsal)

/-- Connects clients at the same time, and waits until all have their answers. -/
def connectAll (rehearsal : Rehearsal) (clients : List (String × String)) :
    List (Option (Except ConnectionError ConnectResponse)) × Rehearsal :=
  -- All are begun before any waits, so their work runs side by side.
  let (all, rehearsal) := rehearsal.beginAll clients
  let rehearsal := rehearsal.await (all.flatMap Connecting.tasks) none
  (all.map rehearsal.connected?, rehearsal)

/-- Sends a request to the gateway, which answers in time or tells that it did not. -/
def request (rehearsal : Rehearsal) (request : Request) : Response × Rehearsal :=
  let limit := rehearsal.schedule.now.after rehearsal.requestTimeout
  -- What is answered at once cannot be late.
  match rehearsal.immediately (rehearsal.gateway.respond request) with
  | (some (.answered response), rehearsal) => (response, rehearsal)
  | (none, rehearsal) => (.timedOut, rehearsal)
  | (some (.handedOff work), rehearsal) =>
    let (task, rehearsal) := rehearsal.enter work .answered
    let rehearsal := rehearsal.await [task] (some limit)
    match rehearsal.result? task with
    | some (.answered response) => (response, rehearsal)
    | _ => (.timedOut, rehearsal)

/-- Lets time pass. -/
def sleep (rehearsal : Rehearsal) (duration : Duration) : Rehearsal :=
  { rehearsal with schedule := rehearsal.schedule.sleep duration }

/-- Closes the publisher; one that takes messages as a whole has nothing to close. -/
def close (rehearsal : Rehearsal) : Option (Except BrokerError Unit) × Rehearsal :=
  match rehearsal.world.publisher with
  | .whole _ _ => (some (.ok ()), rehearsal)
  | .channel _ =>
    -- Whoever closes waits for a turn at the channel like everybody else.
    let program : StageProgram TaskResult := TaskResult.closed <$> Publisher.close.staged.unhurried
    match rehearsal.schedule.perform program with
    | (some (.closed result), schedule) => (some result, { rehearsal with schedule })
    | (_, schedule) => (none, { rehearsal with schedule })

/-- Asks the broker's administration for something. -/
def administer {α : Type} (rehearsal : Rehearsal) (program : AdminProgram α) : α × Rehearsal :=
  let (result, world) := program.run World.askAdmin rehearsal.world
  (result, { rehearsal with schedule := rehearsal.schedule.mapWorld fun _ => world })

/-- Declares the exchanges that all sessions share. -/
def declareShared (rehearsal : Rehearsal) : Except BrokerError Unit × Rehearsal :=
  rehearsal.administer (Topology.declareShared rehearsal.topology
    rehearsal.gateway.service.settings.notificationExchange)

/-- Asks the broker what it tells about itself. -/
def overview (rehearsal : Rehearsal) : Except BrokerError BrokerOverview × Rehearsal :=
  rehearsal.administer (Program.question AdminCall.overview)

end Rehearsal

end SessionGate
