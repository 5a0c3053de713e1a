import SessionGate.Rehearsal.Stage

/-! Whose turn it is on a stage. Tasks that can go on do so in the order in which they were woken;
when none can, time passes up to the next moment at which one wakes. The task of whoever waits for
the others comes first at such a moment, and last among those that can go on at one moment. -/

namespace SessionGate

/-- Where a task stands: it has not begun, or it waits. The numbers tell in which order the wait
and its deadline began among all of the schedule. -/
inductive Turn (R : Type) where
  | fresh (program : StageProgram R)
  | waiting (state : Waiting R) (isHanded : Bool) (wakeOrder deadlineOrder : Nat)

namespace Turn

/-- What a task goes on with at a moment, if it can go on, and whether it has been cut off. -/
def due? {R : Type} (now : Instant) : Turn R → Option (StageProgram R × Bool)
  | .fresh program => some (program, false)
  | .waiting state isHanded _ _ =>
    -- An answer that comes at the deadline is still in time.
    if isHanded || state.wakes.any fun moment => moment.hasCome now then
      some (state.resume, false)
    else
      match state.deadline with
      | some (deadline, program) => if deadline.hasCome now then some (program, true) else none
      | none => none

/-- The moments at which a task wakes, each with its order. -/
def timers {R : Type} : Turn R → List (Nat × Nat)
  | .fresh _ => []
  | .waiting state _ wakeOrder deadlineOrder =>
    (state.wakes.map fun moment => (moment.sinceStart, wakeOrder)).toList ++
      (state.deadline.map fun (moment, _) => (moment.sinceStart, deadlineOrder)).toList

/-- The order in which the deadline of a task began, if it stands under one. -/
def deadlineOrder? {R : Type} : Turn R → Option Nat
  | .waiting ⟨_, _, some _⟩ _ _ order => some order
  | _ => none

/-- The task to which something has been handed over. -/
def handed {R : Type} : Turn R → Turn R
  | .waiting state _ wakeOrder deadlineOrder => .waiting state true wakeOrder deadlineOrder
  | turn => turn

end Turn

/-- A scene with the tasks that are not finished, those of them that can go on in their order, and
the results of the others. -/
structure Schedule (R : Type) where
  scene : Scene
  tasks : List (Nat × Turn R)
  ready : List Nat
  results : List (Nat × R)
  nextTask : Nat
  nextOrder : Nat

namespace Schedule

variable {R : Type}

/-- A schedule without tasks. -/
def ofWorld (world : World) : Schedule R := ⟨⟨world, .none, []⟩, [], [], [], 1, 0⟩

/-- The collaborators at this moment. -/
def world (schedule : Schedule R) : World := schedule.scene.world

/-- Changes the collaborators. -/
def mapWorld (change : World → World) (schedule : Schedule R) : Schedule R :=
  { schedule with scene := { schedule.scene with world := change schedule.world } }

/-- What has been seen since it was last asked for. -/
def takeEvents (schedule : Schedule R) : List Event × Schedule R :=
  (schedule.world.seen.reverse, schedule.mapWorld fun world => { world with seen := [] })

/-- The time it is. -/
def now (schedule : Schedule R) : Instant := schedule.world.now

/-- Takes up a task, to begin when its turn comes. -/
def enter (schedule : Schedule R) (program : StageProgram R) : Nat × Schedule R :=
  -- A new task waits for its turn behind those that can go on already.
  (schedule.nextTask, { schedule with
    tasks := schedule.tasks ++ [(schedule.nextTask, .fresh program)]
    ready := schedule.ready ++ [schedule.nextTask]
    nextTask := schedule.nextTask + 1 })

/-- Wakes a task, unless it has been woken already. -/
def wake (schedule : Schedule R) (task : Nat) : Schedule R :=
  if schedule.ready.contains task then schedule
  else { schedule with ready := schedule.ready ++ [task] }

/-- Changes how one task stands. -/
def mapTurn (schedule : Schedule R) (task : Nat) (change : Turn R → Turn R) : Schedule R :=
  { schedule with
    tasks := schedule.tasks.map fun (other, turn) =>
      (other, if other = task then change turn else turn) }

/-- Wakes the tasks to which something has been handed over. -/
def passOn (schedule : Schedule R) : Schedule R :=
  -- What was handed over first wakes its task first.
  let waking := schedule.scene.handedTo.reverse
  waking.foldl (fun schedule task => (schedule.mapTurn task Turn.handed).wake task)
    { schedule with scene := { schedule.scene with handedTo := [] } }

/-- Notes how a task has come to a halt. -/
def settle (schedule : Schedule R) (task : Nat) (before : Turn R) : Halt R → Schedule R
  | .finished result =>
    { schedule with
      tasks := schedule.tasks.filter fun other => other.1 != task
      results := (task, result) :: schedule.results }
  | .waiting state =>
    -- A deadline keeps its place among others from one wait to the next.
    let deadlineOrder := before.deadlineOrder?.getD (schedule.nextOrder + 1)
    { schedule.mapTurn task (fun _ => .waiting state false schedule.nextOrder deadlineOrder) with
      nextOrder := schedule.nextOrder + 2 }

/-- Gives a task its turn: it goes on if it can. -/
def poll (schedule : Schedule R) (task : Nat) : Schedule R :=
  let schedule := { schedule with ready := schedule.ready.filter fun other => other != task }
  match schedule.tasks.lookup task with
  | none => schedule
  | some turn =>
    -- A task may be woken without need; then nothing happens.
    match turn.due? schedule.now with
    | none => schedule
    | some (program, isCut) =>
      -- A task that is cut off leaves the queues before it goes on.
      let scene :=
        if isCut then schedule.scene.handOver (schedule.scene.holdings.withdraw task)
        else schedule.scene
      let (halt, scene) := scene.advance task program
      ({ schedule with scene }.settle task turn halt).passOn

/-- The tasks that can go on, all but one. -/
def others (schedule : Schedule R) (mine : Option Nat) : List Nat :=
  schedule.ready.filter fun task => some task != mine

/-- Gives all tasks but one their turns until none of them can go on. -/
def drain (mine : Option Nat) : Nat → Schedule R → Schedule R
  | 0, schedule => schedule
  | effort + 1, schedule =>
    -- The list is looked at anew each time, since a turn may wake others.
    match schedule.others mine with
    | [] => schedule
    | task :: _ => drain mine effort (schedule.poll task)

/-- The first of some moments, if any lies ahead. -/
def earliest (moments : List Nat) : Option Instant := moments.min?.map Instant.mk

/-- The next moment at which a task wakes or a limit is reached. -/
def nextMoment (schedule : Schedule R) (limit : Option Instant) : Option Instant :=
  let moments := schedule.tasks.flatMap fun (_, turn) => turn.timers.map Prod.fst
  -- Moments that have come already do not make time pass.
  earliest ((moments ++ (limit.map Instant.sinceStart).toList).filter fun moment =>
    schedule.now.sinceStart < moment)

/-- Of two timers the one that comes first. -/
def timerLe (first second : (Nat × Nat) × Nat) : Bool :=
  first.1.1 < second.1.1 || (first.1.1 == second.1.1 && first.1.2 ≤ second.1.2)

/-- Lets time pass up to a moment, and wakes the tasks whose moments have come in their order. -/
def passTo (schedule : Schedule R) (moment : Instant) : Schedule R :=
  let schedule := schedule.mapWorld fun world => { world with now := moment }
  let timers := schedule.tasks.flatMap fun (task, turn) =>
    (turn.timers.filter fun timer => timer.1 ≤ moment.sinceStart).map fun timer => (timer, task)
  -- At one moment the timers that were set first wake their tasks first.
  (timers.mergeSort timerLe).foldl (fun schedule timer => schedule.wake timer.2) schedule

/-- All of some tasks are finished. -/
def haveFinished (schedule : Schedule R) (tasks : List Nat) : Bool :=
  tasks.all fun task => (schedule.results.lookup task).isSome

/-- Waits until some tasks are finished or a limit is reached. One of the tasks may be that of
whoever waits. -/
def awaitWithin (mine : Option Nat) (wanted : List Nat) (isDone : Bool) (limit : Option Instant) :
    Nat → Schedule R → Schedule R
  | 0, schedule => schedule
  | effort + 1, schedule =>
    -- One's own task goes first whenever it can go on.
    let schedule :=
      match mine with
      | some task => if schedule.ready.contains task then schedule.poll task else schedule
      | none => schedule
    -- A task that finishes at the limit has finished in time.
    if isDone && schedule.haveFinished wanted then schedule
    else if limit.any fun moment => moment.hasCome schedule.now then schedule
    -- Time passes only when nobody can go on.
    else if (schedule.others mine).isEmpty then
      match schedule.nextMoment limit with
      | some moment => awaitWithin mine wanted isDone limit effort (schedule.passTo moment)
      | none => schedule
    else awaitWithin mine wanted isDone limit effort (schedule.drain mine (effort + 1))

/-- More turns than a schedule can take: every wait follows a move of the script or a deadline. -/
def effort (schedule : Schedule R) : Nat :=
  let script := schedule.world.script
  let moves := script.ensureOpen.length + script.declare.length + script.publish.length +
    script.close.length
  16 * (moves + schedule.tasks.length + 2)

/-- Waits until tasks are finished, or up to a limit. -/
def await (schedule : Schedule R) (mine : Option Nat) (wanted : List Nat)
    (limit : Option Instant) : Schedule R :=
  awaitWithin mine wanted true limit schedule.effort schedule

/-- Waits for some time. -/
def sleep (schedule : Schedule R) (duration : Duration) : Schedule R :=
  awaitWithin none [] false (some (schedule.now.after duration)) schedule.effort schedule

/-- Carries a computation out at once; nothing comes of it if it would have to wait. -/
def immediately {α : Type} (schedule : Schedule R) (program : StageProgram α) :
    Option α × Schedule R :=
  -- Number zero belongs to no task, so nothing can be handed to it.
  let (halt, scene) := schedule.scene.advance 0 program
  let schedule := { schedule with scene }.passOn
  match halt with
  | .finished result => (some result, schedule)
  | .waiting _ => (none, schedule)

/-- Carries out a computation of one's own, with waiting where need be. -/
def perform (schedule : Schedule R) (program : StageProgram R) : Option R × Schedule R :=
  let (task, schedule) := schedule.enter program
  let schedule := schedule.await (some task) [task] none
  (schedule.results.lookup task, schedule)

end Schedule

end SessionGate
