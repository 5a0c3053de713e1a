import SessionGate.Identifier.UserId

/-! Locks of users and the channel, each held by one task at a time and handed on in the order in
which others asked for it. -/

namespace SessionGate

/-- What only one task can have at a time. -/
inductive Resource where
  | user (user : UserId)
  | channel
  deriving DecidableEq

/-- Who holds what, and who waits for what, the longest first. Tasks go by numbers. -/
structure Holdings where
  held : List (Resource × Nat)
  queue : List (Resource × Nat)

namespace Holdings

/-- Nobody holds anything. -/
def none : Holdings := ⟨[], []⟩

/-- The task that holds a resource. -/
def holder? (holdings : Holdings) (resource : Resource) : Option Nat :=
  holdings.held.lookup resource

/-- A task asks for a resource: it gets it if it is free or has been handed to it; otherwise it
waits. -/
def acquire (holdings : Holdings) (task : Nat) (resource : Resource) : Bool × Holdings :=
  match holdings.holder? resource with
  | .none => (true, { holdings with held := (resource, task) :: holdings.held })
  | some other =>
    -- What was handed to the task while it waited is found in its hands.
    if other = task then (true, holdings)
    else (false, { holdings with queue := holdings.queue ++ [(resource, task)] })

/-- A resource is given up, and handed to the task that has waited longest for it, which is
told. -/
def release (holdings : Holdings) (resource : Resource) : Option Nat × Holdings :=
  let held := holdings.held.filter fun holding => holding.1 != resource
  match holdings.queue.lookup resource with
  | .none => (.none, { holdings with held })
  -- Handing over leaves no moment at which a third task could get in between.
  | some next =>
    (some next,
      ⟨(resource, next) :: held, holdings.queue.filter fun waiting => waiting != (resource, next)⟩)

/-- A task that is cut off waits no more, and gives up the channel. -/
def withdraw (holdings : Holdings) (task : Nat) : Option Nat × Holdings :=
  let holdings := { holdings with queue := holdings.queue.filter fun waiting => waiting.2 != task }
  -- The lock of a user stays, since the work that was cut off goes on to undo what it did.
  if holdings.holder? .channel = some task then holdings.release .channel else (.none, holdings)

end Holdings

end SessionGate
