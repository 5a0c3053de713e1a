import SessionGate.Connection.Lifecycle
import SessionGate.Rehearsal.Direction
import SessionGate.Store.UserLocks

/-! A session store that is used by hand, with the locks that are held on its users. -/

namespace SessionGate

/-- A store with the locks of its users, and the mutexes that are in hand. -/
structure GuardedStore where
  role : StoreRole
  locks : UserLocks
  inHand : List (UserId × Nat)

/-- What comes of an attempt to lock a user. -/
inductive LockAttempt where
  | locked
  | blocked
  | failed (fault : StoreError)

namespace GuardedStore

/-- An empty store on which nobody is locked. -/
def empty : GuardedStore := ⟨.empty, .empty, []⟩

/-- Carries out a computation that asks the store. -/
def carryOut {α : Type} (store : GuardedStore) (program : StoreProgram α) : α × GuardedStore :=
  let (result, role) := program.run (fun call role => role.perform call) store.role
  (result, { store with role })

/-- Changes the store behind its calls. -/
def mapRole (store : GuardedStore) (change : StoreRole → StoreRole) : GuardedStore :=
  { store with role := change store.role }

/-- Locks a user unless somebody holds the lock. -/
def lock (store : GuardedStore) (user : UserId) : LockAttempt × GuardedStore :=
  -- A lock that somebody holds blocks even where locking is to fail.
  match store.locks.lock? user with
  | none => (.blocked, store)
  | some (mutex, locks) =>
    match store.role.failures.lookup "lock_user" with
    -- A lock that is to fail is had all the same, and given up at once.
    | some fault => (.failed fault, { store with locks := locks.release mutex })
    | none => (.locked, { store with locks, inHand := (user, mutex) :: store.inHand })

/-- Gives up the lock of a user, and tells whether it was held. -/
def unlock (store : GuardedStore) (user : UserId) : Bool × GuardedStore :=
  match store.inHand.lookup user with
  | none => (false, store)
  | some mutex =>
    (true, { store with
      locks := store.locks.release mutex
      inHand := store.inHand.filter fun held => held.1 != user })

end GuardedStore

end SessionGate
