import SessionGate.Identifier.UserId

/-! The locks of users: each user has a mutex, which is made when the user is locked for the first
time and is never dropped. -/

namespace SessionGate

/-- The mutexes of users, how many have been made, and which of them are held. A mutex is told by
its number. -/
structure UserLocks where
  mutexes : List (UserId × Nat)
  made : Nat
  held : List Nat

namespace UserLocks

/-- Nobody has been locked yet. -/
def empty : UserLocks := ⟨[], 0, []⟩

/-- The mutex of a user, if one has been made. -/
def mutex? (locks : UserLocks) (user : UserId) : Option Nat := locks.mutexes.lookup user

/-- The mutex of a user, which is made if there is none, and the locks with it. -/
def mutexOf (locks : UserLocks) (user : UserId) : Nat × UserLocks :=
  match locks.mutex? user with
  | some mutex => (mutex, locks)
  | none =>
    -- The number has not been given to any other user.
    (locks.made,
      { locks with mutexes := (user, locks.made) :: locks.mutexes, made := locks.made + 1 })

/-- Locks a user unless the mutex is held, and tells which mutex is held now. -/
def lock? (locks : UserLocks) (user : UserId) : Option (Nat × UserLocks) :=
  let (mutex, locks) := locks.mutexOf user
  if locks.held.contains mutex then none
  else some (mutex, { locks with held := mutex :: locks.held })

/-- Gives up a mutex. It stays the one of its user. -/
def release (locks : UserLocks) (mutex : Nat) : UserLocks :=
  { locks with held := locks.held.filter fun other => other != mutex }

end UserLocks

end SessionGate
