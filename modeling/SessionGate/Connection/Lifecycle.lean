import SessionGate.Connection.Error
import SessionGate.Store.Call

/-! Opening, ending and discarding sessions in a store, and which status changes are made at all. -/

namespace SessionGate

/-- A status change that is allowed, or why it is not: the session has ended, or the target is
no end of a session. -/
def checkTransition (session : SessionId) (source target : SessionStatus) :
    Except ConnectionError SessionStatus :=
  if source.mayBecome target then .ok target
  -- That the session has ended is told before anything is said about the target.
  else if source.isTerminal then .error (.sessionNotInProgress session source)
  else
    .error (.validation ("cannot move session " ++ session.render ++ " from " ++ source.name ++
      " to " ++ target.name))

/-- How a client came to its session: it was made for it, or it was there. -/
inductive SessionOrigin where
  | created
  | resumed
  deriving DecidableEq, Repr

/-- The session in progress of a user, or else a new one. A user for whom another session has
been inserted meanwhile is told to come back. -/
def openOrResume (user : UserId) (tokenId : String) :
    StoreProgram (Except ConnectionError (Session × SessionOrigin)) := do
  match ← (StoreCall.activeSession user).make with
  | .error fault => return .error (.ofStore fault)
  | .ok found =>
    -- A session in progress is taken as it is, whichever token opened it.
    match found.filter fun session : Session => session.status.acceptsReconnect with
    | some session => return .ok (session, .resumed)
    | none =>
      match ← (StoreCall.create user tokenId).make with
      | .ok session => return .ok (session, .created)
      -- Somebody else has opened one between the look and the insertion.
      | .error (.conflict _) => return .error (.connectInProgress user)
      | .error fault => return .error (.ofStore fault)

/-- Moves a session in progress to the status it ends with. -/
def endSession (id : SessionId) (target : SessionStatus) :
    StoreProgram (Except ConnectionError Session) := do
  -- The target is judged first, so a wrong one never reaches the store.
  match checkTransition id .inProgress target with
  | .error fault => return .error fault
  | .ok target => return (← (StoreCall.transition id target).make).mapError .ofStore

/-- Deletes a session, whether or not that succeeds. -/
def discardSession (id : SessionId) : StoreProgram Unit := do
  -- Whatever came before is the fault to tell, so this one is not.
  let _ ← (StoreCall.delete id).make
  return ()

end SessionGate
