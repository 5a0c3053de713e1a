import SessionGate.Program
import SessionGate.Session.Basic

/-! What is asked of a session store, and why it refuses or fails. -/

namespace SessionGate

/-- What went wrong in a session store. -/
inductive StoreError where
  | notFound (session : SessionId)
  | conflict (reason : String)
  | notInProgress (session : SessionId) (current : SessionStatus)
  | corrupt (reason : String)
  | database (reason : String)
  deriving DecidableEq

/-- The wording of a store's fault. -/
def StoreError.message : StoreError → String
  | .notFound session => "session not found: " ++ session.render
  | .conflict reason => "conflicting session: " ++ reason
  | .notInProgress session current =>
    "session " ++ session.render ++ " is " ++ current.name ++ ", not IN_PROGRESS"
  | .corrupt reason => "corrupt row: " ++ reason
  | .database reason => "database error: " ++ reason

/-- A question to a session store, or an order. -/
inductive StoreCall where
  | activeSession (user : UserId)
  | session (id : SessionId)
  | create (user : UserId) (tokenId : String)
  | setStatus (id : SessionId) (status : SessionStatus)
  | complete (id : SessionId)
  | transition (id : SessionId) (target : SessionStatus)
  | setDispatcherStatus (id : SessionId) (status : String)
  | delete (id : SessionId)
  | ping
  deriving DecidableEq

namespace StoreCall

/-- What a call finds out. -/
def Result : StoreCall → Type
  | .activeSession _ => Option Session
  | .session _ | .create _ _ | .transition _ _ => Session
  | .setStatus _ _ | .complete _ | .setDispatcherStatus _ _ | .delete _ | .ping => Unit

/-- What a call is answered with. -/
abbrev Answer (call : StoreCall) : Type := Except StoreError call.Result

/-- The name of a call. -/
def name : StoreCall → String
  | .activeSession _ => "get_active_session"
  | .session _ => "get_session_by_id"
  | .create _ _ => "create_session"
  | .setStatus _ _ => "update_session_status"
  | .complete _ => "set_session_status_to_completed"
  | .transition _ _ => "transition_from_in_progress"
  | .setDispatcherStatus _ _ => "update_dispatcher_status"
  | .delete _ => "delete_session"
  | .ping => "ping"

/-- The texts a call is made with. -/
def arguments : StoreCall → List String
  | .activeSession user => [user.text]
  | .create user tokenId => [user.text, tokenId]
  | .session id | .complete id | .delete id => [id.render]
  | .setStatus id status | .transition id status => [id.render, status.name]
  | .setDispatcherStatus id status => [id.render, status]
  | .ping => []

end StoreCall

/-- A computation that uses a session store. -/
abbrev StoreProgram := Program StoreCall StoreCall.Answer

/-- Asks a store one thing. -/
def StoreCall.make (call : StoreCall) : StoreProgram call.Answer := Program.question call

end SessionGate
