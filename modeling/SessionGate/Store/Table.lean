import SessionGate.Store.Call

/-! A table of sessions in memory. A user has at most one session in progress; an order that would
break this is refused, and an order that is refused changes nothing. -/

namespace SessionGate

/-- Sessions, each under its own identifier. Sessions bear their identifiers and nothing changes
them, and a session is only ever put in under the one that it bears. Keys beside the rows would
repeat this, so the rows are kept alone, and what has to be shown is that no two of them bear the
same identifier. -/
structure SessionTable where
  rows : List Session
  deriving DecidableEq

/-- What a store takes from outside for a call: an identifier that has not been used, and the
time. -/
structure Fresh where
  id : SessionId
  now : Timestamp
  deriving DecidableEq

namespace SessionTable

/-- A table without sessions. -/
def empty : SessionTable := ⟨[]⟩

/-- The session of an identifier. -/
def find? (table : SessionTable) (id : SessionId) : Option Session :=
  table.rows.find? fun session => session.id == id

/-- A session in progress of a user. -/
def isActiveOf (user : UserId) (session : Session) : Bool :=
  session.user == user && session.isActive

/-- Of two sessions the one that was created later, or else the second. -/
def later (first second : Session) : Session :=
  if first.createdAt.le second.createdAt then second else first

/-- The session in progress of a user; if there were several, the last one created. -/
def active? (table : SessionTable) (user : UserId) : Option Session :=
  -- The invariant leaves one session at most, but a row put in from outside may break it.
  match table.rows.filter (isActiveOf user) with
  | [] => none
  | first :: rest => some (rest.foldl later first)

/-- A user has a session in progress besides the one of an identifier. -/
def hasOtherActive (table : SessionTable) (user : UserId) (except : Option SessionId) : Bool :=
  table.rows.any fun session => isActiveOf user session && some session.id != except

/-- The table with a session in the place of the one of the same identifier, or after all. -/
def insert (table : SessionTable) (session : Session) : SessionTable :=
  -- A known identifier keeps its place, so an order changes one row only.
  if table.rows.any fun known => known.id == session.id then
    ⟨table.rows.map fun known => if known.id == session.id then session else known⟩
  else ⟨table.rows ++ [session]⟩

/-- The table without the session of an identifier. -/
def erase (table : SessionTable) (id : SessionId) : SessionTable :=
  ⟨table.rows.filter fun session => session.id != id⟩

/-- The wording for a second session in progress of one user. -/
def conflict (user : UserId) : StoreError :=
  .conflict ("user " ++ user.text ++ " already has an IN_PROGRESS session")

/-- A new session as it is stored. -/
def newSession (fresh : Fresh) (user : UserId) (tokenId : String) : Session :=
  ⟨fresh.id, user, tokenId, .inProgress, Session.pending, fresh.now, none⟩

/-- Changes the session of an identifier, if there is one. -/
def update (table : SessionTable) (id : SessionId) (change : Session → Session) :
    Except StoreError Unit × SessionTable :=
  match table.find? id with
  | none => (.error (.notFound id), table)
  | some session => (.ok (), table.insert (change session))

/-- A session that has reached a status, the time being kept when it is completed. -/
def moved (now : Timestamp) (target : SessionStatus) (session : Session) : Session :=
  { session with
    status := target
    -- A session that timed out has no time of completion.
    completedAt := if target = .completed then some now else session.completedAt }

/-- Answers a call. -/
def perform (table : SessionTable) (fresh : Fresh) :
    (call : StoreCall) → call.Answer × SessionTable
  | .activeSession user => (.ok (table.active? user), table)
  | .session id =>
    match table.find? id with
    | some session => (.ok session, table)
    | none => (.error (.notFound id), table)
  | .create user tokenId =>
    -- A second session in progress is refused before anything is stored.
    if table.hasOtherActive user none then (.error (conflict user), table)
    else
      let session := newSession fresh user tokenId
      (.ok session, table.insert session)
  | .setStatus id status =>
    match table.find? id with
    | none => (.error (.notFound id), table)
    | some session =>
      -- A session may go back to being in progress only if its user has no other one.
      if status = .inProgress ∧ table.hasOtherActive session.user (some id) = true then
        (.error (conflict session.user), table)
      else (.ok (), table.insert { session with status })
  | .complete id => table.update id (moved fresh.now .completed)
  | .transition id target =>
    match table.find? id with
    | none => (.error (.notFound id), table)
    | some session =>
      -- An ended session tells how it ended and stays as it is.
      if session.status = .inProgress then
        (.ok (moved fresh.now target session), table.insert (moved fresh.now target session))
      else (.error (.notInProgress id session.status), table)
  | .setDispatcherStatus id status =>
    table.update id fun session => { session with dispatcherStatus := status }
  -- Deleting what is not there is no fault.
  | .delete id => (.ok (), table.erase id)
  | .ping => (.ok (), table)

end SessionTable

end SessionGate
