import SessionGate.Store.Call

/-! A session store in a relational database: each call is one statement or a few. -/

namespace SessionGate

/-- A statement about the table of sessions, with its values. -/
inductive Statement where
  | selectActive (user : UserId)
  | selectById (id : SessionId)
  | insert (id : SessionId) (user : UserId) (tokenId : String)
  | updateStatus (id : SessionId) (status : SessionStatus)
  | complete (id : SessionId)
  | transition (id : SessionId) (target : SessionStatus)
  | updateDispatcherStatus (id : SessionId) (status : String)
  | delete (id : SessionId)
  | selectOne
  | begin
  | rollBack
  | commit
  | lockUser (user : UserId)
  | createTable
  deriving DecidableEq

/-- A row of the table of sessions as the database tells it. -/
structure SessionRow where
  id : SessionId
  user : String
  tokenId : String
  status : String
  dispatcherStatus : String
  createdAt : Timestamp
  completedAt : Option Timestamp
  deriving DecidableEq

/-- The fault that a database tells, by its code. -/
structure DatabaseFault where
  code : String
  message : String
  deriving DecidableEq

/-- What comes of a statement: rows, and how many rows it concerned. -/
structure Outcome where
  rows : List SessionRow
  affected : Nat
  deriving DecidableEq

namespace Statement

/-- The columns of the table of sessions. -/
def columns : String :=
  "session_id, user_id, token_id, session_status, dispatcher_status, created_at, completed_at"

/-- The statement that creates the table of sessions with its indexes. -/
def tableDefinition : String := "CREATE TABLE IF NOT EXISTS sessions (
    session_id        UUID        PRIMARY KEY,
    user_id           TEXT        NOT NULL,
    token_id          TEXT        NOT NULL,
    session_status    TEXT        NOT NULL
        CHECK (session_status IN ('IN_PROGRESS', 'COMPLETED', 'TIMEOUT')),
    dispatcher_status TEXT        NOT NULL DEFAULT 'PENDING',
    created_at        TIMESTAMPTZ NOT NULL DEFAULT now(),
    completed_at      TIMESTAMPTZ
);

CREATE INDEX IF NOT EXISTS idx_sessions_user_status
    ON sessions (user_id, session_status);

-- At most one IN_PROGRESS session per user.
CREATE UNIQUE INDEX IF NOT EXISTS uq_sessions_one_in_progress_per_user
    ON sessions (user_id)
    WHERE session_status = 'IN_PROGRESS';
"

/-- The version under which the database remembers that the table was created. -/
def tableVersion : String := "20240601000000"

/-- The text of a statement, with places for its values. -/
def text : Statement → String
  | .selectActive _ =>
    -- Were there several sessions in progress, the last one created would count.
    "SELECT " ++ columns ++ " FROM sessions WHERE user_id = $1 AND session_status = $2 " ++
      "ORDER BY created_at DESC LIMIT 1"
  | .selectById _ => "SELECT " ++ columns ++ " FROM sessions WHERE session_id = $1"
  | .insert _ _ _ =>
    -- The row is told back, since the database sets the time of creation.
    "INSERT INTO sessions " ++
      "(session_id, user_id, token_id, session_status, dispatcher_status, created_at) " ++
      "VALUES ($1, $2, $3, $4, $5, now()) RETURNING " ++ columns
  | .updateStatus _ _ => "UPDATE sessions SET session_status = $1 WHERE session_id = $2"
  | .complete _ =>
    "UPDATE sessions SET session_status = $1, completed_at = now() WHERE session_id = $2"
  | .transition _ _ =>
    -- Only a session in progress is changed, so of two changes at once one finds no row.
    "UPDATE sessions SET session_status = $2::text, " ++
      "completed_at = CASE WHEN $2::text = 'COMPLETED' THEN now() ELSE completed_at END " ++
      "WHERE session_id = $1 AND session_status = 'IN_PROGRESS' RETURNING " ++ columns
  | .updateDispatcherStatus _ _ =>
    "UPDATE sessions SET dispatcher_status = $1 WHERE session_id = $2"
  | .delete _ => "DELETE FROM sessions WHERE session_id = $1"
  | .selectOne => "SELECT 1"
  | .begin => "BEGIN"
  | .rollBack => "ROLLBACK"
  | .commit => "COMMIT"
  | .lockUser _ => "SELECT pg_advisory_xact_lock(hashtextextended($1, 0))"
  | .createTable => tableDefinition

/-- The values of a statement. -/
def values : Statement → List String
  | .selectActive user => [user.text, SessionStatus.inProgress.name]
  | .selectById id | .delete id => [id.render]
  | .insert id user tokenId =>
    [id.render, user.text, tokenId, SessionStatus.inProgress.name, Session.pending]
  | .updateStatus id status => [status.name, id.render]
  | .complete id => [SessionStatus.completed.name, id.render]
  | .transition id target => [id.render, target.name]
  | .updateDispatcherStatus id status => [status, id.render]
  | .lockUser user => [user.text]
  | .selectOne | .begin | .rollBack | .commit | .createTable => []

/-- Statements that frame a transaction always succeed and are answered by nothing. -/
def isFrame : Statement → Bool
  | .begin | .rollBack | .commit => true
  | _ => false

end Statement

/-- A computation that uses a database. -/
abbrev DatabaseProgram := Program Statement fun _ => Except DatabaseFault Outcome

/-- Carries out one statement. -/
def Statement.carryOut (statement : Statement) : DatabaseProgram (Except DatabaseFault Outcome) :=
  Program.question statement

namespace DatabaseFault

/-- The code of a broken uniqueness. -/
def uniqueViolation : String := "23505"

/-- The wording of a database's fault. -/
def describe (fault : DatabaseFault) : String := "error returned from database: " ++ fault.message

/-- A broken uniqueness is a conflict, all else a fault of the database. -/
def toStoreError (fault : DatabaseFault) : StoreError :=
  -- A second session in progress breaks the index that allows one for each user.
  if fault.code == uniqueViolation then .conflict fault.message else .database fault.describe

end DatabaseFault

namespace SessionRow

/-- The session of a row, if its user and its status are what they may be. -/
def toSession (row : SessionRow) : Except StoreError Session :=
  -- The user is judged before the status, and whatever else a row holds is taken as it is.
  match UserId.parse row.user with
  | .error fault => .error (.corrupt ("session " ++ row.id.render ++ ": " ++ fault.message))
  | .ok user =>
    match SessionStatus.ofName? row.status with
    | none => .error (.corrupt (SessionStatus.unknownMessage row.status))
    | some status =>
      .ok ⟨row.id, user, row.tokenId, status, row.dispatcherStatus, row.createdAt,
        row.completedAt⟩

end SessionRow

namespace Database

/-- The wording for an insertion that told no row. -/
def noRow : StoreError :=
  .database "no rows returned by a query that expected to return at least one row"

/-- The session that a statement tells, if it tells one; the first row counts. -/
def fetch (statement : Statement) : DatabaseProgram (Except StoreError (Option Session)) := do
  match ← statement.carryOut with
  | .error fault => return .error fault.toStoreError
  | .ok outcome =>
    -- Only the first row is judged, and an unsound one is a fault.
    match outcome.rows with
    | [] => return .ok none
    | row :: _ => return row.toSession.map some

/-- Carries out a statement and tells how many rows it concerned. -/
def execute (statement : Statement) : DatabaseProgram (Except StoreError Nat) := do
  match ← statement.carryOut with
  | .error fault => return .error fault.toStoreError
  | .ok outcome => return .ok outcome.affected

/-- Carries out a statement that must concern the session of an identifier. -/
def executeOn (id : SessionId) (statement : Statement) :
    DatabaseProgram (Except StoreError Unit) := do
  -- A statement that concerned no row has not found the session.
  match ← execute statement with
  | .error fault => return .error fault
  | .ok 0 => return .error (.notFound id)
  | .ok _ => return .ok ()

/-- The session of an identifier, which must be there. -/
def fetchById (id : SessionId) : DatabaseProgram (Except StoreError Session) := do
  match ← fetch (.selectById id) with
  | .error fault => return .error fault
  | .ok none => return .error (.notFound id)
  | .ok (some session) => return .ok session

/-- Answers a call; a new session gets the given identifier. A transition that meets no session in
progress looks whether there is one that has ended. -/
def perform (newId : SessionId) : (call : StoreCall) → DatabaseProgram call.Answer
  | .activeSession user => fetch (.selectActive user)
  | .session id => fetchById id
  | .create user tokenId => do
    match ← fetch (.insert newId user tokenId) with
    | .error fault => return .error fault
    -- An insertion that succeeds tells the row it made.
    | .ok none => return .error noRow
    | .ok (some session) => return .ok session
  | .setStatus id status => executeOn id (.updateStatus id status)
  | .complete id => executeOn id (.complete id)
  | .transition id target => do
    match ← fetch (.transition id target) with
    | .error fault => return .error fault
    | .ok (some session) => return .ok session
    | .ok none =>
      -- No row was changed, so either there is no session or it has ended; a second look tells
      -- which.
      match ← fetchById id with
      | .error fault => return .error fault
      | .ok session => return .error (.notInProgress id session.status)
  | .setDispatcherStatus id status => executeOn id (.updateDispatcherStatus id status)
  -- Deleting what is not there is no fault.
  | .delete id => do return (← execute (.delete id)).map fun _ => ()
  | .ping => do return (← execute .selectOne).map fun _ => ()

/-- Takes the lock of a user and gives it back: it lasts as long as its transaction. -/
def lockAndUnlock (user : UserId) : DatabaseProgram (Except StoreError Unit) := do
  let _ ← Statement.begin.carryOut
  -- The transaction is left even if the lock could not be had.
  let locked ← execute (.lockUser user)
  let _ ← Statement.rollBack.carryOut
  return locked.map fun _ => ()

/-- Creates the table of sessions in a transaction. -/
def createTable : DatabaseProgram (Except StoreError Unit) := do
  let _ ← Statement.begin.carryOut
  -- A definition that fails leaves its transaction to the database.
  match ← Statement.createTable.carryOut with
  | .error fault =>
    return .error (.database ("migration failed: while executing migration " ++
      Statement.tableVersion ++ ": " ++ fault.describe))
  | .ok _ =>
    let _ ← Statement.commit.carryOut
    return .ok ()

end Database

end SessionGate
