import SessionGate.Connection.Lifecycle
import SessionGate.Store.Statement

/-! A scripted database behind a session store. -/

namespace SessionGate

/-- A database with its replies in order, and the statements that have reached it, the latest
first. -/
structure ScriptedDatabase where
  replies : List (Except DatabaseFault Outcome)
  seen : List Statement

namespace ScriptedDatabase

/-- A point in time as a database keeps it: to the microsecond. -/
def kept (point : Timestamp) : Timestamp :=
  -- Finer fractions are cut off and not rounded.
  { point with nanosecond := point.nanosecond / 1000 * 1000 }

/-- A row as a database keeps it. -/
def keptRow (row : SessionRow) : SessionRow :=
  { row with createdAt := kept row.createdAt, completedAt := row.completedAt.map kept }

/-- A reply with rows concerns each of them. -/
def rows (rows : List SessionRow) : Outcome := ⟨rows.map keptRow, rows.length⟩

/-- A reply without rows. -/
def concerned (affected : Nat) : Outcome := ⟨[], affected⟩

/-- Answers a statement. What frames a transaction uses up no reply, and a database without
replies finds nothing. -/
def perform (statement : Statement) (database : ScriptedDatabase) :
    Except DatabaseFault Outcome × ScriptedDatabase :=
  let database := { database with seen := statement :: database.seen }
  -- A statement is seen whether or not it succeeds.
  if statement.isFrame then (.ok (concerned 0), database)
  else
    match database.replies with
    | [] => (.ok (concerned 0), database)
    | reply :: rest => (reply, { database with replies := rest })

/-- Carries out a computation. -/
def carryOut {α : Type} (database : ScriptedDatabase) (program : DatabaseProgram α) :
    α × ScriptedDatabase :=
  program.run perform database

/-- Carries out a computation that asks a session store. -/
def serve {α : Type} (database : ScriptedDatabase) (newId : SessionId)
    (program : StoreProgram α) : α × ScriptedDatabase :=
  database.carryOut (program.refine (Database.perform newId))

/-- The statements that have reached the database since they were last asked for. -/
def takeSeen (database : ScriptedDatabase) : List Statement × ScriptedDatabase :=
  (database.seen.reverse, { database with seen := [] })

end ScriptedDatabase

end SessionGate
