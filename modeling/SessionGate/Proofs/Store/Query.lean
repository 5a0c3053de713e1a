import SessionGate.Store.Statement

/-! What statements about the table of sessions mean: the queries that they are, and how a database
that keeps the constraints of the table answers queries. -/

namespace SessionGate

/-- A column of the table of sessions. -/
inductive Column where
  | sessionId
  | userId
  | tokenId
  | sessionStatus
  | dispatcherStatus
  | createdAt
  | completedAt
  deriving DecidableEq

/-- The name of a column. -/
def Column.name : Column → String
  | .sessionId => "session_id"
  | .userId => "user_id"
  | .tokenId => "token_id"
  | .sessionStatus => "session_status"
  | .dispatcherStatus => "dispatcher_status"
  | .createdAt => "created_at"
  | .completedAt => "completed_at"

/-- A value of a column, if there is one. -/
inductive ColumnValue where
  | null
  | uuid (id : SessionId)
  | text (value : String)
  | moment (point : Timestamp)
  deriving DecidableEq

namespace ColumnValue

/-- Whether two values are equal; nobody knows where one is missing. -/
def equals? (first second : ColumnValue) : Option Bool :=
  if first = .null ∨ second = .null then none else some (decide (first = second))

/-- The identifier that a value is. -/
@[simp] def uuid? : ColumnValue → Option SessionId
  | .uuid id => some id
  | _ => none

/-- The text that a value is. -/
@[simp] def text? : ColumnValue → Option String
  | .text value => some value
  | _ => none

/-- The point in time that a value is. -/
@[simp] def moment? : ColumnValue → Option Timestamp
  | .moment point => some point
  | _ => none

/-- The point in time that a value is where it may be missing. -/
def optionalMoment? : ColumnValue → Option (Option Timestamp)
  | .null => some none
  | value => value.moment?.map some

/-- The text with which a value is sent. -/
def sent? : ColumnValue → Option String
  | .uuid id => some id.render
  | .text value => some value
  | _ => none

/-- A text in which a zero character stands, which no database can hold. -/
def HasNul : ColumnValue → Prop
  | .text value => Char.ofNat 0 ∈ value.toList
  | _ => False

end ColumnValue

namespace SessionRow

/-- The values of a row. -/
def value (row : SessionRow) : Column → ColumnValue
  | .sessionId => .uuid row.id
  | .userId => .text row.user
  | .tokenId => .text row.tokenId
  | .sessionStatus => .text row.status
  | .dispatcherStatus => .text row.dispatcherStatus
  | .createdAt => .moment row.createdAt
  | .completedAt => row.completedAt.elim .null .moment

/-- The row of some values, if each column may hold its own. -/
def ofValues? (values : Column → ColumnValue) : Option SessionRow := do
  let id ← (values .sessionId).uuid?
  let user ← (values .userId).text?
  let tokenId ← (values .tokenId).text?
  let status ← (values .sessionStatus).text?
  let dispatcherStatus ← (values .dispatcherStatus).text?
  let createdAt ← (values .createdAt).moment?
  -- Only the time of completion may be missing.
  let completedAt ← (values .completedAt).optionalMoment?
  return { id, user, tokenId, status, dispatcherStatus, createdAt, completedAt }

end SessionRow

/-- A term of a query. -/
inductive Term where
  | column (column : Column)
  | parameter (place : Nat)
  | textParameter (place : Nat)
  | literal (text : String)
  | now
  | choice (first second same other : Term)
  deriving DecidableEq

/-- What a query is carried out with: its values, and the time. -/
structure Setting where
  parameters : List ColumnValue
  now : Timestamp

namespace Term

/-- The text of a term. -/
def render : Term → String
  | .column named => named.name
  | .parameter place => "$" ++ toString place
  | .textParameter place => "$" ++ toString place ++ "::text"
  | .literal text => "'" ++ text ++ "'"
  | .now => "now()"
  | .choice first second same other =>
    "CASE WHEN " ++ first.render ++ " = " ++ second.render ++ " THEN " ++ same.render ++
      " ELSE " ++ other.render ++ " END"

/-- The value of a term for a row. -/
def value (setting : Setting) (row : Column → ColumnValue) : Term → ColumnValue
  | .column named => row named
  -- Parameters are counted from one.
  | .parameter place | .textParameter place => setting.parameters[place - 1]?.getD .null
  | .literal text => .text text
  | .now => .moment setting.now
  | .choice first second same other =>
    -- What is not known to be equal counts as different.
    if (first.value setting row).equals? (second.value setting row) = some true then
      same.value setting row
    else other.value setting row

end Term

/-- Pairs of terms that must be equal. -/
abbrev Conditions : Type := List (Term × Term)

/-- Columns with the terms that they are set to. -/
abbrev Assignments : Type := List (Column × Term)

/-- A row meets all conditions. -/
def Conditions.meets (conditions : Conditions) (setting : Setting) (row : SessionRow) : Bool :=
  conditions.all fun condition => decide <|
    (condition.1.value setting row.value).equals? (condition.2.value setting row.value) = some true

/-- The text of conditions. -/
def Conditions.render (conditions : Conditions) : String :=
  " AND ".intercalate <| conditions.map fun condition =>
    condition.1.render ++ " = " ++ condition.2.render

/-- The values of a row once some of them have been set. -/
def Assignments.values (assignments : Assignments) (setting : Setting) (row : Column → ColumnValue)
    (column : Column) : ColumnValue :=
  match assignments.find? fun assignment => assignment.1 == column with
  | some assignment => assignment.2.value setting row
  | none => row column

/-- The values that a row has by itself. -/
def Column.initial (now : Timestamp) : Column → ColumnValue
  | .dispatcherStatus => .text "PENDING"
  | .createdAt => .moment now
  | _ => .null

/-- A change of the table of sessions. -/
inductive Change where
  | insert (values : Assignments)
  | update (assignments : Assignments) (conditions : Conditions) (returning : Bool)
  | delete (conditions : Conditions)
  deriving DecidableEq

/-- A query about the table of sessions. -/
inductive Query where
  | select (conditions : Conditions) (latest : Bool)
  | change (change : Change)
  deriving DecidableEq

namespace Change

/-- The rows after a change, and those that it concerned, if every column may hold what it is set
to. -/
def effect? (setting : Setting) (rows : List SessionRow) :
    Change → Option (List SessionRow × List SessionRow)
  | .insert values => do
    let row ← SessionRow.ofValues? (values.values setting (Column.initial setting.now))
    return (rows ++ [row], [row])
  | .update assignments conditions _ => do
    let set := fun row : SessionRow => SessionRow.ofValues? (assignments.values setting row.value)
    -- Every row is set by its own values.
    let after ← rows.mapM fun row => if conditions.meets setting row then set row else some row
    let concerned ← (rows.filter (conditions.meets setting)).mapM set
    return (after, concerned)
  | .delete conditions =>
    some (rows.filter fun row => !conditions.meets setting row,
      rows.filter (conditions.meets setting))

/-- A change tells the rows that it concerned. -/
def returns : Change → Bool
  | .insert _ => true
  | .update _ _ returning => returning
  | .delete _ => false

/-- The text of a change. -/
def render : Change → String
  | .insert values =>
    "INSERT INTO sessions (" ++ ", ".intercalate (values.map fun value => value.1.name) ++
      ") VALUES (" ++ ", ".intercalate (values.map fun value => value.2.render) ++
      ") RETURNING " ++ Statement.columns
  | .update assignments conditions returning =>
    "UPDATE sessions SET " ++
      ", ".intercalate (assignments.map fun value => value.1.name ++ " = " ++ value.2.render) ++
      " WHERE " ++ conditions.render ++
      if returning then " RETURNING " ++ Statement.columns else ""
  | .delete conditions => "DELETE FROM sessions WHERE " ++ conditions.render

end Change

/-- The text of a query. -/
def Query.render : Query → String
  | .select conditions latest =>
    "SELECT " ++ Statement.columns ++ " FROM sessions WHERE " ++ conditions.render ++
      if latest then " ORDER BY created_at DESC LIMIT 1" else ""
  | .change order => order.render

/-- The constraints of the table: its key, the statuses that there are, and the index by which a
user has at most one session in progress. -/
structure Conforms (rows : List SessionRow) : Prop where
  key : (rows.map SessionRow.id).Nodup
  status : ∀ row ∈ rows, row.status ∈ ["IN_PROGRESS", "COMPLETED", "TIMEOUT"]
  single : ((rows.filter fun row => row.status == "IN_PROGRESS").map SessionRow.user).Nodup

namespace DatabaseFault

/-- The code of a broken check. -/
def checkViolation : String := "23514"

/-- The code of a text that the database cannot hold. -/
def untranslatable : String := "22021"

end DatabaseFault

/-- The code of a fault tells a constraint that rows break. -/
inductive Violates (rows : List SessionRow) : String → Prop where
  | key (broken : ¬ (rows.map SessionRow.id).Nodup) : Violates rows DatabaseFault.uniqueViolation
  | single (broken : ¬ ((rows.filter fun row => row.status == "IN_PROGRESS").map
      SessionRow.user).Nodup) : Violates rows DatabaseFault.uniqueViolation
  | status (broken : ¬ ∀ row ∈ rows, row.status ∈ ["IN_PROGRESS", "COMPLETED", "TIMEOUT"]) :
      Violates rows DatabaseFault.checkViolation

/-- What a database may answer to a query about rows, and the rows that this leaves. A query that
cannot be carried out or would break a constraint is refused, in words that are left open, and
changes nothing. Rows are told in any order, unless the latest is asked for. -/
inductive Query.Answered (setting : Setting) (rows : List SessionRow) :
    Query → Except DatabaseFault Outcome → List SessionRow → Prop where
  | unreadable {query : Query} {message : String}
      (nul : ∃ value ∈ setting.parameters, value.HasNul) :
      Answered setting rows query (.error ⟨DatabaseFault.untranslatable, message⟩) rows
  | told {conditions : Conditions} {latest : Bool} {found : List SessionRow}
      (readable : ¬ ∃ value ∈ setting.parameters, value.HasNul)
      (order : found.Perm (rows.filter (conditions.meets setting)))
      (sorted : latest = true →
        found.Pairwise fun first second => second.createdAt.le first.createdAt = true) :
      Answered setting rows (.select conditions latest)
        (.ok ⟨if latest then found.take 1 else found,
          (if latest then found.take 1 else found).length⟩) rows
  | changed {change : Change} {after concerned found : List SessionRow}
      (readable : ¬ ∃ value ∈ setting.parameters, value.HasNul)
      (applied : change.effect? setting rows = some (after, concerned)) (conforms : Conforms after)
      (order : found.Perm concerned) :
      Answered setting rows (.change change)
        (.ok ⟨if change.returns then found else [], concerned.length⟩) after
  | refused {change : Change} {after concerned : List SessionRow} {code message : String}
      (readable : ¬ ∃ value ∈ setting.parameters, value.HasNul)
      (applied : change.effect? setting rows = some (after, concerned))
      (violates : Violates after code) :
      Answered setting rows (.change change) (.error ⟨code, message⟩) rows
  | misfit {change : Change} {fault : DatabaseFault}
      (readable : ¬ ∃ value ∈ setting.parameters, value.HasNul)
      (misfits : change.effect? setting rows = none) :
      Answered setting rows (.change change) (.error fault) rows

namespace Statement

/-- The query that a statement about the rows of the table is. -/
def query? : Statement → Option Query
  | .selectActive _ =>
    some (.select [(.column .userId, .parameter 1), (.column .sessionStatus, .parameter 2)] true)
  | .selectById _ => some (.select [(.column .sessionId, .parameter 1)] false)
  | .insert _ _ _ =>
    some (.change (.insert [(.sessionId, .parameter 1), (.userId, .parameter 2),
      (.tokenId, .parameter 3), (.sessionStatus, .parameter 4), (.dispatcherStatus, .parameter 5),
      (.createdAt, .now)]))
  | .updateStatus _ _ =>
    some (.change (.update [(.sessionStatus, .parameter 1)] [(.column .sessionId, .parameter 2)]
      false))
  | .complete _ =>
    some (.change (.update [(.sessionStatus, .parameter 1), (.completedAt, .now)]
      [(.column .sessionId, .parameter 2)] false))
  | .transition _ _ =>
    some (.change (.update
      [(.sessionStatus, .textParameter 2),
        (.completedAt, .choice (.textParameter 2) (.literal "COMPLETED") .now
          (.column .completedAt))]
      [(.column .sessionId, .parameter 1), (.column .sessionStatus, .literal "IN_PROGRESS")] true))
  | .updateDispatcherStatus _ _ =>
    some (.change (.update [(.dispatcherStatus, .parameter 1)]
      [(.column .sessionId, .parameter 2)] false))
  | .delete _ => some (.change (.delete [(.column .sessionId, .parameter 1)]))
  | .selectOne | .begin | .rollBack | .commit | .lockUser _ | .createTable => none

/-- The text of a statement that is a query is the text of the query. -/
theorem text_of_query {statement : Statement} {query : Query}
    (asked : statement.query? = some query) : statement.text = query.render := by
  cases statement with
  | selectOne | begin | rollBack | commit | lockUser | createTable => cases asked
  | _ =>
    obtain rfl := Option.some.inj asked
    -- Neither text depends on the values.
    delta text
    dsimp only
    decide +kernel

/-- The values of a statement by their types. -/
def parameters : Statement → List ColumnValue
  | .selectActive user => [.text user.text, .text SessionStatus.inProgress.name]
  | .selectById id | .delete id => [.uuid id]
  | .insert id user tokenId =>
    [.uuid id, .text user.text, .text tokenId, .text SessionStatus.inProgress.name,
      .text Session.pending]
  | .updateStatus id status => [.text status.name, .uuid id]
  | .complete id => [.text SessionStatus.completed.name, .uuid id]
  | .transition id target => [.uuid id, .text target.name]
  | .updateDispatcherStatus id status => [.text status, .uuid id]
  | .lockUser user => [.text user.text]
  | .selectOne | .begin | .rollBack | .commit | .createTable => []

/-- The values of a statement are sent as their texts. -/
theorem values_of_parameters (statement : Statement) :
    statement.parameters.filterMap ColumnValue.sent? = statement.values := by
  -- Both list the values of a statement in the order of their places.
  cases statement <;> rfl

/-- What a database may answer to a statement at a time, and the rows that this leaves. A statement
that is no query leaves them alone, and a mere sign of life is always given. -/
def Answered (now : Timestamp) (statement : Statement) (rows : List SessionRow)
    (given : Except DatabaseFault Outcome) (after : List SessionRow) : Prop :=
  match statement.query? with
  | some query => query.Answered ⟨statement.parameters, now⟩ rows given after
  | none => after = rows ∧ (statement = .selectOne → given.isOk = true)

end Statement

end SessionGate
