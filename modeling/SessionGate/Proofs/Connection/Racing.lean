import SessionGate.Proofs.Connection.Compliance
import SessionGate.Proofs.Program.Schedule

/-! Calls that race to open sessions without locks. Of all that are made for one user, one makes the
session, and no other is given one that it did not find. -/

namespace SessionGate

namespace SessionTable

variable {table : SessionTable} {user : UserId} {session : Session}

/-- The sessions of a user, in the order in which they are stored. -/
def rowsOf (table : SessionTable) (user : UserId) : List Session :=
  table.rows.filter fun session => session.user == user

/-- The sessions of a user are those of the table that belong to it. -/
theorem mem_rowsOf : session ∈ table.rowsOf user ↔ session ∈ table.rows ∧ session.user = user := by
  -- The rows are filtered by their user.
  simp [rowsOf]

/-- A session that is new to a table is the last one of its user. -/
theorem rowsOf_insert (unknown : ∀ row ∈ table.rows, row.id ≠ session.id) :
    (table.insert session).rowsOf session.user = table.rowsOf session.user ++ [session] := by
  -- The session goes behind all rows, and so behind those of its user.
  rw [insert_new unknown, rowsOf, List.filter_append, ← rowsOf]
  simp

/-- A session that is new to a table is no other user's. -/
theorem rowsOf_insert_other (unknown : ∀ row ∈ table.rows, row.id ≠ session.id)
    (away : session.user ≠ user) : (table.insert session).rowsOf user = table.rowsOf user := by
  -- The session goes behind all rows, and the filter leaves it out.
  rw [insert_new unknown, rowsOf, List.filter_append, ← rowsOf]
  simp [away]

/-- None of a user's sessions is in progress. -/
def Idle (rows : List Session) : Prop := ∀ row ∈ rows, row.status ≠ .inProgress

/-- A user none of whose sessions is in progress has none to resume, and may be given one. -/
theorem active?_of_idle (idle : Idle (table.rowsOf user)) :
    table.active? user = none ∧ table.hasOtherActive user none = false := by
  -- Both searches of the table look at the rows of the user alone.
  have none : ∀ row ∈ table.rows, row.user = user → row.status ≠ .inProgress :=
    fun row member own => idle row (mem_rowsOf.mpr ⟨member, own⟩)
  exact ⟨active?_eq_none.mpr none, hasOtherActive_none.mpr none⟩

/-- A user whose last session is the only one in progress has this one to resume, and may not be
given another. -/
theorem active?_of_busy {rows : List Session} (listed : table.rowsOf user = rows ++ [session])
    (idle : Idle rows) (active : session.status = .inProgress) :
    table.active? user = some session ∧ table.hasOtherActive user none = true := by
  have held : session ∈ table.rowsOf user := by simp [listed]
  obtain ⟨member, own⟩ := mem_rowsOf.mp held
  constructor
  · cases found : table.active? user with
    | none => exact absurd active (active?_eq_none.mp found session member own)
    | some other =>
      obtain ⟨present, same, busy⟩ := mem_of_active? found
      have either : other ∈ rows ++ [session] := listed ▸ mem_rowsOf.mpr ⟨present, same⟩
      -- The earlier sessions have ended, so what was found is the last one.
      rcases List.mem_append.mp either with early | last
      · exact absurd busy (idle other early)
      · rw [List.mem_singleton.mp last]
  · cases free : table.hasOtherActive user none with
    | true => rfl
    | false => exact absurd active (hasOtherActive_none.mp free session member own)

end SessionTable

/-- Who comes to open a session, and the identifier of the token. -/
structure Arrival where
  user : UserId
  tokenId : String
  deriving DecidableEq

/-- What a call to open a session comes to. -/
abbrev OpeningResult : Type := Except ConnectionError (Session × SessionOrigin)

namespace Arrival

/-- The call with which somebody comes. -/
def program (arrival : Arrival) : StoreProgram OpeningResult :=
  openOrResume arrival.user arrival.tokenId

/-- What is left of a call that has found no session. -/
def insertion (arrival : Arrival) : StoreProgram OpeningResult :=
  .ask (.create arrival.user arrival.tokenId) fun
    | .ok session => .done (.ok (session, .created))
    | .error (.conflict _) => .done (.error (.connectInProgress arrival.user))
    | .error fault => .done (.error (.ofStore fault))

/-- What is left of a call that was told whether its user has a session in progress. -/
def afterLook (arrival : Arrival) : Except StoreError (Option Session) → StoreProgram OpeningResult
  | .error fault => .done (.error (.ofStore fault))
  | .ok found =>
    match found.filter fun session : Session => session.status.acceptsReconnect with
    | some session => .done (.ok (session, .resumed))
    | none => arrival.insertion

/-- A call looks for a session in progress first. -/
theorem program_eq (arrival : Arrival) :
    arrival.program = .ask (.activeSession arrival.user) arrival.afterLook := by
  -- The two computations ask alike, so they are compared answer by answer.
  unfold program openOrResume
  refine congrArg (Program.ask _) (funext fun given => ?_)
  match given with
  | .error fault => rfl
  | .ok found =>
    dsimp only [afterLook, Program.bind]
    cases found.filter fun session : Session => session.status.acceptsReconnect with
    | some session => rfl
    | none =>
      refine congrArg (Program.ask _) (funext fun given => ?_)
      match given with
      | .ok session => rfl
      | .error fault => cases fault <;> rfl

/-- Where a call may stand that has made no session: the user has none in progress, or the one that
somebody else has made. -/
inductive Stands (arrival : Arrival) : Option Session → StoreProgram OpeningResult → Prop where
  | looking {made : Option Session} : Stands arrival made arrival.program
  | inserting {made : Option Session} : Stands arrival made arrival.insertion
  | resumed {session : Session} : Stands arrival (some session) (.done (.ok (session, .resumed)))
  | outrun {session : Session} :
      Stands arrival (some session) (.done (.error (.connectInProgress arrival.user)))

/-- What a call asks of the store: whether its user has a session in progress, and to make one. -/
def Own (arrival : Arrival) (call : StoreCall) : Prop :=
  call = .activeSession arrival.user ∨ call = .create arrival.user arrival.tokenId

/-- A call asks of the store nothing else. -/
theorem program_asks (arrival : Arrival) : arrival.program.Asks arrival.Own := by
  -- The call looks first, and it makes a session only if the look found none.
  rw [program_eq]
  refine ⟨Or.inl rfl, fun given => ?_⟩
  match given with
  | .error fault => trivial
  | .ok found =>
    dsimp only [afterLook]
    split
    · trivial
    · refine ⟨Or.inr rfl, fun given => ?_⟩
      match given with
      | .ok session => trivial
      | .error fault => cases fault <;> trivial

/-- A call stands where it stood when somebody else makes the first session. -/
theorem Stands.made {arrival : Arrival} {program : StoreProgram OpeningResult}
    (stands : arrival.Stands none program) (session : Session) :
    arrival.Stands (some session) program := by
  -- A call that has not been answered yet knows nothing of a session.
  cases stands with
  | looking => exact .looking
  | inserting => exact .inserting

/-- While no session has been made, no call is done. -/
theorem Stands.not_done {arrival : Arrival} {result : OpeningResult} :
    ¬ arrival.Stands none (.done result) := by
  -- Both ends of a call speak of a session that was made.
  intro stands
  generalize place : Program.done result = program at stands
  cases stands with
  | looking =>
    rw [program_eq] at place
    cases place
  | inserting => cases place

/-- A call that is done and has made no session was given the one that was made, or is told that
another connect is in progress. -/
theorem Stands.ends {arrival : Arrival} {session : Session} {result : OpeningResult}
    (stands : arrival.Stands (some session) (.done result)) :
    some (.done result) = some (Program.done (.ok (session, .resumed)) : StoreProgram _) ∨
      some (.done result) =
        some (Program.done (.error (.connectInProgress arrival.user)) : StoreProgram _) := by
  -- Two of the places are those of calls that are not done.
  generalize place : Program.done result = program at stands
  cases stands with
  | looking =>
    rw [program_eq] at place
    cases place
  | inserting => cases place
  | resumed => exact Or.inl rfl
  | outrun => exact Or.inr rfl

end Arrival

variable {M : Type}

/-- Calls that race to open sessions. -/
abbrev Race (M : Type) : Type :=
  Crowd StoreCall StoreCall.Answer (Backing M) (StoreProgram OpeningResult)

namespace Race

/-- No call of the store fails. -/
def Reliable : StoreCall → Prop := fun _ => False

/-- Calls that have all come and of which none has asked anything. -/
def lineUp (start : Backing M) (arrivals : List Arrival) : Race M :=
  ⟨start, arrivals.map Arrival.program, []⟩

/-- What may happen once all have come: a call has its question answered by the store. -/
abbrev Moves : Race M → Race M → Prop :=
  Crowd.Moves (StoreCall.Answered Reliable) Program.Turn fun _ => False

/-- A race goes on when a call has its question answered from the table. -/
theorem turn_of_perform {race : Race M} {state : Backing M}
    {tasks : List (StoreProgram OpeningResult)} {wanted : StoreCall}
    {next : wanted.Answer → StoreProgram OpeningResult} (task : Nat) (fresh : Fresh)
    (come : ∃ log, Relation.ReflTransGen Moves race ⟨state, tasks, log⟩)
    (found : tasks[task]? = some (.ask wanted next))
    (unused : SessionTable.Unused state.spent fresh wanted) :
    ∃ log, Relation.ReflTransGen Moves race
      ⟨{ state with
          table := (state.table.perform fresh wanted).2
          spent := SessionTable.spentAfter state.spent fresh wanted
            (state.table.perform fresh wanted).1 },
        tasks.set task (next (state.table.perform fresh wanted).1), log⟩ := by
  obtain ⟨log, come⟩ := come
  -- The table answers as a store does that does not fail.
  exact ⟨_, come.tail (.turn found (.ask _ _ _) (Or.inl ⟨fresh, _, unused, rfl, rfl⟩))⟩

/-- All calls of a user but one stand where they may while a session has been made, or none. -/
def Standing (user : UserId) (arrivals : List Arrival) (except : Option Nat)
    (made : Option Session) (tasks : List (StoreProgram OpeningResult)) : Prop :=
  ∀ (task : Nat) arrival program, some task ≠ except → arrivals[task]? = some arrival →
    tasks[task]? = some program → arrival.user = user → arrival.Stands made program

/-- A call that has had its turn stands at its new place, and the others where they stood. -/
theorem Standing.set {user : UserId} {arrivals : List Arrival} {except : Option Nat}
    {made : Option Session} {tasks : List (StoreProgram OpeningResult)} {task : Nat}
    {ahead : StoreProgram OpeningResult} (standing : Standing user arrivals except made tasks)
    (stands : ∀ arrival, arrivals[task]? = some arrival → arrival.user = user →
      arrival.Stands made ahead) :
    Standing user arrivals except made (tasks.set task ahead) := by
  -- The task either is the one that had its turn, or was not touched.
  intro other arrival program apart came found own
  rcases Crowd.placed_of_turn found with ⟨rfl, rfl⟩ | ⟨-, found⟩
  · exact stands arrival came own
  · exact standing other arrival program apart came found own

/-- How the calls of a user stand to each other: none has made a session, or one has, and the others
have found this one, have come too late, or have not been answered. -/
inductive Contest (user : UserId) (rows : List Session) (arrivals : List Arrival) (race : Race M) :
    Prop where
  | unmade (listed : race.state.table.rowsOf user = rows)
      (standing : Standing user arrivals none none race.tasks)
  | made {winner : Nat} {fresh : Fresh} {tokenId : String}
      (listed : race.state.table.rowsOf user =
        rows ++ [SessionTable.newSession fresh user tokenId])
      (came : arrivals[winner]? = some ⟨user, tokenId⟩)
      (won : race.tasks[winner]? =
        some (.done (.ok (SessionTable.newSession fresh user tokenId, .created))))
      (standing : Standing user arrivals (some winner)
        (some (SessionTable.newSession fresh user tokenId)) race.tasks)

section Answers

variable {before after : Backing M} {user : UserId}

/-- A store that does not fail tells the session in progress of a user, and changes nothing. -/
theorem answered_activeSession {given : (StoreCall.activeSession user).Answer}
    (answered : (StoreCall.activeSession user).Answered Reliable before given after) :
    given = .ok (before.table.active? user) ∧ after = before := by
  -- The call was carried out, for nothing fails.
  rcases answered with ⟨fresh, table, -, looked, rfl⟩ | ⟨failing, -⟩
  · cases looked
    exact ⟨rfl, rfl⟩
  · exact failing.elim

/-- A store that does not fail makes a session for a user who has none in progress. -/
theorem answered_create {tokenId : String} {given : (StoreCall.create user tokenId).Answer}
    (answered : (StoreCall.create user tokenId).Answered Reliable before given after)
    (free : before.table.hasOtherActive user none = false) :
    ∃ fresh : Fresh, fresh.id ∉ before.spent ∧
      given = .ok (SessionTable.newSession fresh user tokenId) ∧
      after.table = before.table.insert (SessionTable.newSession fresh user tokenId) := by
  -- The call was carried out, for nothing fails, and nothing stands in its way.
  rcases answered with ⟨fresh, table, unused, made, rfl⟩ | ⟨failing, -⟩
  · simp only [SessionTable.perform, free, Bool.false_eq_true, if_false] at made
    cases made
    exact ⟨fresh, unused, rfl, rfl⟩
  · exact failing.elim

/-- A store that does not fail refuses a session to a user who has one in progress. -/
theorem answered_create_busy {tokenId : String} {given : (StoreCall.create user tokenId).Answer}
    (answered : (StoreCall.create user tokenId).Answered Reliable before given after)
    (busy : before.table.hasOtherActive user none = true) :
    given = .error (SessionTable.conflict user) ∧ after = before := by
  -- The call was carried out, for nothing fails, and was refused.
  rcases answered with ⟨fresh, table, -, refused, rfl⟩ | ⟨failing, -⟩
  · simp only [SessionTable.perform, busy, if_true] at refused
    cases refused
    exact ⟨rfl, rfl⟩
  · exact failing.elim

end Answers

namespace Contest

variable {user : UserId} {rows : List Session} {arrivals : List Arrival} {race : Race M}
  {task : Nat} {arrival : Arrival} {place ahead : StoreProgram OpeningResult} {state : Backing M}
  {exchange : Exchange StoreCall StoreCall.Answer}

/-- The calls of a user stand as before when another user's call has its turn. -/
theorem other (contest : Contest user rows arrivals race) (came : arrivals[task]? = some arrival)
    (away : arrival.user ≠ user)
    (kept : state.table.rowsOf user = race.state.table.rowsOf user)
    (log : List (Nat × Exchange StoreCall StoreCall.Answer)) :
    Contest user rows arrivals ⟨state, race.tasks.set task ahead, log⟩ := by
  -- Whoever has its turn is no call of the user.
  have stands : ∀ made rival, arrivals[task]? = some rival → rival.user = user →
      rival.Stands made ahead := by
    intro made rival found own
    cases came.symm.trans found
    exact absurd own away
  cases contest with
  | unmade listed standing => exact .unmade (kept.trans listed) (standing.set (stands none))
  -- The winner is a call of the user, so it is not the one whose turn it is.
  | @made winner _ _ listed first won standing =>
    refine .made (kept.trans listed) first ?_ (standing.set (stands _))
    rw [List.getElem?_set_ne]
    · exact won
    · rintro rfl
      cases came.symm.trans first
      exact away rfl

/-- While none of a user's calls has made a session, the turn of one makes it, or leads to where it
may be made. -/
theorem unmade_turn (idle : SessionTable.Idle rows)
    (sound : race.state.table.Sound race.state.spent)
    (listed : race.state.table.rowsOf user = rows)
    (standing : Standing user arrivals none none race.tasks)
    (came : arrivals[task]? = some arrival) (own : arrival.user = user)
    (found : race.tasks[task]? = some place) (goes : Program.Turn place exchange ahead)
    (answered : StoreCall.Answered Reliable exchange.wanted race.state exchange.given state)
    (log : List (Nat × Exchange StoreCall StoreCall.Answer)) :
    Contest user rows arrivals ⟨state, race.tasks.set task ahead, log⟩ := by
  subst own
  -- With no session in progress a look finds none, and the first insertion succeeds.
  obtain ⟨absent, free⟩ := SessionTable.active?_of_idle (listed ▸ idle)
  cases standing task arrival place nofun came found rfl with
  | looking =>
    rw [Arrival.program_eq] at goes
    cases goes with
    | ask =>
      obtain ⟨rfl, rfl⟩ := answered_activeSession answered
      rw [absent]
      refine .unmade listed (standing.set fun rival first _ => ?_)
      cases came.symm.trans first
      exact .inserting
  | inserting =>
    cases goes with
    | ask =>
      obtain ⟨fresh, unused, rfl, inserted⟩ := answered_create answered free
      have gained : state.table.rowsOf arrival.user =
          rows ++ [SessionTable.newSession fresh arrival.user arrival.tokenId] := by
        rw [inserted, ← listed]
        exact SessionTable.rowsOf_insert (sound.unknown unused)
      refine .made gained came (List.getElem?_set_self (List.getElem?_eq_some_iff.mp found).1) ?_
      -- The others have been told of nothing yet.
      intro other rival program apart first placed own
      rw [List.getElem?_set_ne fun same => apart (congrArg some same.symm)] at placed
      exact (standing other rival program nofun first placed own).made _

/-- Once one of a user's calls has made a session, the turn of another finds this one, or comes too
late to make its own. -/
theorem made_turn {winner : Nat} {fresh : Fresh} {tokenId : String} (idle : SessionTable.Idle rows)
    (listed : race.state.table.rowsOf user = rows ++ [SessionTable.newSession fresh user tokenId])
    (first : arrivals[winner]? = some ⟨user, tokenId⟩)
    (won : race.tasks[winner]? =
      some (.done (.ok (SessionTable.newSession fresh user tokenId, .created))))
    (standing : Standing user arrivals (some winner)
      (some (SessionTable.newSession fresh user tokenId)) race.tasks)
    (came : arrivals[task]? = some arrival) (own : arrival.user = user)
    (found : race.tasks[task]? = some place) (goes : Program.Turn place exchange ahead)
    (answered : StoreCall.Answered Reliable exchange.wanted race.state exchange.given state)
    (log : List (Nat × Exchange StoreCall StoreCall.Answer)) :
    Contest user rows arrivals ⟨state, race.tasks.set task ahead, log⟩ := by
  subst own
  -- The row that was made is the one in progress: every look finds it, every insertion is refused.
  obtain ⟨present, busy⟩ := SessionTable.active?_of_busy listed idle rfl
  have apart : task ≠ winner := by
    -- The call that has made the session is done.
    rintro rfl
    cases found.symm.trans won
    exact Program.Turn.not_done goes
  have stayed : ∀ next, (race.tasks.set task next)[winner]? =
      some (.done (.ok (SessionTable.newSession fresh arrival.user tokenId, .created))) :=
    fun next => (List.getElem?_set_ne apart).trans won
  cases standing task arrival place (fun same => apart (Option.some.inj same)) came found rfl with
  -- The look finds the row, and the call resumes that session.
  | looking =>
    rw [Arrival.program_eq] at goes
    cases goes with
    | ask =>
      obtain ⟨rfl, rfl⟩ := answered_activeSession answered
      rw [present]
      refine .made listed first (stayed _) (standing.set fun rival second _ => ?_)
      cases came.symm.trans second
      exact .resumed
  -- The insertion is refused because of the row, and the call is told of a connect in progress.
  | inserting =>
    cases goes with
    | ask =>
      obtain ⟨rfl, rfl⟩ := answered_create_busy answered busy
      refine .made listed first (stayed _) (standing.set fun rival second _ => ?_)
      cases came.symm.trans second
      exact .outrun
  | resumed => exact absurd goes Program.Turn.not_done
  | outrun => exact absurd goes Program.Turn.not_done

end Contest

/-- In a race the table stays sound, every call asks only for its own user, and the calls of the
user stand to each other as they may. -/
structure Run (user : UserId) (rows : List Session) (arrivals : List Arrival) (race : Race M) :
    Prop where
  sound : race.state.table.Sound race.state.spent
  asks : ∀ (task : Nat) place, race.tasks[task]? = some place →
    ∃ arrival, arrivals[task]? = some arrival ∧ place.Asks arrival.Own
  contest : Contest user rows arrivals race

/-- A call for one user leaves the sessions of all others as they are. -/
theorem rowsOf_of_own {before after : Backing M} {user : UserId} {arrival : Arrival}
    {call : StoreCall} {given : call.Answer}
    (answered : call.Answered Reliable before given after) (own : arrival.Own call)
    (sound : before.table.Sound before.spent) (away : arrival.user ≠ user) :
    after.table.rowsOf user = before.table.rowsOf user := by
  -- A look changes nothing, and what an insertion adds is a row of another user.
  rcases own with rfl | rfl
  · rw [(answered_activeSession answered).2]
  · cases free : before.table.hasOtherActive arrival.user none with
    | true => rw [(answered_create_busy answered free).2]
    | false =>
      obtain ⟨fresh, unused, -, inserted⟩ := answered_create answered free
      rw [inserted]
      exact SessionTable.rowsOf_insert_other (sound.unknown unused) away

namespace Run

variable {user : UserId} {rows : List Session} {arrivals : List Arrival} {race after : Race M}

/-- Whoever has its turn, the race goes on as it may. -/
theorem move (run : Run user rows arrivals race) (idle : SessionTable.Idle rows)
    (moved : Moves race after) : Run user rows arrivals after := by
  cases moved with
  -- Nobody enters a race that has begun.
  | enter admitted => exact admitted.elim
  | @turn task place ahead exchange state found goes answered =>
    obtain ⟨arrival, came, asks⟩ := run.asks task place found
    -- The calls stay the same programs, whatever has been answered to one of them.
    refine ⟨StoreCall.Answered.sound answered run.sound, fun other next placed => ?_, ?_⟩
    · rcases Crowd.placed_of_turn placed with ⟨rfl, rfl⟩ | ⟨-, placed⟩
      · cases goes with
        | ask => exact ⟨arrival, came, asks.2 _⟩
      · exact run.asks other next placed
    · -- Another user's call has no part in the contest, except that it must leave the rows alone.
      by_cases own : arrival.user = user
      · cases run.contest with
        | unmade listed standing =>
          exact Contest.unmade_turn idle run.sound listed standing came own found goes answered _
        | made listed first won standing =>
          exact Contest.made_turn idle listed first won standing came own found goes answered _
      · cases goes with
        | ask => exact run.contest.other came own (rowsOf_of_own answered asks.1 run.sound own) _

/-- Before anybody has asked anything no session has been made. -/
theorem lineUp {start : Backing M} (sound : start.table.Sound start.spent)
    (arrivals : List Arrival) :
    Run user (start.table.rowsOf user) arrivals (lineUp start arrivals) := by
  -- Every task is a call before its first question.
  have placed : ∀ (task : Nat) place, (Race.lineUp start arrivals).tasks[task]? = some place →
      ∃ arrival, arrivals[task]? = some arrival ∧ place = arrival.program := by
    intro task place found
    simp only [Race.lineUp, List.getElem?_map] at found
    obtain ⟨arrival, came, rfl⟩ := Option.map_eq_some_iff.mp found
    exact ⟨arrival, came, rfl⟩
  refine ⟨sound, fun task place found => ?_, .unmade rfl ?_⟩
  · obtain ⟨arrival, came, rfl⟩ := placed task place found
    exact ⟨arrival, came, arrival.program_asks⟩
  · intro task arrival program _ came found _
    obtain ⟨other, first, rfl⟩ := placed task program found
    cases came.symm.trans first
    exact .looking

/-- However far the race has come, it went on as it may. -/
theorem of_moves {start : Backing M} (sound : start.table.Sound start.spent)
    (idle : SessionTable.Idle (start.table.rowsOf user))
    (raced : Relation.ReflTransGen Moves (Race.lineUp start arrivals) race) :
    Run user (start.table.rowsOf user) arrivals race := by
  -- The induction is on the moves, each of which keeps what is known of a race.
  induction raced with
  | refl => exact .lineUp sound arrivals
  | tail _ moved ih => exact ih.move idle moved

end Run

/-- Whatever the order in which calls have their questions answered: where a user had no session in
progress and all calls for it are done, one of them has made a session, and each of the others was
given this very session or is told that another connect is in progress. The user's sessions are
those from before and this one, which is in progress and pending and has the token of the call that
made it. -/
theorem one_call_makes_session {start : Backing M} {arrivals : List Arrival} {race : Race M}
    {user : UserId} (sound : start.table.Sound start.spent)
    (inactive : start.table.active? user = none) (comes : ∃ arrival ∈ arrivals, arrival.user = user)
    (raced : Relation.ReflTransGen Moves (lineUp start arrivals) race)
    (finished : ∀ (task : Nat) arrival, arrivals[task]? = some arrival → arrival.user = user →
      ∃ result, race.tasks[task]? = some (.done result)) :
    ∃ winner tokenId session, arrivals[winner]? = some ⟨user, tokenId⟩ ∧
      race.tasks[winner]? = some (.done (.ok (session, .created))) ∧
      (∀ (task : Nat) arrival, task ≠ winner → arrivals[task]? = some arrival →
        arrival.user = user →
        race.tasks[task]? = some (.done (.ok (session, .resumed))) ∨
          race.tasks[task]? = some (.done (.error (.connectInProgress user)))) ∧
      race.state.table.rowsOf user = start.table.rowsOf user ++ [session] ∧
      session.user = user ∧ session.tokenId = tokenId ∧ session.status = .inProgress ∧
      session.dispatcherStatus = Session.pending ∧ session.completedAt = none := by
  -- No session of the user is in progress at first, so the contest is open.
  have idle : SessionTable.Idle (start.table.rowsOf user) := fun row member =>
    SessionTable.active?_eq_none.mp inactive row (SessionTable.mem_rowsOf.mp member).1
      (SessionTable.mem_rowsOf.mp member).2
  cases (Run.of_moves sound idle raced).contest with
  | unmade _ standing =>
    -- A call that is done has made a session or was told of one.
    obtain ⟨arrival, member, own⟩ := comes
    obtain ⟨task, came⟩ := List.mem_iff_getElem?.mp member
    obtain ⟨result, done⟩ := finished task arrival came own
    exact (standing task arrival _ nofun came done own).not_done.elim
  -- The session is made, and each other call stands where it is told of it.
  | @made winner fresh tokenId listed came won standing =>
    refine ⟨winner, tokenId, _, came, won, fun task arrival apart first own => ?_, listed, rfl, rfl,
      rfl, rfl, rfl⟩
    obtain ⟨result, done⟩ := finished task arrival first own
    have stands := standing task arrival _ (fun same => apart (Option.some.inj same)) first done own
    rw [done]
    exact own ▸ stands.ends

/-- Of three calls for one user two find no session in progress. One of these makes a session, the
other one is told that it comes too late, and the third one is given the session. -/
theorem third_call_resumes :
    ∃ (ada : UserId) (race : Race Unit) (winner : Nat) (session : Session),
      Relation.ReflTransGen Moves
        (lineUp ⟨.empty, [], ∅, ()⟩ [⟨ada, "one"⟩, ⟨ada, "two"⟩, ⟨ada, "three"⟩]) race ∧
      race.tasks[winner]? = some (.done (.ok (session, .created))) ∧
      race.tasks[1]? = some (.done (.error (.connectInProgress ada))) ∧
      race.tasks[2]? = some (.done (.ok (session, .resumed))) ∧
      race.state.table.rowsOf ada = [session] := by
  -- The first two calls look before either makes a session, and the third looks when it is made.
  let ada : UserId := ⟨"ada", by decide⟩
  let arrivals : List Arrival := [⟨ada, "one"⟩, ⟨ada, "two"⟩, ⟨ada, "three"⟩]
  let start : Backing Unit := ⟨.empty, [], ∅, ()⟩
  let fresh : Fresh := ⟨.numbered 1, ⟨2024, 1, 1, 0, 0, 0, 0⟩⟩
  let first := SessionTable.newSession fresh ada "one"
  let results : List OpeningResult :=
    [.ok (first, .created), .error (.connectInProgress ada), .ok (first, .resumed)]
  let looks (arrival : Arrival) : StoreProgram OpeningResult :=
    .ask (.activeSession ada) arrival.afterLook
  -- The three calls as they come are the looks that they begin with.
  have come : ∃ log, Relation.ReflTransGen Moves (lineUp start arrivals)
      ⟨start, arrivals.map looks, log⟩ := by
    refine ⟨[], ?_⟩
    rw [show arrivals.map looks = arrivals.map Arrival.program by
      simp [arrivals, looks, Arrival.program_eq]]
    exact .refl
  obtain ⟨log, raced⟩ : ∃ log, Relation.ReflTransGen Moves (lineUp start arrivals)
      ⟨⟨⟨[first]⟩, [fresh.id], ∅, ()⟩, results.map .done, log⟩ := by
    -- Both look and find nothing; then the first makes a session and the second is refused.
    have looked := turn_of_perform 0 fresh come rfl trivial
    have both := turn_of_perform 1 fresh looked rfl trivial
    have made := turn_of_perform 0 fresh both rfl (by decide)
    have refused := turn_of_perform 1 ⟨.numbered 2, fresh.now⟩ made rfl (by decide)
    exact turn_of_perform 2 fresh refused rfl trivial
  have finished : ∀ (task : Nat) arrival, arrivals[task]? = some arrival → arrival.user = ada →
      ∃ result, (results.map Program.done)[task]? =
        some (.done result : StoreProgram OpeningResult) := by
    intro task arrival came _
    match task with
    | 0 | 1 | 2 => exact ⟨_, rfl⟩
    | _ + 3 => cases came
  -- The theorem names a winner, which is the first call as only that has made a session.
  obtain ⟨winner, tokenId, session, -, made, others, listed, -⟩ := one_call_makes_session
    .empty rfl ⟨_, List.mem_cons_self, rfl⟩ raced finished
  have third : 2 ≠ winner := by
    rintro rfl
    cases made
  -- The third call was told of no connect in progress.
  rcases others 2 ⟨ada, "three"⟩ third rfl rfl with resumed | outrun
  · exact ⟨ada, _, winner, session, raced, made, rfl, resumed, listed⟩
  · cases outrun

end Race

end SessionGate
