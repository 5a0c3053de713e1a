import Mathlib.Data.List.Dedup
import SessionGate.Proofs.Program.Member
import SessionGate.Proofs.Store.Agreement
import SessionGate.Proofs.Store.Chronicle

/-! A database that many callers share at once. Only its statements are indivisible, but every call
takes effect as a whole at its last statement, as if it were the only one then. -/

namespace SessionGate

/-- What callers share: the rows of a database, and the identifiers that its statements have
named. -/
structure SharedRows where
  rows : List SessionRow
  named : List SessionId

/-- How a database that is shared answers a statement, at any time. A row gets an identifier that no
statement has named before. -/
def Database.shared :
    Surroundings Statement (fun _ => Except DatabaseFault Outcome) SharedRows :=
  fun statement before given after =>
    (∃ now, statement.Answered now before.rows given after.rows) ∧
      (∀ id user tokenId, statement = .insert id user tokenId → id ∉ before.named) ∧
      after.named = statement.parameters.filterMap ColumnValue.uuid? ++ before.named

/-- A call, and what is left of its computation. -/
abbrev CallPlace : Type := (call : StoreCall) × DatabaseProgram call.Answer

/-- Calls that a shared database is to answer, one statement at a time. -/
abbrev CallCrowd : Type :=
  Crowd Statement (fun _ => Except DatabaseFault Outcome) SharedRows CallPlace

namespace CallPlace

/-- A call that overwrites no status comes with an identifier for a new session. -/
inductive Admitted : CallPlace → Prop where
  | call {call : StoreCall} {newId : SessionId} (keeps : ¬ call.Overwrites) :
      Admitted ⟨call, Database.perform newId call⟩

/-- The reply to a call that is done. -/
def reply? (caller : Nat) : CallPlace → Option StoreReply
  | ⟨call, .done given⟩ => some ⟨caller, call, given⟩
  | ⟨_, .ask _ _⟩ => none

/-- The reply is the answer with which the call is done. -/
theorem reply?_eq_some {place : CallPlace} {caller : Nat} {reply : StoreReply} :
    place.reply? caller = some reply ↔
      reply.caller = caller ∧ place = ⟨reply.call, .done reply.given⟩ := by
  constructor
  · intro told
    -- A call that still asks has no reply.
    match place with
    | ⟨call, .done given⟩ =>
      cases told
      exact ⟨rfl, rfl⟩
    | ⟨call, .ask statement next⟩ => cases told
  · rintro ⟨rfl, rfl⟩
    rfl

/-- A newcomer has not been answered. -/
theorem Admitted.reply?_eq_none {place : CallPlace} (admitted : place.Admitted) (caller : Nat) :
    place.reply? caller = none := by
  -- A newcomer's call still has its first statement to ask.
  cases admitted with
  | call =>
    rw [Database.perform_eq]
    rfl

end CallPlace

/-- The same reply, but for the words in which a conflict is told. -/
inductive StoreReply.Alike : StoreReply → StoreReply → Prop where
  | alike {caller : Nat} {call : StoreCall} {given answer : call.Answer}
      (same : StoreCall.Alike given answer) : Alike ⟨caller, call, given⟩ ⟨caller, call, answer⟩

/-- Replies that are alike bring sessions to the same ends. -/
theorem StoreReply.Alike.ending? {first second : StoreReply} (alike : first.Alike second)
    (id : SessionId) : first.ending? id = second.ending? id := by
  cases alike with
  | @alike caller call given answer same =>
    -- A conflict ends nothing, whatever its words.
    rcases same with rfl | ⟨one, other, rfl, rfl⟩
    · rfl
    · cases call <;> rfl

/-- Replies that are alike one by one bring sessions to the same ends. -/
theorem endings_alike {first second : List StoreReply}
    (alike : List.Forall₂ StoreReply.Alike first second) (id : SessionId) :
    endings id first = endings id second := by
  -- The induction is on the pairs of replies, and like replies bring about the same end.
  induction alike with
  | nil => rfl
  | cons same _ ih =>
    simp only [endings, List.filterMap_cons, same.ending? id] at ih ⊢
    rw [ih]

/-- Replies that are alike one by one are replies to the same calls. -/
theorem calls_alike {first second : List StoreReply}
    (alike : List.Forall₂ StoreReply.Alike first second) :
    first.map StoreReply.call = second.map StoreReply.call := by
  -- The induction is on the pairs of replies, and like replies are to one call.
  induction alike with
  | nil => rfl
  | cons same _ ih =>
    cases same
    rw [List.map_cons, List.map_cons, ih]

/-- To every reply there is one like it. -/
theorem exists_alike {first second : List StoreReply}
    (alike : List.Forall₂ StoreReply.Alike first second) {caller : Nat} {call : StoreCall}
    {given : call.Answer} (member : ⟨caller, call, given⟩ ∈ first) :
    ∃ answer, ⟨caller, call, answer⟩ ∈ second ∧ StoreCall.Alike given answer := by
  -- The induction is on the pairs of replies: the reply is the first, or among the others.
  induction alike with
  | nil => cases member
  | cons same _ ih =>
    rcases List.mem_cons.mp member with rfl | member
    · cases same with
      | alike same => exact ⟨_, List.mem_cons_self, same⟩
    · obtain ⟨answer, member, same⟩ := ih member
      exact ⟨answer, List.mem_cons_of_mem _ member, same⟩

/-- What is told of each member of a list in the order in which they occur last, once the last one
is added again. -/
theorem filterMap_dedup_concat {α β : Type} [DecidableEq α] {before after : α → Option β} {last : α}
    (silent : before last = none) (same : ∀ other, other ≠ last → after other = before other)
    (list : List α) :
    (list ++ [last]).dedup.filterMap after =
      list.dedup.filterMap before ++ (after last).toList := by
  -- The induction is on the list, each member of which occurs later or here for the last time.
  induction list with
  | nil =>
    cases told : after last <;> simp [told]
  | cons first rest ih =>
    rw [List.cons_append]
    by_cases later : first ∈ rest
    · rw [List.dedup_cons_of_mem (List.mem_append_left _ later), List.dedup_cons_of_mem later, ih]
    · rw [List.dedup_cons_of_notMem later]
      by_cases here : first = last
      · -- The last one no longer counts where it occurred before.
        subst here
        rw [List.dedup_cons_of_mem (by simp), ih, List.filterMap_cons, silent]
      · rw [List.dedup_cons_of_notMem (by simp [later, here]), List.filterMap_cons, ih,
          List.filterMap_cons, same first here]
        cases before first <;> rfl

namespace Database

variable {table : SessionTable} {named : List SessionId} {now : Timestamp} {newId : SessionId}
  {call : StoreCall} {given : Except DatabaseFault Outcome}

/-- A call is refused with the fault that its first statement is refused with. -/
theorem resume_fault (call : StoreCall) (fault : DatabaseFault) :
    resume call (.error fault) = .done (.error fault.toStoreError) := by
  -- Every call passes the fault of its first statement on.
  cases call <;> rfl

/-- A query with a value that no database can hold is refused, and changes nothing. -/
theorem answered_unreadable {setting : Setting} {rows after : List SessionRow} {query : Query}
    (nul : ∃ value ∈ setting.parameters, value.HasNul)
    (answered : query.Answered setting rows given after) :
    (∃ message, given = .error ⟨DatabaseFault.untranslatable, message⟩) ∧ after = rows := by
  -- A value with a null byte is looked at before the rows are, so no other answer is possible.
  cases answered with
  | unreadable => exact ⟨⟨_, rfl⟩, rfl⟩
  | told readable | changed readable | refused readable | misfit readable =>
    exact absurd nul readable

/-- A call with a text that no database can hold fails, and changes nothing. -/
theorem unstorable_missed {rows after : List SessionRow} (unstorable : call.Unstorable)
    (answered : (call.statement newId).Answered now rows given after) :
    (∃ reply, resume call given = .done reply ∧ call.Missed reply) ∧ after = rows := by
  have nul : ∃ value ∈ (call.statement newId).parameters, value.HasNul :=
    StoreCall.unstorable_iff.mpr unstorable
  -- Only these two calls carry texts from outside.
  have refused : (∃ message, given = .error ⟨DatabaseFault.untranslatable, message⟩) ∧
      after = rows := by
    cases call with
    | create | setDispatcherStatus => exact answered_unreadable nul answered
    | _ => exact unstorable.elim
  obtain ⟨⟨message, rfl⟩, rfl⟩ := refused
  exact ⟨⟨_, resume_fault _ _, .unreached _ _⟩, rfl⟩

/-- A transition is done after its first statement, or it looks again. -/
theorem resume_transition (id : SessionId) (target : SessionStatus)
    (given : Except DatabaseFault Outcome) :
    (∃ reply, resume (.transition id target) given = .done reply) ∨
      resume (.transition id target) given = explain id target := by
  -- Only an update that concerned no row leaves the transition unsettled.
  simp only [resume]
  rcases told given with fault | _ | session
  · exact Or.inl ⟨_, rfl⟩
  · exact Or.inr rfl
  · exact Or.inl ⟨_, rfl⟩

/-- A shared database with the rows of a table answers the first statement of a call as expected. -/
theorem shared_of_expects {rows : List SessionRow} (sound : table.Sound named)
    (unused : SessionTable.Unused named ⟨newId, now⟩ call) (storable : ¬ call.Unstorable)
    (expected : table.Expects ⟨newId, now⟩ given rows call) :
    shared (call.statement newId) ⟨table.toRows, named⟩ given
      ⟨rows, (call.statement newId).parameters.filterMap ColumnValue.uuid? ++ named⟩ := by
  -- The database answers by its rows, and these are the rows of the table.
  refine ⟨⟨now, (sound.answered_iff unused storable).mpr expected⟩, ?_, rfl⟩
  intro id user tokenId same
  cases call with
  | create =>
    cases same
    exact unused
  | _ => cases same

/-- What has been named stays named. -/
theorem shared_known {statement : Statement} {before after : SharedRows}
    (answered : shared statement before given after) : ∀ id ∈ before.named, id ∈ after.named := by
  -- Each statement adds its own names in front.
  rw [answered.2.2]
  exact fun id member => List.mem_append_right _ member

/-- Whatever has been given out after a call has been named by then. -/
theorem named_of_spentAfter {answer : call.Answer} {id : SessionId}
    (spent : id ∈ SessionTable.spentAfter named ⟨newId, now⟩ call answer) :
    id ∈ (call.statement newId).parameters.filterMap ColumnValue.uuid? ++ named := by
  -- An identifier is used up by an insertion, which names it.
  unfold SessionTable.spentAfter at spent
  split at spent
  · rcases List.mem_cons.mp spent with rfl | known
    · exact List.mem_append_left _ List.mem_cons_self
    · exact List.mem_append_right _ known
  · exact List.mem_append_right _ spent

end Database

/-- Where a call stands: it waits for its first statement, or it is a transition that has met no
session in progress and looks again, or it is done. -/
inductive Stands (table : SessionTable) (named : List SessionId) : CallPlace → Prop where
  | waiting {call : StoreCall} {newId : SessionId} (keeps : ¬ call.Overwrites) :
      Stands table named ⟨call, Database.perform newId call⟩
  | explaining {id : SessionId} {target : SessionStatus}
      (ended : table.Confined named id (· ≠ .inProgress)) :
      Stands table named ⟨.transition id target, Database.explain id target⟩
  | done {call : StoreCall} {given : call.Answer}
      (lost : ∀ id target, (⟨call, given⟩ : (call : StoreCall) × call.Answer) =
        ⟨.transition id target, .error (.notFound id)⟩ → table.Gone named id) :
      Stands table named ⟨call, .done given⟩

/-- What a statement of a call brings about: the call takes effect as it does in memory and is done,
or it fails and is done, or the call is a transition that has met no session in progress. -/
inductive Outturn (table : SessionTable) (named : List SessionId) (after : SharedRows) :
    CallPlace → SessionTable → Prop where
  | effect {call : StoreCall} {given answer : call.Answer} {fresh : Fresh} {next : SessionTable}
      (keeps : ¬ call.Overwrites) (unused : SessionTable.Unused named fresh call)
      (performed : table.perform fresh call = (answer, next))
      (alike : StoreCall.Alike given answer)
      (recorded : ∀ id ∈ SessionTable.spentAfter named fresh call answer, id ∈ after.named)
      (aimed : ∀ id target, call = .transition id target → id ∈ after.named) :
      Outturn table named after ⟨call, .done given⟩ next
  | missed {call : StoreCall} {given : call.Answer} (unstorable : call.Unstorable)
      (missed : call.Missed given) (recorded : ∀ id ∈ named, id ∈ after.named) :
      Outturn table named after ⟨call, .done given⟩ table
  | unsettled {id : SessionId} {target : SessionStatus}
      (ended : table.Confined after.named id (· ≠ .inProgress))
      (recorded : ∀ id ∈ named, id ∈ after.named) :
      Outturn table named after ⟨.transition id target, Database.explain id target⟩ table

/-- A transition that was told that there is no session will find none. -/
theorem Stands.gone {table : SessionTable} {named : List SessionId} {id : SessionId}
    {target : SessionStatus}
    (stands : Stands table named ⟨.transition id target, .done (.error (.notFound id))⟩) :
    table.Gone named id := by
  -- The place is kept as one equation, so that the cases on what is known of it can be compared
  -- with it.
  generalize here : (⟨.transition id target, .done (.error (.notFound id))⟩ : CallPlace) = place
    at stands
  cases stands with
  | waiting =>
    rw [Database.perform_eq] at here
    cases here
  | explaining => cases here
  | done lost =>
    cases here
    exact lost id target rfl

section Turn

variable {table next : SessionTable} {named : List SessionId} {after : SharedRows}
  {place ahead : CallPlace}
  {exchange : Exchange Statement fun _ => Except DatabaseFault Outcome}

/-- The first statement of a call has one of these results. -/
theorem Outturn.of_first {call : StoreCall} {newId : SessionId}
    {given : Except DatabaseFault Outcome} (sound : table.Sound named) (keeps : ¬ call.Overwrites)
    (answered : Database.shared (call.statement newId) ⟨table.toRows, named⟩ given after) :
    ∃ next, Outturn table named after ⟨call, Database.resume call given⟩ next ∧
      after.rows = next.toRows := by
  have known := Database.shared_known answered
  obtain ⟨⟨now, answered⟩, new, recorded⟩ := answered
  -- A text that no database can hold is refused before anything else is looked at.
  by_cases unstorable : call.Unstorable
  · obtain ⟨⟨reply, done, missed⟩, same⟩ := Database.unstorable_missed unstorable answered
    rw [done]
    exact ⟨table, .missed unstorable missed known, same⟩
  · have unused : SessionTable.Unused named ⟨newId, now⟩ call := by
      cases call with
      | create user tokenId => exact new newId user tokenId rfl
      | _ => trivial
    have aimed : ∀ id target, call = .transition id target → id ∈ after.named := by
      rintro id target rfl
      rw [recorded]
      exact List.mem_append_left _ List.mem_cons_self
    have settles := sound.settles unused ((sound.answered_iff unused unstorable).mp answered)
    generalize Database.resume call given = program at settles
    generalize after.rows = rows at settles
    -- The call is settled, or it has met no session in progress and has to look again.
    cases settles with
    | settled performed alike =>
      refine ⟨_, .effect keeps unused performed alike (fun id spent => ?_) aimed, rfl⟩
      rw [recorded]
      exact Database.named_of_spentAfter spent
    | @unsettled id target ended =>
      exact ⟨table, .unsettled ⟨aimed id target rfl, ended⟩ known, rfl⟩

/-- A transition that looks again takes effect then, for no session has come to be in progress. -/
theorem Outturn.of_second {id : SessionId} {target : SessionStatus}
    {given : Except DatabaseFault Outcome} (sound : table.Sound named)
    (ended : table.Confined named id (· ≠ .inProgress))
    (answered : Database.shared (.selectById id) ⟨table.toRows, named⟩ given after) :
    Outturn table named after ⟨.transition id target, .done (Database.explained id given)⟩ table ∧
      after.rows = table.toRows := by
  -- The second statement reads the session, and the table in memory refuses the transition with
  -- what is read.
  have known := Database.shared_known answered
  obtain ⟨⟨now, answered⟩, -⟩ := answered
  have look : SessionTable.Unused named ⟨id, now⟩ (.session id) := trivial
  have expected := (sound.answered_iff look (fun never => never)).mp answered
  have explained : table.perform ⟨id, now⟩ (.transition id target) = _ ∧ _ :=
    SessionTable.explains ended.2 expected
  obtain ⟨performed, same⟩ := explained
  refine ⟨.effect (fun never => never) trivial performed (Or.inl rfl) known ?_, same⟩
  intro other wanted aim
  cases aim
  exact known id ended.1

/-- Every statement of a call has one of these results. -/
theorem Stands.turn (sound : table.Sound named) (stands : Stands table named place)
    (goes : Conduct.Labelled (fun _ => Program.Turn) place exchange ahead)
    (answered : Database.shared exchange.wanted ⟨table.toRows, named⟩ exchange.given after) :
    ∃ next, Outturn table named after ahead next ∧ after.rows = next.toRows := by
  -- A call asks its first statement, or its second, or nothing more.
  cases goes with
  | step goes =>
  cases stands with
  | waiting keeps =>
    rw [Database.perform_eq] at goes
    cases goes
    exact Outturn.of_first sound keeps answered
  | explaining ended =>
    cases goes
    exact ⟨table, Outturn.of_second sound ended answered⟩
  | done => exact absurd goes Program.Turn.not_done

/-- A session that is not in progress stays so whatever a statement brings about. -/
theorem Outturn.confined (outturn : Outturn table named after place next) {id : SessionId}
    {kind : SessionStatus → Prop} (ended : ¬ kind .inProgress)
    (confined : table.Confined named id kind) : next.Confined after.named id kind := by
  -- Either the table changes as in memory, or it stays as it is.
  cases outturn with
  | effect keeps unused performed _ recorded =>
    have kept := confined.perform ended unused fun overwrites => absurd overwrites keeps
    rw [performed] at kept
    exact kept.widen recorded
  | missed _ _ recorded | unsettled _ recorded => exact confined.widen recorded

/-- What is known of where a call stands stays true whatever another one brings about. -/
theorem Stands.later {other : CallPlace} (stands : Stands table named place)
    (outturn : Outturn table named after other next) : Stands next after.named place := by
  -- What is known of a call that waits or is done survives, since sessions that have ended stay so.
  cases stands with
  | waiting keeps => exact .waiting keeps
  | explaining ended => exact .explaining (outturn.confined (fun never => never rfl) ended)
  | done lost =>
    refine .done fun id target same => ?_
    exact SessionTable.gone_iff.mpr (outturn.confined (fun never => never)
      (SessionTable.gone_iff.mp (lost id target same)))

/-- Whoever has had a statement answered stands where it says. -/
theorem Outturn.stands (outturn : Outturn table named after place next) :
    Stands next after.named place := by
  cases outturn with
  | effect _ _ performed alike _ aimed =>
    refine .done fun id target same => ?_
    cases same
    -- Where no session was found there is none, and its identifier has been named.
    rcases alike with rfl | ⟨one, other, told, -⟩
    · obtain ⟨rfl, absent⟩ := SessionTable.perform_transition_missing performed
      exact ⟨aimed id target rfl, absent⟩
    · cases told
  | missed unstorable =>
    refine .done fun id target same => ?_
    cases same
    exact unstorable.elim
  | unsettled ended => exact .explaining ended

/-- What a statement brings about is what a table in memory brings about that is asked next. -/
theorem Outturn.chronicle {past : List StoreReply}
    (outturn : Outturn table named after place next) (caller : Nat)
    (chronicle : Chronicle StoreCall.Unstorable past table named) :
    ∃ more, List.Forall₂ StoreReply.Alike (place.reply? caller).toList more ∧
      Chronicle StoreCall.Unstorable (past ++ more) next after.named := by
  -- A statement has the effect of its call, misses it, or leaves it unsettled; only the last adds
  -- no reply.
  cases outturn with
  | @effect call given answer _ _ _ unused performed alike recorded =>
    exact ⟨[⟨caller, call, answer⟩], .cons (.alike alike) .nil,
      .answered caller chronicle unused performed recorded⟩
  | @missed call given unstorable missed recorded =>
    exact ⟨[⟨caller, call, given⟩], .cons (.alike (Or.inl rfl)) .nil,
      .missed caller chronicle unstorable missed recorded⟩
  | unsettled _ recorded =>
    refine ⟨[], .nil, ?_⟩
    rw [List.append_nil]
    exact chronicle.widen recorded

end Turn

namespace CallCrowd

/-- One thing that can happen: a call comes, or the database answers a statement of a call. -/
abbrev Moves : CallCrowd → CallCrowd → Prop :=
  Crowd.Moves Database.shared (Conduct.Labelled fun _ => Program.Turn) CallPlace.Admitted

/-- Calls that can come about from none, with a database that has no rows. -/
abbrev Reached (crowd : CallCrowd) : Prop :=
  Crowd.Reached Database.shared (Conduct.Labelled fun _ => Program.Turn) CallPlace.Admitted
    ⟨[], []⟩ crowd

/-- The reply to a call, if it is done. -/
def reply? (crowd : CallCrowd) (task : Nat) : Option StoreReply :=
  crowd.reading (CallPlace.reply? task) task

/-- The replies to the calls that are done, each at the place of the last statement of its call. -/
def linear (crowd : CallCrowd) : List StoreReply :=
  (crowd.log.map Prod.fst).dedup.filterMap crowd.reply?

/-- A table in memory that has been asked one call at a time has given the replies of a crowd in
their order, and now has the sessions that the database has. Only a call with a text that no
database can hold fails, and changes nothing. -/
structure Follows (crowd : CallCrowd) (past : List StoreReply) (table : SessionTable) : Prop where
  chronicle : Chronicle StoreCall.Unstorable past table crowd.state.named
  alike : List.Forall₂ StoreReply.Alike crowd.linear past
  rows : crowd.state.rows = table.toRows

/-- The calls of a crowd have been put in order, and it is known where they stand. -/
structure Ordered (crowd : CallCrowd) (past : List StoreReply) (table : SessionTable) : Prop where
  follows : crowd.Follows past table
  stands : ∀ (task : Nat) place, crowd.tasks[task]? = some place →
    Stands table crowd.state.named place

variable {crowd after : CallCrowd} {past : List StoreReply} {table : SessionTable} {task : Nat}
  {place ahead : CallPlace} {exchange : Exchange Statement fun _ => Except DatabaseFault Outcome}

/-- A newcomer has no place in the order yet. -/
theorem linear_enter (admitted : place.Admitted) :
    linear { crowd with tasks := crowd.tasks ++ [place] } = crowd.linear := by
  -- The replies are read task by task, and a newcomer has none.
  refine List.filterMap_congr fun task _ => ?_
  exact Crowd.reading_enter (admitted.reply?_eq_none task) task

/-- A statement that answers a call puts it behind all others in the order. -/
theorem linear_turn (found : crowd.tasks[task]? = some place)
    (goes : Conduct.Labelled (fun _ => Program.Turn) place exchange ahead) (state : SharedRows) :
    linear ⟨state, crowd.tasks.set task ahead, crowd.log ++ [(task, exchange)]⟩ =
      crowd.linear ++ (ahead.reply? task).toList := by
  -- Whoever still asks is not in the order, so nobody is moved in it.
  have silent : crowd.reply? task = none := by
    rw [reply?, Crowd.reading_of_found found]
    cases goes with
    | step goes =>
      cases goes
      rfl
  have told : ∀ other, reply? ⟨state, crowd.tasks.set task ahead, crowd.log ++ [(task, exchange)]⟩
      other = if other = task then ahead.reply? other else crowd.reply? other :=
    fun other => Crowd.reading_turn found ahead state _ other
  rw [linear, linear, List.map_append]
  refine (filterMap_dedup_concat silent (fun other different => ?_) _).trans ?_
  · rw [told, if_neg different]
  · rw [told, if_pos rfl]

/-- Whatever happens, those who are in the order keep their places, and others come behind them. -/
theorem linear_moves {later : CallCrowd} (moved : Relation.ReflTransGen Moves crowd later) :
    crowd.linear <+: later.linear := by
  -- The induction is on the moves, and each puts at most one reply at the end.
  induction moved with
  | refl => exact List.prefix_rfl
  | tail _ moved ih =>
    cases moved with
    | enter admitted =>
      rw [linear_enter admitted]
      exact ih
    | turn found goes =>
      rw [linear_turn found goes]
      exact ih.trans (List.prefix_append _ _)

/-- Whatever happens, the order is gone on with. -/
theorem Ordered.move (ordered : crowd.Ordered past table) (moved : Moves crowd after) :
    ∃ more next, after.Ordered (past ++ more) next := by
  obtain ⟨⟨chronicle, alike, rows⟩, stands⟩ := ordered
  -- A newcomer changes neither the order nor the rows; a turn goes on with both.
  cases moved with
  | @enter newcomer admitted =>
    refine ⟨[], table, ⟨?_, ?_, rows⟩, ?_⟩
    · -- A newcomer has answered nothing, so the order is the one of before.
      rw [List.append_nil]
      exact chronicle
    · rw [List.append_nil, linear_enter admitted]
      exact alike
    · intro task place found
      rcases Crowd.placed_of_enter found with found | ⟨-, rfl⟩
      · exact stands task place found
      · cases admitted with
        | call keeps => exact .waiting keeps
  | @turn task place ahead exchange state found goes answered =>
    have answered : Database.shared exchange.wanted ⟨table.toRows, crowd.state.named⟩
        exchange.given state := rows ▸ answered
    -- The turn is the statement of a call, and what it answers is known from where the call stands.
    obtain ⟨next, outturn, left⟩ := (stands task place found).turn chronicle.sound goes answered
    obtain ⟨more, told, chronicle⟩ := outturn.chronicle task chronicle
    refine ⟨more, next, ⟨chronicle, ?_, left⟩, ?_⟩
    · rw [linear_turn found goes]
      exact List.rel_append alike told
    · -- The others are where they were, for which the statement of another call does no harm.
      intro other stood located
      rcases Crowd.placed_of_turn located with ⟨-, rfl⟩ | ⟨-, located⟩
      · exact outturn.stands
      · exact (stands other stood located).later outturn

/-- Whatever happens after another, the order is gone on with. -/
theorem Ordered.moves (ordered : crowd.Ordered past table)
    (moved : Relation.ReflTransGen Moves crowd after) :
    ∃ more next, after.Ordered (past ++ more) next := by
  -- The induction is on the moves, each of which extends the order that there is.
  induction moved with
  | refl =>
    refine ⟨[], table, ?_⟩
    rw [List.append_nil]
    exact ordered
  | tail _ moved ih =>
    obtain ⟨more, between, ordered⟩ := ih
    obtain ⟨last, next, ordered⟩ := ordered.move moved
    rw [List.append_assoc] at ordered
    exact ⟨_, next, ordered⟩

/-- The calls of every crowd are put in order. -/
theorem Reached.ordered (reached : Reached crowd) : ∃ past table, crowd.Ordered past table := by
  -- Before anybody came, the order is empty and the table too.
  have first : Ordered (Crowd.alone ⟨[], []⟩) [] .empty :=
    ⟨⟨.start [], .nil, rfl⟩, fun _ _ => nofun⟩
  obtain ⟨past, table, ordered⟩ := first.moves reached
  exact ⟨past, table, ordered⟩

/-- A call that is done has had a statement answered. -/
theorem Reached.logged (reached : Reached crowd) {call : StoreCall} {given : call.Answer}
    (found : crowd.tasks[task]? = some ⟨call, .done given⟩) :
    task ∈ crowd.log.map Prod.fst := by
  obtain ⟨entry, admitted, path⟩ := (Crowd.Reached.path reached task).2 _ found
  cases heard : crowd.heard task with
  | nil =>
    rw [heard] at path
    -- Whoever has just come is not done.
    cases path with
    | rest => cases admitted.reply?_eq_none task
  | cons exchange rest =>
    have member : exchange ∈ crowd.heard task := heard ▸ List.mem_cons_self
    exact List.mem_map.mpr ⟨_, Crowd.mem_heard.mp member, rfl⟩

/-- The order has the replies to the calls that are done. -/
theorem Reached.mem_linear (reached : Reached crowd) {call : StoreCall} {given : call.Answer} :
    ⟨task, call, given⟩ ∈ crowd.linear ↔ crowd.tasks[task]? = some ⟨call, .done given⟩ := by
  rw [linear, List.mem_filterMap]
  -- Its last statement is logged, and there the reply is told.
  constructor
  · intro member
    obtain ⟨other, -, told⟩ := member
    obtain ⟨place, found, told⟩ := Option.bind_eq_some_iff.mp told
    obtain ⟨rfl, rfl⟩ := CallPlace.reply?_eq_some.mp told
    exact found
  · intro found
    refine ⟨task, List.mem_dedup.mpr (reached.logged found), ?_⟩
    exact (Crowd.reading_of_found found).trans rfl

/-- No call has two places in the order. -/
theorem linear_nodup (crowd : CallCrowd) : (crowd.linear.map StoreReply.caller).Nodup := by
  rw [linear, List.map_filterMap]
  -- Each task has one last statement, and a reply names its own caller.
  refine (List.nodup_dedup _).filterMap fun first second caller one two => ?_
  have own : ∀ task, caller ∈ (crowd.reply? task).map StoreReply.caller → caller = task := by
    intro task named
    obtain ⟨reply, told, rfl⟩ := Option.map_eq_some_iff.mp named
    obtain ⟨place, -, told⟩ := Option.bind_eq_some_iff.mp told
    exact (CallPlace.reply?_eq_some.mp told).1
  exact (own first one).symm.trans (own second two)

/-- Where a transition has been told that there is no session, there will be none. -/
theorem Reached.lost (reached : Reached crowd) {id : SessionId} {target : SessionStatus}
    (found : crowd.tasks[task]? = some ⟨.transition id target, .done (.error (.notFound id))⟩)
    {later : CallCrowd} (moved : Relation.ReflTransGen Moves crowd later) :
    ∀ row ∈ later.state.rows, row.id ≠ id := by
  have stuck : ∀ exchange ahead, ¬ Conduct.Labelled (fun _ => Program.Turn)
      (⟨.transition id target, .done (.error (.notFound id))⟩ : CallPlace) exchange ahead := by
    intro exchange ahead goes
    cases goes with
    | step goes => exact Program.Turn.not_done goes
  -- The transition is still done later, and what is known of its place holds then, too.
  obtain ⟨past, table, ordered⟩ := Reached.ordered (reached.trans moved)
  have gone := (ordered.stands task _ (Crowd.stays moved found stuck)).gone
  rw [ordered.follows.rows]
  intro row member
  obtain ⟨session, present, rfl⟩ := List.mem_map.mp member
  exact gone.2 session present

/-- Where all calls are orderly, so are those that have been put in order. -/
theorem Reached.orderly (reached : Reached crowd)
    (orderly : ∀ place ∈ crowd.tasks, place.1.Orderly)
    (alike : List.Forall₂ StoreReply.Alike crowd.linear past) :
    ∀ reply ∈ past, reply.call.Orderly := by
  -- The calls of the order are those of the crowd, and alike replies are to the same calls.
  intro reply member
  have listed : reply.call ∈ crowd.linear.map StoreReply.call := by
    rw [calls_alike alike]
    exact List.mem_map_of_mem member
  obtain ⟨told, ordered, same⟩ := List.mem_map.mp listed
  rw [← same]
  exact orderly _ (List.mem_of_getElem? (reached.mem_linear.mp ordered))

/-- Whoever has ended a session is the only one to end it. -/
theorem Reached.ended_once (reached : Reached crowd)
    (orderly : ∀ place ∈ crowd.tasks, place.1.Orderly) {id : SessionId} {winner : Nat × Ending}
    (ended : winner ∈ endings id crowd.linear) : endings id crowd.linear = [winner] := by
  obtain ⟨past, table, ⟨chronicle, alike, -⟩, -⟩ := reached.ordered
  have life : Life id past table crowd.state.named :=
    chronicle.life (reached.orderly orderly alike)
  have once := life.once
  -- The ends in the order are those of the chronicle.
  rw [← endings_alike alike] at once
  match endings id crowd.linear, ended, once with
  | [only], ended, _ => rw [List.mem_singleton.mp ended]

/-- An order to end a session has done so, or is told how it was ended, or finds none. -/
theorem Reached.decided (reached : Reached crowd)
    (orderly : ∀ place ∈ crowd.tasks, place.1.Orderly)
    {id : SessionId} {target : SessionStatus} {given : (StoreCall.transition id target).Answer}
    (found : crowd.tasks[task]? = some ⟨.transition id target, .done given⟩) :
    given = .error (.notFound id) ∨
    ∃ winner ending, endings id crowd.linear = [(winner, ending)] ∧
      ((winner = task ∧ ending.target = target ∧ given = .ok ending.session) ∨
        (winner ≠ task ∧ given = .error (.notInProgress id ending.target))) := by
  have listed : ⟨task, .transition id target, given⟩ ∈ crowd.linear :=
    reached.mem_linear.mpr found
  cases given with
  -- An order that went well has ended the session itself.
  | ok session =>
    have ended : (task, ⟨target, session⟩) ∈ endings id crowd.linear :=
      List.mem_filterMap.mpr ⟨_, listed, StoreReply.ending?_eq_some.mpr rfl⟩
    exact Or.inr ⟨_, _, reached.ended_once orderly ended, Or.inl ⟨rfl, rfl, rfl⟩⟩
  -- An order that was refused was refused by the table that the order of calls goes through.
  | error fault =>
    obtain ⟨past, table, ⟨chronicle, alike, -⟩, -⟩ := reached.ordered
    obtain ⟨answer, told, same⟩ := exists_alike alike listed
    have judged : ∀ fault, ⟨task, .transition id target, .error fault⟩ ∈ past →
        fault = .notFound id ∨
          ∃ entry ∈ endings id past, fault = .notInProgress id entry.2.target :=
      fun fault => chronicle.refused (reached.orderly orderly alike) fun never => never
    -- What was told is that refusal, or a conflict in other words, which no transition is told of.
    rcases same with rfl | ⟨one, other, -, rfl⟩
    · rcases judged _ told with rfl | ⟨winner, ended, rfl⟩
      · exact Or.inl rfl
      · rw [← endings_alike alike] at ended
        refine Or.inr ⟨_, _, reached.ended_once orderly ended, Or.inr ⟨?_, rfl⟩⟩
        -- Nobody is refused what they have done.
        rintro rfl
        obtain ⟨reply, ordered, same⟩ := List.mem_filterMap.mp ended
        obtain rfl := StoreReply.ending?_eq_some.mp same
        cases found.symm.trans (reached.mem_linear.mp ordered)
    · rcases judged _ told with same | ⟨_, -, same⟩
      · cases same
      · cases same

/-- A statement that a call asks next is answered as a table with the rows of the database
expects. -/
theorem moves_of_expects (task : Nat) (fresh : Fresh) (asking : StoreCall) {call : StoreCall}
    {next : Except DatabaseFault Outcome → DatabaseProgram call.Answer}
    {given : Except DatabaseFault Outcome} {rows : List SessionRow}
    (sound : table.Sound crowd.state.named)
    (same : crowd.state.rows = table.toRows)
    (found : crowd.tasks[task]? = some ⟨call, .ask (asking.statement fresh.id) next⟩)
    (unused : SessionTable.Unused crowd.state.named fresh asking) (storable : ¬ asking.Unstorable)
    (expected : table.Expects fresh given rows asking) :
    Moves crowd ⟨⟨rows, (asking.statement fresh.id).parameters.filterMap ColumnValue.uuid? ++
        crowd.state.named⟩, crowd.tasks.set task ⟨call, next given⟩,
      crowd.log ++ [(task, ⟨asking.statement fresh.id, given⟩)]⟩ := by
  -- The rows of the database are those of the table, so the answer expected is one it may give.
  have answered := Database.shared_of_expects sound unused storable expected
  rw [← same] at answered
  have goes : Program.Turn (.ask (asking.statement fresh.id) next)
      ⟨asking.statement fresh.id, given⟩ (next given) := by constructor
  exact .turn found (.step goes) answered

/-- A statement that a call asks next can be answered, and the call goes on from its answer. -/
theorem Ordered.goes_on (ordered : crowd.Ordered past table) {call asking : StoreCall}
    {next : Except DatabaseFault Outcome → DatabaseProgram call.Answer} {fresh : Fresh}
    (found : crowd.tasks[task]? = some ⟨call, .ask (asking.statement fresh.id) next⟩)
    (unused : SessionTable.Unused crowd.state.named fresh asking) (storable : ¬ asking.Unstorable) :
    ∃ after given, Moves crowd after ∧ after.tasks[task]? = some ⟨call, next given⟩ := by
  -- There is always an answer that the table expects.
  obtain ⟨given, rows, expected⟩ := table.exists_expects fresh asking
  refine ⟨_, given, moves_of_expects task fresh asking ordered.follows.chronicle.sound
    ordered.follows.rows found unused storable expected, ?_⟩
  have within := (List.getElem?_eq_some_iff.mp found).1
  simp [within]

/-- A transition that looks again can be answered. -/
theorem Ordered.explained (ordered : crowd.Ordered past table) (now : Timestamp) {id : SessionId}
    {target : SessionStatus}
    (found : crowd.tasks[task]? = some ⟨.transition id target, Database.explain id target⟩) :
    ∃ later given, Relation.ReflTransGen Moves crowd later ∧
      later.tasks[task]? = some ⟨.transition id target, .done given⟩ := by
  -- Reading a session names nothing new and stores nothing, so it can always be answered.
  have look : SessionTable.Unused crowd.state.named ⟨id, now⟩ (.session id) := trivial
  obtain ⟨later, given, moved, found⟩ := ordered.goes_on found look fun never => never
  exact ⟨later, _, .single moved, found⟩

/-- Every transition that has come can be answered. -/
theorem Ordered.served (ordered : crowd.Ordered past table) (now : Timestamp) {id : SessionId}
    {target : SessionStatus} {program : DatabaseProgram (StoreCall.transition id target).Answer}
    (found : crowd.tasks[task]? = some ⟨.transition id target, program⟩) :
    ∃ later given, Relation.ReflTransGen Moves crowd later ∧
      later.tasks[task]? = some ⟨.transition id target, .done given⟩ := by
  have stands := ordered.stands task _ found
  cases stands with
  | @waiting _ newId =>
    -- The first statement is sent in any state, and its answer decides what is left.
    rw [Database.perform_eq] at found
    have unused : SessionTable.Unused crowd.state.named ⟨newId, now⟩ (.transition id target) :=
      trivial
    obtain ⟨after, given, moved, found⟩ := ordered.goes_on found unused fun never => never
    -- One statement is enough, or a second one is.
    rcases Database.resume_transition id target given with ⟨reply, done⟩ | again
    · rw [done] at found
      exact ⟨after, reply, .single moved, found⟩
    · rw [again] at found
      obtain ⟨more, next, ordered⟩ := ordered.move moved
      obtain ⟨later, reply, onward, found⟩ := ordered.explained now found
      exact ⟨later, reply, .head moved onward, found⟩
  -- Where the second statement is under way it is all that is left.
  | explaining => exact ordered.explained now found
  | done => exact ⟨crowd, _, .refl, found⟩

/-- Calls that share a database are answered as if each had taken effect at once at its last
statement. -/
structure Linearizable (crowd : CallCrowd) : Prop where
  /-- The order has the replies to the calls that are done, and no others. -/
  complete : ∀ task call given,
    ⟨task, call, given⟩ ∈ crowd.linear ↔ crowd.tasks[task]? = some ⟨call, .done given⟩
  /-- It has each of them once. -/
  once : (crowd.linear.map StoreReply.caller).Nodup
  /-- Whoever is answered later stands behind all who have been answered before. -/
  steady : ∀ later, Relation.ReflTransGen Moves crowd later → crowd.linear <+: later.linear
  /-- A table in memory that is asked in this order gives the same replies and has the same sessions
  as the database, now and after every statement that is still to come. -/
  legal : ∃ past table, crowd.Follows past table ∧
    ∀ later, Relation.ReflTransGen Moves crowd later →
      ∃ more next, later.Follows (past ++ more) next
  /-- Every transition that has come can be answered. -/
  served : ∀ (task : Nat) id target program,
    crowd.tasks[task]? = some ⟨.transition id target, program⟩ →
    ∃ later given, Relation.ReflTransGen Moves crowd later ∧
      later.tasks[task]? = some ⟨.transition id target, .done given⟩
  /-- A transition is never told that its session is not in progress because it is in progress. -/
  truthful : ∀ (task : Nat) id target other status,
    crowd.tasks[task]? =
      some ⟨.transition id target, .done (.error (.notInProgress other status))⟩ →
    status ≠ .inProgress
  /-- Of all transitions of a session that end it one only succeeds. Whichever else has been
  answered is told how the session was ended, or that there is none, which then is so for good. -/
  decided : (∀ place ∈ crowd.tasks, place.1.Orderly) → ∀ (task : Nat) id target given,
    crowd.tasks[task]? = some ⟨.transition id target, .done given⟩ →
    (given = .error (.notFound id) ∧
      ∀ later : CallCrowd, Relation.ReflTransGen Moves crowd later →
        ∀ row ∈ later.state.rows, row.id ≠ id) ∨
    ∃ winner ending, endings id crowd.linear = [(winner, ending)] ∧
      ((winner = task ∧ ending.target = target ∧ given = .ok ending.session) ∨
        (winner ≠ task ∧ given = .error (.notInProgress id ending.target)))

/-- However the statements of calls follow each other, where none of the calls overwrites a status,
every call is answered as if it had taken effect at once at its last statement. -/
theorem linearizable (reached : Reached crowd) : Linearizable crowd := by
  -- The order of all calls is that of their last statements, which the invariant has kept with a
  -- table.
  obtain ⟨past, table, ordered⟩ := reached.ordered
  refine ⟨fun _ _ _ => reached.mem_linear, linear_nodup crowd, fun _ => linear_moves,
    ?_, ?_, ?_, ?_⟩
  · refine ⟨past, table, ordered.follows, fun later moved => ?_⟩
    obtain ⟨more, next, ordered⟩ := ordered.moves moved
    exact ⟨more, next, ordered.follows⟩
  · intro task id target program found
    exact ordered.served ⟨1970, 1, 1, 0, 0, 0, 0⟩ found
  · intro task id target other status found
    obtain ⟨answer, told, same⟩ :=
      exists_alike ordered.follows.alike (reached.mem_linear.mpr found)
    rcases same with rfl | ⟨_, _, same, -⟩
    · exact ordered.follows.chronicle.refused_status told
    · cases same
  · intro orderly task id target given found
    refine (reached.decided orderly found).imp_left fun missing => ⟨missing, ?_⟩
    subst missing
    exact fun later moved => reached.lost found moved

/-- A call that overwrites no status may come at any time, and begins with its statement. -/
theorem Reached.come (reached : Reached crowd) (newId : SessionId) {call : StoreCall}
    (keeps : ¬ call.Overwrites) :
    Reached { crowd with
      tasks := crowd.tasks ++ [⟨call, .ask (call.statement newId) (Database.resume call)⟩] } := by
  -- A call is its first statement and what it makes of the answer.
  rw [← Database.perform_eq]
  exact reached.tail (.enter (.call keeps))

/-- Two orders to end a session in different ways may race, so that the second finds it ended by the
first. -/
theorem exists_race :
    ∃ crowd : CallCrowd, Reached crowd ∧ (∀ place ∈ crowd.tasks, place.1.Orderly) ∧
      crowd.tasks[2]? = some ⟨.transition (.numbered 1) .timeout,
        .done (.error (.notInProgress (.numbered 1) .completed))⟩ := by
  -- A session is made, two orders to end it come, and the first of them is answered before the
  -- second.
  let ada : UserId := ⟨"ada", by decide⟩
  let fresh : Fresh := ⟨.numbered 1, ⟨2024, 1, 1, 0, 0, 0, 0⟩⟩
  let create : StoreCall := .create ada "token"
  let complete : StoreCall := .transition fresh.id .completed
  let timeOut : StoreCall := .transition fresh.id .timeout
  let made := SessionTable.newSession fresh ada "token"
  let ended := SessionTable.moved fresh.now .completed made
  let asks : StoreCall → CallPlace := fun call =>
    ⟨call, .ask (call.statement fresh.id) (Database.resume call)⟩
  have orderly : ∀ call ∈ [create, complete, timeOut], call.Orderly := by
    simp [create, complete, timeOut, StoreCall.Orderly]
  have keeps : ∀ call ∈ [create, complete, timeOut], ¬ call.Overwrites :=
    fun call member => (orderly call member).keeps
  -- All of them come before any of them is answered.
  have come : Reached ⟨⟨[], []⟩, [asks create, asks complete, asks timeOut], []⟩ :=
    Reached.come (Reached.come (Reached.come .refl fresh.id (keeps create (by simp))) fresh.id
      (keeps complete (by simp))) fresh.id (keeps timeOut (by simp))
  have unused : SessionTable.Unused [] fresh create := List.not_mem_nil
  have storable : ¬ create.Unstorable := by
    show Char.ofNat 0 ∉ "token".toList
    decide
  have active : SessionTable.Sound ⟨[made]⟩ [fresh.id] := SessionTable.Sound.empty.perform unused
  have inactive : ∀ named, SessionTable.Sound ⟨[ended]⟩ (fresh.id :: named) := by
    intro named
    have kept := active.perform (show SessionTable.Unused _ fresh complete from trivial)
    refine ⟨kept.apart, fun row member => ?_, kept.single⟩
    cases List.mem_singleton.mp member
    exact List.mem_cons_self
  obtain ⟨log, first, inserted⟩ : ∃ log first, Reached ⟨⟨[.ofSession made], [fresh.id]⟩,
      [⟨create, first⟩, asks complete, asks timeOut], log⟩ :=
    ⟨_, _, come.tail (moves_of_expects 0 fresh create .empty rfl rfl unused storable
      (Or.inl ⟨active.single, rfl, rfl⟩))⟩
  obtain ⟨log, second, completed⟩ : ∃ log second,
      Reached ⟨⟨[.ofSession ended], [fresh.id, fresh.id]⟩,
        [⟨create, first⟩, ⟨complete, second⟩, asks timeOut], log⟩ :=
    ⟨_, _, inserted.tail (moves_of_expects 1 fresh complete active rfl rfl trivial
      (fun never => never) (Or.inl ⟨(inactive []).single, rfl, rfl⟩))⟩
  -- The second order to end the session concerns no row, and looks again.
  have twice := inactive [fresh.id]
  have refused := completed.tail (moves_of_expects 2 fresh timeOut twice rfl rfl trivial
    (fun never => never) (Or.inl ⟨twice.single, rfl, rfl⟩))
  obtain ⟨log, again⟩ : ∃ log,
      Reached ⟨⟨[.ofSession ended], [fresh.id, fresh.id, fresh.id]⟩,
        [⟨create, first⟩, ⟨complete, second⟩, ⟨timeOut, Database.explain fresh.id .timeout⟩],
        log⟩ := ⟨_, refused⟩
  have thrice := inactive [fresh.id, fresh.id]
  have explained := again.tail (moves_of_expects 2 fresh (.session fresh.id) thrice rfl rfl trivial
    (fun never => never) ⟨rfl, rfl⟩)
  obtain ⟨log, told⟩ : ∃ log,
      Reached ⟨⟨[.ofSession ended], [fresh.id, fresh.id, fresh.id, fresh.id]⟩,
        [⟨create, first⟩, ⟨complete, second⟩,
          ⟨timeOut, .done (Database.explained fresh.id (.ok ⟨[.ofSession ended], 1⟩))⟩], log⟩ :=
    ⟨_, explained⟩
  have looked : Database.toldById fresh.id (.ok ⟨[.ofSession ended], 1⟩) = .ok ended :=
    Database.toldById_rows fresh.id (some ended) 1
  rw [Database.explained, looked] at told
  exact ⟨_, told, fun place member => orderly _ (List.mem_map_of_mem member), rfl⟩

/-- Of two orders that race to end a session in different ways one is told how the other ended
it. -/
theorem racing_transitions :
    ∃ (crowd : CallCrowd) (winner : Nat) (ending : Ending), Linearizable crowd ∧
      endings (.numbered 1) crowd.linear = [(winner, ending)] ∧ winner ≠ 2 ∧
      crowd.tasks[2]? = some ⟨.transition (.numbered 1) .timeout,
        .done (.error (.notInProgress (.numbered 1) ending.target))⟩ := by
  obtain ⟨crowd, reached, orderly, found⟩ := exists_race
  have served := linearizable reached
  -- The answer that is known rules out the other two cases.
  rcases served.decided orderly 2 _ _ _ found with
    ⟨missing, -⟩ | ⟨winner, ending, only, ⟨-, -, ended⟩ | ⟨different, told⟩⟩
  · cases missing
  · cases ended
  · rw [told] at found
    exact ⟨crowd, winner, ending, served, only, different, found⟩

end CallCrowd

end SessionGate
