import SessionGate.Proofs.Connection.Admitting
import SessionGate.Proofs.Connection.Isolation
import SessionGate.Proofs.Connection.Records
import SessionGate.Proofs.Store.Completion
import SessionGate.Proofs.Url.Addressing

/-! Whose accounts at the broker are made, permitted and deleted: those of users for whom the
identity service has vouched. -/

namespace SessionGate

open ServiceExchange
open Url (DomainLookup)

/-- The account that a change makes, permits or deletes. -/
def AdminChange.account? : AdminChange → Option String
  | .createUser name _ | .setPermissions name _ | .deleteUser name => some name
  | _ => none

/-- A change that is for a user touches no other account than the user's. -/
theorem Topology.IsFor.account {options : TopologyOptions} {user : UserId} {change : AdminChange}
    {name : String} (own : IsFor options user change) (touched : change.account? = some name) :
    name = BrokerNames.account user := by
  -- Every change of an account names it among its resources.
  have named : BrokerResource.account name ∈ change.resources := by
    cases change <;> cases touched <;> exact List.mem_cons_self
  rcases own.resources _ named with belongs | ⟨exchange, -, other⟩
  · exact (belongs user).mpr rfl
  · cases other

/-- The identity service has vouched for a user: it told one and the same request that a token of
the user's is valid and that the user is authorized. -/
def UserId.VouchedIn (user : UserId) (log : List (Nat × ServiceExchange)) : Prop :=
  ∃ task token validation profile,
    (task, validated token user (.ok validation)) ∈ log ∧ validation.isValid = true ∧
    (task, profiled user (.ok profile)) ∈ log ∧ profile.isAuthorized = true

variable {user : UserId} {log : List (Nat × ServiceExchange)} {M : Type}
  {manager : TopologyManager M} {fails : StoreCall → Prop} {options : TopologyOptions}

/-- Who was vouched for stays so. -/
theorem UserId.VouchedIn.more (vouched : user.VouchedIn log)
    (more : List (Nat × ServiceExchange)) : user.VouchedIn (log ++ more) := by
  -- The log only grows.
  obtain ⟨task, token, validation, profile, asked, valid, known, authorized⟩ := vouched
  exact ⟨task, token, validation, profile, List.mem_append_left _ asked, valid,
    List.mem_append_left _ known, authorized⟩

/-- Whoever has a session after a call to the store had one before, or has got one made. -/
theorem StoreCall.Answered.owner {before after : Backing M} {call : StoreCall} {given : call.Answer}
    {row : Session} (answered : call.Answered fails before given after)
    (member : row ∈ after.table.rows) :
    (∃ tokenId, call = .create row.user tokenId) ∨
      ∃ old ∈ before.table.rows, old.user = row.user := by
  -- A row is one that was there before, or the one that the call makes; a call that failed changes
  -- no row.
  rcases answered with ⟨fresh, table, -, performed, rfl⟩ | ⟨-, -, rfl⟩
  · exact SessionTable.Origin.owner (SessionTable.perform_origin (by rwa [performed]))
  · exact .inr ⟨row, member, rfl⟩

namespace Backing

/-- Whoever has a session after any question had one before, or has got one made. -/
theorem owner_of_answers {before after : Backing M} {wanted : Timed ServiceCall}
    {given : wanted.Answer ServiceCall.Answer} {row : Session}
    (answered : answers manager fails wanted before given after)
    (member : row ∈ after.table.rows) :
    (∃ tokenId, wanted.wanted = .store (.create row.user tokenId)) ∨
      ∃ old ∈ before.table.rows, old.user = row.user := by
  -- A row has come from the store, or it was there before.
  by_cases stored : ∃ order, wanted.wanted = .store order
  · obtain ⟨order, asked⟩ := stored
    have owner {told : order.Answer} (answered : order.Answered fails before told after) :
        (∃ tokenId, ServiceCall.store order = .store (.create row.user tokenId)) ∨
          ∃ old ∈ before.table.rows, old.user = row.user :=
      (answered.owner member).imp_left fun ⟨tokenId, made⟩ => ⟨tokenId, congrArg _ made⟩
    match wanted, given with
    | .unhurried _, given | .before _ _, some given =>
      cases asked
      exact owner answered
    | .before _ _, none =>
      cases asked
      -- A call that was given up has been answered after all, or has done nothing.
      rcases answered with rfl | ⟨told, answered⟩
      · exact .inr ⟨row, member, rfl⟩
      · exact owner answered
  · -- No other call reaches the rows.
    have kept := (answers_store answered fun order asked => stored ⟨order, asked⟩).1
    exact .inr ⟨row, kept ▸ member, rfl⟩

/-- From one state to the next the broker has been asked for changes for the user of an order, if
the call is an order, and for nothing else. -/
def Notes (options : TopologyOptions) (call : ServiceCall) (before after : Backing Management) :
    Prop :=
  ∃ noted, after.broker.journal = before.broker.journal ++ noted ∧
    ∀ entry ∈ noted, ∃ order, call = .topology order ∧ Topology.IsFor options order.user entry.1

variable {before after : Backing Management} {call : ServiceCall}

/-- Where the broker stays as it is, nothing has been asked for. -/
theorem Notes.of_same (broker : after.broker = before.broker) : Notes options call before after :=
  -- No entry is added to the journal.
  ⟨[], by rw [broker, List.append_nil], List.forall_mem_nil _⟩

/-- However far an order has got, it has asked for changes for its user. -/
theorem Notes.of_course {order : TopologyCall} {broker : Management}
    {rest : AdminProgram order.Answer} {log : List (Exchange AdminCall AdminCall.Answer)}
    (course : Course Management.answers Program.Turn (Topology.perform options order) before.broker
      log rest broker) : Notes options (.topology order) before { before with broker } := by
  -- The journal of a course has the entries of an order for its user only.
  obtain ⟨noted, grown, own⟩ := Topology.journal_of_course course
  exact ⟨noted, grown, fun entry member => ⟨order, rfl, own entry member⟩⟩

/-- A call that is answered asks for changes only if it is an order. -/
theorem notes_of_answered {given : call.Answer}
    (answered : call.Answered (Topology.manager options) fails before given after) :
    Notes options call before after := by
  -- Only the management of the broker writes into the journal.
  match call, given with
  | .topology order, given =>
    obtain ⟨broker, ⟨log, ran⟩, rfl⟩ := answered
    exact .of_course ran
  | .store call, given => exact .of_same (StoreCall.Answered.broker answered)
  | .lockUser owner, .ok () =>
    obtain ⟨-, rfl⟩ := answered
    exact .of_same rfl
  | .unlockUser owner, given | .lockUser owner, .error fault | .identity call, given
  | .publish exchange body, given | .momentAfter limit, given =>
    cases answered
    exact .of_same rfl

/-- The same holds of questions with and without deadlines, also where one is given up. -/
theorem notes_of_answers {wanted : Timed ServiceCall} {given : wanted.Answer ServiceCall.Answer}
    (answered : mayFail options wanted before given after) :
    Notes options wanted.wanted before after := by
  -- A call given up at its deadline took place, did not, or, where it is an order, got somewhere.
  match wanted, given with
  | .unhurried call, given | .before _ call, some given => exact notes_of_answered answered
  | .before _ call, none =>
    cases call with
    | topology order =>
      obtain ⟨broker, ⟨log, rest, course⟩, rfl⟩ := answered
      exact .of_course course
    | identity _ | store _ | lockUser _ | unlockUser _ | publish _ _ | momentAfter _ =>
      rcases answered with rfl | ⟨given, answered⟩
      · exact .of_same rfl
      · exact notes_of_answered answered

end Backing

/-- A call about sessions or resources of a user is one for whose user the identity service has
vouched. -/
def ServiceCall.Entitled (log : List (Nat × ServiceExchange)) : ServiceCall → Prop
  | .store (.create user _) => user.VouchedIn log
  | .topology order => order.user.VouchedIn log
  | _ => True

namespace ServiceStage

variable {service : ConnectionService} {stage ahead : ServiceStage} {exchange : ServiceExchange}
  {task : Nat} {before after : Backing M}

/-- The identity service has vouched for the user whose session a request works on. -/
def Vouched (task : Nat) (log : List (Nat × ServiceExchange)) : ServiceStage → Prop
  | .profiling user _ => ∃ token validation,
    (task, validated token user (.ok validation)) ∈ log ∧ validation.isValid = true
  | .locking admission | .looking admission | .creating admission => admission.user.VouchedIn log
  | .timing _ session | .settingUp _ session _ | .announcing _ session _
  | .tearingDown _ session _ | .discarding _ session _ | .dismantling _ _ session
  | .disbarring _ session | .revoking _ session => session.user.VouchedIn log
  -- Elsewhere no user's session is at hand.
  | .identifying _ _ | .unlocking _ _ | .ending _ _ | .recording _ _ | .reading _
  | .finished _ => True

/-- Nobody has to be vouched for at the start of a request. -/
theorem start_vouched (request : ServiceRequest) : (start request).Vouched task log :=
  -- No request starts at a stage that acts for a user.
  start_holds (Vouched task log) (fun _ _ => trivial) (fun _ => trivial) (fun _ _ => trivial)
    (fun _ => trivial) (fun _ _ => trivial) (fun _ => trivial) request

/-- Who was vouched for at a stage stays so. -/
theorem Vouched.more (vouched : stage.Vouched task log) (more : List (Nat × ServiceExchange)) :
    stage.Vouched task (log ++ more) := by
  -- Each stage speaks of entries in the log, and these stay in it.
  cases stage with
  | profiling user tokenId =>
    obtain ⟨token, validation, asked, valid⟩ := vouched
    exact ⟨token, validation, List.mem_append_left _ asked, valid⟩
  | locking | looking | creating | timing | settingUp | announcing | tearingDown | discarding
  | dismantling | disbarring | revoking => exact UserId.VouchedIn.more vouched more
  | identifying | unlocking | ending | recording | reading | finished => trivial

/-- What a stage asks it is entitled to ask. -/
theorem Vouched.entitled {wanted : Timed ServiceCall} (vouched : stage.Vouched task log)
    (asked : stage.question? service = some wanted) : wanted.wanted.Entitled log := by
  -- A stage that acts for a user is one that the user was vouched for at.
  cases stage with
  | creating | settingUp | tearingDown | dismantling =>
    cases asked
    exact vouched
  | finished => cases asked
  | _ =>
    cases asked
    trivial

/-- A request goes on with the session of a user who was vouched for. -/
theorem Step.vouched (step : Step service stage exchange ahead)
    (answered : Backing.answers manager fails exchange.wanted before exchange.given after)
    (rows : ∀ row ∈ before.table.rows, row.user.VouchedIn log) (vouched : stage.Vouched task log) :
    ahead.Vouched task (log ++ [(task, exchange)]) := by
  have last : (task, exchange) ∈ log ++ [(task, exchange)] :=
    List.mem_append_right _ List.mem_cons_self
  cases step with
  -- The first answer vouches for the token, in this exchange.
  | identified valid => exact ⟨_, _, last, valid⟩
  | admitted authorized =>
    -- The same request had its token validated before.
    obtain ⟨token, validation, asked, valid⟩ := vouched
    exact ⟨task, token, validation, _, List.mem_append_left _ asked, valid, last, authorized⟩
  -- The new session has the user of the admission, and so has an old one that its row had.
  | created =>
    obtain ⟨-, owner, -⟩ := StoreCall.Answered.created answered
    exact owner ▸ UserId.VouchedIn.more vouched _
  | ended =>
    obtain ⟨old, member, -, owner, -⟩ := StoreCall.Answered.transitioned answered
    exact (congrArg (UserId.VouchedIn · _) owner).mpr ((rows old member).more _)
  -- Everything else asks on behalf of the user that the stage has already.
  | locked | absent | timed | setUp | setUpFailed | setUpCut | announcementFailed
  | announcementCut | tornDown | dismantled | disbarred => exact UserId.VouchedIn.more vouched _
  | _ => trivial

end ServiceStage

namespace ServiceCrowd

variable {service : ConnectionService} {start : Backing Management}
  {crowd next : ServiceCrowd Management}

/-- Whoever has a session, is worked for, or has had an account touched was vouched for. -/
structure Vouching (options : TopologyOptions) (start : Backing Management)
    (crowd : ServiceCrowd Management) : Prop where
  rows : ∀ row ∈ crowd.state.table.rows, row.user.VouchedIn crowd.log
  stages : ∀ (task : Nat) stage, crowd.tasks[task]? = some stage → stage.Vouched task crowd.log
  changes : ∃ noted, crowd.state.broker.journal = start.broker.journal ++ noted ∧
    ∀ entry ∈ noted, ∃ user : UserId, user.VouchedIn crowd.log ∧
      Topology.IsFor options user entry.1

/-- Whatever happens next, nobody gets a session or has an account touched unvouched. -/
theorem Vouching.move (vouching : Vouching options start crowd)
    (moved : Moves (Topology.manager options) (fun _ => True) service crowd next) :
    Vouching options start next := by
  -- A newcomer claims nothing; a turn asks only what its stage entitles it to.
  obtain ⟨rows, stages, noted, journal, own⟩ := vouching
  cases moved with
  | enter admitted =>
    obtain ⟨request, rfl⟩ := admitted
    -- Who comes in has been told nothing, and owns no row and no entry of the journal.
    refine ⟨rows, fun task stage found => ?_, noted, journal, own⟩
    rcases Crowd.placed_of_enter found with before | ⟨-, rfl⟩
    · exact stages task stage before
    · exact ServiceStage.start_vouched request
  | @turn task stage ahead exchange after found step answered =>
    have entitled := (stages task stage found).entitled step.question
    -- A row is an old one, or made by this turn, which only a vouched user's request can do.
    refine ⟨fun row member => ?_, fun other place located => ?_, ?_⟩
    · rcases Backing.owner_of_answers answered member with ⟨tokenId, made⟩ | ⟨old, before, owner⟩
      · rw [made] at entitled
        exact UserId.VouchedIn.more entitled _
      · exact owner ▸ (rows old before).more _
    · rcases Crowd.placed_of_turn located with ⟨rfl, rfl⟩ | ⟨-, located⟩
      · exact step.vouched answered rows (stages _ _ found)
      · exact (stages other place located).more _
    · -- The broker's journal grows by what the turn asked of it, for the same user.
      obtain ⟨more, grown, later⟩ := Backing.notes_of_answers answered
      refine ⟨noted ++ more, by rw [grown, journal, List.append_assoc], ?_⟩
      refine List.forall_mem_append.mpr ⟨fun entry member => ?_, fun entry member => ?_⟩
      · obtain ⟨user, vouched, mine⟩ := own entry member
        exact ⟨user, vouched.more _, mine⟩
      · obtain ⟨order, asked, mine⟩ := later entry member
        rw [asked] at entitled
        exact ⟨order.user, UserId.VouchedIn.more entitled _, mine⟩

/-- Nobody has come yet, and there are no sessions. -/
theorem Vouching.alone (empty : start.table = .empty) :
    Vouching options start (Crowd.alone start) := by
  -- There are no rows, no tasks and no notes.
  refine ⟨fun row member => ?_, fun task stage found => ?_, [], (List.append_nil _).symm,
    List.forall_mem_nil _⟩
  · rw [show (Crowd.alone start : ServiceCrowd Management).state.table = .empty from empty]
      at member
    cases member
  · simp [Crowd.alone] at found

end ServiceCrowd

section Programs

variable {service : ConnectionService} {start : Backing Management}
  {crowd : Crowd (Timed ServiceCall) (Timed.Answer ServiceCall.Answer) (Backing Management)
    (ServiceProgram ServiceOutcome)}

end Programs

end SessionGate
