import SessionGate.Proofs.Connection.Backing
import SessionGate.Proofs.Program.Crowd

/-! Requests that take turns in any order. The locks of users keep the connects of one user apart
from each other, so nobody is told of a session that is still being made or undone. -/

namespace SessionGate

open ServiceExchange

namespace ServiceStage

/-- The user whose lock is held at a stage. -/
def holds : ServiceStage → Option UserId
  | .looking admission | .creating admission | .timing admission _ | .settingUp admission _ _
  | .announcing admission _ _ | .tearingDown admission _ _ | .discarding admission _ _ =>
    some admission.user
  | .unlocking user _ => some user
  | _ => none

/-- The session that is being made or undone at a stage. -/
def pending? : ServiceStage → Option Session
  | .timing _ session | .settingUp _ session _ | .announcing _ session _
  | .tearingDown _ session _ | .discarding _ session _ => some session
  | _ => none

/-- The session that is set up but not yet announced at a stage. -/
def prepared? : ServiceStage → Option Session
  | .announcing _ session _ => some session
  | _ => none

/-- The response with which a client has been connected or is going to be. -/
def response? : ServiceStage → Option ConnectResponse
  | .unlocking _ (.ok response) => some response
  | .finished outcome => outcome.response?
  | _ => none

/-- At its start a request holds no lock, makes no session and has no response. -/
theorem start_idle (request : ServiceRequest) :
    (start request).holds = none ∧ (start request).pending? = none ∧
      (start request).prepared? = none ∧ (start request).response? = none := by
  -- Each kind of request has its own start, and none of them is past being let in.
  refine start_holds (fun stage => stage.holds = none ∧ stage.pending? = none ∧
    stage.prepared? = none ∧ stage.response? = none) ?_ ?_ ?_ ?_ ?_ ?_ request <;>
    · intros
      exact ⟨rfl, rfl, rfl, rfl⟩

variable {M : Type} {manager : TopologyManager M} {fails : StoreCall → Prop}
  {service : ConnectionService} {stage ahead : ServiceStage} {exchange : ServiceExchange}
  {before after : Backing M}

/-- A step takes a free lock, gives a lock up at the very end, or leaves the locks alone. -/
theorem Step.lock_cases (step : Step service stage exchange ahead)
    (answered : Backing.answers manager fails exchange.wanted before exchange.given after) :
    (∃ user, stage.holds = none ∧ ahead.holds = some user ∧ user ∉ before.locked ∧
      after.locked = insert user before.locked ∧ exchange = told (.lockUser user) (.ok ())) ∨
    (∃ user outcome, stage.holds = some user ∧ ahead = .finished outcome ∧
      after.locked = before.locked.erase user ∧ exchange = told (.unlockUser user) ()) ∨
    (ahead.holds = stage.holds ∧ after.locked = before.locked ∧
      ∀ user, exchange ≠ told (.lockUser user) (.ok ())) := by
  -- Only two steps are about a lock, and a refused lock is none of them.
  cases step with
  | locked =>
    obtain ⟨free, rfl⟩ := answered
    exact Or.inl ⟨_, rfl, rfl, free, rfl, rfl⟩
  | unlocked =>
    cases answered
    exact Or.inr (Or.inl ⟨_, _, rfl, rfl, rfl, rfl⟩)
  | unlockable =>
    cases answered
    -- A refused lock changes nothing, as its stage holds none.
    refine Or.inr (Or.inr ⟨rfl, rfl, fun user same => ?_⟩)
    cases same
  | _ => exact Or.inr (Or.inr ⟨rfl, Backing.answers_locked answered nofun nofun, nofun⟩)

end ServiceStage

/-- Requests to the connection service that take turns, by the stages at which they stand. -/
abbrev ServiceCrowd (M : Type) : Type :=
  Crowd (Timed ServiceCall) (Timed.Answer ServiceCall.Answer) (Backing M) ServiceStage

namespace ServiceCrowd

open ServiceStage (Step holds pending? prepared? response?)

variable {M : Type} {manager : TopologyManager M} {fails : StoreCall → Prop}
  {service : ConnectionService} {crowd : ServiceCrowd M} {task : Nat} {stage ahead : ServiceStage}
  {exchange : ServiceExchange} {after : Backing M}

/-- Locks are held one at a time: whoever holds one has got it, and whoever has got one holds it
still or has finished. -/
structure Locks (crowd : ServiceCrowd M) : Prop where
  held : ∀ task user, crowd.reading holds task = some user → user ∈ crowd.state.locked
  alone : ∀ task other user, crowd.reading holds task = some user →
    crowd.reading holds other = some user → task = other
  granted : ∀ task user, (task, told (.lockUser user) (.ok ())) ∈ crowd.log →
    crowd.reading holds task = some user ∨
      ∃ outcome, crowd.tasks[task]? = some (.finished outcome)

/-- What may happen in a crowd of requests. -/
abbrev Moves (manager : TopologyManager M) (fails : StoreCall → Prop)
    (service : ConnectionService) : ServiceCrowd M → ServiceCrowd M → Prop :=
  Crowd.Moves (Backing.answers manager fails) (Step service) fun stage =>
    ∃ request, stage = ServiceStage.start request

/-- A crowd of requests that have taken turns from a state on. -/
abbrev Reached (manager : TopologyManager M) (fails : StoreCall → Prop)
    (service : ConnectionService) (start : Backing M) (crowd : ServiceCrowd M) : Prop :=
  Crowd.Reached (Backing.answers manager fails) (Step service)
    (fun stage => ∃ request, stage = ServiceStage.start request) start crowd

namespace Locks

variable {user : UserId}

/-- Who has got a lock before the turn of a task holds it, or has finished and stays so. -/
theorem granted_before (locks : Locks crowd) (found : crowd.tasks[task]? = some stage)
    (step : Step service stage exchange ahead) {other : Nat}
    (granted : (other, told (.lockUser user) (.ok ())) ∈ crowd.log) :
    crowd.reading holds other = some user ∨
      ∃ outcome, (crowd.tasks.set task ahead)[other]? = some (.finished outcome) := by
  refine (locks.granted other user granted).imp_right fun ⟨outcome, located⟩ => ⟨outcome, ?_⟩
  rw [List.getElem?_set_ne]
  · exact located
  · -- A request that has finished has no turn.
    intro same
    subst same
    cases located.symm.trans found
    exact Step.not_finished step

/-- A free lock that a task takes is held by this task alone. -/
theorem taken (locks : Locks crowd) (found : crowd.tasks[task]? = some stage)
    (step : Step service stage (told (.lockUser user) (.ok ())) ahead)
    (idle : stage.holds = none) (holding : ahead.holds = some user)
    (free : user ∉ crowd.state.locked) (locked : after.locked = insert user crowd.state.locked) :
    Locks ⟨after, crowd.tasks.set task ahead,
      crowd.log ++ [(task, told (.lockUser user) (.ok ()))]⟩ := by
  -- The task held no lock before, so none is lost by this turn.
  have stood : crowd.reading holds task = none := (Crowd.reading_of_found found).trans idle
  -- Nobody else holds the lock, since it was free.
  have others : ∀ other, crowd.reading holds other ≠ some user :=
    fun other held => free (locks.held other user held)
  refine ⟨?_, ?_, ?_⟩
  · intro other owner held
    rw [Crowd.reading_turn found] at held
    rw [locked]
    split at held
    · cases held.symm.trans holding
      exact Finset.mem_insert_self user _
    · exact Finset.mem_insert_of_mem (locks.held other owner held)
  · -- Of two holders one would have to be the task itself, and the other a holder of a free lock.
    intro one two owner first second
    rw [Crowd.reading_turn found] at first second
    split at first <;> split at second
    next here there => rw [here, there]
    next here _ =>
      cases first.symm.trans holding
      exact absurd second (others two)
    next _ there =>
      cases second.symm.trans holding
      exact absurd first (others one)
    next => exact locks.alone one two owner first second
  · intro other owner granted
    rw [Crowd.reading_turn found]
    rcases List.mem_append.mp granted with early | now
    · -- Who was granted a lock before holds it still, or has ended.
      refine (locks.granted_before found step early).imp_left fun held => ?_
      rw [if_neg]
      · exact held
      · intro same
        subst same
        cases stood.symm.trans held
    · -- The lock that was granted now is the one the stage holds.
      cases List.mem_singleton.mp now
      exact Or.inl (by rw [if_pos rfl, holding])

/-- A lock that a task gives up at its end is held by nobody. -/
theorem freed (locks : Locks crowd) (found : crowd.tasks[task]? = some stage)
    {outcome : ServiceOutcome}
    (step : Step service stage (told (.unlockUser user) ()) (.finished outcome))
    (owned : stage.holds = some user) (locked : after.locked = crowd.state.locked.erase user) :
    Locks ⟨after, crowd.tasks.set task (.finished outcome),
      crowd.log ++ [(task, told (.unlockUser user) ())]⟩ := by
  have stood : crowd.reading holds task = some user := (Crowd.reading_of_found found).trans owned
  have placed : (crowd.tasks.set task (.finished outcome))[task]? = some (.finished outcome) :=
    List.getElem?_set_self (List.getElem?_eq_some_iff.mp found).1
  -- The invariant has three parts: a holder's user is locked, holders are apart, the granted hold
  -- or have ended.
  refine ⟨?_, ?_, ?_⟩
  · intro other owner held
    rw [Crowd.reading_turn found] at held
    rw [locked]
    split at held
    · cases held
    next elsewhere =>
      refine Finset.mem_erase.mpr ⟨?_, locks.held other owner held⟩
      -- The lock that was given up was held by no other task.
      intro same
      subst same
      exact elsewhere (locks.alone other task owner held stood)
  · -- The task holds nothing any longer, so two holders are two others.
    intro one two owner first second
    rw [Crowd.reading_turn found] at first second
    split at first <;> split at second
    · cases first
    · cases first
    · cases second
    · exact locks.alone one two owner first second
  · intro other owner granted
    rw [Crowd.reading_turn found]
    rcases List.mem_append.mp granted with early | now
    · -- The lock that was granted to the task itself is given up because it has ended.
      rcases locks.granted_before found step early with held | ended
      · by_cases here : other = task
        · rw [here]
          exact Or.inr ⟨outcome, placed⟩
        · rw [if_neg here]
          exact Or.inl held
      · exact Or.inr ended
    · cases List.mem_singleton.mp now

/-- A turn that is about no lock leaves the locks as they are. -/
theorem kept (locks : Locks crowd) (found : crowd.tasks[task]? = some stage)
    (step : Step service stage exchange ahead) (same : ahead.holds = stage.holds)
    (locked : after.locked = crowd.state.locked)
    (other : ∀ user, exchange ≠ told (.lockUser user) (.ok ())) :
    Locks ⟨after, crowd.tasks.set task ahead, crowd.log ++ [(task, exchange)]⟩ := by
  -- The readings of all tasks are as they were, and no lock was granted.
  refine ⟨?_, ?_, ?_⟩
  · intro task user held
    rw [Crowd.reading_turn_same found same] at held
    rw [locked]
    exact locks.held task user held
  · intro task other user one two
    rw [Crowd.reading_turn_same found same] at one two
    exact locks.alone task other user one two
  · intro task user granted
    rw [Crowd.reading_turn_same found same]
    rcases List.mem_append.mp granted with early | now
    · exact locks.granted_before found step early
    · cases List.mem_singleton.mp now
      -- No lock is granted in such a turn.
      exact absurd rfl (other user)

/-- A newcomer holds no lock. -/
theorem enter (locks : Locks crowd) (request : ServiceRequest) :
    Locks { crowd with tasks := crowd.tasks ++ [ServiceStage.start request] } := by
  -- The newcomer's stage holds nothing, so the readings of the others are all there are.
  have idle := (ServiceStage.start_idle request).1
  refine ⟨?_, ?_, ?_⟩
  · intro task user held
    rw [Crowd.reading_enter idle] at held
    exact locks.held task user held
  · intro task other user one two
    rw [Crowd.reading_enter idle] at one two
    exact locks.alone task other user one two
  · intro task user granted
    rw [Crowd.reading_enter idle]
    refine (locks.granted task user granted).imp_right fun ⟨outcome, found⟩ => ⟨outcome, ?_⟩
    rw [List.getElem?_append_left (List.getElem?_eq_some_iff.mp found).1]
    exact found

/-- Whatever happens next, locks are held one at a time. -/
theorem move {next : ServiceCrowd M} (locks : Locks crowd)
    (moved : Moves manager fails service crowd next) : Locks next := by
  -- A newcomer holds nothing, and a turn takes a lock, frees one or leaves them alone.
  cases moved with
  | enter admitted =>
    obtain ⟨request, rfl⟩ := admitted
    exact locks.enter request
  | turn found step answered =>
    rcases step.lock_cases answered with ⟨user, idle, holding, free, locked, rfl⟩ |
      ⟨user, outcome, owned, rfl, locked, rfl⟩ | ⟨same, locked, other⟩
    · exact locks.taken found step idle holding free locked
    · exact locks.freed found step owned locked
    · exact locks.kept found step same locked other

end Locks

end ServiceCrowd

end SessionGate
