import Mathlib.Data.Finset.Image
import SessionGate.Proofs.Connection.Backing
import SessionGate.Proofs.Program.Crowd
import SessionGate.Store.UserLocks

/-! Two users never share a mutex, and one user never gets a second one. So all that matters of the
mutexes is which users are locked, and no more is kept of them behind the connection service. -/

namespace SessionGate

namespace UserLocks

variable {locks later : UserLocks} {user other : UserId} {mutex : Nat}

/-- Mutexes that were made one by one: they are numbered in turn, no two users share one, and only
mutexes of users are held. -/
structure Sound (locks : UserLocks) : Prop where
  numbered : ∀ user mutex, locks.mutex? user = some mutex → mutex < locks.made
  apart : ∀ first second mutex, locks.mutex? first = some mutex →
    locks.mutex? second = some mutex → first = second
  owned : ∀ mutex ∈ locks.held, ∃ user, locks.mutex? user = some mutex

/-- Before anybody is locked there are no mutexes. -/
theorem Sound.empty : Sound .empty := by
  -- All three demands are on mutexes that have been made.
  constructor
  case numbered => exact fun _ _ known => nomatch known
  case apart => exact fun _ _ _ known => nomatch known
  case owned => exact fun _ held => nomatch held

/-- A mutex that is there is used again. -/
theorem mutexOf_of_some (known : locks.mutex? user = some mutex) :
    locks.mutexOf user = (mutex, locks) := by
  -- A number is made up only where none is found.
  rw [mutexOf, known]

/-- Where there is no mutex, the next number is taken. -/
theorem mutexOf_of_none (unknown : locks.mutex? user = none) :
    locks.mutexOf user = (locks.made, { locks with
      mutexes := (user, locks.made) :: locks.mutexes, made := locks.made + 1 }) := by
  -- Nothing else of the locks is touched.
  rw [mutexOf, unknown]

/-- Once a user's mutex has been asked for it is there, and those of the others are what they
were. -/
theorem mutex?_mutexOf (locks : UserLocks) (user other : UserId) :
    (locks.mutexOf user).2.mutex? other =
      if other = user then some (locks.mutexOf user).1 else locks.mutex? other := by
  cases known : locks.mutex? user with
  | some mutex =>
    -- Nothing was made, so the mutex in question is the one that was there.
    rw [mutexOf_of_some known]
    split
    next same => rw [same, known]
    next => rfl
  | none =>
    -- What was made is found first, but for its user only.
    rw [mutexOf_of_none known]
    show List.lookup other ((user, locks.made) :: locks.mutexes) = _
    rw [List.lookup_cons]
    split
    next same => rw [if_pos (beq_iff_eq.mp same)]
    next different =>
      rw [if_neg (beq_eq_false_iff_ne.mp different)]
      rfl

/-- Asking for a mutex takes none. -/
theorem held_mutexOf (locks : UserLocks) (user : UserId) :
    (locks.mutexOf user).2.held = locks.held := by
  -- At most the list of mutexes and their number grow.
  cases known : locks.mutex? user with
  | some mutex => rw [mutexOf_of_some known]
  | none => rw [mutexOf_of_none known]

/-- Mutexes stay sound when one is asked for. -/
theorem Sound.mutexOf (sound : locks.Sound) (user : UserId) : (locks.mutexOf user).2.Sound := by
  -- A mutex that was made before is given again, and otherwise a new one is made.
  cases known : locks.mutex? user with
  | some mutex =>
    rw [mutexOf_of_some known]
    exact sound
  | none =>
    -- The new number is beyond all that have been given, so it is nobody else's.
    have fresh : ∀ other mutex, locks.mutex? other = some mutex → mutex ≠ locks.made :=
      fun other mutex given => Nat.ne_of_lt (sound.numbered other mutex given)
    -- A mutex that is given now is the new one for this user, or was given before.
    have named : ∀ other mutex, (locks.mutexOf user).2.mutex? other = some mutex →
        other = user ∧ mutex = locks.made ∨ locks.mutex? other = some mutex := by
      intro other mutex given
      rw [mutex?_mutexOf, mutexOf_of_none known] at given
      split at given
      next same => exact .inl ⟨same, (Option.some.inj given).symm⟩
      next => exact .inr given
    constructor
    case numbered =>
      intro other mutex given
      rw [mutexOf_of_none known]
      rcases named other mutex given with ⟨-, rfl⟩ | before
      · exact Nat.lt_succ_self _
      · exact Nat.lt_succ_of_lt (sound.numbered other mutex before)
    case apart =>
      -- Two users with one mutex would both have the new one, or both an old one.
      intro first second mutex one two
      rcases named first mutex one with ⟨rfl, rfl⟩ | old
      · rcases named second _ two with ⟨rfl, -⟩ | older
        · rfl
        · exact absurd rfl (fresh second _ older)
      · rcases named second mutex two with ⟨rfl, rfl⟩ | older
        · exact absurd rfl (fresh first _ old)
        · exact sound.apart first second mutex old older
    case owned =>
      intro mutex held
      rw [held_mutexOf] at held
      obtain ⟨owner, given⟩ := sound.owned mutex held
      -- The mutex that is held was given before, and this user had none.
      have other : owner ≠ user := by
        rintro rfl
        cases known.symm.trans given
      exact ⟨owner, by rw [mutex?_mutexOf, if_neg other, given]⟩

/-- The users whose mutexes are held. -/
def lockedUsers (locks : UserLocks) : Finset UserId :=
  ((locks.mutexes.map Prod.fst).filter fun user =>
    (locks.mutex? user).any locks.held.contains).toFinset

/-- A user is locked just if there is a mutex of the user's that is held. -/
theorem mem_lockedUsers :
    user ∈ locks.lockedUsers ↔ ∃ mutex ∈ locks.held, locks.mutex? user = some mutex := by
  -- Whoever has a mutex is listed with it.
  have listed : ∀ mutex, locks.mutex? user = some mutex → user ∈ locks.mutexes.map Prod.fst := by
    intro mutex known
    obtain ⟨before, behind, same, -⟩ := List.lookup_eq_some_iff.mp known
    rw [same]
    simp
  simp only [lockedUsers, List.mem_toFinset, List.mem_filter, Option.any_eq_true,
    List.contains_iff_mem]
  constructor
  · rintro ⟨-, mutex, known, held⟩
    exact ⟨mutex, held, known⟩
  · rintro ⟨mutex, held, known⟩
    exact ⟨listed mutex known, mutex, known, held⟩

/-- From one state of the locks to a later one nobody's mutex has been replaced. -/
def Keeps (locks later : UserLocks) : Prop :=
  ∀ user mutex, locks.mutex? user = some mutex → later.mutex? user = some mutex

/-- Asking for a mutex replaces none. -/
theorem keeps_mutexOf (locks : UserLocks) (user : UserId) : locks.Keeps (locks.mutexOf user).2 := by
  intro other mutex known
  rw [mutex?_mutexOf]
  split
  next same =>
    -- The user's own mutex is used again if it is there.
    subst same
    rw [mutexOf_of_some known]
  next => exact known

/-- A user who is locked is not locked again. -/
theorem lock?_eq_none (locked : user ∈ locks.lockedUsers) : locks.lock? user = none := by
  -- The mutex that is held is the one that would be asked for.
  obtain ⟨mutex, held, known⟩ := mem_lockedUsers.mp locked
  simp only [lock?, mutexOf_of_some known]
  exact if_pos (List.contains_iff_mem.mpr held)

/-- A user who is not locked can be locked. -/
theorem Sound.exists_lock? (sound : locks.Sound) (free : user ∉ locks.lockedUsers) :
    ∃ mutex later, locks.lock? user = some (mutex, later) := by
  have unheld : (locks.mutexOf user).1 ∉ locks.held := by
    intro held
    cases known : locks.mutex? user with
    | some mutex =>
      rw [mutexOf_of_some known] at held
      exact free (mem_lockedUsers.mpr ⟨mutex, held, known⟩)
    | none =>
      -- Only what has been made can be held, and this mutex was not made yet.
      rw [mutexOf_of_none known] at held
      obtain ⟨owner, given⟩ := sound.owned _ held
      exact Nat.lt_irrefl _ (sound.numbered owner _ given)
  refine ⟨_, _, if_neg ?_⟩
  show ¬ (locks.mutexOf user).2.held.contains (locks.mutexOf user).1 = true
  rw [held_mutexOf]
  exact fun held => unheld (List.contains_iff_mem.mp held)

/-- What is known when a user has been locked. -/
structure Taken (locks : UserLocks) (user : UserId) (mutex : Nat) (later : UserLocks) : Prop where
  sound : later.Sound
  keeps : locks.Keeps later
  own : later.mutex? user = some mutex
  free : user ∉ locks.lockedUsers
  locked : later.lockedUsers = insert user locks.lockedUsers

/-- Locking a user takes the user's mutex, and locks nobody else. -/
theorem Sound.taken (sound : locks.Sound) (had : locks.lock? user = some (mutex, later)) :
    locks.Taken user mutex later := by
  -- The user's mutex was free, or the lock would not have been given.
  have free : user ∉ locks.lockedUsers := fun locked => by
    cases (lock?_eq_none locked).symm.trans had
  simp only [UserLocks.lock?] at had
  split at had
  next => cases had
  next =>
    cases had
    have made := sound.mutexOf user
    have own : (locks.mutexOf user).2.mutex? user = some (locks.mutexOf user).1 := by
      rw [mutex?_mutexOf, if_pos rfl]
    refine ⟨⟨made.numbered, made.apart, ?_⟩, locks.keeps_mutexOf user, own, free, ?_⟩
    · -- The mutexes that are held are this one and those that were held before.
      intro mutex held
      rcases List.mem_cons.mp held with rfl | before
      · exact ⟨user, own⟩
      · exact made.owned mutex before
    · ext other
      rw [Finset.mem_insert, mem_lockedUsers, mem_lockedUsers]
      constructor
      · rintro ⟨mutex, held, known⟩
        rcases List.mem_cons.mp held with rfl | before
        · exact .inl (made.apart other user _ known own)
        · -- A mutex that was held before was there before, and it was this user's.
          rw [held_mutexOf] at before
          obtain ⟨owner, given⟩ := sound.owned mutex before
          obtain rfl := made.apart owner other mutex (locks.keeps_mutexOf user _ _ given) known
          exact .inr ⟨mutex, before, given⟩
      · -- Whoever was locked is locked still, as a mutex that is given stays given.
        rintro (rfl | ⟨mutex, held, known⟩)
        · exact ⟨_, List.mem_cons_self, own⟩
        · exact ⟨mutex, List.mem_cons_of_mem _ (held_mutexOf locks user ▸ held),
            locks.keeps_mutexOf user _ _ known⟩

/-- Giving up a mutex replaces none. -/
theorem keeps_release (locks : UserLocks) (mutex : Nat) : locks.Keeps (locks.release mutex) :=
  -- The mutex is held no more, and is the one of its user all the same.
  fun _ _ known => known

/-- Mutexes stay sound when one is given up. -/
theorem Sound.release (sound : locks.Sound) (mutex : Nat) : (locks.release mutex).Sound :=
  -- Those that are still held were held before.
  ⟨sound.numbered, sound.apart, fun other held =>
    sound.owned other (List.mem_of_mem_filter held)⟩

/-- Giving up a user's mutex frees this user and nobody else. -/
theorem Sound.lockedUsers_release (sound : locks.Sound) (own : locks.mutex? user = some mutex) :
    (locks.release mutex).lockedUsers = locks.lockedUsers.erase user := by
  ext other
  rw [Finset.mem_erase, mem_lockedUsers, mem_lockedUsers]
  constructor
  · rintro ⟨number, held, known⟩
    obtain ⟨before, different⟩ := List.mem_filter.mp held
    refine ⟨?_, number, before, known⟩
    -- The user has no other mutex than the one that was given up.
    rintro rfl
    cases own.symm.trans known
    simp at different
  · rintro ⟨stranger, number, held, known⟩
    refine ⟨number, List.mem_filter.mpr ⟨held, bne_iff_ne.mpr ?_⟩, known⟩
    rintro rfl
    exact stranger (sound.apart other user number known own)

/-- What can happen to the locks: a user is locked, or a mutex is given up. -/
inductive Moves (locks : UserLocks) : UserLocks → Prop where
  | lock {user : UserId} {mutex : Nat} {later : UserLocks}
      (had : locks.lock? user = some (mutex, later)) : Moves locks later
  | release (mutex : Nat) : Moves locks (locks.release mutex)

/-- Whatever happens, the mutexes stay sound and nobody's is replaced. -/
theorem Sound.moves (sound : locks.Sound) (moved : Relation.ReflTransGen Moves locks later) :
    later.Sound ∧ locks.Keeps later := by
  -- The induction is on what has happened, the last of which is looked at.
  induction moved with
  | refl => exact ⟨sound, fun _ _ known => known⟩
  | tail _ last ih =>
    obtain ⟨kept, same⟩ := ih
    cases last with
    | lock had =>
      have taken := kept.taken had
      exact ⟨taken.sound, fun user mutex known => taken.keeps user mutex (same user mutex known)⟩
    | release mutex => exact ⟨kept.release mutex, same⟩

/-- At no two times do two users have one mutex, and at all times a user has the same one. -/
theorem mutex?_inj {early : UserLocks} {first second : UserId} {one two : Nat}
    (begun : Relation.ReflTransGen Moves .empty early)
    (moved : Relation.ReflTransGen Moves early later)
    (before : early.mutex? first = some one) (after : later.mutex? second = some two) :
    one = two ↔ first = second := by
  obtain ⟨sound, -⟩ := Sound.empty.moves begun
  obtain ⟨still, keeps⟩ := sound.moves moved
  -- What the first user had before is still there when the second user is looked at.
  have kept := keeps first one before
  constructor
  · rintro rfl
    exact still.apart first second one kept after
  · rintro rfl
    exact Option.some.inj (kept.symm.trans after)

end UserLocks

section Showing

variable {M : Type} {manager : TopologyManager M} {fails : StoreCall → Prop}
  {before after : Backing M} {locks : UserLocks} {user : UserId}

/-- The users that are locked are those whose mutexes are held. -/
structure Backing.ShownBy (state : Backing M) (locks : UserLocks) : Prop where
  sound : locks.Sound
  locked : state.locked = locks.lockedUsers

/-- That a user's lock is given means that the user's mutex is taken. -/
theorem ServiceCall.Answered.lock_iff (shown : before.ShownBy locks) :
    ServiceCall.Answered manager fails (.lockUser user) before (.ok ()) after ↔
      ∃ mutex later, locks.lock? user = some (mutex, later) ∧
        after = { before with locked := later.lockedUsers } := by
  -- The lock is given just if the user is not locked, which is shown by the mutexes that are held.
  show user ∉ before.locked ∧ after = { before with locked := insert user before.locked } ↔ _
  rw [shown.locked]
  constructor
  · rintro ⟨free, rfl⟩
    obtain ⟨mutex, later, had⟩ := shown.sound.exists_lock? free
    exact ⟨mutex, later, had, by rw [(shown.sound.taken had).locked]⟩
  · rintro ⟨mutex, later, had, rfl⟩
    have taken := shown.sound.taken had
    exact ⟨taken.free, by rw [taken.locked]⟩

/-- That a user's lock is given up means that the user's mutex is, if the user has one. -/
theorem ServiceCall.Answered.unlock_iff (shown : before.ShownBy locks) :
    ServiceCall.Answered manager fails (.unlockUser user) before () after ↔
      after = { before with
        locked := ((locks.mutex? user).elim locks locks.release).lockedUsers } := by
  show after = { before with locked := before.locked.erase user } ↔ _
  rw [shown.locked]
  cases known : locks.mutex? user with
  | some mutex => rw [Option.elim_some, shown.sound.lockedUsers_release known]
  | none =>
    -- A user without a mutex has never been locked.
    have free : user ∉ locks.lockedUsers := fun locked => by
      obtain ⟨mutex, -, found⟩ := UserLocks.mem_lockedUsers.mp locked
      cases known.symm.trans found
    rw [Option.elim_none, Finset.erase_eq_of_notMem free]

/-- Whatever is asked of whom, the users that are locked afterwards are those whose mutexes are held
after as much as has happened to them. -/
theorem ServiceCall.Answered.shown {call : ServiceCall} {given : call.Answer}
    (answered : call.Answered manager fails before given after) (shown : before.ShownBy locks) :
    ∃ later, Relation.ReflTransGen UserLocks.Moves locks later ∧ after.ShownBy later := by
  -- Only taking and giving up a lock move the mutexes.
  match call, given with
  | .lockUser user, .ok () =>
    obtain ⟨mutex, later, had, rfl⟩ := (lock_iff shown).mp answered
    exact ⟨later, .single (.lock had), (shown.sound.taken had).sound, rfl⟩
  | .unlockUser user, () =>
    cases (unlock_iff shown).mp answered
    cases locks.mutex? user with
    | some mutex => exact ⟨_, .single (.release mutex), shown.sound.release mutex, rfl⟩
    | none => exact ⟨locks, .refl, shown.sound, rfl⟩
  | .lockUser user, .error fault =>
    cases answered
    exact ⟨locks, .refl, shown⟩
  | .identity _, _ | .store _, _ | .topology _, _ | .publish _ _, _ | .momentAfter _, _ =>
    exact ⟨locks, .refl, shown.sound, (answered.locked nofun nofun).trans shown.locked⟩

/-- So it is with questions that have a deadline, also where one is given up. -/
theorem Backing.answers_shown {wanted : Timed ServiceCall}
    {given : wanted.Answer ServiceCall.Answer}
    (answered : answers manager fails wanted before given after) (shown : before.ShownBy locks) :
    ∃ later, Relation.ReflTransGen UserLocks.Moves locks later ∧ after.ShownBy later := by
  -- An order to the broker's management leaves the locks alone however far it got.
  refine answers_keep (fun state => ∃ later, Relation.ReflTransGen UserLocks.Moves locks later ∧
    state.ShownBy later) ?_ ?_ answered ⟨locks, .refl, shown⟩
  · rintro call given before after answered ⟨middle, moved, shown⟩
    obtain ⟨later, onward, still⟩ := answered.shown shown
    exact ⟨later, moved.trans onward, still⟩
  · rintro order before broker - ⟨middle, moved, shown⟩
    exact ⟨middle, moved, shown.sound, shown.locked⟩

/-- However tasks take turns, the users that are locked are those whose mutexes are held, and these
have been made, taken and given up one after another. -/
theorem Backing.shown_of_reached {Place : Type} {start : Backing M}
    {conduct : Conduct (Timed ServiceCall) (Timed.Answer ServiceCall.Answer) Place}
    {enters : Place → Prop}
    {crowd : Crowd (Timed ServiceCall) (Timed.Answer ServiceCall.Answer) (Backing M) Place}
    (shown : start.ShownBy locks)
    (reached : Crowd.Reached (answers manager fails) conduct enters start crowd) :
    ∃ later, Relation.ReflTransGen UserLocks.Moves locks later ∧ crowd.state.ShownBy later := by
  refine Crowd.Reached.keeps (fun crowd => ∃ later,
    Relation.ReflTransGen UserLocks.Moves locks later ∧ crowd.state.ShownBy later)
    ⟨locks, .refl, shown⟩ ?_ reached
  rintro crowd next moved ⟨middle, begun, shown⟩
  cases moved with
  -- Who comes has not asked for anything yet.
  | enter => exact ⟨middle, begun, shown⟩
  | turn found goes answered =>
    obtain ⟨later, onward, still⟩ := answers_shown answered shown
    exact ⟨later, begun.trans onward, still⟩

end Showing

end SessionGate
