import SessionGate.Proofs.Store.Table

/-! A call about one user's sessions leaves those of all others alone, and what it is answered does
not depend on them. -/

namespace SessionGate

/-- A call is about a user, or about a session of the user's. -/
def StoreCall.Concerns (user : UserId) (table : SessionTable) : StoreCall → Prop
  | .activeSession owner | .create owner _ => owner = user
  | .session id | .setStatus id _ | .complete id | .transition id _ | .setDispatcherStatus id _
  | .delete id => table.Has id user
  | .ping => True

namespace SessionTable

/-- Of two tables the second one has the same sessions as the first one of all users but one. -/
def SparesOthers (user : UserId) (table after : SessionTable) : Prop :=
  ∀ row : Session, row.user ≠ user → (row ∈ after.rows ↔ row ∈ table.rows)

/-- Two tables have the same sessions of a user, and the second one has one session at most of each
identifier. Nothing is said about the sessions of others. -/
structure AgreesOn (user : UserId) (table other : SessionTable) : Prop where
  rows : ∀ row : Session, row.user = user → (row ∈ other.rows ↔ row ∈ table.rows)
  apart : (other.rows.map Session.id).Nodup

variable {table other : SessionTable} {spent : List SessionId} {fresh : Fresh} {user : UserId}
  {id : SessionId} {session : Session} {call : StoreCall}

namespace SparesOthers

/-- A table spares others in itself. -/
theorem refl : SparesOthers user table table :=
  -- The table is compared with itself.
  fun _ _ => Iff.rfl

/-- What spares others twice spares them as a whole. -/
theorem trans {middle after : SessionTable} (first : SparesOthers user table middle)
    (second : SparesOthers user middle after) : SparesOthers user table after :=
  -- A row of another user stands in all three tables or in none.
  fun row foreign => (second row foreign).trans (first row foreign)

/-- A session of a new identifier may be put in for its user. -/
theorem insert_new (owner : session.user = user)
    (unknown : ∀ row ∈ table.rows, row.id ≠ session.id) :
    SparesOthers user table (table.insert session) := by
  -- The row of another user is not the one put in, and no row is replaced.
  intro row foreign
  rw [mem_insert]
  constructor
  · intro held
    rcases held with rfl | ⟨member, -⟩
    · exact absurd owner foreign
    · exact member
  · exact fun member => Or.inr ⟨member, unknown row member⟩

/-- A session of the user's may be changed. -/
theorem insert_known (sound : table.Sound spent) {old : Session} (member : old ∈ table.rows)
    (same : session.id = old.id) (kept : session.user = old.user) (owner : old.user = user) :
    SparesOthers user table (table.insert session) := by
  -- The row of another user is not the one put in, and it is not the one replaced, for that is the
  -- user's.
  intro row foreign
  rw [mem_insert]
  constructor
  · intro held
    rcases held with rfl | ⟨present, -⟩
    · exact absurd (kept.trans owner) foreign
    · exact present
  · intro present
    refine Or.inr ⟨present, fun replaced => foreign ?_⟩
    rw [sound.same present member (replaced.trans same), owner]

/-- A session of the user's may be taken away. -/
theorem erase (sound : table.Sound spent) (has : table.Has id user) :
    SparesOthers user table (table.erase id) := by
  -- A row that is taken away has the identifier, and so it is the user's.
  intro row foreign
  rw [mem_erase]
  refine and_iff_left_of_imp fun member gone => foreign ?_
  exact sound.owner ⟨row, member, gone, rfl⟩ has

end SparesOthers

/-- The session that is found under an identifier of the user's is the user's. -/
theorem Sound.owner_of_find? (sound : table.Sound spent) (has : table.Has id user)
    (found : table.find? id = some session) : session.user = user := by
  -- The identifier belongs to one user only.
  obtain ⟨member, named⟩ := mem_of_find? found
  exact sound.owner ⟨session, member, named, rfl⟩ has

/-- A change of one of the user's sessions spares all others. -/
theorem Sound.update_spares (sound : table.Sound spent) (has : table.Has id user)
    {change : Session → Session} (same : ∀ session, (change session).id = session.id)
    (kept : ∀ session, (change session).user = session.user) :
    SparesOthers user table (table.update id change).2 := by
  -- The session is changed where it stands, or it is not there.
  rcases table.update_cases id change with ⟨fault, refused⟩ | ⟨old, member, named, changed⟩
  · rw [refused]
    exact .refl
  · rw [changed]
    exact .insert_known sound member (same old) (kept old)
      (sound.owner ⟨old, member, named, rfl⟩ has)

/-- A call that concerns a user spares the sessions of all others. -/
theorem Sound.perform_spares (sound : table.Sound spent) (unused : Unused spent fresh call)
    (concerns : call.Concerns user table) :
    SparesOthers user table (table.perform fresh call).2 := by
  -- Every call that changes a row looks it up under its identifier, which is the user's.
  cases call with
  | activeSession | ping => exact .refl
  | session id =>
    simp only [SessionTable.perform]
    cases table.find? id with
    | none => exact .refl
    | some session => exact .refl
  | create owner tokenId =>
    simp only [SessionTable.perform]
    -- A creation that is refused changes nothing, and any other adds a row of the user.
    split
    · exact .refl
    · exact .insert_new concerns (sound.unknown unused)
  | setStatus id status =>
    simp only [SessionTable.perform]
    cases found : table.find? id with
    | none => exact .refl
    | some session =>
      dsimp only
      -- A status that is refused changes nothing, and any other is put into the user's own row.
      split
      · exact .refl
      · exact .insert_known sound (mem_of_find? found).1 rfl rfl
          (sound.owner_of_find? concerns found)
  | complete id => exact sound.update_spares concerns (fun _ => rfl) fun _ => rfl
  | transition id target =>
    simp only [SessionTable.perform]
    cases found : table.find? id with
    | none => exact .refl
    | some session =>
      dsimp only
      split
      · exact .insert_known sound (mem_of_find? found).1 rfl rfl
          (sound.owner_of_find? concerns found)
      · exact .refl
  -- So is a completion or a report.
  | setDispatcherStatus id status =>
    exact sound.update_spares concerns (fun _ => rfl) fun _ => rfl
  | delete id => exact .erase sound concerns

namespace AgreesOn

/-- Tables that agree on a user find the same session in progress. -/
theorem active? (agrees : AgreesOn user table other) (sound : table.Sound spent) :
    other.active? user = table.active? user := by
  cases found : table.active? user with
  | none =>
    rw [active?_eq_none] at found ⊢
    exact fun row member owner => found row ((agrees.rows row owner).mp member) owner
  | some session =>
    obtain ⟨member, owner, active⟩ := mem_of_active? found
    cases elsewhere : other.active? user with
    | none =>
      have present := (agrees.rows session owner).mpr member
      exact absurd active (active?_eq_none.mp elsewhere session present owner)
    | some twin =>
      obtain ⟨present, same, busy⟩ := mem_of_active? elsewhere
      have present := (agrees.rows twin same).mp present
      -- The user has one session in progress at most.
      rw [sound.single twin present session member (same.trans owner.symm) busy active]

/-- Tables that agree on a user agree on whether the user has another session in progress. -/
theorem hasOtherActive (agrees : AgreesOn user table other) (except : Option SessionId) :
    other.hasOtherActive user except = table.hasOtherActive user except := by
  -- Only rows of the user are looked at, and these stand in both tables.
  refine Bool.eq_iff_iff.mpr ?_
  simp only [SessionTable.hasOtherActive, List.any_eq_true, isActiveOf, Bool.and_eq_true,
    beq_iff_eq]
  refine exists_congr fun row => ?_
  constructor
  · rintro ⟨member, ⟨owner, active⟩, different⟩
    exact ⟨(agrees.rows row owner).mp member, ⟨owner, active⟩, different⟩
  · rintro ⟨member, ⟨owner, active⟩, different⟩
    exact ⟨(agrees.rows row owner).mpr member, ⟨owner, active⟩, different⟩

/-- Tables that agree on a user have the same session under an identifier of the user's. -/
theorem find? (agrees : AgreesOn user table other) (sound : table.Sound spent)
    (has : table.Has id user) :
    ∃ session, session.user = user ∧ table.find? id = some session ∧
      other.find? id = some session := by
  -- The session stands in both tables, and each finds it there.
  obtain ⟨session, member, rfl, owner⟩ := has
  refine ⟨session, owner, sound.find? member, ?_⟩
  exact find?_of_mem agrees.apart ((agrees.rows session owner).mpr member)

/-- Tables that agree on a user answer alike to calls that concern the user, unless a session is to
be made. -/
theorem answer (agrees : AgreesOn user table other) (sound : table.Sound spent)
    (concerns : call.Concerns user table) (made : ∀ owner tokenId, call ≠ .create owner tokenId) :
    (other.perform fresh call).1 = (table.perform fresh call).1 := by
  cases call with
  | activeSession owner =>
    subst concerns
    exact congrArg Except.ok (agrees.active? sound)
  | create owner tokenId => exact absurd rfl (made owner tokenId)
  | delete | ping => rfl
  -- All others go by the session that is found under the identifier.
  | session | setStatus | transition =>
    obtain ⟨session, owner, here, there⟩ := agrees.find? sound concerns
    subst owner
    simp only [perform, here, there, agrees.hasOtherActive, apply_ite Prod.fst]
  | complete | setDispatcherStatus =>
    obtain ⟨session, -, here, there⟩ := agrees.find? sound concerns
    simp only [perform, update, here, there]
    rfl

/-- Where tables agree on a user, a session is made for the user in both, but for its identifier. -/
theorem created (agrees : AgreesOn user table other) {tokenId : String} {second : SessionId}
    (made : (table.perform fresh (.create user tokenId)).1 = .ok session) :
    (other.perform ⟨second, fresh.now⟩ (.create user tokenId)).1 =
      .ok { session with id := second } := by
  -- Both tables refuse or both make the session, whatever its identifier is.
  simp only [perform, agrees.hasOtherActive] at made ⊢
  cases busy : table.hasOtherActive user none with
  | true =>
    rw [busy] at made
    cases made
  | false =>
    rw [busy] at made
    cases made
    rfl

/-- Where tables agree on a user, a session is refused to the user in both. -/
theorem uncreated (agrees : AgreesOn user table other) {tokenId : String} {fault : StoreError}
    {another : Fresh} (refused : (table.perform fresh (.create user tokenId)).1 = .error fault) :
    (other.perform another (.create user tokenId)).1 = .error fault := by
  -- Both tables refuse or both make the session, and here the first one refuses.
  simp only [perform, agrees.hasOtherActive] at refused ⊢
  cases busy : table.hasOtherActive user none with
  | true =>
    rw [busy] at refused
    exact refused
  | false =>
    rw [busy] at refused
    cases refused

end AgreesOn

end SessionTable

end SessionGate
