import Mathlib.Logic.Basic
import SessionGate.Proofs.Url.Segments
import SessionGate.Url.Parser

/-! What is known of a URL that was read: where its path begins, and what its parts are made of. -/

namespace SessionGate.Url

variable {path segment chars scheme text : List Char} {special : Bool} {url : Url}

/-- Up to its last slash a path begins as before. -/
theorem head?_toLastSlash (slash : path.head? = some '/') :
    (toLastSlash path).head? = some '/' := by
  -- If the first slash is the last one, too, it is all that is left.
  obtain ⟨x, y, rfl, whole⟩ := exists_last_slash (List.mem_of_head? slash)
  rw [toLastSlash_append whole]
  cases x with
  | nil => rfl
  | cons c x => exact slash

/-- One place above a path that begins with a slash is one that begins with it, too. -/
theorem head?_parentPath (slash : path.head? = some '/') :
    (parentPath path).head? = some '/' := by
  -- Either way the path is cut at one of its slashes.
  simp only [parentPath]
  split
  next above =>
    simp only [Bool.and_eq_true, List.contains_iff_mem] at above
    refine head?_toLastSlash ?_
    cases path with
    | nil => cases slash
    | cons c rest =>
      cases rest with
      | nil => exact absurd above.1.2 List.not_mem_nil
      | cons d rest => exact slash
  next => exact head?_toLastSlash slash

/-- What is put behind a path leaves its beginning. -/
theorem head?_append (slash : path.head? = some '/') (more : List Char) :
    (path ++ more).head? = some '/' := by
  -- The path is not empty, since it begins with a slash.
  rw [List.head?_append, slash]
  rfl

/-- A slash at the end of a path leaves its beginning. -/
theorem head?_withSlash (slash : path.head? = some '/') : (withSlash path).head? = some '/' := by
  -- A slash is put behind the path, if anything.
  rw [withSlash]
  split
  next => exact slash
  next => exact head?_append slash _

/-- A path begins as before when a segment is added. -/
theorem head?_addSegment (slash : path.head? = some '/') (segment : List Char) (more : Bool) :
    (addSegment path segment more).head? = some '/' := by
  -- Whichever kind the segment is of, the path is cut at a slash or something is put behind it.
  rw [addSegment]
  split
  next =>
    split
    next => exact head?_withSlash (head?_parentPath slash)
    next => exact head?_parentPath slash
  split
  next => exact head?_withSlash slash
  next => exact head?_append (head?_append slash _) _

/-- A path begins as before when segments are added. -/
theorem head?_addSegments (slash : path.head? = some '/') (segments : List (List Char)) :
    (addSegments path segments).head? = some '/' := by
  -- The induction is on the segments, and each is added to a path that begins with a slash.
  induction segments generalizing path with
  | nil => exact slash
  | cons segment rest ih =>
    cases rest with
    | nil => exact head?_addSegment slash _ _
    | cons next rest => exact ih (head?_addSegment slash _ _)

/-- A path that begins with a slash is rooted. -/
theorem rooted_of_head? (slash : path.head? = some '/') : Rooted path := fun c first => by
  -- The first character is the slash.
  rw [slash] at first
  exact (Option.some.inj first).symm

/-- A path stays rooted when a text is pushed onto it. -/
theorem Rooted.pushSegment (rooted : Rooted path) (special : Bool) (text : String) :
    Rooted (Url.pushSegment special path text) := by
  -- A text that stands for a place pushes nothing, and any other is put behind the slash that the
  -- path ends with.
  by_cases dots : IsDots text
  · rwa [pushSegment_dots dots]
  have slash : (opened path).head? = some '/' := by
    cases path with
    | nil => rfl
    | cons c rest =>
      obtain rfl := rooted c rfl
      rw [opened]
      split <;> rfl
  rw [pushSegment_eq dots]
  exact rooted_of_head? (head?_addSegment slash _ _)

/-- The path behind a host is rooted. -/
theorem rooted_pathAfterHost (special : Bool) (text : List Char) :
    Rooted (pathAfterHost special text) := by
  -- Only a URL outside the web may have an empty path, and any other path is begun with a slash.
  cases text with
  | nil =>
    cases special with
    | false => exact fun c none => absurd none (by simp [pathAfterHost])
    | true => exact rooted_of_head? rfl
  | cons c rest =>
    rw [pathAfterHost]
    split <;> exact rooted_of_head? (head?_addSegments rfl _)

/-- In the schemes of the web a plain name that is no number is read as itself, in small letters,
whatever is looked up for other names. -/
theorem readHost_plain [DomainLookup] (unbracketed : text.head? ≠ some '[')
    (plain : isPlainName (decode text) = true)
    (some : (smallLetters (decode text)).isEmpty = false)
    (lettered : endsInNumber (smallLetters (decode text)) = false) :
    readHost true text = .ok (.domain (smallLetters (decode text))) := by
  -- This is all that is known of a look-up, and all that is needed here.
  have found : lookUp (decode text) = .ok (smallLetters (decode text)) := by
    rw [lookUp, DomainLookup.find?_plain _ plain]
  unfold readHost
  rw [if_neg (by simpa using unbracketed), if_pos rfl, found]
  show (if _ then _ else if _ then _ else _) = _
  -- The name is neither missing nor meant as an address.
  rw [if_neg (Bool.eq_false_iff.mp some), if_neg (Bool.eq_false_iff.mp lettered)]
  rfl

/-- What is known of a URL whose account and host follow two slashes: it has a host, its password is
escaped and not empty, and its path is the one behind the host. -/
structure Placed [DomainLookup] (scheme : List Char) (url : Url) : Prop where
  named : url.scheme = scheme
  unguarded : url.guarded = false
  host : ∃ text host, readHost (isSpecial scheme) text = .ok host ∧ url.host = some host
  password : ∀ written ∈ url.password, written ≠ [] ∧ ∃ text, written = encode inUserInfo text
  path : ∃ text, url.path = .rooted (pathAfterHost (isSpecial scheme) text)

/-- What succeeds in two steps succeeds in each of them. -/
theorem exists_of_bind_ok {ε α β : Type} {first : Except ε α} {second : α → Except ε β} {value : β}
    (done : first.bind second = .ok value) :
    ∃ made, first = .ok made ∧ second made = .ok value := by
  -- A failure of the first step would be the failure of both.
  cases first with
  | error fault => cases done
  | ok made => exact ⟨made, rfl, done⟩

/-- A password before a host is escaped and not empty. -/
theorem password_readAccount {username rest : List Char} {password : Option (List Char)}
    {hasAccount : Bool}
    (read : readAccount special chars = .ok (username, password, hasAccount, rest)) :
    ∀ written ∈ password, written ≠ [] ∧ ∃ text, written = encode inUserInfo text := by
  -- There is no account, a name alone, or a name with a password that is kept unless it is empty.
  simp only [readAccount] at read
  split at read
  next =>
    cases read
    exact fun _ none => nomatch none
  next =>
    -- A name that is followed by no password leaves none.
    split at read
    next => cases read
    next =>
      cases read
      exact fun _ none => nomatch none
  next =>
    cases read
    split
    next => exact fun _ none => nomatch none
    -- A password that is kept is not empty, and it is the written one.
    next some =>
      intro written same
      cases same
      exact ⟨fun none => some (by rw [none]; rfl), _, rfl⟩

/-- What is read behind two slashes is made of these parts. -/
theorem placed_withAuthority [DomainLookup] (read : withAuthority scheme chars = .ok url) :
    Placed scheme url := by
  obtain ⟨⟨username, password, hasAccount, rest⟩, account, read⟩ := exists_of_bind_ok read
  have known := password_readAccount account
  -- Neither a missing host nor the port changes another part.
  dsimp only at read
  split at read
  next => cases read
  obtain ⟨host, named, read⟩ := exists_of_bind_ok read
  split at read
  next => cases read
  split at read <;>
  · obtain ⟨⟨port, behind⟩, -, read⟩ := exists_of_bind_ok read
    cases read
    exact ⟨rfl, rfl, ⟨_, host, named, rfl⟩, known, _, rfl⟩

/-- The path of a local file begins with a slash. -/
theorem path_localFile [DomainLookup] (read : localFile scheme chars = .ok url) :
    ∃ rest, url.path = .rooted ('/' :: rest) := by
  -- Whatever its host is, the path is put below the root.
  unfold localFile at read
  rcases ite_eq_iff.mp read with ⟨-, read⟩ | ⟨-, read⟩ <;>
  · obtain ⟨found, -, read⟩ := exists_of_bind_ok read
    cases read
    exact ⟨_, rfl⟩

/-- The path of a scheme outside the web is rooted if it is divided. -/
theorem rooted_outsideWeb [DomainLookup] (read : outsideWeb scheme chars = .ok url)
    (divided : url.cannotBeBase = false) : ∃ path, url.path = .rooted path ∧ Rooted path := by
  -- Two slashes announce a host, and without them the path begins with the first slash if there is
  -- one.
  unfold outsideWeb at read
  split at read
  next =>
    obtain ⟨text, path⟩ := (placed_withAuthority read).path
    exact ⟨_, path, rooted_pathAfterHost _ text⟩
  next =>
    obtain rfl := Except.ok.inj read
    dsimp only [cannotBeBase] at divided ⊢
    split at divided
    next => cases divided
    next path same =>
      refine ⟨path, same, ?_⟩
      split at same
      next =>
        cases same
        exact rooted_of_head? (head?_addSegments rfl _)
      next => cases same

/-- The path of a URL is rooted if it is divided. -/
theorem rooted_of_parse [DomainLookup] {text : String} (read : parse text = .ok url)
    (divided : url.cannotBeBase = false) : ∃ path, url.path = .rooted path ∧ Rooted path := by
  -- The three kinds of schemes are read in different ways.
  rw [parse] at read
  split at read
  next => cases read
  split at read
  next =>
    obtain ⟨rest, path⟩ := path_localFile read
    exact ⟨_, path, rooted_of_head? rfl⟩
  split at read
  next =>
    obtain ⟨text, path⟩ := (placed_withAuthority read).path
    exact ⟨_, path, rooted_pathAfterHost _ text⟩
  next => exact rooted_outsideWeb read divided

end SessionGate.Url
