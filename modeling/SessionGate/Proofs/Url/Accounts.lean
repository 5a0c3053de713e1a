import SessionGate.Gateway.Settings
import SessionGate.Proofs.Url.Addressing

/-! The account in the text of a URL, and which names and passwords come back from it. -/

namespace SessionGate.Url

open Text (hexValue? hexValue?_beyond)

/-- The signs that end an account or the part with the host. -/
def isMark (c : Char) : Bool := c == '@' || endsAuthority false c

/-- The account that the text of a URL tells: what stands before the last sign of the part with the
host, the name and the password being divided by the first colon, with their escapes undone. -/
def accountTold (chars : List Char) : List UInt8 × List UInt8 :=
  let part := ((chars.dropWhile (· != ':')).drop 3).takeWhile fun c => !endsAuthority false c
  match splitLast '@' part with
  | none => ([], [])
  | some (info, _) =>
    (decode (info.takeWhile (· != ':')), decode ((info.dropWhile (· != ':')).drop 1))

variable {c : Char} {x y chars scheme text path : List Char} {url : Url}

/-- What is no mark ends neither an account nor the part with the host. -/
theorem isMark_eq_false : isMark c = false ↔ c ≠ '@' ∧ c ≠ '/' ∧ c ≠ '?' ∧ c ≠ '#' := by
  -- A mark is the sign of an account, or one of the three that end the authority.
  simp [isMark, endsAuthority, and_assoc]

/-- A hexadecimal digit is no mark. -/
theorem isMark_digit (digit : (hexValue? c).isSome = true) : isMark c = false := by
  -- The marks are four characters, and none of them is a digit.
  rw [isMark_eq_false]
  refine ⟨?_, ?_, ?_, ?_⟩ <;> rintro rfl <;> cases digit

/-- No mark is in an escape. -/
theorem isMark_escapeChars : ∀ c ∈ escapeChars, isMark c = false := by
  -- An escape is written with a percent sign and digits.
  have all : escapeChars.all (fun c => isMark c == false) = true := by decide
  simpa using all

/-- A decimal digit is no mark. -/
theorem isMark_isDigit (digit : c.isDigit = true) : isMark c = false := by
  -- The marks are four characters, and none of them is a digit.
  rw [isMark_eq_false]
  refine ⟨?_, ?_, ?_, ?_⟩ <;> rintro rfl <;> cases digit

/-- A number in base sixteen is written in hexadecimal digits. -/
theorem isSome_of_mem_toDigits (value : Nat) :
    ∀ c ∈ Nat.toDigits 16 value, (hexValue? c).isSome = true := by
  -- The last digit is the remainder, and the ones before it are those of the quotient.
  have digits : ∀ digit : Fin 16, (hexValue? (Nat.digitChar digit)).isSome = true := by decide
  induction value using Nat.strongRecOn with
  | _ value ih =>
    intro c member
    by_cases small : value < 16
    · rw [Nat.toDigits_of_lt_base small, List.mem_singleton] at member
      exact member ▸ digits ⟨value, small⟩
    · rw [Nat.toDigits_of_base_le (by decide) (by omega), List.mem_append,
        List.mem_singleton] at member
      rcases member with early | rfl
      · exact ih (value / 16) (by omega) c early
      · exact digits ⟨value % 16, by omega⟩

/-- What joins parts consists of the parts and the separator. -/
theorem of_mem_intercalate {parts : List (List Char)} (member : c ∈ List.intercalate x parts) :
    c ∈ x ∨ ∃ part ∈ parts, c ∈ part := by
  -- The induction is on the parts, and the separator stands behind each but the last.
  induction parts with
  | nil => cases member
  | cons part parts ih =>
    cases parts with
    | nil =>
      rw [List.intercalate_singleton] at member
      exact .inr ⟨part, List.mem_cons_self, member⟩
    | cons next parts =>
      rw [List.intercalate_cons_cons, List.mem_append, List.mem_append] at member
      rcases member with (here | between) | later
      · exact .inr ⟨part, List.mem_cons_self, here⟩
      · exact .inl between
      · exact (ih later).imp_right fun ⟨other, among, within⟩ =>
          ⟨other, List.mem_cons_of_mem _ among, within⟩

/-- No mark is in an address of the longer family. -/
theorem isMark_ipv6Text (pieces : List Nat) : ∀ c ∈ (ipv6Text pieces).toList, isMark c = false := by
  -- Hexadecimal digits and colons are no marks.
  have joined : ∀ part : List Nat, ∀ c ∈ (":".intercalate (part.map Text.hexNumber)).toList,
      isMark c = false := by
    intro part c member
    rw [String.toList_intercalate] at member
    rcases of_mem_intercalate member with between | ⟨digits, among, within⟩
    · rw [List.mem_singleton.mp between]
      rfl
    · simp only [List.map_map, List.mem_map, Function.comp_apply, Text.hexNumber,
        String.toList_ofList] at among
      obtain ⟨value, -, rfl⟩ := among
      exact isMark_digit (isSome_of_mem_toDigits value c within)
  -- A gap is written as two colons between what is joined before and behind it.
  intro c member
  simp only [ipv6Text] at member
  split at member
  next => exact joined _ c member
  next =>
    rw [String.toList_append, String.toList_append, List.mem_append, List.mem_append] at member
    rcases member with (before | gap) | behind
    · exact joined _ c before
    · rw [show "::".toList = [':', ':'] from rfl] at gap
      rcases List.mem_pair.mp gap with rfl | rfl <;> rfl
    · exact joined _ c behind

/-- No mark is in a host outside the web. -/
theorem isMark_host [DomainLookup] {host : Host} (read : readHost false text = .ok host) :
    ∀ c ∈ host.chars, isMark c = false := by
  -- Outside the web a host is an address in brackets or a name without forbidden characters.
  unfold readHost at read
  split at read
  next =>
    split at read
    next =>
      obtain ⟨pieces, -, made⟩ := exists_of_bind_ok read
      cases made
      -- An address stands between brackets, which are no marks either.
      intro c member
      rcases List.mem_append.mp member with address | bracket
      · rcases List.mem_cons.mp address with rfl | within
        · rfl
        · exact isMark_ipv6Text pieces c within
      · rw [List.mem_singleton.mp bracket]
        rfl
    next => cases read
  next =>
    rw [if_neg Bool.false_ne_true] at read
    split at read
    next => cases read
    next allowed =>
      cases read
      intro c member
      -- A name is encoded: a character is kept, so not forbidden, or it is a digit of an escape.
      rcases of_mem_encode member with ⟨within, -⟩ | digit
      · have plain : isForbiddenInHost c = false := by
          by_contra forbidden
          exact allowed (List.any_eq_true.mpr ⟨c, within, Bool.not_eq_false _ ▸ forbidden⟩)
        rw [isMark_eq_false]
        refine ⟨?_, ?_, ?_, ?_⟩ <;> rintro rfl <;> cases plain
      · -- The percent sign and the digits that an escape is made of are no marks.
        exact isMark_escapeChars c digit

/-- The text before the last occurrence of a character is found, and the text after it. -/
theorem splitLast_append (whole : c ∉ y) : splitLast c (x ++ c :: y) = some (x, y) := by
  -- Seen from the end this is the first occurrence.
  have passed : ∀ d ∈ y.reverse, (d != c) = true := fun d member =>
    bne_iff_ne.mpr fun same => whole (same ▸ List.mem_reverse.mp member)
  have behind : (x ++ c :: y).reverse.takeWhile (· != c) = y.reverse := by
    rw [List.reverse_append, List.reverse_cons, List.append_assoc,
      List.takeWhile_append_of_pos passed]
    simp
  have front : (x ++ c :: y).length - y.length - 1 = x.length := by
    rw [List.length_append, List.length_cons]
    omega
  simp only [splitLast, behind, List.reverse_reverse, front, List.take_left]
  exact if_pos (by simp)

/-- What holds all along a text and not behind it is taken just up to its end. -/
theorem takeWhile_append_ended {p : Char → Bool} (all : ∀ d ∈ x, p d = true)
    (ended : ∀ d ∈ y.head?, p d = false) : (x ++ y).takeWhile p = x := by
  -- The whole text passes, and what follows it stops the taking at once.
  rw [List.takeWhile_append_of_pos all]
  cases y with
  | nil => exact List.append_nil x
  | cons d y => rw [List.takeWhile_cons, ended d rfl, if_neg Bool.false_ne_true, List.append_nil]

/-- A URL whose account can be found in its text: no mark and no colon is where it would be taken
for one that divides its parts. -/
structure Legible (url : Url) : Prop where
  scheme : ':' ∉ url.scheme
  host : ∃ host, url.host = some host ∧ ∀ c ∈ host.chars, isMark c = false
  username : ∀ c ∈ url.username, isMark c = false ∧ c ≠ ':'
  password : ∀ written ∈ url.password, ∀ c ∈ written, isMark c = false
  unguarded : url.guarded = false
  path : ∃ path, url.path = .rooted path ∧ Rooted path

/-- What may follow the host and the port begins with a sign that ends their part. -/
theorem endsAuthority_rest (rooted : Rooted path) (query fragment : Option (List Char)) :
    ∀ c ∈ (path ++ (query.elim [] ('?' :: ·) ++ fragment.elim [] ('#' :: ·))).head?,
      endsAuthority false c = true := by
  -- A rooted path begins with a slash, and without a path the query or the fragment begins with its
  -- own sign.
  intro c first
  cases path with
  | cons d rest =>
    cases first
    rw [rooted c rfl]
    rfl
  | nil =>
    cases query with
    | some query => cases first; rfl
    | none =>
      cases fragment with
      | some fragment => cases first; rfl
      | none => cases first

/-- The text of a URL is its scheme, the part with the account and the host, and what follows. -/
theorem Legible.chars_eq (legible : Legible url) :
    ∃ address rest,
      url.chars = url.scheme ++ ':' :: '/' :: '/' :: (url.userInfo ++ address ++ rest) ∧
      (∀ c ∈ address, isMark c = false) ∧ ∀ c ∈ rest.head?, endsAuthority false c = true := by
  -- The part with the host consists of the host and the port, and neither has a mark.
  obtain ⟨host, named, plain⟩ := legible.host
  obtain ⟨path, divided, rooted⟩ := legible.path
  refine ⟨host.chars ++ url.port.elim [] fun port => ':' :: (toString port).toList,
    path ++ (url.query.elim [] ('?' :: ·) ++ url.fragment.elim [] ('#' :: ·)), ?_, ?_,
    endsAuthority_rest rooted _ _⟩
  · -- The text is the scheme, the account and these two, in this order.
    rw [chars, authority, pathGuard, named, divided, legible.unguarded]
    cases url.port <;> cases url.query <;> cases url.fragment <;>
      simp [Path.chars, show "//".toList = ['/', '/'] from rfl]
  · intro c member
    rcases List.mem_append.mp member with inHost | inPort
    · exact plain c inHost
    · -- A port is a colon and decimal digits.
      cases port : url.port with
      | none => rw [port] at inPort; cases inPort
      | some number =>
        rw [port] at inPort
        rcases List.mem_cons.mp inPort with rfl | digit
        · rfl
        · rw [Nat.toString_eq_repr, Nat.toList_repr] at digit
          exact isMark_isDigit (Nat.isDigit_of_mem_toDigits (by decide) (by decide) digit)

/-- Without a name and a password nothing is written for an account. -/
theorem userInfo_cases (url : Url) :
    url.userInfo = [] ∧ url.username = [] ∧ url.password = none ∨
      url.userInfo = (url.username ++ url.password.elim [] (':' :: ·)) ++ ['@'] := by
  -- The account is written with its sign, unless both parts of it are missing.
  rw [userInfo]
  split
  next none =>
    rw [Bool.and_eq_true, List.isEmpty_iff, Option.isNone_iff_eq_none] at none
    exact .inl ⟨rfl, none⟩
  next => cases url.password <;> exact .inr rfl

/-- No sign in an account ends the part that the account is in. -/
theorem Legible.not_endsAuthority (legible : Legible url) :
    ∀ c ∈ url.userInfo, endsAuthority false c = false := by
  -- What is no mark does not end the authority either.
  have marked : ∀ {c}, isMark c = false → endsAuthority false c = false := fun plain =>
    (Bool.or_eq_false_iff.mp plain).2
  intro c member
  rcases userInfo_cases url with ⟨none, -⟩ | some
  · -- Without an account there is nothing before the host.
    rw [none] at member
    cases member
  · -- With one there are the name, the password behind its colon, and the sign.
    rw [some, List.mem_append, List.mem_append] at member
    rcases member with (name | secret) | sign
    · exact marked (legible.username c name).1
    · cases password : url.password with
      | none => rw [password] at secret; cases secret
      | some written =>
        rw [password] at secret
        rcases List.mem_cons.mp secret with rfl | within
        · rfl
        · exact marked (legible.password written password c within)
    · rw [List.mem_singleton.mp sign]
      rfl

/-- A name without a colon and what follows a first colon are told apart. -/
theorem divide_account {name : List Char} (whole : ∀ c ∈ name, c ≠ ':')
    (secret : Option (List Char)) :
    (name ++ secret.elim [] (':' :: ·)).takeWhile (· != ':') = name ∧
      ((name ++ secret.elim [] (':' :: ·)).dropWhile (· != ':')).drop 1 = secret.getD [] := by
  -- The colon between the two is the first one, for the name has none.
  have passed : ∀ c ∈ name, (c != ':') = true := fun c member => bne_iff_ne.mpr (whole c member)
  refine ⟨takeWhile_append_ended passed ?_, ?_⟩
  · intro c first
    cases secret with
    | none => cases first
    | some => cases first; rfl
  · rw [List.dropWhile_append_of_pos passed]
    cases secret <;> rfl

/-- The account of a URL is found in its text. -/
theorem Legible.accountTold_eq (legible : Legible url) :
    accountTold url.chars = (decode url.username, decode (url.password.getD [])) := by
  obtain ⟨address, rest, written, plain, ended⟩ := legible.chars_eq
  -- The scheme has no colon, so the first one in the text stands behind it.
  have named : ∀ c ∈ url.scheme, (c != ':') = true := fun c member =>
    bne_iff_ne.mpr fun same => legible.scheme (same ▸ member)
  have start : (url.chars.dropWhile (· != ':')).drop 3 = url.userInfo ++ address ++ rest := by
    rw [written, List.dropWhile_append_of_pos named]
    rfl
  -- Neither the account nor the address ends the authority, and the rest does.
  have part : (url.userInfo ++ address ++ rest).takeWhile (fun c => !endsAuthority false c) =
      url.userInfo ++ address := by
    refine takeWhile_append_ended (fun c member => ?_) fun c first => by rw [ended c first]; rfl
    rcases List.mem_append.mp member with account | behind
    · rw [legible.not_endsAuthority c account]
      rfl
    · rw [(Bool.or_eq_false_iff.mp (plain c behind)).2]
      rfl
  -- The address has no sign of its own.
  have signless : '@' ∉ address := fun member => (isMark_eq_false.mp (plain _ member)).1 rfl
  -- Without an account no sign is found, and with one the sign behind it is the last.
  simp only [accountTold, start, part]
  rcases userInfo_cases url with ⟨none, noName, noSecret⟩ | some
  · have missing : splitLast '@' address = .none := if_neg (by simpa using signless)
    rw [none, List.nil_append, missing, noName, noSecret]
    rfl
  · obtain ⟨name, secret⟩ :=
      divide_account (fun c member => (legible.username c member).2) url.password
    rw [some, List.append_assoc, List.singleton_append, splitLast_append signless]
    dsimp only
    rw [name, secret]

/-- What begins a text without blanks and line ends stays at its beginning. -/
theorem exists_significant {start : List Char} (some : start ≠ [])
    (clean : ∀ c ∈ start, isTrimmed c = false ∧ isDropped c = false) (rest : List Char) :
    ∃ more, significant (String.ofList (start ++ rest)) = start ++ more := by
  -- The beginning is clean, so nothing is trimmed in front of it.
  have front : ∀ more, (start ++ more).dropWhile isTrimmed = start ++ more := fun more => by
    obtain ⟨c, others, rfl⟩ := List.exists_cons_of_ne_nil some
    rw [List.cons_append, List.dropWhile_cons, (clean c List.mem_cons_self).1,
      if_neg Bool.false_ne_true]
  -- From the end no more is trimmed than what follows the beginning.
  have back : ∃ more, ((start ++ rest).reverse.dropWhile isTrimmed).reverse = start ++ more := by
    have stopped : start.reverse.dropWhile isTrimmed = start.reverse := by
      obtain ⟨c, others, last⟩ := List.exists_cons_of_ne_nil (List.reverse_ne_nil_iff.mpr some)
      have among : c ∈ start := List.mem_reverse.mp (last ▸ List.mem_cons_self)
      rw [last, List.dropWhile_cons, (clean c among).1, if_neg Bool.false_ne_true]
    rw [List.reverse_append, List.dropWhile_append, stopped]
    split
    next => exact ⟨[], by rw [List.reverse_reverse, List.append_nil]⟩
    next => exact ⟨_, by rw [List.reverse_append, List.reverse_reverse]⟩
  obtain ⟨more, trimmed⟩ := back
  refine ⟨more.filter fun c => !isDropped c, ?_⟩
  -- Nor is anything dropped from within it.
  have undropped : start.filter (fun c => !isDropped c) = start :=
    List.filter_eq_self.mpr fun c member => by rw [(clean c member).2]; rfl
  simp only [significant, String.toList_ofList, front, trimmed, List.filter_append, undropped]

/-- A text that begins with a scheme outside the web and two slashes is read as a URL of this scheme
with a host. -/
theorem placed_of_parse [DomainLookup] {start : String} (some : start.toList ≠ [])
    (clean : start.toList.all (fun c => !isTrimmed c && !isDropped c) = true)
    (named : ∀ more, scheme? (start.toList ++ more) = .some (scheme, '/' :: '/' :: more))
    (outside : isSpecial scheme = false) {rest : String} (read : parse (start ++ rest) = .ok url) :
    Placed scheme url := by
  -- Outside the web and but for files, a URL is read by its authority after the two slashes.
  have remote : isFile scheme = false := (Bool.or_eq_false_iff.mp outside).2
  have text : start ++ rest = String.ofList (start.toList ++ rest.toList) := by
    rw [← String.toList_append, String.ofList_toList]
  have plain : ∀ c ∈ start.toList, isTrimmed c = false ∧ isDropped c = false := by
    simpa using clean
  obtain ⟨more, same⟩ := exists_significant some plain rest.toList
  rw [parse, text, same, named] at read
  simp only [remote, outside, Bool.false_eq_true, if_false, outsideWeb] at read
  exact placed_withAuthority read

/-- What a name or a password escapes includes all marks. -/
theorem isMark_inUserInfo (chars : List Char) :
    ∀ c ∈ encode inUserInfo chars, isMark c = false ∧ c ≠ ':' := by
  -- What is written is either unescaped, and then not in the set, or part of an escape.
  intro c member
  rcases of_mem_encode member with ⟨-, plain⟩ | digit
  · rw [isMark_eq_false]
    refine ⟨⟨?_, ?_, ?_, ?_⟩, ?_⟩ <;> rintro rfl <;> cases plain
  · refine ⟨isMark_escapeChars c digit, ?_⟩
    rintro rfl
    exact absurd digit (by decide)

/-- Names and passwords are written with the escapes that they hold left as they are. -/
theorem keepsEscapes_inUserInfo : KeepsEscapes inUserInfo := by
  -- No digit is beyond the small letters, so all characters up to them are tried.
  refine ⟨rfl, fun c digit => ?_⟩
  have small : c.toNat < 103 := by
    by_contra beyond
    rw [hexValue?_beyond (by omega)] at digit
    cases digit
  have all : ∀ point : Fin 103, (hexValue? (Char.ofNat point)).isSome = true →
      inUserInfo (Char.ofNat point) = false := by decide
  have plain := all ⟨c.toNat, small⟩
  rw [Char.ofNat_toNat] at plain
  exact plain digit

/-- A name or a password comes back from what is written for it just if it holds no escape. -/
theorem decode_account_iff (text : String) :
    decode (encode inUserInfo text.toList) = Text.utf8 text ↔ holdsEscape text.toList = false := by
  -- Writing keeps the bytes apart from the escapes in the text, which decoding reads as such.
  rw [keepsEscapes_inUserInfo.decode_encode]
  exact decode_eq_iff text.toList

/-- A password comes back from what is written for it just if it holds no escape, also if it is
empty and nothing is written. -/
theorem decode_writtenPassword_iff (password : String) :
    decode ((writtenPassword password).getD []) = Text.utf8 password ↔
      holdsEscape password.toList = false := by
  -- Nothing is written for the empty password, which holds no escape.
  rw [writtenPassword]
  split
  next empty =>
    rw [String.isEmpty_iff.mp empty]
    exact iff_of_true rfl rfl
  next => exact decode_account_iff password

/-- A written password is escaped. -/
theorem exists_of_mem_writtenPassword (password : String) :
    ∀ written ∈ writtenPassword password, ∃ text, written = encode inUserInfo text := by
  intro written given
  -- Only a password that is not empty is written, and it is escaped.
  rw [writtenPassword] at given
  split at given
  next => cases given
  next =>
    cases given
    exact ⟨_, rfl⟩

/-- With a name and a password that are escaped a URL outside the web is legible. -/
theorem Placed.legible [DomainLookup] {base : Url} (placed : Placed scheme base)
    (outside : isSpecial scheme = false) (colonless : ':' ∉ scheme) (name : List Char)
    {secret : Option (List Char)}
    (escaped : ∀ written ∈ secret, ∃ text, written = encode inUserInfo text)
    (rooted : Rooted path) :
    Legible { base with
      username := encode inUserInfo name, password := secret, path := .rooted path } := by
  -- The host is read by the rules outside the web, and the account and the path are what was put
  -- in.
  obtain ⟨text, host, read, same⟩ := placed.host
  rw [outside] at read
  refine ⟨placed.named ▸ colonless, ⟨host, same, isMark_host read⟩, isMark_inUserInfo name,
    fun written given c member => ?_, placed.unguarded, path, rfl, rooted⟩
  obtain ⟨text, rfl⟩ := escaped written given
  exact (isMark_inUserInfo text c member).1

end SessionGate.Url

namespace SessionGate

open Url

/-- The URL of the database is that of the host, with the account and the name put in; a password
of the host stays if there is none to put in its place. -/
theorem GatewaySettings.exists_of_databaseUrl [DomainLookup]
    {host user password name url : String} {port : Nat}
    (made : databaseUrl host port user password name = .ok url) :
    ∃ base path, Url.parse ("postgres://" ++ host ++ ":" ++ toString port) = .ok base ∧
      Rooted path ∧
      url = Url.render { base with
        username := encode inUserInfo user.toList
        password := if password.isEmpty then base.password else writtenPassword password
        path := .rooted (pushSegment (isSpecial base.scheme) path name) } := by
  -- Each of the three parts is put in after the one before, and a failure of any leaves no URL.
  unfold databaseUrl at made
  dsimp only at made
  split at made
  next base read =>
    rw [pure_bind] at made
    split at made
    next named given =>
      obtain rfl := withUsername?_eq_some given
      split at made
      next trusted secret =>
        -- The password of the host is replaced only by one that is not empty.
        have same : trusted = { base with
            username := encode inUserInfo user.toList
            password := if password.isEmpty then base.password else writtenPassword password } := by
          split at secret
          next empty => exact (Option.some.inj secret).symm.trans (by rw [if_pos empty])
          next some => exact (withPassword?_eq_some secret).trans (by rw [if_neg some])
        split at made
        next => cases made
        next divided =>
          subst same
          obtain ⟨path, same, rooted⟩ := rooted_of_parse read (Bool.not_eq_true _ ▸ divided)
          obtain rfl := Except.ok.inj made
          refine ⟨base, path, read, rooted, congrArg Url.render ?_⟩
          simp only [push, mapPath, same]
          rfl
      next => cases made
    next => cases made
  next => cases made

/-- Without a URL told as a whole that of the database is made of its parts. -/
theorem GatewaySettings.exists_of_readDatabaseUrl [DomainLookup] {environment : Environment}
    {url : String}
    (parts : environment.get? "DATABASE_URL" = none)
    (made : readDatabaseUrl environment = .ok url) :
    ∃ host port user name, environment.get? "POSTGRES_HOST" = some host ∧
      environment.numberOr "POSTGRES_PORT" twoBytes 5432 = .ok port ∧
      environment.get? "POSTGRES_USER" = some user ∧
      databaseUrl host port user ((environment.get? "POSTGRES_PASS").getD "") name = .ok url := by
  unfold readDatabaseUrl at made
  -- Without a whole URL the four parts are read in their order.
  rw [parts] at made
  dsimp only at made
  split at made
  -- The user is the third of them, and it has to be there.
  next host told =>
    obtain ⟨port, number, made⟩ := exists_of_bind_ok made
    obtain ⟨user, named, made⟩ := exists_of_bind_ok made
    obtain ⟨name, -, made⟩ := exists_of_bind_ok made
    refine ⟨host, port, user, name, told, number, ?_, made⟩
    unfold Environment.require at named
    split at named
    next value given => exact given.trans (congrArg some (Except.ok.inj named))
    next => cases named
  next => cases made

/-- A value that was found is not empty. -/
theorem Environment.isEmpty_get? {environment : Environment} {name value : String}
    (found : environment.get? name = some value) : value.isEmpty = false := by
  -- Empty values are treated as if they were not set.
  have some := (Option.filter_eq_some_iff.mp found).2
  simpa using some

/-- The account in a URI for messages comes back as it was configured just if neither the name nor
the password holds an escape, which would be left as it is. So it is with the URL of the database,
where besides a missing password does not take the place of one that the host brings with it. -/
theorem accounts_come_back_unless_escaped [DomainLookup] (settings : BrokerSettings)
    (environment : Environment) :
    (∀ uri, settings.amqpUri = .ok uri →
      (accountTold uri.render.toList = (Text.utf8 settings.username, Text.utf8 settings.password) ↔
        holdsEscape settings.username.toList = false ∧
          holdsEscape settings.password.toList = false)) ∧
    (environment.get? "DATABASE_URL" = none →
      ∀ url, GatewaySettings.readDatabaseUrl environment = .ok url →
      ∃ host port user base, environment.get? "POSTGRES_HOST" = some host ∧
        environment.numberOr "POSTGRES_PORT" GatewaySettings.twoBytes 5432 = .ok port ∧
        environment.get? "POSTGRES_USER" = some user ∧
        parse ("postgres://" ++ host ++ ":" ++ toString port) = .ok base ∧
        (accountTold url.toList =
            (Text.utf8 user, Text.utf8 ((environment.get? "POSTGRES_PASS").getD "")) ↔
          holdsEscape user.toList = false ∧
            match environment.get? "POSTGRES_PASS" with
            | some password => holdsEscape password.toList = false
            | none => base.password = none)) := by
  -- Either URL is the parsed base with the account put in, so its text is legible and its account
  -- can be read off.
  constructor
  · intro uri made
    -- For the broker the base has no account, and both parts are put in.
    obtain ⟨base, path, read, rooted, rfl⟩ := settings.exists_of_amqpUri made
    rw [String.append_assoc, String.append_assoc] at read
    have placed : Placed "amqp".toList base :=
      placed_of_parse (by decide) (by decide) (fun _ => rfl) rfl read
    have legible := placed.legible rfl (by decide) settings.username.toList
      (exists_of_mem_writtenPassword settings.password)
      (rooted.cut.pushSegment (isSpecial base.scheme) settings.vhost)
    -- The account is what was written into the URL, and it is decoded part by part.
    rw [render, String.toList_ofList, legible.accountTold_eq, Prod.mk.injEq, decode_account_iff,
      decode_writtenPassword_iff]
  · intro parts url made
    obtain ⟨host, port, user, name, told, number, named, made⟩ :=
      GatewaySettings.exists_of_readDatabaseUrl parts made
    obtain ⟨base, path, read, rooted, rfl⟩ := GatewaySettings.exists_of_databaseUrl made
    refine ⟨host, port, user, base, told, number, named, read, ?_⟩
    rw [String.append_assoc, String.append_assoc] at read
    have placed : Placed "postgres".toList base :=
      placed_of_parse (by decide) (by decide) (fun _ => rfl) rfl read
    have settled := rooted.pushSegment (isSpecial base.scheme) name
    -- Where no password is told, one that the host brought with it is still there.
    cases secret : environment.get? "POSTGRES_PASS" with
    | none =>
      have legible := placed.legible rfl (by decide) user.toList
        (fun written given => (placed.password written given).2) settled
      have blank : decode (base.password.getD []) = Text.utf8 "" ↔ base.password = none := by
        rw [show Text.utf8 "" = [] from rfl, decode_eq_nil_iff]
        cases password : base.password with
        | none => exact iff_of_true rfl rfl
        | some written => exact iff_of_false (placed.password written password).1 nofun
      rw [render, String.toList_ofList, Option.getD_none,
        if_pos (show "".isEmpty = true from rfl), legible.accountTold_eq,
        Prod.mk.injEq, decode_account_iff, blank]
    | some password =>
      have legible := placed.legible rfl (by decide) user.toList
        (exists_of_mem_writtenPassword password) settled
      rw [render, String.toList_ofList, Option.getD_some,
        if_neg (by rw [Environment.isEmpty_get? secret]; exact Bool.false_ne_true),
        legible.accountTold_eq, Prod.mk.injEq, decode_account_iff, decode_writtenPassword_iff]

/-- Variables that tell the database by its parts. -/
def databaseParts : Environment := fun name =>
  [("POSTGRES_HOST", "db"), ("POSTGRES_USER", " app "), ("POSTGRES_PASS", "p@ss:w/rd"),
    ("POSTGRES_DB", "sessions")].lookup name

/-- The account of the broker when none is given comes back, and so does one of the database with
the signs that a URL divides its parts by. -/
theorem accounts_with_signs_come_back :
    (∃ uri, @BrokerSettings.amqpUri .plainOnly BrokerSettings.default = .ok uri ∧
      accountTold uri.render.toList = (Text.utf8 "guest", Text.utf8 "guest")) ∧
    databaseParts.get? "DATABASE_URL" = none ∧
    ∃ url, @GatewaySettings.readDatabaseUrl .plainOnly databaseParts = .ok url ∧
      accountTold url.toList = (Text.utf8 "app", Text.utf8 "p@ss:w/rd") := by
  -- The URLs are computed, and that their accounts come back follows from the general statement.
  obtain ⟨brokers, databases⟩ :=
    @accounts_come_back_unless_escaped .plainOnly BrokerSettings.default databaseParts
  refine ⟨⟨⟨"amqp".toList, "guest".toList, some "guest".toList, some (.domain "rabbitmq".toList),
    some 5672, .rooted "/%2F".toList, false, none, none⟩, by decide +kernel,
    (brokers _ (by decide +kernel)).mpr (by decide)⟩, by decide,
    "postgres://app:p%40ss%3Aw%2Frd@db:5432/sessions", by decide +kernel, ?_⟩
  obtain ⟨host, port, user, base, told, number, named, read, account⟩ :=
    databases (by decide) "postgres://app:p%40ss%3Aw%2Frd@db:5432/sessions" (by decide +kernel)
  have secret : databaseParts.get? "POSTGRES_PASS" = some "p@ss:w/rd" := by decide
  have known : databaseParts.get? "POSTGRES_USER" = some "app" := by decide
  obtain rfl : "app" = user := Option.some.inj (known.symm.trans named)
  rw [secret] at account
  exact account.mpr ⟨rfl, rfl⟩

/-- A password that looks like an escape comes back as another one. -/
theorem password_like_an_escape_comes_back_changed :
    ∃ uri, @BrokerSettings.amqpUri .plainOnly
        { BrokerSettings.default with password := "p%41" } = .ok uri ∧
      accountTold uri.render.toList = (Text.utf8 "guest", Text.utf8 "pA") ∧
      Text.utf8 "pA" ≠ Text.utf8 "p%41" :=
  -- The escape in the password stays in the URI and is decoded when the URI is read.
  ⟨⟨"amqp".toList, "guest".toList, some "p%41".toList, some (.domain "rabbitmq".toList), some 5672,
    .rooted "/%2F".toList, false, none, none⟩, by decide +kernel, by decide +kernel, by decide⟩

end SessionGate
