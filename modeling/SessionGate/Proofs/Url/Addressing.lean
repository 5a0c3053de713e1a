import SessionGate.Broker.HttpAdmin
import SessionGate.Identity.HttpClient
import SessionGate.Proofs.Broker.Names
import SessionGate.Proofs.Url.Parser

/-! Which resource a request is for: the segments of its URL are the ones that were asked for,
unless one of them stands for a place or loses characters. -/

namespace SessionGate

open Url (DomainLookup Rooted IsDots IsSegment isDropped leading pushAll withoutEmpty pushSegment decode)

/-- A user's name is not empty. -/
theorem UserId.text_ne_empty (user : UserId) : user.text ≠ "" := by
  -- The empty text is refused when an identifier is read.
  intro empty
  have sound := user.sound
  rw [empty] at sound
  cases sound

/-- A user's name has no control characters, so it is a segment unless it stands for a place. -/
theorem UserId.isSegment (user : UserId) (undotted : ¬ IsDots user.text) : IsSegment user.text := by
  -- The characters that a URL drops are control characters, of which a user's name has none.
  refine ⟨undotted, fun c member => Bool.not_eq_true _ ▸ fun dropped => ?_⟩
  have clean := user.clean member
  simp only [isDropped, Bool.or_eq_true, beq_iff_eq] at dropped
  rcases dropped with (rfl | rfl) | rfl <;> cases clean

namespace Url

variable {path : List Char} {first second : UserId} {url named trusted : Url}

/-- A URL that is given a user name gets it escaped. -/
theorem withUsername?_eq_some {username : String}
    (given : url.withUsername? username = some named) :
    named = { url with username := encode inUserInfo username.toList } := by
  -- Without a host no name can be given, and otherwise it is encoded.
  rw [withUsername?] at given
  split at given
  next => exact (Option.some.inj given).symm
  next => cases given

/-- A password is escaped, and an empty one is left out. -/
def writtenPassword (password : String) : Option (List Char) :=
  if password.isEmpty then none else some (encode inUserInfo password.toList)

/-- A URL that is given a password gets the written one. -/
theorem withPassword?_eq_some {password : String}
    (given : url.withPassword? password = some trusted) :
    trusted = { url with password := writtenPassword password } := by
  -- Without a host no password can be given, and otherwise it is encoded unless it is empty.
  rw [withPassword?] at given
  split at given
  next => exact (Option.some.inj given).symm
  next => cases given

/-- Segments are pushed onto the path of a base without its empty last segment. -/
theorem push_popIfEmpty {base : Url} (divided : base.path = .rooted path) (segments : List String) :
    base.popIfEmpty.push segments =
      { base with
        path := .rooted (pushAll (isSpecial base.scheme) (withoutEmpty path) segments) } := by
  -- Both changes are made to the same divided path.
  simp only [popIfEmpty, push, mapPath, divided]
  rfl

/-- URLs with the same base are the same just if their paths are. -/
theorem push_inj {base : Url} (divided : base.path = .rooted path) {some other : List String} :
    base.popIfEmpty.push some = base.popIfEmpty.push other ↔
      pushAll (isSpecial base.scheme) (withoutEmpty path) some =
        pushAll (isSpecial base.scheme) (withoutEmpty path) other := by
  -- All other parts are those of the base.
  rw [push_popIfEmpty divided, push_popIfEmpty divided]
  simp

/-- The segments of a URL are those of its base and the ones that were pushed, just if each of
these is a segment and the base is not the one whose two empty segments are lost. -/
theorem told_push_iff {base : Url} (divided : base.path = .rooted path) (rooted : Rooted path)
    {head : String} (segment : IsSegment head) (some : head ≠ "") (segments : List String) :
    (base.popIfEmpty.push (head :: segments)).path.told =
        (leading path).map decode ++ Text.utf8 head :: segments.map Text.utf8 ↔
      path ≠ ['/', '/'] ∧ ∀ text ∈ segments, IsSegment text := by
  -- The base loses its empty last segment first, and the others are pushed behind what is left.
  rw [push_popIfEmpty divided]
  exact told_pushAll_withoutEmpty_iff rooted segment some _ segments

/-- Names that stand for places are the only different ones that lead to one path. -/
theorem pushSegment_user_inj (special : Bool) (path : List Char) :
    pushSegment special path first.text = pushSegment special path second.text ↔
      first = second ∨ IsDots first.text ∧ IsDots second.text := by
  -- A name that stands for a place leads nowhere, and any other one leads below the path.
  by_cases one : IsDots first.text <;> by_cases two : IsDots second.text
  · -- Two names of dots leave the path as it is, so they lead to the same place.
    rw [pushSegment_dots one, pushSegment_dots two]
    exact iff_of_true rfl (.inr ⟨one, two⟩)
  · rw [pushSegment_dots one]
    refine iff_of_false (pushSegment_ne (second.isSegment two) second.text_ne_empty _ _).symm ?_
    rintro (rfl | ⟨-, dots⟩)
    · exact two one
    · exact two dots
  · rw [pushSegment_dots two]
    refine iff_of_false (pushSegment_ne (first.isSegment one) first.text_ne_empty _ _) ?_
    rintro (rfl | ⟨dots, -⟩)
    · exact one two
    · exact one dots
  · -- Two other names lead to places of their own.
    rw [pushSegment_inj (first.isSegment one) (second.isSegment two),
      or_iff_left fun dots => one dots.1]
    exact ⟨UserId.eq_of_text, congrArg _⟩

/-- Pushed as the last segment, only names that stand for places are taken for one another. -/
theorem push_user_inj {base : Url} (divided : base.path = .rooted path) (before : List String) :
    base.popIfEmpty.push (before ++ [first.text]) = base.popIfEmpty.push (before ++ [second.text]) ↔
      first = second ∨ IsDots first.text ∧ IsDots second.text := by
  -- Both names are pushed onto the same path.
  rw [push_inj divided, pushAll, pushAll, List.foldl_append, List.foldl_append]
  exact pushSegment_user_inj _ _

/-- A path is not empty after a segment was pushed, and then a name. -/
theorem pushSegment_user_ne_nil {text : String} (segment : IsSegment text) (special : Bool)
    (path : List Char) (user : UserId) :
    pushSegment special (pushSegment special path text) user.text ≠ [] := by
  -- A segment that is pushed has at least its slash, and a name that stands for a place changes
  -- nothing.
  have below : ∀ {text path}, IsSegment text → pushSegment special path text ≠ [] :=
    fun {text path} segment => by
      obtain ⟨x, slash⟩ := exists_opened path
      rw [pushSegment_segment segment, slash]
      simp
  by_cases dots : IsDots user.text
  · rw [pushSegment_dots dots]
    exact below segment
  · exact below (user.isSegment dots)

/-- A segment behind the names does not change which of them are taken for one another. -/
theorem push_user_inj_of_segments {base : Url} (divided : base.path = .rooted path)
    {before behind : String} (segment : IsSegment before) (last : IsSegment behind) :
    base.popIfEmpty.push [before, first.text, behind] =
        base.popIfEmpty.push [before, second.text, behind] ↔
      first = second ∨ IsDots first.text ∧ IsDots second.text := by
  -- What is behind the names is the same, so the paths in front of it must be.
  rw [push_inj divided]
  simp only [pushAll, List.foldl_cons, List.foldl_nil]
  rw [pushSegment_segment last, pushSegment_segment last, List.append_left_inj,
    opened_inj (pushSegment_user_ne_nil segment _ _ _) (pushSegment_user_ne_nil segment _ _ _)]
  exact pushSegment_user_inj _ _

end Url

/-- The path of the management API is divided and rooted. -/
theorem HttpAdmin.exists_path [DomainLookup] {settings : BrokerSettings} {admin : HttpAdmin}
    (made : ofSettings settings = .ok admin) :
    ∃ path, admin.base.path = .rooted path ∧ Rooted path := by
  -- The base was parsed, and is refused unless its path is divided.
  unfold ofSettings at made
  split at made
  next => cases made
  next base read =>
    split at made
    next => cases made
    next divided =>
      cases made
      exact Url.rooted_of_parse read (Bool.not_eq_true _ ▸ divided)

/-- The path of the identity service is divided and rooted. -/
theorem HttpIdentity.exists_path [DomainLookup] {settings : IdentitySettings}
    {service : HttpIdentity}
    (made : ofSettings settings = .ok service) :
    ∃ path, service.base.path = .rooted path ∧ Rooted path := by
  -- The base was parsed, and is refused unless its path is divided.
  unfold ofSettings at made
  split at made
  next => cases made
  next base read =>
    split at made
    next => cases made
    next divided =>
      cases made
      exact Url.rooted_of_parse read (Bool.not_eq_true _ ▸ divided)

/-- The management API under the default settings. -/
def HttpAdmin.byDefault : HttpAdmin :=
  ⟨⟨"http".toList, [], none, some (.domain "rabbitmq".toList), some 15672, .rooted ['/'], false,
    none, none⟩, "/", "guest", "guest"⟩

/-- The default settings name a management API, since every look-up knows its plain host. -/
theorem HttpAdmin.ofSettings_default [DomainLookup] : ofSettings .default = .ok byDefault := by
  have host : Url.readHost true "rabbitmq".toList = .ok (.domain "rabbitmq".toList) :=
    Url.readHost_plain (by decide) (by decide +kernel) (by decide +kernel) (by decide +kernel)
  have begun : Url.scheme? (Url.significant BrokerSettings.default.managementUrl) =
      some ("http".toList, "//rabbitmq:15672".toList) := by
    decide +kernel
  have read : Url.parse BrokerSettings.default.managementUrl = .ok byDefault.base := by
    unfold Url.parse
    rw [begun]
    -- Only the host has to be looked up, and all else is computed.
    show (Url.readHost true "rabbitmq".toList).bind _ = _
    rw [host]
    rfl
  rw [ofSettings, read]
  rfl

/-- The identity service under the default settings. -/
def HttpIdentity.byDefault : HttpIdentity :=
  ⟨⟨"http".toList, [], none, some (.domain "users-service".toList), some 8000, .rooted ['/'],
    false, none, none⟩⟩

/-- The default settings name an identity service, since every look-up knows its plain host. -/
theorem HttpIdentity.ofSettings_default [DomainLookup] : ofSettings .default = .ok byDefault := by
  have host : Url.readHost true "users-service".toList = .ok (.domain "users-service".toList) :=
    Url.readHost_plain (by decide) (by decide +kernel) (by decide +kernel) (by decide +kernel)
  have begun : Url.scheme? (Url.significant IdentitySettings.default.baseUrl) =
      some ("http".toList, "//users-service:8000".toList) := by
    decide +kernel
  have read : Url.parse IdentitySettings.default.baseUrl = .ok byDefault.base := by
    unfold Url.parse
    rw [begun]
    -- Only the host has to be looked up, and all else is computed.
    show (Url.readHost true "users-service".toList).bind _ = _
    rw [host]
    rfl
  rw [ofSettings, read]
  rfl

/-- The URI of the messaging port is that of the host, with the account and the virtual host put
in. -/
theorem BrokerSettings.exists_of_amqpUri [DomainLookup] {settings : BrokerSettings} {uri : Url}
    (made : settings.amqpUri = .ok uri) :
    ∃ base path,
      Url.parse ("amqp://" ++ settings.host ++ ":" ++ toString settings.amqpPort) = .ok base ∧
      Rooted path ∧
      uri = { base with
        username := Url.encode Url.inUserInfo settings.username.toList
        password := Url.writtenPassword settings.password
        path :=
          .rooted (pushSegment (Url.isSpecial base.scheme) (path.take 1) settings.vhost) } := by
  -- Each step is taken or refused, and what is made is the last one that was taken.
  unfold amqpUri at made
  dsimp only at made
  -- The base is read, or there is nothing to be made.
  split at made
  next base read =>
    rw [pure_bind] at made
    split at made
    next named given =>
      obtain rfl := Url.withUsername?_eq_some given
      split at made
      next trusted secret =>
        obtain rfl := Url.withPassword?_eq_some secret
        -- A base without a place for a path is refused.
        split at made
        next => cases made
        next divided =>
          obtain ⟨path, same, rooted⟩ := Url.rooted_of_parse read (Bool.not_eq_true _ ▸ divided)
          cases made
          refine ⟨base, path, read, rooted, ?_⟩
          simp only [Url.clearPath, Url.push, Url.mapPath, same]
          rfl
      next => cases made
    next => cases made
  next => cases made

/-- The segments of every call to the identity service begin with a plain word. -/
theorem HttpIdentity.exists_segments (call : IdentityCall) :
    ∃ head rest, segments call = head :: rest ∧ IsSegment head ∧ head ≠ "" := by
  -- Every call begins with one of two words.
  cases call with
  | validateToken | revokeToken =>
    exact ⟨"tokens", _, rfl, by decide, by decide⟩
  | getUser | revokeAuthorization =>
    exact ⟨"users", _, rfl, by decide, by decide⟩

/-- Apart from its query the URL of a call is the base with the segments pushed. -/
theorem HttpIdentity.path_endpoint (service : HttpIdentity) (call : IdentityCall) :
    (service.endpoint call).path = (service.base.popIfEmpty.push (segments call)).path := by
  -- Only one kind of call has a query, which is put in behind the path.
  cases call with
  | validateToken | getUser | revokeAuthorization => rfl
  | revokeToken user tokenId =>
    simp only [endpoint, Url.addQueryPair]
    split <;> rfl

/-- Requests are for what was asked just if each segment comes through: it stands for no place,
nothing of it is dropped, and the base does not lose a segment itself. Among users only those whose
names stand for places are taken for one another. -/
theorem requests_address_what_was_asked [DomainLookup] (settings : BrokerSettings)
    (place : IdentitySettings) (first second : UserId) :
    (∀ admin, HttpAdmin.ofSettings settings = .ok admin →
      (∀ segments, (admin.resource segments).path.told =
          (leading admin.base.path.chars).map decode ++ ("api" :: segments).map Text.utf8 ↔
        admin.base.path.chars ≠ ['/', '/'] ∧ ∀ text ∈ segments, IsSegment text) ∧
      (admin.resource ["users", first.text] = admin.resource ["users", second.text] ↔
        first = second ∨ IsDots first.text ∧ IsDots second.text) ∧
      (admin.resource ["permissions", admin.vhost, first.text] =
          admin.resource ["permissions", admin.vhost, second.text] ↔
        first = second ∨ IsDots first.text ∧ IsDots second.text)) ∧
    (∀ service, HttpIdentity.ofSettings place = .ok service →
      (∀ call, (service.endpoint call).path.told =
          (leading service.base.path.chars).map decode ++
            (HttpIdentity.segments call).map Text.utf8 ↔
        service.base.path.chars ≠ ['/', '/'] ∧
          ∀ text ∈ HttpIdentity.segments call, IsSegment text) ∧
      (service.endpoint (.getUser first) = service.endpoint (.getUser second) ↔
        first = second ∨ IsDots first.text ∧ IsDots second.text) ∧
      (service.endpoint (.revokeAuthorization first) =
          service.endpoint (.revokeAuthorization second) ↔
        first = second ∨ IsDots first.text ∧ IsDots second.text)) ∧
    ∀ uri, settings.amqpUri = .ok uri →
      (uri.path.told = [Text.utf8 settings.vhost] ↔ IsSegment settings.vhost) := by
  -- The three parts are the three places where segments are pushed onto a base.
  refine ⟨fun admin made => ?_, fun service made => ?_, fun uri made => ?_⟩
  · -- The administration: users and permissions are addressed below the base.
    obtain ⟨path, divided, rooted⟩ := HttpAdmin.exists_path made
    refine ⟨fun segments => ?_, ?_, ?_⟩
    · rw [divided]
      exact Url.told_push_iff divided rooted (by decide) (by decide) segments
    · exact Url.push_user_inj divided ["api", "users"]
    · exact Url.push_user_inj divided ["api", "permissions", admin.vhost]
  · -- The identity service: each call has a first segment that is told, and the rest behind it.
    obtain ⟨path, divided, rooted⟩ := HttpIdentity.exists_path made
    refine ⟨fun call => ?_, ?_, ?_⟩
    · obtain ⟨head, rest, same, segment, some⟩ := HttpIdentity.exists_segments call
      have pushed := Url.told_push_iff divided rooted segment some rest
      rw [HttpIdentity.path_endpoint, same, divided, List.forall_mem_cons, and_iff_right segment]
      exact pushed
    · exact Url.push_user_inj divided ["users"]
    · exact Url.push_user_inj_of_segments divided (by decide) (by decide)
  · -- The broker: the virtual host is the one segment that replaces the base's path.
    obtain ⟨base, path, -, rooted, rfl⟩ := settings.exists_of_amqpUri made
    exact Url.told_pushSegment_root_iff rooted.take_one _ _

/-- With the settings when none are given, a user's account, a user's profile and the virtual host
are addressed by their names, even if a slash is in them. -/
theorem names_with_slashes_are_addressed :
    ∃ user : UserId, user.text = "a/b" ∧
    ∃ admin service uri, @HttpAdmin.ofSettings .plainOnly BrokerSettings.default = .ok admin ∧
      @HttpIdentity.ofSettings .plainOnly IdentitySettings.default = .ok service ∧
      @BrokerSettings.amqpUri .plainOnly BrokerSettings.default = .ok uri ∧
      (admin.resource ["users", user.text]).path.told = ["api", "users", "a/b"].map Text.utf8 ∧
      (service.endpoint (.getUser user)).path.told = ["users", "a/b"].map Text.utf8 ∧
      uri.path.told = [Text.utf8 "/"] := by
  let user : UserId := ⟨"a/b", by decide⟩
  obtain ⟨admins, services, uris⟩ := @requests_address_what_was_asked .plainOnly
    BrokerSettings.default IdentitySettings.default user user
  have managed := @HttpAdmin.ofSettings_default .plainOnly
  have identified := @HttpIdentity.ofSettings_default .plainOnly
  -- The bases are the default ones, and what they are is computed.
  refine ⟨user, rfl, .byDefault, .byDefault,
    ⟨"amqp".toList, "guest".toList, some "guest".toList, some (.domain "rabbitmq".toList),
      some 5672, .rooted "/%2F".toList, false, none, none⟩,
    managed, identified, by decide +kernel, ?_, ?_, ?_⟩
  -- A slash within a name is no place, so each of the three comes through.
  · exact ((admins _ managed).1 _).mpr (by decide)
  · exact ((services _ identified).1 _).mpr (by decide)
  · exact (uris _ (by decide +kernel)).mpr (by decide)

/-- Two users whose names stand for places share one resource, and it is that of all users. -/
theorem users_named_by_dots_share_a_resource :
    ∃ first second : UserId, first ≠ second ∧
    ∃ admin, @HttpAdmin.ofSettings .plainOnly BrokerSettings.default = .ok admin ∧
      admin.resource ["users", first.text] = admin.resource ["users", second.text] ∧
      (admin.resource ["users", second.text]).path.told = ["api", "users"].map Text.utf8 := by
  -- Neither name is pushed onto the path, so what is left is the place of all accounts.
  exact ⟨⟨".", by decide⟩, ⟨"..", by decide⟩, by decide, .byDefault,
    @HttpAdmin.ofSettings_default .plainOnly, by decide, by decide⟩

end SessionGate
