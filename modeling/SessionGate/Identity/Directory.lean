import SessionGate.Identity.Call

/-! An identity service that is a table of users and of tokens, and that can be told to fail. -/

namespace SessionGate

/-- A token of a user, and the identifier under which it can be revoked. -/
structure IssuedToken where
  token : String
  owner : String
  tokenId : String
  deriving DecidableEq

/-- The users and tokens that an identity service knows, what has been revoked in order, and how
it fails for now. A token stays valid after its revocation. -/
structure Directory where
  users : List UserProfile
  tokens : List IssuedToken
  isDown : Bool
  rejection : Option Problem
  revokedUsers : List String
  revokedTokens : List String
  deriving DecidableEq

namespace Directory

/-- A directory that knows nobody. -/
def empty : Directory := ⟨[], [], false, none, [], []⟩

/-- An authorized user with the usual formats. -/
def ordinaryUser (name : String) : UserProfile :=
  ⟨name, name, name ++ "@example.com", "default", "json", "json", true, none⟩

/-- The directory with a user put into the place of the one of the same identifier. -/
def addUser (directory : Directory) (profile : UserProfile) : Directory :=
  { directory with
    -- The newest profile of an identifier is the only one.
    users := directory.users.filter (fun known => known.id != profile.id) ++ [profile] }

/-- The directory with a token put into the place of an equal one. -/
def addToken (directory : Directory) (issued : IssuedToken) : Directory :=
  { directory with
    tokens := directory.tokens.filter (fun known => known.token != issued.token) ++ [issued] }

/-- The user of an identifier. -/
def user? (directory : Directory) (user : UserId) : Option UserProfile :=
  directory.users.find? fun profile => profile.id == user.text

/-- What every call fails with while the service is down or refuses. -/
def failure? (directory : Directory) : Option IdentityError :=
  -- A service that is down cannot even refuse.
  if directory.isDown then
    some (.unavailable "failed to connect to users-service: connection refused")
  else directory.rejection.map .rejected

/-- The refusal to tell about a user that is not known. -/
def unknownUser (user : UserId) : Problem :=
  .ofStatus 404 "Not Found" ("user " ++ user.text ++ " not found") ("/users/" ++ user.text)

/-- A token is valid for its owner alone. -/
def validation (directory : Directory) (token : String) (user : UserId) : TokenValidation :=
  -- A token of somebody else is as invalid as an unknown one.
  let owned := directory.tokens.find? fun issued =>
    issued.token == token && issued.owner == user.text
  ⟨owned.isSome, owned.map IssuedToken.tokenId, none, none, none, none⟩

/-- The directory in which a user is authorized no more. -/
def revokeUser (directory : Directory) (user : UserId) : Directory :=
  { directory with
    -- An unknown user is noted as revoked all the same.
    users := directory.users.map fun profile =>
      if profile.id == user.text then { profile with isAuthorized := false } else profile
    revokedUsers := directory.revokedUsers ++ [user.text] }

/-- Answers a call that does not fail. -/
def serve (directory : Directory) : (call : IdentityCall) → call.Answer × Directory
  | .validateToken token user => (.ok (directory.validation token user), directory)
  | .getUser user =>
    match directory.user? user with
    | some profile => (.ok profile, directory)
    | none => (.error (.rejected (unknownUser user)), directory)
  | .revokeAuthorization user => (.ok (), directory.revokeUser user)
  | .revokeToken _ tokenId =>
    (.ok (), { directory with revokedTokens := directory.revokedTokens ++ [tokenId] })

/-- Answers a call. -/
def perform (directory : Directory) (call : IdentityCall) : call.Answer × Directory :=
  match directory.failure? with
  | some fault => (.error fault, directory)
  | none => directory.serve call

end Directory

end SessionGate
