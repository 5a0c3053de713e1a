import SessionGate.Session.Basic

/-! The documents exchanged with the identity service. -/

namespace SessionGate

/-- What a validation found out about a token. -/
structure TokenValidation where
  isValid : Bool
  tokenId : Option String
  expiresAt : Option Timestamp
  usageCount : Option Int
  maxUses : Option Int
  usesRemaining : Option Int
  deriving DecidableEq

/-- What the identity service knows of a user. -/
structure UserProfile where
  id : String
  username : String
  email : String
  modelType : String
  inputsFormat : String
  outputsFormat : String
  isAuthorized : Bool
  createdAt : Option Timestamp
  deriving DecidableEq

namespace Json

/-- An integer of one signed machine word. -/
def Shape.signedWord : Shape := .integer (-Int.pow 2 63) (Int.pow 2 63 - 1)

end Json

namespace TokenValidation

/-- The document of a validation. -/
def toJson (validation : TokenValidation) : Json :=
  .object [("is_valid", .boolean validation.isValid),
    ("token_id", Json.ofOption .text validation.tokenId),
    ("expires_at", Json.ofOption Timestamp.toJson validation.expiresAt),
    ("usage_count", Json.ofOption .number validation.usageCount),
    ("max_uses", Json.ofOption .number validation.maxUses),
    ("uses_remaining", Json.ofOption .number validation.usesRemaining)]

/-- The shape of a validation; only the verdict must be there. -/
def shape : Json.Shape :=
  -- Null and a missing member mean the same.
  .record [.required "is_valid" .flag,
    .withDefault "token_id" .null (.optional .anyText),
    .withDefault "expires_at" .null (.optional Timestamp.shape),
    .withDefault "usage_count" .null (.optional .signedWord),
    .withDefault "max_uses" .null (.optional .signedWord),
    .withDefault "uses_remaining" .null (.optional .signedWord)]

/-- The validation that a document of the shape tells. -/
def ofJson? (document : Json) : Option TokenValidation :=
  match document.fieldValues with
  | [isValid, tokenId, expiresAt, usageCount, maxUses, usesRemaining] => do
    return {
      isValid := ← isValid.flag?
      tokenId := ← Json.optional? Json.text? tokenId
      expiresAt := ← Json.optional? Timestamp.ofJson? expiresAt
      usageCount := ← Json.optional? Json.integer? usageCount
      maxUses := ← Json.optional? Json.integer? maxUses
      usesRemaining := ← Json.optional? Json.integer? usesRemaining }
  | _ => none

end TokenValidation

namespace UserProfile

/-- The document of a profile. -/
def toJson (profile : UserProfile) : Json :=
  .object [("id", .text profile.id), ("username", .text profile.username),
    ("email", .text profile.email), ("model_type", .text profile.modelType),
    ("inputs_format", .text profile.inputsFormat), ("outputs_format", .text profile.outputsFormat),
    ("is_authorized", .boolean profile.isAuthorized),
    ("created_at", Json.ofOption Timestamp.toJson profile.createdAt)]

/-- The shape of a profile; the identifier may go by a second name. -/
def shape : Json.Shape :=
  .record [⟨["id", "user_id"], none, none, .anyText⟩,
    .withDefault "username" (.text "") .anyText, .withDefault "email" (.text "") .anyText,
    .withDefault "model_type" (.text "") .anyText,
    .withDefault "inputs_format" (.text "") .anyText,
    .withDefault "outputs_format" (.text "") .anyText, .required "is_authorized" .flag,
    .withDefault "created_at" .null (.optional Timestamp.shape)]

/-- The profile that a document of the shape tells. -/
def ofJson? (document : Json) : Option UserProfile :=
  match document.fieldValues with
  | [.text id, .text username, .text email, .text modelType, .text inputsFormat,
      .text outputsFormat, .boolean isAuthorized, createdAt] => do
    return {
      id, username, email, modelType, inputsFormat, outputsFormat, isAuthorized
      createdAt := ← Json.optional? Timestamp.ofJson? createdAt }
  | _ => none

end UserProfile

/-- What is sent to have a token validated. -/
def TokenValidation.request (token : String) (user : String) : Json :=
  .object [("token", .text token), ("user_id", .text user)]

/-- What is sent to give or take a user's authorization. -/
def UserProfile.statusUpdate (isAuthorized : Bool) : Json :=
  .object [("is_authorized", .boolean isAuthorized)]

end SessionGate
