import SessionGate.Identity.Documents
import SessionGate.Problem
import SessionGate.Proofs.Connection.Notification
import SessionGate.Proofs.Json.Shapes
import SessionGate.Proofs.Store.Rows
import SessionGate.Proofs.Time.Timestamp

/-! Every document that is both written and read tells what was written. -/

namespace SessionGate

open Json

/-- The document of a session identifier is of its shape. -/
theorem SessionId.reads_toJson (id : SessionId) : Reads SessionId.shape.reader id.toJson :=
  -- The reader takes the text of an identifier, and this is how it is written.
  Reader.reads_text id.accepts_render

/-- A session identifier is told by its document. -/
theorem SessionId.ofJson?_toJson (id : SessionId) : SessionId.ofJson? id.toJson = some id :=
  -- The document is the text that the identifier is read back from.
  id.parse?_render

/-- The document of a user identifier is of its shape. -/
theorem UserId.reads_toJson (user : UserId) : Reads UserId.shape.reader user.toJson := by
  -- The text of an identifier passes the check that its reader makes.
  have accepted : UserId.accepts user.text = true := by
    rw [UserId.accepts, user.sound]
    rfl
  exact Reader.reads_text accepted

/-- A user identifier is told by its document. -/
theorem UserId.ofJson?_toJson (user : UserId) : UserId.ofJson? user.toJson = some user := by
  -- The text of an identifier is parsed to the identifier.
  show (UserId.parse user.text).toOption = some user
  rw [UserId.parse_text]
  rfl

/-- The document of a status is of its shape. -/
theorem SessionStatus.reads_toJson (status : SessionStatus) :
    Reads SessionStatus.shape.reader status.toJson :=
  -- A status is one of a few names, and each of the statuses is listed.
  Shape.reads_choice (by cases status <;> simp [SessionStatus.all])

/-- A status is told by its document. -/
theorem SessionStatus.ofJson?_toJson (status : SessionStatus) :
    SessionStatus.ofJson? status.toJson = some status :=
  -- A status is known by its name.
  SessionStatus.ofName?_name status

namespace Timestamp

variable {point : Timestamp} {found : Option Timestamp}

/-- The document of a point in time is of its shape. -/
theorem reads_toJson (ordinary : point.Ordinary) : Reads Timestamp.shape.reader point.toJson := by
  -- The reader takes what can be read as a point in time, and the rendered point can be.
  have accepted : (read? point.render).isSome = true := by
    rw [read?_render ordinary]
    rfl
  exact Reader.reads_text accepted

/-- A point in time is told by its document. -/
theorem ofJson?_toJson (ordinary : point.Ordinary) :
    Timestamp.ofJson? point.toJson = some point := by
  -- The document is a text, and the rendered point is read back from it.
  rw [Timestamp.ofJson?, Timestamp.toJson, Json.text?, Option.bind_some, read?_render ordinary]

/-- The document of a point in time that may be missing is of its shape. -/
theorem reads_ofOption (ordinary : ∀ point ∈ found, point.Ordinary) :
    Reads (Shape.optional Timestamp.shape).reader (ofOption Timestamp.toJson found) :=
  -- What is present is read as the shape within, and a text is not mistaken for what is missing.
  Shape.reads_ofOption (fun _ given => reads_toJson (ordinary _ given))
    fun _ _ => present_text _

/-- A point in time that may be missing is told by its document. -/
theorem optional?_ofOption (ordinary : ∀ point ∈ found, point.Ordinary) :
    Json.optional? Timestamp.ofJson? (ofOption Timestamp.toJson found) = some found := by
  -- What is missing is told as such, and what is present as its own document.
  cases found with
  | none => rfl
  | some point =>
    have told := ofJson?_toJson (ordinary point rfl)
    show (Timestamp.ofJson? point.toJson).map some = _
    rw [told]
    rfl

end Timestamp

/-- An integer of one signed machine word. -/
def Json.IsWord (value : Int) : Prop := -Int.pow 2 63 ≤ value ∧ value < Int.pow 2 63

/-- The document of an integer that may be missing is of its shape. -/
theorem Json.reads_optionalWord {found : Option Int} (words : ∀ value ∈ found, IsWord value) :
    Reads (Shape.optional .signedWord).reader (ofOption .number found) :=
  Shape.reads_ofOption
    -- A word lies within the range that the reader keeps to, and a number is not mistaken for what
    -- is missing.
    (fun value given => Reader.reads_number (words value given).1
      (Int.le_sub_one_of_lt (words value given).2) (words value given).1 (words value given).2)
    fun _ _ => present_number _

/-- The document of a text that may be missing is of its shape. -/
theorem Json.reads_optionalText (found : Option String) :
    Reads (Shape.optional .anyText).reader (ofOption .text found) :=
  -- Every text is read, and none is mistaken for what is missing.
  Shape.reads_ofOption (fun _ _ => Shape.reads_anyText _) fun _ _ => present_text _

/-- An integer that may be missing is told by its document. -/
theorem Json.optional?_integer (found : Option Int) :
    Json.optional? integer? (ofOption .number found) = some found := by
  -- What is missing is told as such, and a number as itself.
  cases found <;> rfl

/-- A text that may be missing is told by its document. -/
theorem Json.optional?_text (found : Option String) :
    Json.optional? text? (ofOption .text found) = some found := by
  -- What is missing is told as such, and a text as itself.
  cases found <;> rfl

/-- A session whose points in time are ordinary. -/
structure Session.Ordinary (session : Session) : Prop where
  created : session.createdAt.Ordinary
  completed : ∀ point ∈ session.completedAt, point.Ordinary

/-- A session is told by its text. -/
theorem Session.decode?_render {session : Session} (ordinary : session.Ordinary) :
    shape.decode? ofJson? session.toJson.render = some session := by
  -- Each field of the record is of its own shape, and the names of the fields are apart.
  have reads : Reads shape.reader session.toJson :=
    Shape.reads_record
      (.cons ⟨rfl, session.id.reads_toJson⟩ (.cons ⟨rfl, session.user.reads_toJson⟩
        (.cons ⟨rfl, Shape.reads_anyText _⟩ (.cons ⟨rfl, session.status.reads_toJson⟩
          (.cons ⟨rfl, Shape.reads_anyText _⟩
            (.cons ⟨rfl, Timestamp.reads_toJson ordinary.created⟩
              (.cons ⟨rfl, Timestamp.reads_ofOption ordinary.completed⟩ .nil)))))))
      (by decide)
  rw [Shape.decode?_render reads]
  -- Each field is told by its own document.
  simp only [toJson, ofJson?, fieldValues, List.map_cons, List.map_nil,
    SessionId.ofJson?_toJson, UserId.ofJson?_toJson, SessionStatus.ofJson?_toJson,
    Timestamp.ofJson?_toJson ordinary.created, Timestamp.optional?_ofOption ordinary.completed]
  rfl

/-- A problem is told by its text. -/
theorem Problem.decode?_render {problem : Problem} (half : problem.status ≤ 65535) :
    shape.decode? ofJson? problem.toJson.render = some problem := by
  -- Of the five fields only the status has a range to keep to.
  have reads : Reads shape.reader problem.toJson :=
    Shape.reads_record
      (.cons ⟨rfl, Shape.reads_anyText _⟩ (.cons ⟨rfl, Shape.reads_anyText _⟩
        (.cons ⟨rfl, Shape.reads_half half⟩ (.cons ⟨rfl, Shape.reads_anyText _⟩
          (.cons ⟨rfl, Shape.reads_anyText _⟩ .nil)))))
      (by decide)
  rw [Shape.decode?_render reads]
  rfl

/-- A request is told by its text. -/
theorem ConnectRequest.decode?_render (request : ConnectRequest) :
    shape.decode? ofJson? request.toJson.render = some request := by
  -- Both fields are texts without a rule.
  have reads : Reads shape.reader request.toJson :=
    Shape.reads_record
      (.cons ⟨rfl, Shape.reads_anyText _⟩ (.cons ⟨rfl, Shape.reads_anyText _⟩ .nil)) (by decide)
  rw [Shape.decode?_render reads]
  rfl

namespace BrokerCredentials

/-- The document of credentials is of its shape. -/
theorem reads_toJson {credentials : BrokerCredentials} (half : credentials.port ≤ 65535) :
    Reads shape.reader credentials.toJson :=
  -- Of the four fields only the port has a range to keep to.
  Shape.reads_record
    (.cons ⟨rfl, Shape.reads_anyText _⟩ (.cons ⟨rfl, Shape.reads_anyText _⟩
      (.cons ⟨rfl, Shape.reads_anyText _⟩ (.cons ⟨rfl, Shape.reads_half half⟩ .nil))))
    (by decide)

/-- Credentials are told by their document. -/
theorem ofJson?_toJson (credentials : BrokerCredentials) :
    -- Every field is told as it is, so the two sides compute to the same.
    ofJson? credentials.toJson = some credentials := rfl

end BrokerCredentials

/-- A response is told by its text. -/
theorem ConnectResponse.decode?_render {response : ConnectResponse}
    (half : response.credentials.port ≤ 65535) :
    shape.decode? ofJson? response.toJson.render = some response := by
  -- The session and the credentials are documents of their own, and the other fields are texts.
  have reads : Reads shape.reader response.toJson :=
    Shape.reads_record
      (.cons ⟨rfl, Shape.reads_anyText _⟩ (.cons ⟨rfl, Shape.reads_anyText _⟩
        (.cons ⟨rfl, response.session.reads_toJson⟩
          (.cons ⟨rfl, BrokerCredentials.reads_toJson half⟩ (.cons ⟨rfl, Shape.reads_anyText _⟩
            (.cons ⟨rfl, Shape.reads_anyText _⟩ (.cons ⟨rfl, Shape.reads_anyText _⟩ .nil)))))))
      (by decide)
  rw [Shape.decode?_render reads]
  simp only [toJson, ofJson?, fieldValues, List.map_cons, List.map_nil,
    SessionId.ofJson?_toJson, BrokerCredentials.ofJson?_toJson]
  rfl

/-- A response is told by its text. -/
theorem StatusResponse.decode?_render (response : StatusResponse) :
    shape.decode? ofJson? response.toJson.render = some response := by
  -- Only the session is read by a rule of its own.
  have reads : Reads shape.reader response.toJson :=
    Shape.reads_record
      (.cons ⟨rfl, Shape.reads_anyText _⟩ (.cons ⟨rfl, response.session.reads_toJson⟩
        (.cons ⟨rfl, Shape.reads_anyText _⟩ .nil)))
      (by decide)
  rw [Shape.decode?_render reads]
  simp only [toJson, ofJson?, fieldValues, List.map_cons, List.map_nil, SessionId.ofJson?_toJson]
  rfl

/-- A validation whose point in time is ordinary and whose counts are machine words. -/
structure TokenValidation.Ordinary (validation : TokenValidation) : Prop where
  expires : ∀ point ∈ validation.expiresAt, point.Ordinary
  used : ∀ count ∈ validation.usageCount, IsWord count
  most : ∀ count ∈ validation.maxUses, IsWord count
  left : ∀ count ∈ validation.usesRemaining, IsWord count

/-- A validation is told by its text. -/
theorem TokenValidation.decode?_render {validation : TokenValidation}
    (ordinary : validation.Ordinary) :
    shape.decode? ofJson? validation.toJson.render = some validation := by
  -- The point in time and the three counts have ranges, and may be missing like the text.
  have reads : Reads shape.reader validation.toJson :=
    Shape.reads_record
      (.cons ⟨rfl, Shape.reads_flag _⟩ (.cons ⟨rfl, reads_optionalText _⟩
        (.cons ⟨rfl, Timestamp.reads_ofOption ordinary.expires⟩
          (.cons ⟨rfl, reads_optionalWord ordinary.used⟩
            (.cons ⟨rfl, reads_optionalWord ordinary.most⟩
              (.cons ⟨rfl, reads_optionalWord ordinary.left⟩ .nil))))))
      (by decide)
  rw [Shape.decode?_render reads]
  simp only [toJson, ofJson?, fieldValues, List.map_cons, List.map_nil, flag?, optional?_text,
    optional?_integer, Timestamp.optional?_ofOption ordinary.expires]
  rfl

/-- A profile is told by its text. -/
theorem UserProfile.decode?_render {profile : UserProfile}
    (ordinary : ∀ point ∈ profile.createdAt, point.Ordinary) :
    shape.decode? ofJson? profile.toJson.render = some profile := by
  -- Of the eight fields only the last, a point in time that may be missing, has a range.
  have reads : Reads shape.reader profile.toJson :=
    Shape.reads_record
      (.cons ⟨rfl, Shape.reads_anyText _⟩ (.cons ⟨rfl, Shape.reads_anyText _⟩
        (.cons ⟨rfl, Shape.reads_anyText _⟩ (.cons ⟨rfl, Shape.reads_anyText _⟩
          (.cons ⟨rfl, Shape.reads_anyText _⟩ (.cons ⟨rfl, Shape.reads_anyText _⟩
            (.cons ⟨rfl, Shape.reads_flag _⟩
              (.cons ⟨rfl, Timestamp.reads_ofOption ordinary⟩ .nil))))))))
      (by decide)
  rw [Shape.decode?_render reads]
  simp only [toJson, ofJson?, fieldValues, List.map_cons, List.map_nil,
    Timestamp.optional?_ofOption ordinary]
  rfl

/-- Whatever is both written and read as a document is told by its text. -/
theorem documents_are_read_back :
    (∀ session : Session, session.Ordinary →
      Session.shape.decode? Session.ofJson? session.toJson.render = some session) ∧
    (∀ problem : Problem, problem.status ≤ 65535 →
      Problem.shape.decode? Problem.ofJson? problem.toJson.render = some problem) ∧
    (∀ request : ConnectRequest,
      ConnectRequest.shape.decode? ConnectRequest.ofJson? request.toJson.render = some request) ∧
    (∀ response : ConnectResponse, response.credentials.port ≤ 65535 →
      ConnectResponse.shape.decode? ConnectResponse.ofJson? response.toJson.render =
        some response) ∧
    (∀ credentials : BrokerCredentials, credentials.port ≤ 65535 →
      BrokerCredentials.shape.decode? BrokerCredentials.ofJson? credentials.toJson.render =
        some credentials) ∧
    (∀ response : StatusResponse,
      StatusResponse.shape.decode? StatusResponse.ofJson? response.toJson.render =
        some response) ∧
    (∀ notification : ConnectionNotification,
      ConnectionNotification.shape.decode? ConnectionNotification.ofJson?
        notification.toJson.render = some notification) ∧
    (∀ validation : TokenValidation, validation.Ordinary →
      TokenValidation.shape.decode? TokenValidation.ofJson? validation.toJson.render =
        some validation) ∧
    ∀ profile : UserProfile, (∀ point ∈ profile.createdAt, point.Ordinary) →
      UserProfile.shape.decode? UserProfile.ofJson? profile.toJson.render = some profile :=
  -- There is one lemma for each type, and a document of credentials is read as the record that it
  -- is.
  ⟨fun _ => Session.decode?_render, fun _ => Problem.decode?_render,
    ConnectRequest.decode?_render, fun _ => ConnectResponse.decode?_render,
    fun _ half => Shape.decode?_render (BrokerCredentials.reads_toJson half),
    StatusResponse.decode?_render, ConnectionNotification.read?_render,
    fun _ => TokenValidation.decode?_render, fun _ => UserProfile.decode?_render⟩

/-- A completed session of the year zero, with marks, a control character and one of four bytes in
its token. -/
def sessionOfYearZero : Session where
  id := .numbered 1
  user := ⟨"u0", by decide⟩
  tokenId := String.ofList ([0x22, 0x5C, 0x0A, 0, 0x2F, 0x1F600].map Char.ofNat)
  status := .completed
  dispatcherStatus := "PENDING"
  createdAt := ⟨0, 2, 29, 23, 59, 59, 123456000⟩
  completedAt := some ⟨0, 3, 1, 0, 0, 0, 1⟩

/-- A validation with the least count and the largest. -/
def validationOfLimits : TokenValidation where
  isValid := true
  tokenId := some ""
  expiresAt := none
  usageCount := some (-Int.pow 2 63)
  maxUses := some (Int.pow 2 63 - 1)
  usesRemaining := none

/-- A session of the year zero, a problem of the largest status and a validation with the least
count are told by their texts. -/
theorem documents_at_limits_are_read_back :
    (sessionOfYearZero.Ordinary ∧
      Session.shape.decode? Session.ofJson? sessionOfYearZero.toJson.render =
        some sessionOfYearZero) ∧
    (65535 ≤ 65535 ∧ Problem.shape.decode? Problem.ofJson?
      (Problem.toJson ⟨"", "", 65535, "", ""⟩).render = some ⟨"", "", 65535, "", ""⟩) ∧
    validationOfLimits.Ordinary ∧
      TokenValidation.shape.decode? TokenValidation.ofJson? validationOfLimits.toJson.render =
        some validationOfLimits := by
  obtain ⟨sessions, problems, -, -, -, -, -, validations, -⟩ := documents_are_read_back
  -- The point in time is the least that is written with four digits.
  have session : sessionOfYearZero.Ordinary := by
    refine ⟨by constructor <;> decide, ?_⟩
    intro point given
    cases given
    constructor <;> decide
  -- The count is the least of a signed word.
  have validation : validationOfLimits.Ordinary := by
    refine ⟨nofun, ?_, ?_, nofun⟩ <;>
    · intro count given
      cases given
      exact ⟨by decide, by decide⟩
  exact ⟨⟨session, sessions _ session⟩, ⟨Nat.le_refl _, problems _ (Nat.le_refl _)⟩, validation,
    validations _ validation⟩

end SessionGate
