import SessionGate.Proofs.Broker.Names
import SessionGate.Proofs.Json.Shapes
import SessionGate.Store.Statement

/-! A user identifier is the text that it was read from, wherever that text stood. -/

namespace SessionGate

namespace Text

/-- Neither a blank nor a control character stands in a text. -/
def Clean (text : String) : Prop :=
  ∀ c ∈ text.toList, (isBlank c || isControl c) = false

instance (text : String) : Decidable (Clean text) :=
  List.decidableBAll _ text.toList

/-- Texts without blanks and control characters have none when they are put together. -/
theorem Clean.append {first second : String} (early : Clean first) (late : Clean second) :
    Clean (first ++ second) := by
  -- Each character stands in one of the two texts.
  intro c member
  rw [String.toList_append, List.mem_append] at member
  exact member.elim (early c) (late c)

end Text

namespace UserId

/-- A text is without fault just if it is nonempty, short and clean. -/
theorem fault?_eq_none {text : String} :
    fault? text = none ↔ text ≠ "" ∧ Text.utf8Length text ≤ maxLength ∧ Text.Clean text := by
  have clean : Text.Clean text ↔
      ¬ (text.toList.any fun c => Text.isBlank c || Text.isControl c) = true := by
    simp only [Text.Clean, Bool.not_eq_true, List.any_eq_false]
  rw [fault?, clean, ne_eq, ← String.isEmpty_iff]
  -- The three demands are made one after the other.
  split
  next empty => simp [empty]
  next filled =>
    split
    next long => simp [Nat.not_le.mpr long]
    next short => simp [filled, Nat.not_lt.mp short]

/-- A text is accepted just if it can be taken. -/
theorem accepts_eq (text : String) : accepts text = (parse? text).isSome := by
  -- What is accepted has no fault, and what has no fault is taken.
  rw [accepts, parse?, parse]
  split <;> simp_all [Except.toOption]

/-- What is taken as a user identifier is the identifier of that text. -/
theorem text_of_parse? {text : String} {user : UserId} (taken : parse? text = some user) :
    user.text = text := by
  -- Only what was parsed is taken.
  cases read : parse text with
  | error fault => rw [parse?, read] at taken; cases taken
  | ok found =>
    rw [parse?, read] at taken
    exact Option.some.inj taken ▸ text_of_parse read

/-- Where a user identifier is read from: a text, a JSON document, or a row of the database. -/
inductive Source where
  | plain (text : String)
  | json (document : String)
  | stored (row : SessionRow)

namespace Source

/-- The text that stands at a source, whether it is an identifier or not. -/
def text? : Source → Option String
  | .plain text => some text
  | .json document => Json.Shape.anyText.decode? Json.text? document
  | .stored row => some row.user

/-- The user identifier that a source gives. -/
def user? : Source → Option UserId
  | .plain text => parse? text
  | .json document => UserId.shape.decode? UserId.ofJson? document
  | .stored row => row.toSession.toOption.map Session.user

/-- A document gives the user identifier of the text that it holds. -/
theorem user?_json (document : String) :
    (Source.json document).user? = (Source.json document).text?.bind parse? :=
  -- The document holds a text that is accepted, and it is taken as the identifier.
  Json.Shape.decode?_text accepts_eq document

/-- A row gives the user identifier of its text, if the rest of the row can be read. -/
theorem text_of_stored {row : SessionRow} {user : UserId}
    (given : (Source.stored row).user? = some user) : user.text = row.user := by
  -- The row is read as a session, and its user is the one that was parsed.
  obtain ⟨session, read, rfl⟩ := Option.map_eq_some_iff.mp given
  have whole : row.toSession = .ok session := by
    cases found : row.toSession with
    | error fault => rw [found] at read; cases read
    | ok other => rw [found] at read; exact congrArg _ (Option.some.inj read)
  rw [SessionRow.toSession] at whole
  split at whole
  · cases whole
  next user parsed =>
    split at whole
    · cases whole
    · cases whole
      exact text_of_parse parsed

/-- A source gives no other user identifier than that of its text. -/
theorem text?_of_user? {source : Source} {user : UserId} (given : source.user? = some user) :
    source.text? = some user.text := by
  -- The cases are the sources, each of which parses the text that it holds.
  cases source with
  | plain text => exact congrArg some (text_of_parse? given).symm
  | json document =>
    rw [user?_json] at given
    obtain ⟨text, found, taken⟩ := Option.bind_eq_some_iff.mp given
    rw [found, text_of_parse? taken]
  | stored row => exact congrArg some (text_of_stored given).symm

end Source

end UserId

end SessionGate
