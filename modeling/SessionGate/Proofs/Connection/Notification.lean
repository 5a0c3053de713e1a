import SessionGate.Connection.Documents
import SessionGate.Proofs.Identifier.SessionId
import SessionGate.Proofs.Json.Shapes

/-! What is announced can be read back by those who hear of it. -/

namespace SessionGate.ConnectionNotification

open Json

/-- The notification that a text tells. -/
def read? (text : String) : Option ConnectionNotification :=
  (shape.read (Text.utf8 text)).toOption.bind ofJson?

/-- The reader of the shape takes a notification from its own document. -/
theorem reads_toJson (notification : ConnectionNotification) :
    Reads shape.reader notification.toJson := by
  -- Of the six fields only the session is read by a rule of its own.
  have session : Reads SessionId.shape.reader notification.session.toJson :=
    Reader.reads_text notification.session.accepts_render
  exact Shape.reads_record
    (.cons ⟨rfl, Shape.reads_anyText _⟩ (.cons ⟨rfl, session⟩ (.cons ⟨rfl, Shape.reads_anyText _⟩
      (.cons ⟨rfl, Shape.reads_anyText _⟩ (.cons ⟨rfl, Shape.reads_anyText _⟩
        (.cons ⟨rfl, Shape.reads_anyText _⟩ .nil))))))
    (by decide)

/-- A notification is read back from its text. -/
theorem read?_render (notification : ConnectionNotification) :
    read? notification.toJson.render = some notification := by
  -- The document is read as it was written, and the session is parsed again.
  have session : SessionId.ofJson? notification.session.toJson = some notification.session :=
    notification.session.parse?_render
  rw [read?, Shape.read_render notification.reads_toJson]
  show ofJson? notification.toJson = _
  simp only [toJson, ofJson?, fieldValues, List.map_cons, List.map_nil, session]
  rfl

end SessionGate.ConnectionNotification
