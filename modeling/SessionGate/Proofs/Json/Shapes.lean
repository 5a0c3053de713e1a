import Mathlib.Data.List.Nodup
import SessionGate.Proofs.Json.Numbers

/-! Values of every shape are read back from their JSON text. -/

namespace SessionGate.Json

open Reader

/-- A value whose text begins with neither a blank nor the first letter of null. -/
def Present (value : Json) : Prop :=
  ∃ byte tail, encoded value.chars = byte :: tail ∧ isSpace byte = false ∧ byte ≠ 0x6E

/-- A text begins with a quote. -/
theorem present_text (text : String) : Present (.text text) :=
  -- The quote is a mark other than the one that null begins with.
  ⟨0x22, _, by rw [Json.chars, encoded_quote], rfl, by decide⟩

/-- A number begins with a digit or a minus. -/
theorem present_number (value : Int) : Present (.number value) := by
  -- Digits and the minus are marks other than the one that null begins with.
  rw [Present, Json.chars, digits]
  split
  next => exact ⟨0x2D, _, rfl, rfl, by decide⟩
  next =>
    obtain ⟨byte, tail, leading, digit⟩ := encoded_toDigits value.natAbs
    refine ⟨byte, tail, leading, isSpace_of_isDigit digit, ?_⟩
    rintro rfl
    exact absurd digit (by decide)

namespace Reader

/-- A string behind its opening quote is judged once it was read. -/
theorem textValue_quote (accepts : String → Bool) {bytes tail : List UInt8}
    (quoted : bytes.dropWhile isSpace = 0x22 :: tail) :
    textValue accepts bytes = (stringTail >>= fun text =>
      if accepts text then pure (.text text) else fail .mismatched : Reader Json) tail := by
  -- The quote is the next mark, so a string is read.
  have marked : peekMark bytes = .ok (some 0x22, 0x22 :: tail) := by rw [peekMark, quoted]; rfl
  rw [textValue, bind_ok marked]
  rfl

/-- Without an opening quote, no string is read to be judged. -/
theorem textValue_unquoted (accepts other : String → Bool) {bytes : List UInt8}
    (unquoted : (bytes.dropWhile isSpace).head? ≠ some 0x22) :
    textValue accepts bytes = textValue other bytes := by
  -- Another mark is refused before any string is looked at.
  have marked : peekMark bytes = .ok _ := rfl
  rw [textValue, textValue, bind_ok marked, bind_ok marked]
  refine congrFun ?_ _
  split
  · rfl
  · contradiction
  · rfl

/-- What strings are accepted matters only for a string that was read and is not accepted. -/
theorem textValue_cases (accepts : String → Bool) (bytes : List UInt8) :
    textValue accepts bytes = textValue (fun _ => true) bytes ∨
      ∃ text rest, accepts text = false ∧ textValue accepts bytes = .error .mismatched ∧
        textValue (fun _ => true) bytes = .ok (.text text, rest) := by
  -- Behind a quote the string is read, accepted or not; without one no string is looked at.
  by_cases quoted : (bytes.dropWhile isSpace).head? = some 0x22
  · obtain ⟨tail, quoted⟩ := List.head?_eq_some_iff.mp quoted
    rw [textValue_quote accepts quoted, textValue_quote _ quoted]
    cases found : stringTail tail with
    | error fault =>
      left
      show Except.bind (stringTail tail) _ = Except.bind (stringTail tail) _
      rw [found]
      rfl
    | ok read =>
      obtain ⟨text, rest⟩ := read
      rw [bind_ok found, bind_ok found]
      -- A text that is not accepted is told as such, behind the same bytes.
      cases accepted : accepts text
      · exact .inr ⟨text, rest, accepted, rfl, rfl⟩
      · exact .inl rfl
  · -- What is no string is judged without its text.
    exact .inl (textValue_unquoted _ _ quoted)

end Reader

namespace Shape

/-- Any text is read back. -/
theorem reads_anyText (text : String) : Reads anyText.reader (.text text) :=
  -- Every text is accepted.
  reads_text rfl

/-- A truth value is read back. -/
theorem reads_flag (value : Bool) : Reads flag.reader (.boolean value) := by
  -- Both words are read by themselves.
  intro rest _
  cases value <;> rfl

/-- A name among others is read back. -/
theorem reads_choice {names : List String} {name : String} (known : name ∈ names) :
    Reads (choice names).reader (.text name) := by
  intro rest ended
  have chars : (Json.text name).chars = quote name := by rw [Json.chars]
  have accepted : names.contains name = true := List.contains_iff_mem.mpr known
  have read := reads_text accepted rest ended
  rw [chars, encoded_quote, List.cons_append] at read ⊢
  show choiceValue names _ = _
  -- A name alone is the shorter of two forms.
  rw [choiceValue, bind_ok (peekMark_cons rfl)]
  exact read

/-- A value that may be null is read back. -/
theorem reads_ofOption {α : Type} {write : α → Json} {shape : Shape} {value : Option α}
    (reads : ∀ given ∈ value, Reads shape.reader (write given))
    (present : ∀ given ∈ value, Present (write given)) :
    Reads (optional shape).reader (ofOption write value) := by
  -- What is missing is null, and what is present begins with another mark.
  intro rest ended
  show optionalValue shape.reader _ = _
  cases value with
  | none => rfl
  | some given =>
    obtain ⟨byte, tail, leading, mark, notNull⟩ := present given rfl
    have read := reads given rfl rest ended
    rw [ofOption]
    rw [leading, List.cons_append] at read ⊢
    rw [optionalValue, bind_ok (peekMark_cons mark)]
    refine (congrFun (?_ : _ = shape.reader) _).trans read
    split
    next null => exact absurd (Option.some.inj null) notNull
    next => rfl

/-- A number of sixteen binary digits is read back. -/
theorem reads_half {value : Nat} (most : value ≤ 65535) :
    Reads (integer 0 65535).reader (.number value) := by
  -- Sixteen binary digits fit into a signed word.
  have reach : Int.pow 2 63 = 9223372036854775808 := rfl
  exact reads_number (by omega) (by omega) (by rw [reach]; omega) (by rw [reach]; omega)

/-- A field is written under its first name, with a value of its shape. -/
def Holds (field : Field Shape) (entry : String × Json) : Prop :=
  field.names.head? = some entry.1 ∧ Reads field.value.reader entry.2

/-- What is written for the fields of a record is written for their readers. -/
theorem written_of_holds {fields : List (Field Shape)} {entries : List (String × Json)}
    (holds : List.Forall₂ Holds fields entries) :
    -- The induction is on the fields, each of which is written for its own reader.
    List.Forall₂ Written (fieldReaders fields) entries := by
  induction holds with
  | nil => exact .nil
  | cons own _ ih => exact .cons ⟨own.1, own.2⟩ ih

/-- The readers of fields go by the names of the fields. -/
theorem apart_readers {fields : List (Field Shape)}
    (distinct : (fields.flatMap Field.names).Nodup) : Apart (fieldReaders fields) := by
  -- The readers have the names of their fields, and these are all different.
  have names : (fieldReaders fields).map Field.names = fields.map Field.names := by
    clear distinct
    induction fields with
    | nil => rfl
    | cons field fields ih => rw [fieldReaders, List.map_cons, List.map_cons, ih]
  rw [List.flatMap_def, ← names, ← List.flatMap_def] at distinct
  refine (List.nodup_flatMap.mp distinct).2.imp ?_
  intro field other disjoint name later earlier
  exact disjoint earlier later

/-- A record whose fields go by different names is read back from an object. -/
theorem reads_record {fields : List (Field Shape)} {entries : List (String × Json)}
    (holds : List.Forall₂ Holds fields entries) (distinct : (fields.flatMap Field.names).Nodup) :
    Reads (record fields).reader (.object entries) :=
  -- Each field is written for its reader, and the readers are apart.
  Reader.reads_record (written_of_holds holds) (apart_readers distinct)

/-- The value that a text tells. -/
def decode? {α : Type} (shape : Shape) (take : Json → Option α) (text : String) : Option α :=
  (shape.read (Text.utf8 text)).toOption.bind take

/-- A value is told by its text. -/
theorem decode?_render {α : Type} {shape : Shape} {take : Json → Option α} {document : Json}
    (reads : Reads shape.reader document) : shape.decode? take document.render = take document := by
  -- The reader reads the document back, and the value is taken from it.
  rw [decode?, read_render reads]
  rfl

/-- What is taken from a document that holds a text is what is taken from this text, if the
texts are accepted from which something can be taken. -/
theorem decode?_text {α : Type} {accepts : String → Bool} {take : String → Option α}
    (fits : ∀ text, accepts text = (take text).isSome) (document : String) :
    (text accepts).decode? (fun value => value.text?.bind take) document =
      (anyText.decode? text? document).bind take := by
  rw [decode?, decode?, Option.bind_assoc, read, read, anyText]
  simp only [Shape.reader]
  rcases textValue_cases accepts (Text.utf8 document) with same |
    ⟨given, rest, refused, failed, taken⟩
  · rw [same]
  · -- Nothing can be taken from the text that is refused.
    have nothing : take given = none := by
      rw [← Option.not_isSome_iff_eq_none, ← fits, refused]
      exact Bool.false_ne_true
    rw [failed, taken]
    show none = (Except.bind (finish rest) fun _ => .ok (Json.text given)).toOption.bind _
    cases finish rest with
    | error _ => rfl
    | ok _ => exact nothing.symm

end Shape

end SessionGate.Json
