import Mathlib.Data.List.Forall2
import SessionGate.Proofs.Json.Strings

/-! Records are read back from their JSON text, wherever this text stands. -/

namespace SessionGate.Json

open Text

/-- The UTF-8 bytes of characters. -/
abbrev encoded (chars : List Char) : List UInt8 := chars.flatMap String.utf8EncodeChar

/-- Behind a value the text ends, or a comma or the closing brace of an object follows. -/
def Ended (rest : List UInt8) : Prop :=
  ∀ mark ∈ rest.head?, mark = 0x2C ∨ mark = 0x7D

/-- A reader takes a value from its own text, wherever a value may end there. -/
def Reads (read : Reader Json) (value : Json) : Prop :=
  -- Only what follows tells the last digit of a number from a digit within it.
  ∀ rest, Ended rest → read (encoded value.chars ++ rest) = .ok (value, rest)

/-- A closing brace ends a value. -/
theorem ended_brace (rest : List UInt8) : Ended (0x7D :: rest) := by
  -- The brace is one of the two marks that end a value.
  simp [Ended]

namespace Reader

/-- The bytes of a string begin and end with a quote. -/
theorem encoded_quote (text : String) :
    encoded (quote text) =
      0x22 :: ((text.toList.flatMap escapeChar).flatMap String.utf8EncodeChar ++ [0x22]) := by
  -- The quotes are one byte each.
  have mark : String.utf8EncodeChar (Char.ofNat 0x22) = [0x22] := rfl
  simp [encoded, quote, mark]

/-- A text that is accepted is read back. -/
theorem reads_text {accepts : String → Bool} {text : String} (accepted : accepts text = true) :
    Reads (textValue accepts) (.text text) := by
  -- The closing quote ends the text, so what comes behind it does not matter.
  intro rest _
  have chars : (Json.text text).chars = quote text := by rw [Json.chars]
  rw [chars, encoded_quote, List.cons_append, textValue, bind_ok (peekMark_cons rfl)]
  show (skip >>= fun _ => stringTail >>= fun text => _) _ = _
  rw [bind_ok (show skip _ = .ok ((), _) from rfl), List.drop_one, List.tail_cons,
    bind_ok (takes_stringTail text rest), if_pos accepted]
  rfl

/-- The fields of an object behind its first one, each with a comma before it. -/
def following : List (String × Json) → List Char
  | [] => []
  | (name, value) :: rest => ',' :: quote name ++ ':' :: value.chars ++ following rest

/-- The first field of an object stands before all others. -/
theorem fieldChars_cons (name : String) (value : Json) (rest : List (String × Json)) :
    fieldChars ((name, value) :: rest) = quote name ++ ':' :: value.chars ++ following rest := by
  -- The comma before a field is written with the field before it.
  induction rest generalizing name value with
  | nil => simp [fieldChars, following]
  | cons next rest ih =>
    obtain ⟨other, given⟩ := next
    rw [fieldChars, ih, following]
    simp

/-- What follows a field ends its value. -/
theorem ended_following (entries : List (String × Json)) (rest : List UInt8) :
    Ended (encoded (following entries) ++ 0x7D :: rest) := by
  -- Either the object is closed, or a comma comes before the next field.
  cases entries with
  | nil => exact ended_brace rest
  | cons entry entries =>
    have comma : String.utf8EncodeChar ',' = [0x2C] := rfl
    simp [Ended, following, encoded, comma]

/-- A field is written under its first name, with a value that it reads back. -/
structure Written (field : Field (Reader Json)) (entry : String × Json) : Prop where
  first : field.names.head? = some entry.1
  reads : Reads field.value entry.2

/-- A field goes by the name that it is written under. -/
theorem Written.named {field : Field (Reader Json)} {entry : String × Json}
    (written : Written field entry) : entry.1 ∈ field.names :=
  -- The first name is the one that a field is written under.
  List.mem_of_mem_head? written.first

/-- No two fields go by one name. -/
def Apart (fields : List (Field (Reader Json))) : Prop :=
  fields.Pairwise fun field other => ∀ name ∈ other.names, name ∉ field.names

/-- What is written for fields is written under names that they go by. -/
theorem exists_named {fields : List (Field (Reader Json))} {entries : List (String × Json)}
    (written : List.Forall₂ Written fields entries) {entry : String × Json}
    (member : entry ∈ entries) : ∃ field ∈ fields, entry.1 ∈ field.names := by
  -- The induction is on the fields, each of which is written under a name of its own.
  induction written with
  | nil => cases member
  | cons own _ ih =>
    rcases List.mem_cons.mp member with rfl | later
    · exact ⟨_, List.mem_cons_self, own.named⟩
    · obtain ⟨field, among, named⟩ := ih later
      exact ⟨field, List.mem_cons_of_mem _ among, named⟩

section Fields

variable {fields done todo : List (Field (Reader Json))} {field : Field (Reader Json)}
  {name : String} {value : Json} {entries : List (String × Json)} {found : List (Option Json)}
  {rest input : List UInt8} {first : Bool} {place : Nat}

/-- A field is found by its name behind fields that do not go by it. -/
theorem findIdx?_named (done todo : List (Field (Reader Json))) (own : name ∈ field.names)
    (others : ∀ other ∈ done, name ∉ other.names) :
    (done ++ field :: todo).findIdx? (fun field => field.names.contains name) =
      some done.length := by
  -- The fields before it are searched in vain, and the first one after them is it.
  have unknown : done.findIdx? (fun field => field.names.contains name) = none := by
    simpa [List.findIdx?_eq_none_iff] using others
  rw [List.findIdx?_append, unknown]
  simp [List.findIdx?_cons, own]

/-- A field that has not been read yet is read, and the next ones follow. -/
theorem fieldsOf_field (fuel : Nat)
    (follows : moreFields first input =
      .ok (true, encoded (quote name) ++ 0x3A :: (encoded value.chars ++ rest)))
    (known : fields.findIdx? (fun field => field.names.contains name) = some place)
    (unread : found.getD place none = none) (located : fields[place]? = some field)
    (reads : Reads field.value value) (ended : Ended rest) :
    fieldsOf fields (fuel + 1) first found input =
      fieldsOf fields fuel false (found.set place (some value)) rest := by
  -- The name is read first, then the colon, then the value, and the place is still free.
  have colons : colon (0x3A :: (encoded value.chars ++ rest)) =
      .ok ((), encoded value.chars ++ rest) := rfl
  rw [fieldsOf, bind_ok follows, if_pos rfl, encoded_quote, List.cons_append, List.append_assoc]
  rw [bind_ok (show skip _ = .ok ((), _) from rfl), List.drop_one, List.tail_cons,
    ← List.append_assoc, bind_ok (takes_stringTail name _)]
  simp only [known, unread, located, Option.isSome_none, Bool.false_eq_true, if_false]
  rw [bind_ok colons, bind_ok (reads rest ended)]

/-- Where fields were read, the next one that was written is in its place and still unread. -/
theorem unread_next (done : List (Field (Reader Json))) (field : Field (Reader Json))
    (todo : List (Field (Reader Json))) (value : Json) (read : List Json)
    (same : read.length = done.length) :
    (read.map some ++ (field :: todo).map fun _ => none).getD done.length none = none ∧
      (done ++ field :: todo)[done.length]? = some field ∧
      (read.map some ++ (field :: todo).map fun _ => none).set done.length (some value) =
        (read ++ [value]).map some ++ todo.map fun _ => none := by
  -- The place is the first one behind those that were read.
  refine ⟨?_, by simp, ?_⟩
  · simp [← same]
  · rw [← same, ← List.length_map some, List.set_append_right _ _ (Nat.le_refl _)]
    simp

/-- Fields that were written in their order are read back behind the first ones. -/
theorem fieldsOf_following (written : List.Forall₂ Written todo entries) (read : List Json)
    (same : read.length = done.length)
    (apart : ∀ entry ∈ entries, ∀ other ∈ done, entry.1 ∉ other.names)
    (distinct : Apart todo) (fuel : Nat) (enough : entries.length < fuel)
    (rest : List UInt8) :
    fieldsOf (done ++ todo) fuel false (read.map some ++ todo.map fun _ => none)
        (encoded (following entries) ++ 0x7D :: rest) =
      .ok ((read ++ entries.map Prod.snd).map some, 0x7D :: rest) := by
  -- The induction is on the fields that are left, while those that were read grow.
  induction written generalizing done read fuel with
  | nil =>
    obtain ⟨fuel, rfl⟩ := Nat.exists_eq_succ_of_ne_zero (Nat.ne_of_gt enough)
    -- Behind the last field the brace is found at once.
    have closed : moreFields false (encoded (following []) ++ 0x7D :: rest) =
        .ok (false, 0x7D :: rest) := rfl
    rw [fieldsOf, bind_ok closed, if_neg Bool.false_ne_true, List.map_nil, List.append_nil,
      List.map_nil, List.append_nil]
    rfl
  | @cons field entry todo entries own written ih =>
    obtain ⟨name, value⟩ := entry
    obtain ⟨fuel, rfl⟩ := Nat.exists_eq_succ_of_ne_zero (Nat.ne_of_gt (Nat.zero_lt_of_lt enough))
    -- Behind a field that is not the last there is a comma, and the next name.
    have comma : encoded (following ((name, value) :: entries)) ++ 0x7D :: rest =
        0x2C :: (encoded (quote name) ++ 0x3A :: (encoded value.chars ++
          (encoded (following entries) ++ 0x7D :: rest))) := by
      have marks : String.utf8EncodeChar ',' = [0x2C] ∧ String.utf8EncodeChar ':' = [0x3A] :=
        ⟨rfl, rfl⟩
      simp [encoded, following, marks]
    have follows : moreFields false (encoded (following ((name, value) :: entries)) ++
        0x7D :: rest) = .ok (true, encoded (quote name) ++ 0x3A :: (encoded value.chars ++
          (encoded (following entries) ++ 0x7D :: rest))) := by
      rw [comma, encoded_quote]
      rfl
    -- The field is the first that is not read, and filling it in leaves the rest unread.
    obtain ⟨unread, located, grown⟩ := unread_next done field todo value read same
    obtain ⟨alone, distinct⟩ := List.pairwise_cons.mp distinct
    have others := apart (name, value) List.mem_cons_self
    have known := findIdx?_named done todo own.named others
    -- Its name is none of those that were read, and none of those that are to come.
    have later : ∀ entry ∈ entries, ∀ other ∈ done ++ [field], entry.1 ∉ other.names := by
      intro entry member other earlier
      rcases List.mem_append.mp earlier with earlier | last
      · exact apart entry (List.mem_cons_of_mem _ member) other earlier
      · obtain ⟨next, among, named⟩ := exists_named written member
        rw [List.mem_singleton.mp last]
        exact alone next among entry.1 named
    -- The others are read by induction, with this one among those that are done.
    have onward : fieldsOf ((done ++ [field]) ++ todo) fuel false _ _ = _ :=
      ih (read ++ [value]) (by simp [same]) later distinct fuel (by simpa using enough)
    rw [fieldsOf_field fuel follows known unread located own.reads (ended_following entries rest),
      grown]
    simpa using onward

/-- There are no more fields than bytes. -/
theorem length_le_following (entries : List (String × Json)) :
    entries.length ≤ (encoded (following entries)).length := by
  -- The induction is on the fields, each of which takes a comma at least.
  induction entries with
  | nil => exact Nat.le_refl _
  | cons entry entries ih =>
    obtain ⟨name, value⟩ := entry
    have comma : (String.utf8EncodeChar ',').length = 1 := rfl
    simp only [following, encoded, List.cons_append, List.flatMap_cons, List.flatMap_append,
      List.length_append, List.length_cons, comma] at ih ⊢
    omega

/-- The fields of an object are read back from behind its opening brace. -/
theorem fieldsOf_fieldChars (written : List.Forall₂ Written fields entries)
    (distinct : Apart fields) (rest : List UInt8) (fuel : Nat)
    (enough : (encoded (fieldChars entries)).length < fuel) :
    fieldsOf fields fuel true (fields.map fun _ => none)
        (encoded (fieldChars entries) ++ 0x7D :: rest) =
      .ok ((entries.map Prod.snd).map some, 0x7D :: rest) := by
  -- The first field has no comma before it, so it is read by itself.
  obtain ⟨fuel, rfl⟩ := Nat.exists_eq_succ_of_ne_zero (Nat.ne_of_gt (Nat.zero_lt_of_lt enough))
  cases written with
  -- A record without fields is closed by the brace.
  | nil =>
    have closed : moreFields true (encoded (fieldChars []) ++ 0x7D :: rest) =
        .ok (false, 0x7D :: rest) := rfl
    rw [fieldsOf, bind_ok closed]
    rfl
  | @cons field entry todo entries own written =>
    obtain ⟨name, value⟩ := entry
    -- The first name follows the brace that opens the record.
    have colons : encoded (fieldChars ((name, value) :: entries)) =
        encoded (quote name) ++ 0x3A :: (encoded value.chars ++ encoded (following entries)) := by
      have mark : String.utf8EncodeChar ':' = [0x3A] := rfl
      simp [encoded, fieldChars_cons, mark]
    have follows : moreFields true (encoded (fieldChars ((name, value) :: entries)) ++
        0x7D :: rest) = .ok (true, encoded (quote name) ++ 0x3A :: (encoded value.chars ++
          (encoded (following entries) ++ 0x7D :: rest))) := by
      rw [colons, encoded_quote]
      simp only [List.cons_append, List.append_assoc]
      rfl
    obtain ⟨alone, distinct⟩ := List.pairwise_cons.mp distinct
    have known : (field :: todo).findIdx? (fun field => field.names.contains name) = some 0 :=
      findIdx?_named [] todo own.named (by simp)
    -- What is to come is written under other names than this first one.
    have later : ∀ entry ∈ entries, ∀ other ∈ [field], entry.1 ∉ other.names := by
      intro entry member other only
      obtain ⟨next, among, named⟩ := exists_named written member
      rw [List.mem_singleton.mp only]
      exact alone next among entry.1 named
    -- Each field takes a byte at least, so there is fuel for all of them.
    have bounded : entries.length < fuel := by
      have counted := length_le_following entries
      rw [colons, List.length_append, List.length_cons, List.length_append] at enough
      omega
    -- Nothing has been read before the first field, so it is still unread.
    have opened : fieldsOf (field :: todo) (fuel + 1) true ((field :: todo).map fun _ => none) _ =
        fieldsOf (field :: todo) fuel false (some value :: todo.map fun _ => none) _ :=
      fieldsOf_field fuel follows known rfl rfl own.reads (ended_following entries rest)
    exact opened.trans (fieldsOf_following written [value] rfl later distinct fuel bounded rest)

/-- Where all values were read, nothing is missing. -/
theorem complete_read (fields : List (Field (Reader Json))) (values : List Json)
    (same : values.length = fields.length) (bytes : List UInt8) :
    complete fields (values.map some) bytes = .ok (values, bytes) := by
  -- Fields and values run out together.
  induction fields generalizing values with
  | nil =>
    cases values with
    | nil => rfl
    | cons => cases same
  | cons field fields ih =>
    cases values with
    | nil => cases same
    | cons value values =>
      have onward := ih values (Nat.succ.inj same)
      rw [complete, List.map_cons, List.head?_cons, Option.join_some, List.tail_cons]
      show (complete fields (values.map some) >>= fun values => pure (value :: values)) bytes = _
      rw [bind_ok onward]
      rfl

/-- The fields stand under the names that they were written under. -/
theorem names_headD (written : List.Forall₂ Written fields entries) :
    fields.map (fun field => field.names.headD "") = entries.map Prod.fst := by
  -- The induction is on the fields, each of which stands under its first name.
  induction written with
  | nil => rfl
  | cons own _ ih => rw [List.map_cons, List.map_cons, ih, List.headD_eq_head?_getD, own.first]; rfl

/-- An object whose fields are written in their order is read back as a record. -/
theorem reads_record (written : List.Forall₂ Written fields entries)
    (distinct : Apart fields) :
    Reads (recordValue fields) (.object entries) := by
  intro rest _
  -- The braces are all that is around the fields.
  have braces : encoded (Json.object entries).chars ++ rest =
      0x7B :: (encoded (fieldChars entries) ++ 0x7D :: rest) := by
    have marks : String.utf8EncodeChar (Char.ofNat 0x7B) = [0x7B] ∧
        String.utf8EncodeChar (Char.ofNat 0x7D) = [0x7D] := ⟨rfl, rfl⟩
    simp [encoded, Json.chars, marks]
  -- The number of bytes that are left bounds the number of fields.
  generalize remaining : encoded (fieldChars entries) ++ 0x7D :: rest = input at braces
  have read := fieldsOf_fieldChars written distinct rest (input.length + 1)
    (by rw [← remaining, List.length_append]; omega)
  rw [remaining] at read
  have length : (entries.map Prod.snd).length = fields.length := by
    rw [List.length_map, written.length_eq]
  -- The values go back under the first name of each field, as they were written.
  have paired : named fields (entries.map Prod.snd) = .object entries := by
    rw [named, names_headD written]
    exact congrArg Json.object (List.zip_of_prod rfl rfl).symm
  -- The reading is a chain of parts, each of which is known by now.
  rw [braces, recordValue, bind_ok (peekMark_cons rfl)]
  show (skip >>= fun _ => get >>= fun (bytes : List UInt8) =>
    fieldsOf fields (bytes.length + 1) true (fields.map fun _ => none) >>= fun found =>
      complete fields found >>= fun values => skip >>= fun _ =>
        pure (named fields values)) _ = _
  rw [bind_ok (show skip _ = .ok ((), input) from rfl),
    bind_ok (show (get : Reader (List UInt8)) input = .ok (input, input) from rfl), bind_ok read,
    bind_ok (complete_read fields _ length _), bind_ok (show skip _ = .ok ((), rest) from rfl)]
  rw [paired]
  rfl

end Fields

end Reader

/-- What a shape's reader takes from the text of a value, it reads from that text alone. -/
theorem Shape.read_render {shape : Shape} {value : Json} (reads : Reads shape.reader value) :
    shape.read (utf8 value.render) = .ok value := by
  -- Nothing follows the value, so the reader ends with it.
  have alone : shape.reader (encoded value.chars) = .ok (value, []) := by
    simpa using reads [] nofun
  have ended : Reader.finish [] = .ok ((), []) := rfl
  rw [Shape.read, Json.render, utf8_ofList, alone]
  simp only [bind, Except.bind, ended]
  rfl

end SessionGate.Json
