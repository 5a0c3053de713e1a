import SessionGate.Json.Shape
import SessionGate.Proofs.Text.Utf8

/-! Strings are read back from their JSON text, whatever comes behind them. -/

namespace SessionGate.Json

open Text

namespace Reader

variable {α β : Type} {read : Reader α} {after : α → Reader β} {bytes rest : List UInt8} {value : α}
  {byte : UInt8}

/-- A reader takes a value from a text, and leaves whatever comes behind the text. -/
def Takes (read : Reader α) (text : List UInt8) (value : α) : Prop :=
  ∀ rest, read (text ++ rest) = .ok (value, rest)

/-- Where the first of two readers takes a value, the second goes on with what is left. -/
theorem bind_ok (taken : read bytes = .ok (value, rest)) :
    (read >>= after) bytes = after value rest := by
  -- The second reader is applied to what the first one has left.
  show Except.bind (read bytes) _ = _
  rw [taken]
  rfl

/-- A blank is passed over only where one stands. -/
theorem peekMark_cons (mark : isSpace byte = false) :
    peekMark (byte :: rest) = .ok (some byte, byte :: rest) := by
  -- The byte is no blank, so it is next.
  simp [peekMark, mark]

/-- One step in a string: it ends, an escape is read, or a byte is taken as it is. -/
theorem stringBytes_succ (fuel : Nat) (parts : List (List UInt8)) (byte : UInt8)
    (rest : List UInt8) :
    stringBytes (fuel + 1) parts (byte :: rest) =
      if byte == 0x22 then .ok (parts, rest)
      else if byte == 0x5C then (escape >>= fun part => stringBytes fuel (part :: parts)) rest
      else if byte < 0x20 then .error .malformed
      else stringBytes fuel ([byte] :: parts) rest := by
  -- The byte is compared with the two marks, then with the control characters.
  have taken : next (byte :: rest) = .ok (byte, rest) := rfl
  rw [stringBytes, bind_ok taken]
  split
  · rfl
  split
  · rfl
  split
  · rfl
  · rfl

/-- A short escape stands for its byte. -/
theorem escape_short {letter byte : UInt8} (other : (letter == 0x75) = false)
    (short : shortEscape letter = some byte) (rest : List UInt8) :
    escape (letter :: rest) = .ok ([byte], rest) := by
  -- The letter is looked up among the short escapes unless it announces four digits.
  have taken : next (letter :: rest) = .ok (letter, rest) := rfl
  rw [escape, bind_ok taken]
  simp only [other, short]
  rfl

/-- Two digits behind two zeros are a numeric escape of a control character. -/
theorem fourDigits_control : ∀ point : Fin 32,
    fourDigits 0x30 0x30 (UInt8.ofNat (hexDigit (point.val / 16)).toNat)
      (UInt8.ofNat (hexDigit (point.val % 16)).toNat) = some point.val ∧
    (hexDigit (point.val / 16)).toNat ≤ 127 ∧ (hexDigit (point.val % 16)).toNat ≤ 127 := by
  -- There are thirty-two control characters, and the four digits of each are read.
  decide

/-- A numeric escape of a control character stands for its byte. -/
theorem escape_control {c : Char} (control : c.toNat < 32) (rest : List UInt8) :
    escape (['u', '0', '0', hexDigit (c.toNat / 16), hexDigit (c.toNat % 16)].flatMap
      String.utf8EncodeChar ++ rest) = .ok (String.utf8EncodeChar c, rest) := by
  obtain ⟨digits, first, second⟩ := fourDigits_control ⟨c.toNat, control⟩
  -- Behind its backslash an escape of this kind has five characters, all of them one byte each.
  have letters : ['u', '0', '0', hexDigit (c.toNat / 16), hexDigit (c.toNat % 16)].flatMap
      String.utf8EncodeChar ++ rest = 0x75 :: 0x30 :: 0x30 ::
        UInt8.ofNat (hexDigit (c.toNat / 16)).toNat ::
        UInt8.ofNat (hexDigit (c.toNat % 16)).toNat :: rest := by
    simp only [List.flatMap_cons, List.flatMap_nil, encode_ascii first, encode_ascii second]
    rfl
  have numbered : escapeNumber (0x30 :: 0x30 :: UInt8.ofNat (hexDigit (c.toNat / 16)).toNat ::
      UInt8.ofNat (hexDigit (c.toNat % 16)).toNat :: rest) = .ok (c.toNat, rest) := by
    simp only [escapeNumber, digits]
  have numeric : numericEscape (0x30 :: 0x30 :: UInt8.ofNat (hexDigit (c.toNat / 16)).toNat ::
      UInt8.ofNat (hexDigit (c.toNat % 16)).toNat :: rest) =
        .ok (String.utf8EncodeChar c, rest) := by
    -- A control character is not a half of another one.
    rw [numericEscape, bind_ok numbered, if_neg (by simp; omega), if_neg (by simp; omega),
      Char.ofNat_toNat]
    rfl
  -- The backslash is gone already, so the letter comes first.
  rw [letters, escape, bind_ok (show next _ = .ok (0x75, _) from rfl)]
  exact numeric

/-- A character stands in a string as it is, or as an escape that stands for its bytes. -/
theorem escapeChar_cases (c : Char) :
    (escapeChar c = [c] ∧ 32 ≤ c.toNat ∧ c.toNat ≠ 0x22 ∧ c.toNat ≠ 0x5C) ∨
      ∃ tail, escapeChar c = Char.ofNat 0x5C :: tail ∧
        Takes escape (tail.flatMap String.utf8EncodeChar) (String.utf8EncodeChar c) := by
  -- A short escape is a letter, and its reading is a matter of one byte.
  have short : ∀ letter : Char, ∀ byte : UInt8, c.toNat = byte.toNat → byte.toNat ≤ 127 →
      String.utf8EncodeChar letter = [UInt8.ofNat letter.toNat] →
      (UInt8.ofNat letter.toNat == 0x75) = false →
      shortEscape (UInt8.ofNat letter.toNat) = some byte →
      Takes escape ([letter].flatMap String.utf8EncodeChar) (String.utf8EncodeChar c) := by
    intro letter byte point ascii encoded other stands rest
    rw [encode_ascii (by omega), point, UInt8.ofNat_toNat, List.flatMap_cons, List.flatMap_nil,
      encoded]
    exact escape_short other stands rest
  -- Seven characters have a short escape each, and the other control characters a numeric one.
  dsimp only [escapeChar]
  split
  next point =>
    exact Or.inr ⟨_, rfl, short _ 0x22 (by simpa using point) (by decide) rfl rfl rfl⟩
  split
  next point =>
    exact Or.inr ⟨_, rfl, short _ 0x5C (by simpa using point) (by decide) rfl rfl rfl⟩
  split
  next point =>
    exact Or.inr ⟨_, rfl, short _ 0x08 (by simpa using point) (by decide) rfl rfl rfl⟩
  split
  next point =>
    exact Or.inr ⟨_, rfl, short _ 0x09 (by simpa using point) (by decide) rfl rfl rfl⟩
  split
  next point =>
    exact Or.inr ⟨_, rfl, short _ 0x0A (by simpa using point) (by decide) rfl rfl rfl⟩
  split
  next point =>
    exact Or.inr ⟨_, rfl, short _ 0x0C (by simpa using point) (by decide) rfl rfl rfl⟩
  split
  next point =>
    exact Or.inr ⟨_, rfl, short _ 0x0D (by simpa using point) (by decide) rfl rfl rfl⟩
  split
  -- A control character without a letter of its own is written by its number.
  next control => exact Or.inr ⟨_, rfl, fun rest => escape_control control rest⟩
  -- All others are written as they are, and neither end the string nor escape anything.
  next quote slash _ _ _ _ _ printable =>
    exact Or.inl ⟨rfl, Nat.le_of_not_lt printable, by simpa using quote, by simpa using slash⟩

/-- Bytes that are neither a mark nor a control character are taken as they are. -/
theorem stringBytes_plain {plain : List UInt8}
    (all : ∀ byte ∈ plain, 32 ≤ byte.toNat ∧ byte.toNat ≠ 0x22 ∧ byte.toNat ≠ 0x5C)
    (fuel : Nat) (parts : List (List UInt8)) (rest : List UInt8) :
    stringBytes (fuel + plain.length) parts (plain ++ rest) =
      stringBytes fuel ((plain.map ([·])).reverse ++ parts) rest := by
  -- The induction is on the bytes, each of which takes the last of the branches.
  induction plain generalizing parts with
  | nil => rfl
  | cons byte plain ih =>
    obtain ⟨printable, quote, slash⟩ := all byte List.mem_cons_self
    -- It is no quotation mark, no backslash and no control character.
    have noQuote : ¬ (byte == 0x22) = true := by
      simpa [← UInt8.toNat_inj] using quote
    have noSlash : ¬ (byte == 0x5C) = true := by
      simpa [← UInt8.toNat_inj] using slash
    have noControl : ¬ byte < 0x20 := by
      rw [UInt8.lt_iff_toNat_lt]
      exact Nat.not_lt.mpr printable
    rw [List.length_cons, ← Nat.add_assoc, List.cons_append, stringBytes_succ, if_neg noQuote,
      if_neg noSlash, if_neg noControl,
      ih fun byte member => all byte (List.mem_cons_of_mem _ member)]
    simp

/-- The characters of a string are read back up to its closing quote. -/
theorem stringBytes_escape (chars : List Char) (fuel : Nat) (parts : List (List UInt8))
    (rest : List UInt8)
    (enough : ((chars.flatMap escapeChar).flatMap String.utf8EncodeChar).length < fuel) :
    ∃ more, stringBytes fuel parts
        ((chars.flatMap escapeChar).flatMap String.utf8EncodeChar ++ 0x22 :: rest) =
          .ok (more ++ parts, rest) ∧
      more.reverse.flatten = chars.flatMap String.utf8EncodeChar := by
  -- The induction is on the characters, with the parts that were read before kept general.
  induction chars generalizing fuel parts with
  | nil =>
    -- One more step is left for the quotation mark at the end.
    obtain ⟨fuel, rfl⟩ := Nat.exists_eq_succ_of_ne_zero (Nat.ne_of_gt enough)
    exact ⟨[], rfl, rfl⟩
  | cons c chars ih =>
    rcases escapeChar_cases c with ⟨same, printable, quote, slash⟩ | ⟨tail, escaped, stands⟩
    · -- A character that is no mark has no byte that is one, since the others are above 127.
      have plain : ∀ byte ∈ String.utf8EncodeChar c,
          32 ≤ byte.toNat ∧ byte.toNat ≠ 0x22 ∧ byte.toNat ≠ 0x5C := by
        intro byte member
        rcases mem_encode member with ⟨-, value⟩ | ⟨-, above⟩
        · rw [value]
          exact ⟨printable, quote, slash⟩
        · omega
      rw [List.flatMap_cons, same, List.flatMap_append, List.flatMap_singleton,
        List.length_append] at enough
      obtain ⟨left, rfl⟩ := Nat.exists_eq_add_of_le' (show (String.utf8EncodeChar c).length ≤ fuel
        by omega)
      -- The steps that its bytes take are taken from the fuel.
      obtain ⟨more, read, spelled⟩ := ih left
        (((String.utf8EncodeChar c).map ([·])).reverse ++ parts) (by omega)
      refine ⟨more ++ ((String.utf8EncodeChar c).map ([·])).reverse, ?_, ?_⟩
      · rw [List.flatMap_cons, same, List.flatMap_append, List.flatMap_singleton,
          List.append_assoc, stringBytes_plain plain, read, List.append_assoc]
      · rw [List.reverse_append, List.reverse_reverse, List.flatten_append, spelled,
          ← List.flatMap_def, List.flatMap_singleton', List.flatMap_cons]
    · -- An escape is read in one step, whatever its length is.
      have mark : String.utf8EncodeChar (Char.ofNat 0x5C) = [0x5C] := rfl
      rw [List.flatMap_cons, escaped, List.cons_append, List.flatMap_cons, mark,
        List.flatMap_append, List.length_append, List.length_append] at enough
      obtain ⟨left, rfl⟩ := Nat.exists_eq_succ_of_ne_zero (Nat.ne_of_gt (Nat.zero_lt_of_lt enough))
      obtain ⟨more, read, spelled⟩ := ih left (String.utf8EncodeChar c :: parts)
        (by simp only [List.length_singleton] at enough; omega)
      refine ⟨more ++ [String.utf8EncodeChar c], ?_, ?_⟩
      · rw [List.flatMap_cons, escaped, List.cons_append, List.flatMap_cons, mark,
          List.flatMap_append, List.cons_append, List.nil_append, List.cons_append,
          stringBytes_succ, if_neg (by decide), if_pos (by decide), List.append_assoc,
          bind_ok (stands _), read, List.append_assoc, List.singleton_append]
      · simp [spelled]

/-- The text between quotes is read back from behind the opening one. -/
theorem takes_stringTail (text : String) :
    Takes stringTail ((text.toList.flatMap escapeChar).flatMap String.utf8EncodeChar ++ [0x22])
      text := by
  intro rest
  rw [List.append_assoc, List.singleton_append]
  -- The reader takes the number of bytes that are left as its bound.
  generalize remaining : (text.toList.flatMap escapeChar).flatMap String.utf8EncodeChar ++
    0x22 :: rest = bytes
  obtain ⟨more, read, spelled⟩ := stringBytes_escape text.toList (bytes.length + 1) [] rest
    (by rw [← remaining, List.length_append]; omega)
  rw [remaining, List.append_nil] at read
  have held : (get : Reader (List UInt8)) bytes = .ok (bytes, bytes) := rfl
  rw [stringTail, bind_ok held, bind_ok read, spelled]
  have whole : ofUtf8? (text.toList.flatMap String.utf8EncodeChar) = some text := ofUtf8?_utf8 text
  simp only [whole]
  rfl

end Reader

end SessionGate.Json
