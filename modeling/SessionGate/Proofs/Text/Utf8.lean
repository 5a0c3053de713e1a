import Mathlib.Data.List.Basic
import SessionGate.Text.Utf8

/-! UTF-8 bytes are read back as the text that they were written for. -/

namespace SessionGate.Text

/-- A number below 256 is the value of its byte. -/
theorem toNat_ofNat {value : Nat} (small : value < 256) : (UInt8.ofNat value).toNat = value := by
  -- The remainder by 256 is the number itself.
  simp [Nat.mod_eq_of_lt small]

/-- A number below those that are no characters is the value of its character. -/
theorem toNat_charOfNat {value : Nat} (low : value < 0xD800) : (Char.ofNat value).toNat = value := by
  -- Below the surrogates every number is a character.
  have known : value.isValidChar := .inl low
  rw [Char.ofNat, dif_pos known]
  rfl

/-- A byte is between two others just if its value is. -/
theorem between_iff {low byte high : UInt8} :
    (low ≤ byte && byte ≤ high) = true ↔ low.toNat ≤ byte.toNat ∧ byte.toNat ≤ high.toNat := by
  -- Bytes are compared by their values.
  simp [UInt8.le_iff_toNat_le]

/-- Six bits with the mark of a continuation are a continuation byte. -/
theorem isContinuation_ofNat (value : Nat) :
    isContinuation (UInt8.ofNat (value % 64 + 128)) = true := by
  -- The remainder is below 64, so the sum lies in the range of continuations.
  rw [isContinuation, between_iff, toNat_ofNat (by omega)]
  simp
  omega

/-- The payload of a continuation byte are the six bits that it was made of. -/
theorem payload_ofNat (value : Nat) : payload (UInt8.ofNat (value % 64 + 128)) = value % 64 := by
  -- The mark is the 128 that reading takes away again.
  rw [payload, toNat_ofNat (by omega)]
  omega

/-- A continuation byte follows a leading byte as a second one, if it makes no overlong form, no
surrogate and no number above the last character. -/
theorem fitsSecond_of {lead second : UInt8}
    (follows : 0x80 ≤ second.toNat ∧ second.toNat ≤ 0xBF)
    (long : lead.toNat = 0xE0 → 0xA0 ≤ second.toNat)
    (plain : lead.toNat = 0xED → second.toNat ≤ 0x9F)
    (longer : lead.toNat = 0xF0 → 0x90 ≤ second.toNat)
    (known : lead.toNat = 0xF4 → second.toNat ≤ 0x8F) : fitsSecond lead second = true := by
  have marks : ∀ mark : UInt8, lead = mark ↔ lead.toNat = mark.toNat := fun mark =>
    UInt8.toNat_inj.symm
  simp only [fitsSecond, secondRange, beq_iff_eq, marks]
  -- Four leading bytes narrow the range, each at one end.
  split
  next first => exact between_iff.mpr ⟨long first, follows.2⟩
  split
  next first => exact between_iff.mpr ⟨follows.1, plain first⟩
  split
  next first => exact between_iff.mpr ⟨longer first, follows.2⟩
  split
  next first => exact between_iff.mpr ⟨follows.1, known first⟩
  next => exact between_iff.mpr follows

/-- A character of two bytes is read from them. -/
theorem readChar_two {point : Nat} (low : 127 < point) (high : point ≤ 2047) (rest : List UInt8) :
    readChar (UInt8.ofNat (point / 64 % 32 + 192)) (UInt8.ofNat (point % 64 + 128) :: rest) =
      (some (Char.ofNat point), 1) := by
  -- Of the leading byte only its value matters, which tells the range that it lies in.
  have value : (UInt8.ofNat (point / 64 % 32 + 192)).toNat = point / 64 + 192 := by
    rw [toNat_ofNat (by omega)]
    omega
  generalize UInt8.ofNat (point / 64 % 32 + 192) = lead at value ⊢
  have plain : ¬ lead < 0x80 := by
    rw [UInt8.lt_iff_toNat_lt, value]
    simp
  have two : (0xC2 ≤ lead && lead ≤ 0xDF) = true := by
    rw [between_iff, value]
    simp
    omega
  have joined : lead.toNat % 32 * 64 + point % 64 = point := by omega
  simp only [readChar, if_neg plain, if_pos two, isContinuation_ofNat, payload_ofNat, if_true,
    joined]

/-- A character of three bytes is read from them. -/
theorem readChar_three {point : Nat} (low : 2047 < point) (high : point ≤ 65535)
    (valid : point < 0xD800 ∨ 0xDFFF < point) (rest : List UInt8) :
    readChar (UInt8.ofNat (point / 4096 % 16 + 224))
        (UInt8.ofNat (point / 64 % 64 + 128) :: UInt8.ofNat (point % 64 + 128) :: rest) =
      (some (Char.ofNat point), 2) := by
  -- The lead's value decides which of the ranges it is in, so only the value is kept.
  have value : (UInt8.ofNat (point / 4096 % 16 + 224)).toNat = point / 4096 + 224 := by
    rw [toNat_ofNat (by omega)]
    omega
  generalize UInt8.ofNat (point / 4096 % 16 + 224) = lead at value ⊢
  have plain : ¬ lead < 0x80 := by
    rw [UInt8.lt_iff_toNat_lt, value]
    simp
  have two : ¬ (0xC2 ≤ lead && lead ≤ 0xDF) = true := by
    rw [between_iff, value]
    simp
  have three : (0xE0 ≤ lead && lead ≤ 0xEF) = true := by
    rw [between_iff, value]
    simp
    omega
  have fits : fitsSecond lead (UInt8.ofNat (point / 64 % 64 + 128)) = true := by
    have second := toNat_ofNat (show point / 64 % 64 + 128 < 256 by omega)
    apply fitsSecond_of <;> rw [second] <;> omega
  -- The three groups of bits make up the point again.
  have joined : lead.toNat % 16 * 4096 + point / 64 % 64 * 64 + point % 64 = point := by omega
  simp only [readChar, if_neg plain, if_neg two, if_pos three, fits, isContinuation_ofNat,
    payload_ofNat, Bool.not_true, Bool.false_eq_true, if_false, joined]

/-- A character of four bytes is read from them. -/
theorem readChar_four {point : Nat} (low : 65535 < point) (high : point < 0x110000)
    (rest : List UInt8) :
    readChar (UInt8.ofNat (point / 262144 % 8 + 240))
        (UInt8.ofNat (point / 4096 % 64 + 128) :: UInt8.ofNat (point / 64 % 64 + 128) ::
          UInt8.ofNat (point % 64 + 128) :: rest) =
      (some (Char.ofNat point), 3) := by
  -- The lead's value decides which of the ranges it is in, so only the value is kept.
  have value : (UInt8.ofNat (point / 262144 % 8 + 240)).toNat = point / 262144 + 240 := by
    rw [toNat_ofNat (by omega)]
    omega
  generalize UInt8.ofNat (point / 262144 % 8 + 240) = lead at value ⊢
  have plain : ¬ lead < 0x80 := by
    rw [UInt8.lt_iff_toNat_lt, value]
    simp
  have two : ¬ (0xC2 ≤ lead && lead ≤ 0xDF) = true := by
    rw [between_iff, value]
    simp
  have three : ¬ (0xE0 ≤ lead && lead ≤ 0xEF) = true := by
    rw [between_iff, value]
    simp
  have four : (0xF0 ≤ lead && lead ≤ 0xF4) = true := by
    rw [between_iff, value]
    simp
    omega
  have fits : fitsSecond lead (UInt8.ofNat (point / 4096 % 64 + 128)) = true := by
    have second := toNat_ofNat (show point / 4096 % 64 + 128 < 256 by omega)
    apply fitsSecond_of <;> rw [second] <;> omega
  -- The four groups of bits make up the point again.
  have joined : lead.toNat % 8 * 262144 + point / 4096 % 64 * 4096 + point / 64 % 64 * 64 +
      point % 64 = point := by omega
  simp only [readChar, if_neg plain, if_neg two, if_neg three, if_pos four, fits,
    isContinuation_ofNat, payload_ofNat, Bool.not_true, Bool.false_eq_true, if_false, joined]

/-- The bytes of a character are read as this character, whatever comes behind them. -/
theorem readChar_encode (c : Char) (rest : List UInt8) :
    ∃ lead tail, String.utf8EncodeChar c = lead :: tail ∧
      readChar lead (tail ++ rest) = (some c, tail.length) := by
  -- The characters of Unicode leave out the surrogates, as the reader does.
  have valid : c.toNat < 0xD800 ∨ 0xDFFF < c.toNat ∧ c.toNat < 0x110000 := c.valid
  have same : Char.ofNat c.toNat = c := Char.ofNat_toNat c
  -- The branches of the writer are the four lengths that the reader tells apart.
  simp only [String.utf8EncodeChar, show c.val.toNat = c.toNat from rfl]
  split
  -- A character of one byte is its own code.
  next one =>
    refine ⟨_, [], rfl, ?_⟩
    have value : (UInt8.ofNat c.toNat).toNat = c.toNat := toNat_ofNat (by omega)
    have plain : UInt8.ofNat c.toNat < 0x80 := by
      rw [UInt8.lt_iff_toNat_lt, value]
      simp
      omega
    simp only [readChar, if_pos plain, value, same, List.length_nil]
  split
  next many two =>
    refine ⟨_, _, rfl, ?_⟩
    rw [List.cons_append, List.nil_append, readChar_two (by omega) two, same]
    rfl
  split
  next many three =>
    refine ⟨_, _, rfl, ?_⟩
    rw [List.cons_append, List.cons_append, List.nil_append,
      readChar_three (by omega) three (by omega), same]
    rfl
  -- The longest are those of four bytes.
  next many =>
    refine ⟨_, _, rfl, ?_⟩
    rw [List.cons_append, List.cons_append, List.cons_append, List.nil_append,
      readChar_four (by omega) (by omega), same]
    rfl

/-- Characters are read back from their bytes one by one. -/
theorem readChars_encode (chars : List Char) :
    readChars (chars.flatMap String.utf8EncodeChar) = chars.map some := by
  -- The induction is on the characters, since reading goes on behind the bytes of the first.
  induction chars with
  | nil => simp [readChars]
  | cons c chars ih =>
    obtain ⟨lead, tail, encoded, read⟩ := readChar_encode c (chars.flatMap String.utf8EncodeChar)
    rw [List.flatMap_cons, encoded, List.cons_append, readChars, read]
    simp [ih]

/-- Different characters have different bytes. -/
theorem encode_inj {x y : List Char} :
    x.flatMap String.utf8EncodeChar = y.flatMap String.utf8EncodeChar ↔ x = y := by
  refine ⟨fun same => ?_, congrArg _⟩
  -- Reading is a function of the bytes, and it gives both texts back.
  have read := congrArg readChars same
  rw [readChars_encode, readChars_encode] at read
  exact List.map_injective_iff.mpr (fun _ _ => Option.some.inj) read

/-- Different texts have different bytes. -/
theorem utf8_inj {first second : String} : utf8 first = utf8 second ↔ first = second :=
  -- A text is its list of characters.
  encode_inj.trans String.toList_inj

/-- The bytes of a text spell this text. -/
@[simp] theorem ofUtf8?_utf8 (text : String) : ofUtf8? (utf8 text) = some text := by
  -- No character was lost, so the list of what was read is a text.
  have whole : (text.toList.map some).mapM id = some text.toList := by
    have all : text.toList.mapM (fun c => (pure c : Option Char)) = some (text.toList.map id) :=
      List.mapM_pure
    rw [List.mapM_map]
    simpa using all
  rw [ofUtf8?, utf8, readChars_encode, whole, Option.map_some, String.ofList_toList]

/-- The bytes of a text that is a list of characters. -/
theorem utf8_ofList (chars : List Char) :
    utf8 (String.ofList chars) = chars.flatMap String.utf8EncodeChar := by
  -- A text built of characters has these characters.
  rw [utf8, String.toList_ofList]

/-- Texts put together have the bytes of both. -/
theorem utf8Length_append (first second : String) :
    utf8Length (first ++ second) = utf8Length first + utf8Length second := by
  -- The bytes are written character by character, so they are appended too.
  simp [utf8Length, utf8]

/-- A character of one byte is written as this byte, and no byte of another one is as small. -/
theorem mem_encode {c : Char} {byte : UInt8} (member : byte ∈ String.utf8EncodeChar c) :
    c.toNat ≤ 127 ∧ byte.toNat = c.toNat ∨ 127 < c.toNat ∧ 128 ≤ byte.toNat := by
  have valid : c.toNat < 0xD800 ∨ 0xDFFF < c.toNat ∧ c.toNat < 0x110000 := c.valid
  simp only [String.utf8EncodeChar, show c.val.toNat = c.toNat from rfl] at member
  split at member
  next one =>
    rw [List.mem_singleton.mp member, toNat_ofNat (by omega)]
    exact Or.inl ⟨one, rfl⟩
  next many =>
    -- Every byte of the longer forms carries a mark above the characters of one byte.
    refine Or.inr ⟨by omega, ?_⟩
    split at member
    · simp only [List.mem_cons, List.not_mem_nil, or_false] at member
      rcases member with rfl | rfl <;> rw [toNat_ofNat (by omega)] <;> omega
    split at member
    · simp only [List.mem_cons, List.not_mem_nil, or_false] at member
      rcases member with rfl | rfl | rfl <;> rw [toNat_ofNat (by omega)] <;> omega
    · simp only [List.mem_cons, List.not_mem_nil, or_false] at member
      rcases member with rfl | rfl | rfl | rfl <;> rw [toNat_ofNat (by omega)] <;> omega

/-- A character of one byte is written as this byte. -/
theorem encode_ascii {c : Char} (ascii : c.toNat ≤ 127) :
    String.utf8EncodeChar c = [UInt8.ofNat c.toNat] :=
  -- The first range of the encoding is the one for single bytes.
  if_pos ascii

end SessionGate.Text
