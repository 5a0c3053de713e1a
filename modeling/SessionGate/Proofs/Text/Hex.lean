import Mathlib.Data.List.Induction
import SessionGate.Proofs.Text.Utf8
import SessionGate.Text.Blank
import SessionGate.Text.Hex

/-! Hexadecimal text: the bytes that it is read as, and the fault that is told of any other text. -/

namespace SessionGate.Text

/-- The hexadecimal digits of either case. -/
def hexDigits : List Char := "0123456789abcdefABCDEF".toList

/-- A small digit has the value that it was written for. -/
theorem hexValue?_hexDigit {value : Nat} (small : value < 16) :
    hexValue? (hexDigit value) = some value := by
  -- There are only sixteen values, and each is looked at.
  have every : ∀ value : Fin 16, hexValue? (hexDigit value) = some value.val := by decide
  exact every ⟨value, small⟩

/-- Beyond the small letters there is no hexadecimal digit. -/
theorem hexValue?_beyond {c : Char} (beyond : 102 < c.toNat) : hexValue? c = none := by
  -- The letters up to f come last among the digits, and none of the three ranges reaches further.
  simp only [hexValue?, Bool.and_eq_true, decide_eq_true_eq]
  rw [if_neg (by omega), if_neg (by omega), if_neg (by omega)]

/-- The first byte of a character is a hexadecimal digit just if the character is. -/
theorem hexValue?_first {c : Char} {first : UInt8} {tail : List UInt8}
    (written : String.utf8EncodeChar c = first :: tail) :
    hexValue? (Char.ofNat first.toNat) = hexValue? c := by
  have member : first ∈ String.utf8EncodeChar c := by
    rw [written]
    exact List.mem_cons_self
  rcases mem_encode member with ⟨ascii, same⟩ | ⟨wide, marked⟩
  · rw [same, Char.ofNat_toNat]
  · -- Neither the character nor any of its bytes is as small as a digit.
    have byte := first.toNat_lt
    have valid := toNat_charOfNat (show first.toNat < 0xD800 by omega)
    rw [hexValue?_beyond (by omega), hexValue?_beyond (by omega)]

/-- A hexadecimal digit is written as one byte. -/
theorem encode_digit {c : Char} {value : Nat} (digit : hexValue? c = some value) :
    String.utf8EncodeChar c = [UInt8.ofNat c.toNat] := by
  -- A wider character lies beyond the small letters, where no digit is.
  refine encode_ascii (Nat.le_of_not_lt fun wide => ?_)
  rw [hexValue?_beyond (by omega)] at digit
  cases digit

/-- Lowering a character does not change what digit it is. -/
theorem hexValue?_lowerChar (c : Char) : hexValue? (lowerChar c) = hexValue? c := by
  rw [lowerChar]
  -- Only the capital letters are moved, so the others are the same character.
  split
  next capital =>
    simp only [Bool.and_eq_true, decide_eq_true_eq, Char.le_def, UInt32.le_iff_toNat_le] at capital
    have low : 65 ≤ c.toNat := capital.1
    have high : c.toNat ≤ 90 := capital.2
    -- Six of the moved letters are digits, and the other twenty are none before and after.
    have all : ∀ letter : Fin 26, hexValue? (Char.ofNat (letter + 65 + 32)) =
        hexValue? (Char.ofNat (letter + 65)) := by decide
    have same := all ⟨c.toNat - 65, by omega⟩
    rwa [Nat.sub_add_cancel low, Char.ofNat_toNat] at same
  next => rfl

/-- A digit is the one that is written for its value, but for its case. -/
theorem of_hexValue? {c : Char} {value : Nat} (digit : hexValue? c = some value) :
    value < 16 ∧ hexDigit value = lowerChar c ∧ c ∈ hexDigits := by
  -- Up to the last small letter there are few characters, so all of them are tried.
  have every : ∀ point : Fin 103, ∀ value ∈ hexValue? (Char.ofNat point),
      value < 16 ∧ hexDigit value = lowerChar (Char.ofNat point) ∧ Char.ofNat point ∈ hexDigits := by
    decide +kernel
  by_cases beyond : 102 < c.toNat
  · rw [hexValue?_beyond beyond] at digit
    cases digit
  · have known := every ⟨c.toNat, by omega⟩ value
    rw [Char.ofNat_toNat] at known
    exact known digit

/-- The digits are the characters that have a value. -/
theorem mem_hexDigits {c : Char} : c ∈ hexDigits ↔ ∃ value, hexValue? c = some value := by
  -- The twenty-two digits are finitely many, and each has its value.
  have valued : hexDigits.all (fun digit => (hexValue? digit).isSome) = true := by decide
  exact ⟨fun member => Option.isSome_iff_exists.mp (List.all_eq_true.mp valued c member),
    fun ⟨_, digit⟩ => (of_hexValue? digit).2.2⟩

/-- What is no digit has no value. -/
theorem not_mem_hexDigits {c : Char} : c ∉ hexDigits ↔ hexValue? c = none := by
  -- The absence of a value is the negation of what was just shown.
  rw [mem_hexDigits, ← Option.isSome_iff_exists, Bool.not_eq_true, Option.isSome_eq_false_iff,
    Option.isNone_iff_eq_none]

/-- Every byte has two digits. -/
theorem length_digits (bytes : List UInt8) : (bytes.flatMap hexByte).length = 2 * bytes.length := by
  -- The induction is on the bytes, and each adds its two digits.
  induction bytes with
  | nil => rfl
  | cons byte bytes ih =>
    rw [List.flatMap_cons, List.length_append, ih, List.length_cons]
    show 2 + _ = _
    omega

/-- Bytes are written with small digits. -/
theorem of_mem_digits {bytes : List UInt8} {c : Char} (member : c ∈ bytes.flatMap hexByte) :
    ∃ value < 16, c = hexDigit value := by
  -- The digit stands for the upper or the lower half of some byte.
  obtain ⟨byte, -, written⟩ := List.mem_flatMap.mp member
  have small := byte.toNat_lt
  rcases List.mem_cons.mp written with rfl | low
  · exact ⟨_, by omega, rfl⟩
  · rw [List.mem_singleton.mp low]
    exact ⟨_, by omega, rfl⟩

/-- Characters that are the digits of bytes, but for their case, are digits. -/
theorem digits_of_lowered {chars : List Char} {bytes : List UInt8}
    (lowered : chars.map lowerChar = bytes.flatMap hexByte) : ∀ c ∈ chars, c ∈ hexDigits := by
  intro c member
  -- The lowered digit is among the written ones, and lowering has kept its value.
  have image := List.mem_map_of_mem (f := lowerChar) member
  rw [lowered] at image
  obtain ⟨value, small, same⟩ := of_mem_digits image
  refine mem_hexDigits.mpr ⟨value, ?_⟩
  rw [← hexValue?_lowerChar, same, hexValue?_hexDigit small]

/-- An even number of digits are those of bytes, but for their case. -/
theorem exists_lowered {chars : List Char} (digits : ∀ c ∈ chars, c ∈ hexDigits)
    (even : chars.length % 2 = 0) : ∃ bytes : List UInt8,
      chars.map lowerChar = bytes.flatMap hexByte := by
  -- The characters are taken two at a time, as the digits of one byte.
  induction chars using List.twoStepInduction with
  | nil => exact ⟨[], rfl⟩
  | singleton c => cases even
  | cons_cons high low chars ih =>
    obtain ⟨first, firstDigit⟩ := mem_hexDigits.mp (digits high (by simp))
    obtain ⟨second, secondDigit⟩ := mem_hexDigits.mp (digits low (by simp))
    rw [List.length_cons, List.length_cons] at even
    obtain ⟨bytes, lowered⟩ := ih (fun c member => digits c (by simp [member])) (by omega)
    obtain ⟨smallFirst, firstSame, -⟩ := of_hexValue? firstDigit
    obtain ⟨smallSecond, secondSame, -⟩ := of_hexValue? secondDigit
    -- The byte is put together from the two values, and its halves are these values again.
    refine ⟨UInt8.ofNat (first * 16 + second) :: bytes, ?_⟩
    have value := toNat_ofNat (show first * 16 + second < 256 by omega)
    rw [List.flatMap_cons, ← lowered, hexByte, value,
      show (first * 16 + second) / 16 = first by omega,
      show (first * 16 + second) % 16 = second by omega, firstSame, secondSame]
    rfl

/-- Digits are written as one byte each. -/
theorem length_encoded {chars : List Char} (digits : ∀ c ∈ chars, c ∈ hexDigits) :
    (chars.flatMap String.utf8EncodeChar).length = chars.length := by
  -- The induction is on the characters, and each digit is one byte.
  induction chars with
  | nil => rfl
  | cons c chars ih =>
    obtain ⟨value, digit⟩ := mem_hexDigits.mp (digits c List.mem_cons_self)
    rw [List.flatMap_cons, List.length_append, encode_digit digit,
      ih fun c member => digits c (List.mem_cons_of_mem _ member), List.length_singleton,
      List.length_cons, Nat.add_comm]

/-- Digits of either case are read as the bytes that have these digits. -/
theorem hexPairs_digits {chars : List Char} {bytes : List UInt8}
    (lowered : chars.map lowerChar = bytes.flatMap hexByte) (position : Nat) :
    hexPairs position (chars.flatMap String.utf8EncodeChar) = .ok bytes := by
  -- The induction is on the bytes, each of which accounts for two digits.
  induction bytes generalizing chars position with
  | nil =>
    rw [List.map_eq_nil_iff.mp lowered]
    rfl
  | cons byte bytes ih =>
    have small := byte.toNat_lt
    -- The two digits of the byte may be written in either case.
    obtain ⟨high, rest, rfl, highSame, lowered⟩ := List.map_eq_cons_iff.mp lowered
    obtain ⟨low, rest, rfl, lowSame, lowered⟩ := List.map_eq_cons_iff.mp lowered
    have first : hexValue? high = some (byte.toNat / 16) := by
      rw [← hexValue?_lowerChar, highSame, hexValue?_hexDigit (by omega)]
    have second : hexValue? low = some (byte.toNat % 16) := by
      rw [← hexValue?_lowerChar, lowSame, hexValue?_hexDigit (by omega)]
    have one := encode_digit first
    have two := encode_digit second
    rw [List.flatMap_cons, List.flatMap_cons, one, two, List.singleton_append,
      List.singleton_append, hexPairs, hexValue?_first one, hexValue?_first two, first, second]
    simp only [ih lowered, Nat.div_add_mod', UInt8.ofNat_toNat]
    rfl

/-- The first character that is no digit is told by its first byte and its place. -/
theorem hexPairs_badDigit {early late : List Char} {c : Char} {first : UInt8} {tail : List UInt8}
    (digits : ∀ digit ∈ early, digit ∈ hexDigits) (other : c ∉ hexDigits)
    (written : String.utf8EncodeChar c = first :: tail)
    (even : ((early ++ c :: late).flatMap String.utf8EncodeChar).length % 2 = 0) (position : Nat) :
    hexPairs position ((early ++ c :: late).flatMap String.utf8EncodeChar) =
      .error (.badDigit first (position + early.length)) := by
  have none : hexValue? (Char.ofNat first.toNat) = none := by
    rw [hexValue?_first written, not_mem_hexDigits.mp other]
  -- The digits before it are taken two at a time, as they are read.
  induction early using List.twoStepInduction generalizing position with
  | nil =>
    rw [List.nil_append, List.flatMap_cons, written, List.cons_append] at even ⊢
    -- Since the bytes are even in number, another one follows.
    match rest : tail ++ late.flatMap String.utf8EncodeChar with
    | [] =>
      rw [rest] at even
      cases even
    | low :: more => simp only [hexPairs, none, List.length_nil, Nat.add_zero]
  | singleton high =>
    obtain ⟨value, digit⟩ := mem_hexDigits.mp (digits high List.mem_cons_self)
    have one := encode_digit digit
    rw [List.singleton_append, List.flatMap_cons, List.flatMap_cons, one, written,
      List.singleton_append, List.cons_append, hexPairs, hexValue?_first one, digit, none]
    rfl
  | cons_cons high low early ih =>
    obtain ⟨value, digit⟩ := mem_hexDigits.mp (digits high (by simp))
    obtain ⟨next, second⟩ := mem_hexDigits.mp (digits low (by simp))
    have one := encode_digit digit
    have two := encode_digit second
    rw [List.cons_append, List.cons_append, List.flatMap_cons, List.flatMap_cons, one, two,
      List.singleton_append, List.singleton_append] at even ⊢
    rw [List.length_cons, List.length_cons] at even
    have onward := ih (fun digit member => digits digit (by simp [member])) (by omega)
      (position + 2)
    rw [hexPairs, hexValue?_first one, hexValue?_first two, digit, second]
    simp only [onward, List.length_cons]
    rw [show position + 2 + early.length = position + (early.length + 1 + 1) by omega]
    rfl

/-- Characters are all digits, or one of them is the first that is none. -/
theorem digits_or_first (chars : List Char) : (∀ c ∈ chars, c ∈ hexDigits) ∨
    ∃ early c late, chars = early ++ c :: late ∧ (∀ digit ∈ early, digit ∈ hexDigits) ∧
      c ∉ hexDigits := by
  -- The induction is on the characters, and the first of them decides where the search ends.
  induction chars with
  | nil => exact .inl nofun
  | cons c chars ih =>
    by_cases digit : c ∈ hexDigits
    · rcases ih with all | ⟨early, other, late, rfl, digits, none⟩
      · exact .inl (List.forall_mem_cons.mpr ⟨digit, all⟩)
      · exact .inr ⟨c :: early, other, late, rfl, List.forall_mem_cons.mpr ⟨digit, digits⟩, none⟩
    · exact .inr ⟨[], c, chars, rfl, nofun, digit⟩

section Reading

variable {width : Nat} {text : String}

/-- An odd number of bytes is told before anything else. -/
theorem ofHex_odd (odd : (utf8 text).length % 2 ≠ 0) : ofHex width text = .error .oddLength :=
  -- The length is looked at before the width is.
  if_pos odd

/-- A wrong number of bytes is told next. -/
theorem ofHex_wrong (even : (utf8 text).length % 2 = 0) (wrong : (utf8 text).length ≠ 2 * width) :
    ofHex width text = .error .wrongLength := by
  -- The even length passes the first test and fails the second.
  rw [ofHex, if_neg (by omega), if_pos (by omega)]

/-- Text of the right length is read in pairs. -/
theorem ofHex_right (right : (utf8 text).length = 2 * width) :
    ofHex width text = hexPairs 0 (utf8 text) := by
  -- Both tests of the length are passed.
  rw [ofHex, if_neg (by omega), if_neg (by omega)]

/-- The bytes that a text is read as are those that it is written for, but for the case of its
digits. -/
theorem ofHex_eq_ok {bytes : List UInt8} :
    ofHex width text = .ok bytes ↔ bytes.length = width ∧ lower text = hex bytes := by
  have same : lower text = hex bytes ↔ text.toList.map lowerChar = bytes.flatMap hexByte := by
    rw [lower, hex, String.ofList_inj]
  rw [same]
  constructor
  · -- The length is checked first, in bytes, and then the characters one after the other.
    intro read
    by_cases odd : (utf8 text).length % 2 ≠ 0
    · cases (ofHex_odd odd).symm.trans read
    by_cases wrong : (utf8 text).length ≠ 2 * width
    · cases (ofHex_wrong (by omega) wrong).symm.trans read
    have right : (utf8 text).length = 2 * width := by omega
    rw [ofHex_right right] at read
    rcases digits_or_first text.toList with digits | ⟨early, c, late, split, digits, other⟩
    · have length : (utf8 text).length = text.toList.length := length_encoded digits
      obtain ⟨found, lowered⟩ := exists_lowered digits (by omega)
      -- The bytes that have these digits are the ones that were read.
      cases (hexPairs_digits lowered 0).symm.trans read
      have twice := congrArg List.length lowered
      rw [List.length_map, length_digits] at twice
      exact ⟨by omega, lowered⟩
    · -- A character that is no digit stops the reading, so nothing is read.
      obtain ⟨first, tail, written⟩ := List.exists_cons_of_ne_nil (@String.utf8EncodeChar_ne_nil c)
      rw [utf8, split] at read right
      cases (hexPairs_badDigit digits other written (by omega) 0).symm.trans read
  · -- Digits in either case are one byte each, so the length is that of the text.
    rintro ⟨rfl, lowered⟩
    have twice := congrArg List.length lowered
    rw [List.length_map, length_digits] at twice
    rw [ofHex_right ((length_encoded (digits_of_lowered lowered)).trans twice)]
    exact hexPairs_digits lowered 0

/-- In a text of the right length the first character that is no digit is told by its first byte
and its place. -/
theorem ofHex_badDigit {early late : List Char} {c : Char} {first : UInt8} {tail : List UInt8}
    (right : (utf8 text).length = 2 * width) (split : text.toList = early ++ c :: late)
    (digits : ∀ digit ∈ early, digit ∈ hexDigits) (other : c ∉ hexDigits)
    (written : String.utf8EncodeChar c = first :: tail) :
    ofHex width text = .error (.badDigit first early.length) := by
  rw [ofHex_right right]
  -- The bytes are those of the digits, then those of the character, and the place is counted in
  -- them.
  rw [utf8, split] at right ⊢
  rw [hexPairs_badDigit digits other written (by omega) 0, Nat.zero_add]

end Reading

/-- Small digits are not changed by lowering. -/
theorem lower_hex (bytes : List UInt8) : lower (hex bytes) = hex bytes := by
  -- Lowering leaves each of the sixteen small digits alone.
  have small : ∀ value : Fin 16, lowerChar (hexDigit value) = hexDigit value := by decide
  rw [lower, hex, String.toList_ofList, String.ofList_inj]
  refine (List.map_congr_left fun c member => ?_).trans (List.map_id _)
  obtain ⟨value, low, rfl⟩ := of_mem_digits member
  exact small ⟨value, low⟩

/-- Bytes are read back from their text. -/
theorem ofHex_hex (bytes : List UInt8) : ofHex bytes.length (hex bytes) = .ok bytes :=
  -- The text has the right length, and its lowered form is itself.
  ofHex_eq_ok.mpr ⟨rfl, lower_hex bytes⟩

/-- Different bytes have different texts. -/
theorem hex_inj {first second : List UInt8} : hex first = hex second ↔ first = second := by
  refine ⟨fun same => ?_, congrArg hex⟩
  -- Texts of one length are digits of as many bytes, and reading is a function of the text.
  have lengths := congrArg (fun text : String => text.toList.length) same
  simp only [hex, String.toList_ofList, length_digits] at lengths
  have read := ofHex_hex first
  rw [same, show first.length = second.length by omega, ofHex_hex] at read
  exact (Except.ok.inj read).symm

end SessionGate.Text
