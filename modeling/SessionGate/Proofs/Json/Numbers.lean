import SessionGate.Proofs.Json.Records
import SessionGate.Proofs.Text.Number

/-! Integers are read back from their decimal digits. -/

namespace SessionGate.Json

namespace Reader

variable {rest : List UInt8}

/-- Where a value ends, nothing is left, or the next byte is one of two marks. -/
theorem ended_cases (ended : Ended rest) :
    rest = [] ∨ (∃ tail, rest = 0x2C :: tail) ∨ ∃ tail, rest = 0x7D :: tail := by
  -- An empty rest and the two marks are all that the definition allows.
  cases rest with
  | nil => exact .inl rfl
  | cons mark tail =>
    rcases ended mark rfl with rfl | rfl
    · exact .inr (.inl ⟨tail, rfl⟩)
    · exact .inr (.inr ⟨tail, rfl⟩)

/-- The byte of a decimal digit. -/
def digitByte (c : Char) : UInt8 := UInt8.ofNat c.toNat

/-- Decimal digits have one byte each. -/
theorem encoded_digits {chars : List Char} (digits : ∀ c ∈ chars, c.isDigit = true) :
    encoded chars = chars.map digitByte := by
  -- The induction is on the digits, all of which are below 128.
  induction chars with
  | nil => rfl
  | cons c chars ih =>
    have bounds : 48 ≤ c.toNat ∧ c.toNat ≤ 57 :=
      Char.isDigit_iff_toNat.mp (digits c List.mem_cons_self)
    have others := ih fun c member => digits c (List.mem_cons_of_mem _ member)
    rw [encoded, List.flatMap_cons, Text.encode_ascii (by omega), List.map_cons]
    exact congrArg _ others

/-- The byte of a decimal digit has the value of the digit. -/
theorem toNat_digitByte {c : Char} (digit : c.isDigit = true) :
    (digitByte c).toNat = c.toNat := by
  -- A digit is far below 256.
  have bounds : 48 ≤ c.toNat ∧ c.toNat ≤ 57 := Char.isDigit_iff_toNat.mp digit
  exact Text.toNat_ofNat (by omega)

/-- The byte of a decimal digit is one of the digits. -/
theorem isDigit_digitByte {c : Char} (digit : c.isDigit = true) :
    isDigit (digitByte c) = true := by
  -- The bounds are those of the digits themselves.
  have bounds : 48 ≤ c.toNat ∧ c.toNat ≤ 57 := Char.isDigit_iff_toNat.mp digit
  rw [isDigit, Text.between_iff, toNat_digitByte digit]
  exact bounds

/-- Digits of a number within one machine word are kept to the last one. -/
theorem leadingValue_digits {chars : List Char} (digits : ∀ c ∈ chars, c.isDigit = true)
    (value count : Nat) (small : Nat.ofDigitChars 10 chars value ≤ wordLimit) :
    leadingValue value count (chars.map digitByte) =
      (Nat.ofDigitChars 10 chars value, count + chars.length) := by
  induction chars generalizing value count with
  | nil => simp [leadingValue]
  | cons c chars ih =>
    have own : digitValue (digitByte c) = c.toNat - '0'.toNat := by
      rw [digitValue, toNat_digitByte (digits c List.mem_cons_self)]
      rfl
    rw [Nat.ofDigitChars_cons, Nat.mul_comm] at small
    -- What was read so far is no more than the whole number.
    have kept : ¬ value * 10 + (c.toNat - '0'.toNat) > wordLimit :=
      Nat.not_lt.mpr (Nat.le_trans (Text.le_ofDigitChars chars _) small)
    rw [List.map_cons, leadingValue, own]
    simp only [if_neg kept]
    rw [ih (fun c member => digits c (List.mem_cons_of_mem _ member)) _ _ small,
      Nat.ofDigitChars_cons, Nat.mul_comm, List.length_cons, Nat.add_right_comm, Nat.add_assoc]

/-- The digits of a number. -/
theorem isDigit_of_mem {value : Nat} : ∀ c ∈ Nat.toDigits 10 value, c.isDigit = true :=
  -- The digits are to the base ten.
  fun _ member => Nat.isDigit_of_mem_toDigits (by decide) (by decide) member

/-- Only zero has a leading zero. -/
theorem head?_toDigits {value : Nat} (positive : 0 < value) :
    ∃ c chars, Nat.toDigits 10 value = c :: chars ∧ c ≠ '0' := by
  -- The induction takes away the last digit.
  induction value using Nat.strongRecOn with
  | _ value ih =>
    rcases Nat.lt_or_ge value 10 with one | more
    · refine ⟨_, [], Nat.toDigits_of_lt_base one, ?_⟩
      intro zero
      have weight := Nat.toNat_digitChar_of_lt_ten one
      rw [zero] at weight
      simp at weight
      omega
    · obtain ⟨c, chars, leading, other⟩ := ih (value / 10) (by omega) (by omega)
      refine ⟨c, chars ++ [Nat.digitChar (value % 10)], ?_, other⟩
      rw [Nat.toDigits_of_base_le (by decide) more, leading, List.cons_append]

/-- The integer of a magnitude and a sign. -/
def signed (positive : Bool) (value : Nat) : Int := if positive then value else -value

/-- An integer of one machine word, with a sign only where it is below zero. -/
structure InWord (positive : Bool) (value : Nat) : Prop where
  small : value ≤ wordLimit
  below : positive = false → 0 < value ∧ value ≤ Nat.pow 2 63

/-- Where a number ends behind its digits, it is an integer. -/
theorem afterDigits_ended {positive : Bool} {value : Nat} (word : InWord positive value)
    (ended : Ended rest) :
    afterDigits positive ((Nat.toDigits 10 value).map digitByte) rest =
      .ok (.integer (signed positive value), rest) := by
  -- All of the digits count, since the number fits into a word.
  have kept : leadingValue 0 0 ((Nat.toDigits 10 value).map digitByte) =
      (value, (Nat.toDigits 10 value).length) := by
    rw [leadingValue_digits isDigit_of_mem 0 0 (by simpa using word.small)]
    simp
  -- The number is an integer under either sign, so far as its range allows.
  have integer : (if positive then pure (.integer value)
      else if value == 0 || value > Nat.pow 2 63 then pure .other
      else pure (.integer (-value)) : Reader Number) = pure (.integer (signed positive value)) := by
    cases positive with
    | true => rfl
    | false =>
      obtain ⟨nonzero, least⟩ := word.below rfl
      have inRange : ¬ (value == 0 || value > Nat.pow 2 63) = true := by
        simp only [Bool.or_eq_true, beq_iff_eq, decide_eq_true_eq]
        omega
      rw [if_neg Bool.false_ne_true, if_neg inRange]
      rfl
  rw [afterDigits, kept]
  simp only [List.length_map, Nat.sub_self, gt_iff_lt, Nat.lt_irrefl, if_false] at integer ⊢
  rw [integer]
  -- Neither a point nor an exponent stands where a value ends.
  rcases ended_cases ended with rfl | ⟨tail, rfl⟩ | ⟨tail, rfl⟩ <;> rfl

/-- Where a value ends, no digit follows. -/
theorem digitRun_ended {chars : List Char} (digits : ∀ c ∈ chars, c.isDigit = true)
    (ended : Ended rest) :
    digitRun (chars.map digitByte ++ rest) = .ok (chars.map digitByte, rest) := by
  -- All the bytes taken are digits, and the first one behind them is a mark or none.
  have all : ∀ byte ∈ chars.map digitByte, isDigit byte = true := by
    intro byte member
    obtain ⟨c, among, rfl⟩ := List.mem_map.mp member
    exact isDigit_digitByte (digits c among)
  have none : rest.takeWhile isDigit = [] ∧ rest.dropWhile isDigit = rest := by
    rcases ended_cases ended with rfl | ⟨tail, rfl⟩ | ⟨tail, rfl⟩ <;> exact ⟨rfl, rfl⟩
  rw [digitRun, List.takeWhile_append_of_pos all, List.dropWhile_append_of_pos all, none.1, none.2,
    List.append_nil]

/-- The digits of a number are read back. -/
theorem unsigned_digits {positive : Bool} {value : Nat} (word : InWord positive value)
    (ended : Ended rest) :
    unsigned positive (encoded (Nat.toDigits 10 value) ++ rest) =
      .ok (.integer (signed positive value), rest) := by
  have read := afterDigits_ended word ended
  rw [encoded_digits isDigit_of_mem]
  rcases Nat.eq_zero_or_pos value with rfl | nonzero
  · -- Behind a leading zero only the end may follow.
    rw [Nat.toDigits_zero] at read ⊢
    have taken : next (['0'].map digitByte ++ rest) = .ok (0x30, rest) := rfl
    rw [unsigned, bind_ok taken, if_pos (by rfl)]
    rcases ended_cases ended with rfl | ⟨tail, rfl⟩ | ⟨tail, rfl⟩ <;> exact read
  · -- A number that does not begin with a zero is read digit by digit.
    obtain ⟨c, chars, leading, other⟩ := head?_toDigits nonzero
    have digits : ∀ digit ∈ c :: chars, digit.isDigit = true := leading ▸ isDigit_of_mem
    have own := digits c List.mem_cons_self
    have notZero : ¬ (digitByte c == 0x30) = true := by
      rw [beq_iff_eq, ← UInt8.toNat_inj, toNat_digitByte own]
      exact fun same => other (Char.toNat_inj.mp same)
    rw [leading, List.map_cons] at read ⊢
    have taken : next ((digitByte c :: chars.map digitByte) ++ rest) =
        .ok (digitByte c, chars.map digitByte ++ rest) := rfl
    rw [unsigned, bind_ok taken, if_neg notZero, if_pos (isDigit_digitByte own),
      -- The run of the digits ends where the value ends.
      bind_ok (digitRun_ended (fun c member => digits c (List.mem_cons_of_mem _ member)) ended)]
    exact read

/-- The digits of a number are not empty and begin with a digit. -/
theorem encoded_toDigits (value : Nat) :
    ∃ byte tail, encoded (Nat.toDigits 10 value) = byte :: tail ∧ isDigit byte = true := by
  -- A number has at least one digit.
  cases digits : Nat.toDigits 10 value with
  | nil => exact absurd digits Nat.toDigits_ne_nil
  | cons c chars =>
    have own : ∀ digit ∈ c :: chars, digit.isDigit = true := digits ▸ isDigit_of_mem
    refine ⟨digitByte c, chars.map digitByte, ?_, isDigit_digitByte (own c List.mem_cons_self)⟩
    rw [encoded_digits own, List.map_cons]

/-- A digit is no other byte below the digits. -/
theorem beq_of_isDigit {byte other : UInt8} (digit : isDigit byte = true)
    (below : other.toNat < 48) : (byte == other) = false := by
  -- The two bytes lie on different sides of the first digit.
  have bounds := Text.between_iff.mp digit
  rw [beq_eq_false_iff_ne, ne_eq, ← UInt8.toNat_inj]
  exact Nat.ne_of_gt (Nat.lt_of_lt_of_le below bounds.1)

/-- A digit is no blank. -/
theorem isSpace_of_isDigit {byte : UInt8} (digit : isDigit byte = true) :
    isSpace byte = false := by
  -- All blanks lie below the digits.
  simp [isSpace, beq_of_isDigit digit]

/-- An integer of one machine word is read back, if it lies between the bounds. -/
theorem reads_number {low high value : Int} (above : low ≤ value) (below : value ≤ high)
    (least : -Int.pow 2 63 ≤ value) (most : value < Int.pow 2 63) :
    Reads (integerValue low high) (.number value) := by
  -- The sign is written before the digits, and the digits fit into a word either way.
  have accepted : (low ≤ value && value ≤ high) = true := by simp [above, below]
  have chars : (Json.number value).chars = digits value := by rw [Json.chars]
  -- The limits are named by powers, and as numbers they are open to linear arithmetic.
  have reach : Int.pow 2 63 = 9223372036854775808 ∧ Nat.pow 2 63 = 9223372036854775808 ∧
      wordLimit = 18446744073709551615 := ⟨rfl, rfl, rfl⟩
  rw [reach.1] at least most
  intro rest ended
  rw [chars, digits]
  split
  next negative =>
    -- A negative number is read from its absolute value, and the sign put back.
    have word : InWord false value.natAbs :=
      ⟨by rw [reach.2.2]; omega, fun _ => ⟨by omega, by rw [reach.2.1]; omega⟩⟩
    have same : signed false value.natAbs = value := by
      show -(value.natAbs : Int) = value
      omega
    have read := unsigned_digits word ended
    rw [same] at read
    have minus : encoded ('-' :: Nat.toDigits 10 value.natAbs) ++ rest =
      0x2D :: (encoded (Nat.toDigits 10 value.natAbs) ++ rest) := rfl
    rw [minus, integerValue, bind_ok (peekMark_cons rfl)]
    show (skip >>= fun _ => unsigned false >>= fun found => _) _ = _
    rw [bind_ok (show skip _ = .ok ((), _) from rfl), List.drop_one, List.tail_cons, bind_ok read]
    show (if (low ≤ value && value ≤ high) = true then pure (.number value)
      else fail .mismatched : Reader Json) rest = _
    rw [if_pos accepted]
    rfl
  next nonnegative =>
    -- The others have no sign, so their first character is a digit.
    have word : InWord true value.natAbs :=
      ⟨by rw [reach.2.2]; omega, fun negative => by cases negative⟩
    have same : signed true value.natAbs = value := by
      show (value.natAbs : Int) = value
      omega
    have read := unsigned_digits word ended
    rw [same] at read
    obtain ⟨byte, tail, leading, digit⟩ := encoded_toDigits value.natAbs
    have noMinus : (byte == 0x2D) = false := beq_of_isDigit digit (by decide)
    rw [leading, List.cons_append] at read ⊢
    rw [integerValue, bind_ok (peekMark_cons (isSpace_of_isDigit digit))]
    simp only [noMinus, digit, Bool.false_eq_true, if_false, if_true]
    show (unsigned true >>= fun found => _) _ = _
    rw [bind_ok read]
    show (if (low ≤ value && value ≤ high) = true then pure (.number value)
      else fail .mismatched : Reader Json) rest = _
    rw [if_pos accepted]
    rfl

end Reader

end SessionGate.Json
