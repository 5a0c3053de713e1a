import SessionGate.Text.Number

/-! Decimal text: the numbers that it is read as. -/

namespace SessionGate.Text

/-- Digits that follow make a number no smaller. -/
theorem le_ofDigitChars (chars : List Char) (value : Nat) :
    value ≤ Nat.ofDigitChars 10 chars value := by
  -- The number so far stays general, since each digit makes it ten times as large and more.
  induction chars generalizing value with
  | nil => simp
  | cons c chars ih =>
    rw [Nat.ofDigitChars_cons]
    exact Nat.le_trans (by omega) (ih _)

/-- A text spells a number in decimal digits, which may have a plus before them. -/
def Spells (text : String) (value : Nat) : Prop :=
  ∃ digits : List Char, digits ≠ [] ∧ (∀ c ∈ digits, c.isDigit = true) ∧
    (text.toList = digits ∨ text.toList = '+' :: digits) ∧ Nat.ofDigitChars 10 digits 0 = value

/-- The characters from zero to nine are the decimal digits. -/
theorem isDigit_iff {c : Char} : c.isDigit = true ↔ '0' ≤ c ∧ c ≤ '9' := by
  -- The order of characters is that of their numbers.
  rw [Char.isDigit_iff_toNat, Char.le_def, Char.le_def, UInt32.le_iff_toNat_le,
    UInt32.le_iff_toNat_le]
  rfl

section Reading

variable {largest value : Nat}

/-- Digits are read one after the other. -/
theorem readDigits_cons {start : Nat} {c : Char} {chars : List Char} :
    readDigits largest start (c :: chars) =
      if c.isDigit = true then
        if 10 * start + (c.toNat - '0'.toNat) ≤ largest
          then readDigits largest (10 * start + (c.toNat - '0'.toNat)) chars
          else .error .tooLarge
      else .error .notDigit := by
  -- The two ways to tell a digit are the same, and only the order of a product differs.
  simp only [readDigits, isDigit_iff, Nat.mul_comm start]
  rfl

/-- Digits are read as the number that they make, if it is not too large. -/
theorem readDigits_eq_ok {start : Nat} (small : start ≤ largest) {chars : List Char} :
    readDigits largest start chars = .ok value ↔
      (∀ c ∈ chars, c.isDigit = true) ∧ Nat.ofDigitChars 10 chars start = value ∧
        value ≤ largest := by
  induction chars generalizing start with
  | nil =>
    rw [readDigits, Nat.ofDigitChars_nil, Except.ok.injEq]
    exact ⟨fun same => ⟨nofun, same, same ▸ small⟩, fun ⟨_, same, _⟩ => same⟩
  | cons c chars ih =>
    rw [readDigits_cons, Nat.ofDigitChars_cons, List.forall_mem_cons]
    by_cases digit : c.isDigit = true
    · by_cases within : 10 * start + (c.toNat - '0'.toNat) ≤ largest
      · rw [if_pos digit, if_pos within, ih within]
        simp only [digit, true_and]
      · -- What is too large already does not become small again.
        rw [if_pos digit, if_neg within]
        refine ⟨nofun, fun ⟨_, same, below⟩ => absurd ?_ within⟩
        exact Nat.le_trans (le_ofDigitChars chars _) (same ▸ below)
    · -- A character that is no digit ends the reading and spells nothing.
      rw [if_neg digit]
      exact ⟨nofun, fun ⟨⟨first, _⟩, _⟩ => absurd first digit⟩

/-- A text is read as the number that it spells, if this is not too large. -/
theorem readNumber_eq_ok {text : String} :
    readNumber largest text = .ok value ↔ Spells text value ∧ value ≤ largest := by
  unfold readNumber Spells
  split
  -- An empty text spells no number.
  next empty =>
    refine ⟨nofun, ?_⟩
    rintro ⟨⟨digits, some, -, told | told, -⟩, -⟩
    · exact absurd (told.symm.trans empty) some
    · cases told.symm.trans empty
  -- A sign alone has no digits behind it.
  next sign =>
    refine ⟨nofun, ?_⟩
    rintro ⟨⟨digits, some, all, told | told, -⟩, -⟩
    · have plus := all '+' (by rw [← told, sign]; exact List.mem_cons_self)
      cases plus
    · exact absurd (List.cons.inj (told.symm.trans sign)).2 some
  next digits more signed =>
    rw [readDigits_eq_ok (Nat.zero_le _)]
    constructor
    · rintro ⟨all, same, small⟩
      exact ⟨⟨digits, fun none => more (none ▸ rfl), all, .inr signed, same⟩, small⟩
    · rintro ⟨⟨found, -, all, told | told, same⟩, small⟩
      · -- A plus is no digit.
        have plus := all '+' (by rw [← told, signed]; exact List.mem_cons_self)
        cases plus
      · obtain rfl := (List.cons.inj (told.symm.trans signed)).2
        exact ⟨all, same, small⟩
  -- Without a sign all of the text are digits.
  next some _ unsigned =>
    rw [readDigits_eq_ok (Nat.zero_le _)]
    constructor
    · rintro ⟨all, same, small⟩
      exact ⟨⟨_, some, all, .inl rfl, same⟩, small⟩
    · rintro ⟨⟨found, -, all, told | told, same⟩, small⟩
      · exact ⟨told ▸ all, told ▸ same, small⟩
      · exact absurd told (unsigned _)

end Reading

end SessionGate.Text
