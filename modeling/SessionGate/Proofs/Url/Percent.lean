import SessionGate.Proofs.Text.Hex
import SessionGate.Url.Percent

/-! Escapes are undone by decoding: all of a text comes back from a set that escapes the percent
sign, and from one that does not just what decoding leaves of the text itself. -/

namespace SessionGate.Url

open Text (encode_digit hexDigitCapital hexValue? hexValue?_beyond hexValue?_first)

/-- A text begins with a hexadecimal digit. -/
def startsWithDigit : List Char → Bool
  | [] => false
  | c :: _ => (hexValue? c).isSome

/-- A text begins with two hexadecimal digits. -/
def startsWithDigits : List Char → Bool
  | [] => false
  | c :: rest => (hexValue? c).isSome && startsWithDigit rest

/-- A percent sign of a text stands before two hexadecimal digits, as it does in an escape. -/
def holdsEscape : List Char → Bool
  | [] => false
  | c :: rest => (c == '%' && startsWithDigits rest) || holdsEscape rest

/-- The digits of half a byte have its value. -/
theorem hexValue?_hexDigitCapital {value : Nat} (small : value < 16) :
    hexValue? (hexDigitCapital value) = some value := by
  -- There are sixteen digits, so all of them are tried.
  have digits : ∀ digit : Fin 16, hexValue? (hexDigitCapital digit) = some digit.val := by decide
  exact digits ⟨value, small⟩

/-- Bytes other than a percent sign stay as they are. -/
theorem decodeBytes_append {bytes : List UInt8} (plain : ∀ byte ∈ bytes, byte ≠ 0x25)
    (rest : List UInt8) : decodeBytes (bytes ++ rest) = bytes ++ decodeBytes rest := by
  -- The induction is on the bytes, none of which begins an escape.
  induction bytes with
  | nil => rfl
  | cons byte bytes ih =>
    have other := plain byte List.mem_cons_self
    rw [List.cons_append, decodeBytes.eq_2 _ _ fun _ _ _ percent _ => other percent,
      ih fun byte member => plain byte (List.mem_cons_of_mem _ member)]
    rfl

/-- A percent sign stays where no two digits follow. -/
theorem decodeBytes_percent {bytes : List UInt8}
    (alone : ∀ high low rest, bytes = high :: low :: rest →
      hexValue? (Char.ofNat high.toNat) = none ∨ hexValue? (Char.ofNat low.toNat) = none) :
    decodeBytes (0x25 :: bytes) = 0x25 :: decodeBytes bytes := by
  -- Fewer than two bytes cannot be digits, and of two bytes one is none.
  match bytes with
  | [] => rfl
  | [_] => rfl
  | high :: low :: rest =>
    rw [decodeBytes]
    rcases alone high low rest rfl with none | none
    · rw [none]
    · rw [none]
      cases hexValue? (Char.ofNat high.toNat) <;> rfl

variable {escaped : EscapeSet} {c high low : Char} {rest chars : List Char}

/-- A character that is no percent sign stands for its own bytes. -/
theorem decode_cons (plain : c ≠ '%') (rest : List Char) :
    decode (c :: rest) = String.utf8EncodeChar c ++ decode rest := by
  -- Only the percent sign itself has the byte of a percent sign.
  refine decodeBytes_append (fun byte member percent => plain ?_) _
  rcases Text.mem_encode member with ⟨ascii, same⟩ | ⟨wide, marked⟩
  · rw [percent] at same
    exact Char.toNat_inj.mp same.symm
  · rw [percent] at marked
    exact absurd marked (by decide)

/-- An escape stands for its byte. -/
theorem decode_escape {a b : Nat} (first : hexValue? high = some a)
    (second : hexValue? low = some b) (rest : List Char) :
    decode ('%' :: high :: low :: rest) = UInt8.ofNat (a * 16 + b) :: decode rest := by
  -- Each of the three characters is one byte, and the bytes of the digits have their values.
  have one := encode_digit first
  have two := encode_digit second
  have bytes : ('%' :: high :: low :: rest).flatMap String.utf8EncodeChar =
      0x25 :: UInt8.ofNat high.toNat :: UInt8.ofNat low.toNat ::
        rest.flatMap String.utf8EncodeChar := by
    rw [List.flatMap_cons, List.flatMap_cons, List.flatMap_cons, one, two]
    rfl
  rw [decode, bytes, decodeBytes, hexValue?_first one, hexValue?_first two, first, second]
  rfl

/-- The first byte of a text is the first one of its first character. -/
theorem exists_first {first : UInt8} {more : List UInt8}
    (bytes : chars.flatMap String.utf8EncodeChar = first :: more) :
    ∃ c others tail, chars = c :: others ∧ String.utf8EncodeChar c = first :: tail ∧
      more = tail ++ others.flatMap String.utf8EncodeChar := by
  -- Every character is written as at least one byte.
  cases chars with
  | nil => cases bytes
  | cons c others =>
    obtain ⟨byte, tail, written⟩ := List.exists_cons_of_ne_nil (@String.utf8EncodeChar_ne_nil c)
    rw [List.flatMap_cons, written] at bytes
    obtain ⟨rfl, rfl⟩ := List.cons.inj bytes
    exact ⟨c, others, tail, rfl, written, rfl⟩

/-- A percent sign without two digits behind it stands for itself. -/
theorem decode_percent (alone : startsWithDigits rest = false) :
    decode ('%' :: rest) = 0x25 :: decode rest := by
  refine decodeBytes_percent fun first second more bytes => ?_
  obtain ⟨high, others, tail, rfl, written, behind⟩ := exists_first bytes
  rw [hexValue?_first written]
  cases digit : hexValue? high with
  | none => exact .inl rfl
  | some value =>
    -- A digit has one byte, so the second byte begins the next character.
    cases (encode_digit digit).symm.trans written
    obtain ⟨low, others, tail, rfl, next, -⟩ := exists_first behind.symm
    rw [hexValue?_first next]
    rw [startsWithDigits, digit] at alone
    exact .inr (Option.not_isSome_iff_eq_none.mp (by simpa [startsWithDigit] using alone))

/-- A byte comes back from its escape. -/
theorem decode_escapeByte (byte : UInt8) (rest : List Char) :
    decode (escapeByte byte ++ rest) = byte :: decode rest := by
  -- The two digits are the quotient and the remainder by sixteen, which make up the byte again.
  have bound := byte.toNat_lt
  have digits := decode_escape
    (hexValue?_hexDigitCapital (show byte.toNat / 16 < 16 by omega))
    (hexValue?_hexDigitCapital (show byte.toNat % 16 < 16 by omega)) rest
  rwa [Nat.div_add_mod', UInt8.ofNat_toNat] at digits

/-- A character comes back from what is written for it, if a percent sign is escaped. -/
theorem decode_encodeChar (told : c = '%' → escaped c = true) (rest : List Char) :
    decode (encodeChar escaped c ++ rest) = String.utf8EncodeChar c ++ decode rest := by
  rw [encodeChar]
  split
  next plain =>
    refine decode_cons (fun percent => ?_) rest
    simp [told percent] at plain
  next =>
    -- Every byte comes back from its escape, whatever bytes they are.
    generalize String.utf8EncodeChar c = bytes
    induction bytes with
    | nil => rfl
    | cons byte bytes ih =>
      rw [List.flatMap_cons, List.append_assoc, decode_escapeByte, ih]
      rfl

/-- Where the percent sign is escaped, decoding undoes encoding. -/
theorem decode_encode (percent : escaped '%' = true) (chars : List Char) :
    decode (encode escaped chars) = chars.flatMap String.utf8EncodeChar := by
  -- The induction is on the characters: each is told by itself, since its percent sign would be
  -- escaped.
  induction chars with
  | nil => rfl
  | cons c chars ih =>
    have told : c = '%' → escaped c = true := fun same => same ▸ percent
    rw [encode, List.flatMap_cons, decode_encodeChar told, List.flatMap_cons]
    exact congrArg _ ih

/-- The characters of escapes. -/
def escapeChars : List Char := "%0123456789ABCDEF".toList

/-- The digits of escapes are among the characters of escapes. -/
theorem hexDigitCapital_mem {value : Nat} (small : value < 16) :
    hexDigitCapital value ∈ escapeChars := by
  -- There are sixteen digits, and each is looked at.
  have digits : ∀ digit : Fin 16, hexDigitCapital digit ∈ escapeChars := by decide
  exact digits ⟨value, small⟩

/-- What is written for a text are characters of it that need no escape, and escapes. -/
theorem of_mem_encode (member : c ∈ encode escaped chars) :
    (c ∈ chars ∧ escaped c = false) ∨ c ∈ escapeChars := by
  -- A character is written as itself or byte by byte as escapes.
  obtain ⟨d, among, written⟩ := List.mem_flatMap.mp member
  rw [encodeChar] at written
  split at written
  next plain =>
    obtain rfl := List.mem_singleton.mp written
    simp only [Bool.and_eq_true, Bool.not_eq_true'] at plain
    exact .inl ⟨among, plain.2⟩
  next =>
    obtain ⟨byte, -, digit⟩ := List.mem_flatMap.mp written
    have bound := byte.toNat_lt
    simp only [escapeByte, List.mem_cons, List.not_mem_nil, or_false] at digit
    rcases digit with rfl | rfl | rfl
    · exact .inr (by decide)
    · exact .inr (hexDigitCapital_mem (by omega))
    · exact .inr (hexDigitCapital_mem (by omega))

/-- An escaped character that no escape is made of is not in what is written for a text. -/
theorem not_mem_encode (hidden : escaped c = true) (foreign : c ∉ escapeChars) (chars : List Char) :
    c ∉ encode escaped chars := by
  -- It would be unescaped, or part of an escape, and it is neither.
  intro member
  rcases of_mem_encode member with ⟨-, plain⟩ | digit
  · rw [hidden] at plain
    cases plain
  · exact foreign digit

/-- A set that escapes neither the percent sign nor a hexadecimal digit, and so leaves the escapes
that a text holds as they are. -/
structure KeepsEscapes (escaped : EscapeSet) : Prop where
  percent : escaped '%' = false
  digit : ∀ c, (hexValue? c).isSome = true → escaped c = false

/-- A digit is written as it is. -/
theorem KeepsEscapes.encodeChar (keeps : KeepsEscapes escaped)
    (digit : (hexValue? c).isSome = true) :
    encodeChar escaped c = [c] := by
  -- All digits are in ASCII, so only the set could have them escaped.
  have ascii : c.toNat < 0x80 := by
    by_contra wide
    rw [hexValue?_beyond (by omega)] at digit
    cases digit
  simp [Url.encodeChar, ascii, keeps.digit c digit]

/-- What is written for another character does not begin with a digit. -/
theorem exists_encodeChar (escaped : EscapeSet) (other : (hexValue? c).isSome = false) :
    ∃ first tail, encodeChar escaped c = first :: tail ∧ (hexValue? first).isSome = false := by
  -- An unescaped character is no digit, and an escaped one begins with the percent sign.
  rw [encodeChar]
  split
  next => exact ⟨c, [], rfl, other⟩
  next =>
    obtain ⟨byte, bytes, written⟩ := List.exists_cons_of_ne_nil (@String.utf8EncodeChar_ne_nil c)
    rw [written]
    exact ⟨'%', _, rfl, by decide⟩

/-- Encoding neither makes nor hides a digit at the beginning of a text. -/
theorem KeepsEscapes.startsWithDigit (keeps : KeepsEscapes escaped) (chars : List Char) :
    startsWithDigit (encode escaped chars) = startsWithDigit chars := by
  -- Digits are written as they are, and what is written for another character does not begin with
  -- one.
  cases chars with
  | nil => rfl
  | cons c rest =>
    rw [encode, List.flatMap_cons]
    cases digit : (hexValue? c).isSome with
    | false =>
      obtain ⟨first, tail, written, other⟩ := exists_encodeChar escaped digit
      rw [written, List.cons_append, Url.startsWithDigit, Url.startsWithDigit, other, digit]
    | true =>
      rw [keeps.encodeChar digit]
      rfl

/-- Encoding neither makes nor hides two digits at the beginning of a text. -/
theorem KeepsEscapes.startsWithDigits (keeps : KeepsEscapes escaped) (chars : List Char) :
    startsWithDigits (encode escaped chars) = startsWithDigits chars := by
  -- A first digit stays where it is, and then the rest begins with the second one or not.
  cases chars with
  | nil => rfl
  | cons c rest =>
    have second := keeps.startsWithDigit rest
    rw [encode] at second ⊢
    rw [List.flatMap_cons]
    cases digit : (hexValue? c).isSome with
    | false =>
      obtain ⟨first, tail, written, other⟩ := exists_encodeChar escaped digit
      rw [written, List.cons_append, Url.startsWithDigits, Url.startsWithDigits, other, digit]
      rfl
    | true =>
      rw [keeps.encodeChar digit, List.cons_append, List.nil_append, Url.startsWithDigits,
        Url.startsWithDigits, second]

/-- A text that begins with two digits begins with the values of them. -/
theorem exists_digits (digits : startsWithDigits chars = true) :
    ∃ high low rest a b, chars = high :: low :: rest ∧ hexValue? high = some a ∧
      hexValue? low = some b := by
  -- A text of one character has no second digit.
  match chars, digits with
  | [c], digits =>
    rw [startsWithDigits, startsWithDigit, Bool.and_false] at digits
    cases digits
  | high :: low :: rest, digits =>
    rw [startsWithDigits, Bool.and_eq_true] at digits
    obtain ⟨a, first⟩ := Option.isSome_iff_exists.mp digits.1
    obtain ⟨b, second⟩ := Option.isSome_iff_exists.mp digits.2
    exact ⟨high, low, rest, a, b, rfl, first, second⟩

/-- Texts are taken apart as decoding reads them: a percent sign with two digits behind it at once,
and all other characters one by one. -/
theorem escape_induction {motive : List Char → Prop} (nil : motive [])
    (plain : ∀ c rest, c ≠ '%' → motive rest → motive (c :: rest))
    (alone : ∀ rest, startsWithDigits rest = false → motive rest → motive ('%' :: rest))
    (escape : ∀ high low rest a b, hexValue? high = some a → hexValue? low = some b →
      motive rest → motive ('%' :: high :: low :: rest)) (chars : List Char) : motive chars := by
  -- An escape takes three characters at once, so the induction is on the length.
  induction size : chars.length using Nat.strongRecOn generalizing chars with
  | _ count ih =>
    match chars with
    | [] => exact nil
    | c :: rest =>
      have shorter : rest.length < count := by
        rw [← size]
        exact Nat.lt_succ_self _
      -- A percent sign is followed by two digits, or it stands alone.
      by_cases percent : c = '%'
      · subst percent
        cases digits : startsWithDigits rest with
        | false => exact alone rest digits (ih _ shorter rest rfl)
        | true =>
          obtain ⟨high, low, more, a, b, rfl, first, second⟩ := exists_digits digits
          have fewer : more.length < count := by
            simp only [List.length_cons] at shorter
            omega
          exact escape high low more a b first second (ih _ fewer more rfl)
      · -- Any other character is taken by itself.
        exact plain c rest percent (ih _ shorter rest rfl)

/-- Where escapes are kept, decoding what was written for a text decodes the text itself. -/
theorem KeepsEscapes.decode_encode (keeps : KeepsEscapes escaped) (chars : List Char) :
    decode (encode escaped chars) = decode chars := by
  -- The percent sign itself is not escaped, so escapes of the text stay together.
  have sign : ∀ rest, encode escaped ('%' :: rest) = '%' :: encode escaped rest := fun rest => by
    rw [encode, List.flatMap_cons, Url.encodeChar, keeps.percent]
    rfl
  induction chars using escape_induction with
  | nil => rfl
  | plain c rest other ih =>
    -- A character that is no percent sign is kept or escaped, and comes back either way.
    have told : c = '%' → escaped c = true := fun same => absurd same other
    rw [encode, List.flatMap_cons, decode_encodeChar told, decode_cons other]
    exact congrArg _ ih
  -- What follows a lone sign is encoded to no digits either.
  | alone rest digits ih =>
    have kept := (keeps.startsWithDigits rest).trans digits
    rw [sign, decode_percent digits, decode_percent kept, ih]
  -- The digits of an escape are kept, so it is the same escape afterwards.
  | escape high low rest a b first second ih =>
    have written : encode escaped (high :: low :: rest) = high :: low :: encode escaped rest := by
      rw [encode, List.flatMap_cons, List.flatMap_cons,
        keeps.encodeChar (by rw [first]; rfl), keeps.encodeChar (by rw [second]; rfl)]
      rfl
    rw [sign, written, decode_escape first second, decode_escape first second, ih]

/-- Two digits are written as two bytes. -/
theorem length_digits {a b : Nat} (first : hexValue? high = some a)
    (second : hexValue? low = some b) (rest : List Char) :
    ((high :: low :: rest).flatMap String.utf8EncodeChar).length =
      (rest.flatMap String.utf8EncodeChar).length + 2 := by
  -- Each of the two digits is one byte.
  rw [List.flatMap_cons, List.flatMap_cons, encode_digit first, encode_digit second]
  rfl

/-- Without its escapes a text has no more bytes than before. -/
theorem length_decode_le (chars : List Char) :
    (decode chars).length ≤ (chars.flatMap String.utf8EncodeChar).length := by
  -- An escape of three bytes becomes one, and all other bytes stay.
  induction chars using escape_induction with
  | nil => exact Nat.le_refl _
  | plain c rest other ih =>
    rw [decode_cons other, List.flatMap_cons, List.length_append, List.length_append]
    exact Nat.add_le_add_left ih _
  | alone rest digits ih =>
    rw [decode_percent digits]
    exact Nat.succ_le_succ ih
  | escape high low rest a b first second ih =>
    have bytes := length_digits first second rest
    rw [decode_escape first second, List.flatMap_cons, List.length_append, bytes, List.length_cons]
    omega

/-- Only nothing stands for no bytes. -/
theorem decode_eq_nil_iff : decode chars = [] ↔ chars = [] := by
  -- Every kind of beginning stands for at least one byte.
  refine ⟨fun none => ?_, fun empty => empty ▸ rfl⟩
  cases chars using escape_induction with
  | nil => rfl
  | plain c rest other =>
    rw [decode_cons other] at none
    exact absurd (List.append_eq_nil_iff.mp none).1 String.utf8EncodeChar_ne_nil
  | alone rest digits =>
    rw [decode_percent digits] at none
    cases none
  | escape high low rest a b first second =>
    rw [decode_escape first second] at none
    cases none

/-- Decoding leaves a text as it is just if the text holds no escape. -/
theorem decode_eq_iff (chars : List Char) :
    decode chars = chars.flatMap String.utf8EncodeChar ↔ holdsEscape chars = false := by
  -- The cases are those of decoding: nothing, a plain character, a lone sign and an escape.
  induction chars using escape_induction with
  | nil => exact iff_of_true rfl rfl
  | plain c rest percent ih =>
    have other : (c == '%') = false := beq_eq_false_iff_ne.mpr percent
    rw [List.flatMap_cons, holdsEscape, decode_cons percent, other, Bool.false_and, Bool.false_or,
      -- The two sides have this character in common, and so it is left to the rest.
      ← ih]
    exact List.append_right_inj _
  | alone rest digits ih =>
    rw [List.flatMap_cons, holdsEscape, decode_percent digits, digits, Bool.and_false,
      Bool.false_or, ← ih]
    exact List.cons_eq_cons.trans (and_iff_right rfl)
  | escape high low rest a b first second =>
    -- The escape takes one byte in place of three, and nothing makes up for that.
    have most := length_decode_le rest
    have bytes := length_digits first second rest
    have digits : startsWithDigits (high :: low :: rest) = true := by
      rw [startsWithDigits, startsWithDigit, first, second]
      rfl
    refine iff_of_false (fun equal => ?_) (by simp [holdsEscape, digits])
    have sizes := congrArg List.length equal
    rw [decode_escape first second, List.flatMap_cons, List.length_append, bytes,
      List.length_cons] at sizes
    omega

end SessionGate.Url
