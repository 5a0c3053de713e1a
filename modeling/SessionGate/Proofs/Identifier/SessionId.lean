import SessionGate.Identifier.SessionId
import SessionGate.Proofs.Text.Hex

/-! A session identifier is read back from its text. -/

namespace SessionGate

namespace SessionId

/-- The bytes that digits were written for are read back. -/
theorem pairs_digits (bytes : List UInt8) : pairs (bytes.flatMap Text.hexByte) = some bytes := by
  -- The induction is on the bytes, and each is read from its two digits.
  induction bytes with
  | nil => rfl
  | cons byte bytes ih =>
    have small := byte.toNat_lt
    have high := Text.hexValue?_hexDigit (show byte.toNat / 16 < 16 by omega)
    have low := Text.hexValue?_hexDigit (show byte.toNat % 16 < 16 by omega)
    rw [List.flatMap_cons, Text.hexByte]
    simp only [List.cons_append, List.nil_append, pairs, high, low, ih]
    show some (UInt8.ofNat (byte.toNat / 16 * 16 + byte.toNat % 16) :: bytes) = _
    rw [Nat.div_add_mod', UInt8.ofNat_toNat]

/-- The digits of the groups are found between the hyphens. -/
theorem joinGroups_hyphenated (size : Nat) (sizes : List Nat) (bytes : List UInt8)
    (filled : bytes.length = (size :: sizes).foldr (· + ·) 0) :
    joinGroups (size :: sizes) (hyphenated (size :: sizes) bytes) =
      some (bytes.flatMap Text.hexByte) := by
  -- The induction is on the groups behind the first one.
  induction sizes generalizing size bytes with
  | nil =>
    have all : bytes.length = size := by simpa using filled
    rw [hyphenated, List.take_of_length_le (Nat.le_of_eq all), joinGroups, Text.length_digits, all]
    simp
  | cons next sizes ih =>
    have enough : size ≤ bytes.length := by simp [filled]
    have first : ((bytes.take size).flatMap Text.hexByte).length = 2 * size := by
      rw [Text.length_digits, List.length_take, Nat.min_eq_left enough]
    -- The hyphen stands behind as many digits as the first group has.
    have onward := ih next (bytes.drop size) (by simp [filled])
    rw [hyphenated, joinGroups, ← first, List.drop_left, List.take_left]
    simp only [onward]
    show some (_ ++ _) = _
    rw [← List.flatMap_append, List.take_append_drop]

/-- The text of an identifier has as many characters as its bytes have digits, and the hyphens. -/
theorem length_chars (id : SessionId) : id.chars.length = 36 := by
  -- Sixteen bytes have thirty-two digits, and four hyphens stand between the groups.
  have sixteen : id.bytes.toList.length = 16 := by simp
  simp only [chars, groups, hyphenated, List.length_append, List.length_cons, Text.length_digits,
    List.length_take, List.length_drop, sixteen]
  rfl

/-- Identifiers of the same bytes are the same. -/
theorem ofBytes?_toList (id : SessionId) : ofBytes? id.bytes.toList = some id := by
  -- An identifier is its sixteen bytes.
  obtain ⟨⟨bytes, size⟩⟩ := id
  simp [ofBytes?, size]

/-- An identifier is read back from its text. -/
theorem parse?_render (id : SessionId) : parse? id.render = some id := by
  have joined : joinGroups groups id.chars = some (id.bytes.toList.flatMap Text.hexByte) :=
    joinGroups_hyphenated 4 [2, 2, 2, 6] id.bytes.toList (by simp)
  have read : ofHyphenated? id.chars = some id := by
    rw [ofHyphenated?, joined, Option.bind_some, ofDigits?, pairs_digits, Option.bind_some,
      ofBytes?_toList]
  -- The length of the text selects the hyphenated form.
  rw [parse?, render, String.toList_ofList, ofChars?, length_chars]
  exact read

/-- The text of an identifier may stand where one is wanted. -/
theorem accepts_render (id : SessionId) : accepts id.render = true := by
  -- The text is parsed, so it is accepted.
  rw [accepts, parse?_render]
  rfl

end SessionId

end SessionGate
