import SessionGate.Credential
import SessionGate.Proofs.Broker.Names
import SessionGate.Proofs.Text.Blank
import SessionGate.Proofs.Text.Hex

/-! Passwords tell sessions apart as far as the hash does, and keys are read from just the texts
that spell them. -/

namespace SessionGate

/-- A digest has thirty-two bytes. -/
theorem Blake3.length_keyedHash (key message : List UInt8) : (keyedHash key message).length = 32 := by
  -- The digest is eight words, each of which is written as four bytes.
  have four : ∀ words : List UInt32, (words.flatMap wordBytes).length = 4 * words.length := by
    intro words
    induction words with
    | nil => rfl
    | cons word words ih =>
      rw [List.flatMap_cons, List.length_append, ih, List.length_cons, Nat.mul_succ, Nat.add_comm]
      rfl
  rw [keyedHash, Pending.digest, four, Vector.length_toList]

namespace CredentialKey

open Text (hexDigits lower trim utf8)

/-- What is hashed tells the session and its user. -/
theorem material_inj {session other : SessionId} {user another : UserId} :
    material session user = material other another ↔ session = other ∧ user = another := by
  refine ⟨fun same => ?_, fun ⟨one, two⟩ => by rw [one, two]⟩
  rw [material, material, List.append_assoc, List.append_assoc, List.append_cancel_left_eq] at same
  -- The bytes of sessions are equal in number, so the names begin at the same place.
  obtain ⟨bytes, names⟩ := List.append_inj same (by simp)
  have sessions : session.bytes = other.bytes := Vector.toList_inj.mp bytes
  refine ⟨?_, UserId.eq_of_text (Text.utf8_inj.mp names)⟩
  cases session
  cases other
  cases sessions
  rfl

/-- A password is the text of a digest. -/
theorem ofHex_derive (key : CredentialKey) (session : SessionId) (user : UserId) :
    Text.ofHex 32 (key.derive session user) =
      .ok (Blake3.keyedHash key.bytes.toList (material session user)) := by
  -- What was written in digits is read back, and the digest is as long as it has to be.
  have read := Text.ofHex_hex (Blake3.keyedHash key.bytes.toList (material session user))
  rw [Blake3.length_keyedHash] at read
  exact read

/-- A password has sixty-four small digits. -/
theorem derive_digits (key : CredentialKey) (session : SessionId) (user : UserId) :
    (key.derive session user).toList.length = 64 ∧
      ∀ c ∈ (key.derive session user).toList, c ∈ "0123456789abcdef".toList := by
  -- A digest is written in two digits a byte, and each digit is the one of a value below sixteen.
  have every : ∀ value : Fin 16, Text.hexDigit value ∈ "0123456789abcdef".toList := by decide
  rw [derive, Text.hex, String.toList_ofList]
  refine ⟨?_, fun c member => ?_⟩
  · rw [Text.length_digits, Blake3.length_keyedHash]
  · obtain ⟨value, small, rfl⟩ := Text.of_mem_digits member
    exact every ⟨value, small⟩

/-- A key has its own bytes. -/
theorem ofBytes_toList (key : CredentialKey) : ofBytes key.bytes.toList = key := by
  -- A key keeps all the bytes that it was given.
  obtain ⟨bytes⟩ := key
  refine congrArg mk (Vector.ext fun i within => ?_)
  simp

/-- A key of thirty-two bytes has just these. -/
theorem toList_ofBytes {bytes : List UInt8} (all : bytes.length = 32) :
    (ofBytes bytes).bytes.toList = bytes := by
  -- As many bytes were given as a key takes, so none is left out and none is added.
  refine List.ext_getElem (by simp [all]) fun i first second => ?_
  simp [ofBytes, second]

section Reading

variable {text : String} {key : CredentialKey}

/-- A key is read from a text that spells its bytes, in digits of either case and with any blank
ends. -/
theorem ofHex_eq_ok : ofHex text = .ok key ↔ lower (trim text) = Text.hex key.bytes.toList := by
  -- Only bytes that were read make a key, and each of them makes one.
  have reads : ofHex text = .ok key ↔ ∃ bytes, Text.ofHex 32 (trim text) = .ok bytes ∧
      ofBytes bytes = key := by
    show (Text.ofHex 32 (trim text)).bind (fun bytes => .ok (ofBytes bytes)) = .ok key ↔ _
    cases Text.ofHex 32 (trim text) with
    | error fault => simp [Except.bind]
    | ok bytes => simp [Except.bind]
  rw [reads]
  constructor
  · rintro ⟨bytes, read, rfl⟩
    -- What was read is spelt by the text in digits of either case.
    obtain ⟨all, spelt⟩ := Text.ofHex_eq_ok.mp read
    rw [toList_ofBytes all, spelt]
  · intro spelt
    exact ⟨_, Text.ofHex_eq_ok.mpr ⟨Vector.length_toList, spelt⟩, ofBytes_toList key⟩

/-- Where no bytes can be read there is no key, either. -/
theorem ofHex_eq_error {fault : Text.HexFault}
    (failed : Text.ofHex 32 (trim text) = .error fault) : ofHex text = .error fault := by
  -- Reading the bytes comes first, and its fault is the one that is told.
  show (Text.ofHex 32 (trim text)).bind (fun bytes => .ok (ofBytes bytes)) = .error fault
  rw [failed]
  rfl

/-- There is a key to be read from a text just if it has sixty-four digits between its blank
ends. -/
theorem exists_ofHex_iff : (∃ key, ofHex text = .ok key) ↔
    (trim text).toList.length = 64 ∧ ∀ c ∈ (trim text).toList, c ∈ hexDigits := by
  -- A text spells bytes if its letters, made small, are their digits.
  have spells : ∀ bytes, lower (trim text) = Text.hex bytes ↔
      (trim text).toList.map Text.lowerChar = bytes.flatMap Text.hexByte := fun bytes => by
    rw [lower, Text.hex, String.ofList_inj]
  constructor
  · -- The digits of a key are twice as many as its bytes.
    rintro ⟨key, read⟩
    have lowered := (spells _).mp (ofHex_eq_ok.mp read)
    have length := congrArg List.length lowered
    rw [List.length_map, Text.length_digits, Vector.length_toList] at length
    exact ⟨length, Text.digits_of_lowered lowered⟩
  · -- Digits of either case are those of some bytes once they are made small.
    rintro ⟨length, digits⟩
    obtain ⟨bytes, lowered⟩ := Text.exists_lowered digits (by omega)
    have twice := congrArg List.length lowered
    rw [List.length_map, Text.length_digits] at twice
    refine ⟨ofBytes bytes, ofHex_eq_ok.mpr ?_⟩
    rw [toList_ofBytes (by omega), spells, lowered]

/-- A key is read back from its own text. -/
theorem ofHex_hex (key : CredentialKey) : ofHex (Text.hex key.bytes.toList) = .ok key := by
  -- No digit is a blank and none is a capital, so trimming and lowering leave the text as it is.
  have unblank : ∀ value : Fin 16, Text.isBlank (Text.hexDigit value) = false := by decide
  rw [ofHex_eq_ok, Text.trim_of_unblank, Text.lower_hex]
  intro c member
  rw [Text.hex, String.toList_ofList] at member
  obtain ⟨value, small, rfl⟩ := Text.of_mem_digits member
  exact unblank ⟨value, small⟩

end Reading

/-- Under one key sessions are hashed apart, and their passwords are the texts of digests. Keys are
read from sixty-four digits of either case. Of any other text it is told that its length is odd, or
else that it is wrong, or else which place has the first character that is no digit, and what the
first byte of this character is. Lengths are those in bytes. -/
theorem passwords_spell_digests (key : CredentialKey) :
    (∀ session other user another, (session, user) ≠ (other, another) →
      material session user ≠ material other another) ∧
    (∀ session user,
      (Blake3.keyedHash key.bytes.toList (material session user)).length = 32 ∧
      Text.ofHex 32 (key.derive session user) =
        .ok (Blake3.keyedHash key.bytes.toList (material session user)) ∧
      (key.derive session user).toList.length = 64 ∧
      ∀ c ∈ (key.derive session user).toList, c ∈ "0123456789abcdef".toList) ∧
    (∀ session other user another, key.derive session user = key.derive other another ↔
      Blake3.keyedHash key.bytes.toList (material session user) =
        Blake3.keyedHash key.bytes.toList (material other another)) ∧
    ofHex (Text.hex key.bytes.toList) = .ok key ∧
    ∀ text, ((∃ key, ofHex text = .ok key) ↔
        (trim text).toList.length = 64 ∧ ∀ c ∈ (trim text).toList, c ∈ hexDigits) ∧
      (∀ key, ofHex text = .ok key ↔ lower (trim text) = Text.hex key.bytes.toList) ∧
      ((utf8 (trim text)).length % 2 ≠ 0 → ofHex text = .error .oddLength) ∧
      ((utf8 (trim text)).length % 2 = 0 → (utf8 (trim text)).length ≠ 64 →
        ofHex text = .error .wrongLength) ∧
      ((utf8 (trim text)).length = 64 → ∀ early c late, (trim text).toList = early ++ c :: late →
        (∀ digit ∈ early, digit ∈ hexDigits) → c ∉ hexDigits →
        ∃ first tail, String.utf8EncodeChar c = first :: tail ∧
          (c.toNat ≤ 127 → Char.ofNat first.toNat = c) ∧
          ofHex text = .error (.badDigit first early.length)) := by
  refine ⟨fun session other user another apart same => ?_, fun session user => ?_,
    fun session other user another => Text.hex_inj, ofHex_hex key, fun text => ?_⟩
  · -- Different sessions or users would be told by what is hashed.
    obtain ⟨rfl, rfl⟩ := material_inj.mp same
    exact apart rfl
  · exact ⟨Blake3.length_keyedHash _ _, key.ofHex_derive session user,
      key.derive_digits session user⟩
  · -- Of a text that is no key the faults are told in the order of the checks.
    refine ⟨exists_ofHex_iff, fun key => ofHex_eq_ok, fun odd => ?_, fun even wrong => ?_,
      fun right early c late split digits other => ?_⟩
    · exact ofHex_eq_error (Text.ofHex_odd odd)
    · exact ofHex_eq_error (Text.ofHex_wrong even wrong)
    · obtain ⟨first, tail, written⟩ := List.exists_cons_of_ne_nil (@String.utf8EncodeChar_ne_nil c)
      refine ⟨first, tail, written, fun ascii => ?_,
        ofHex_eq_error (Text.ofHex_badDigit right split digits other written)⟩
      -- A character of one byte is this byte.
      rw [Text.encode_ascii ascii] at written
      obtain ⟨rfl, -⟩ := List.cons.inj written
      rw [Text.toNat_ofNat (by omega), Char.ofNat_toNat]

/-- Sixty-two digits and a letter with an accent, which has two bytes. -/
def accentedText : String := String.ofList (List.replicate 62 '0' ++ ['é'])

/-- A letter with an accent at the end of enough digits is told by its place and the first of its
two bytes. -/
theorem accent_is_told_by_its_first_byte :
    (utf8 (trim accentedText)).length = 64 ∧
      (trim accentedText).toList = List.replicate 62 '0' ++ 'é' :: [] ∧
      ofHex accentedText = .error (.badDigit 0xC3 62) := by
  have length : (utf8 (trim accentedText)).length = 64 := by decide +kernel
  have split : (trim accentedText).toList = List.replicate 62 '0' ++ 'é' :: [] := by decide +kernel
  -- The general statement is taken at this text, of which only closed facts are left to compute.
  obtain ⟨-, -, -, -, reading⟩ := passwords_spell_digests (ofBytes [])
  obtain ⟨-, -, -, -, told⟩ := reading accentedText
  obtain ⟨first, tail, written, -, failed⟩ := told length _ _ _ split
    (fun digit member => List.eq_of_mem_replicate member ▸ by decide) (by decide)
  cases written
  exact ⟨length, split, failed⟩

/-- It is not the first character without a value that is told if this character has more than one
byte. -/
theorem first_wrong_character_is_not_told :
    ¬ ∀ (text : String) (early late : List Char) (c : Char), (utf8 (trim text)).length = 64 →
      (trim text).toList = early ++ c :: late → (∀ digit ∈ early, digit ∈ hexDigits) →
      c ∉ hexDigits →
      ∃ byte, ofHex text = .error (.badDigit byte early.length) ∧ Char.ofNat byte.toNat = c := by
  -- The byte that is told is the first one of the character, and there is no character of this byte
  -- alone.
  intro told
  obtain ⟨byte, failed, same⟩ := told accentedText (List.replicate 62 '0') [] 'é'
    (by decide +kernel) (by decide +kernel)
    (fun digit member => List.eq_of_mem_replicate member ▸ by decide) (by decide)
  have first : ofHex accentedText = .error (.badDigit 0xC3 62) := by decide +kernel
  cases first.symm.trans failed
  revert same
  decide

end CredentialKey

end SessionGate
