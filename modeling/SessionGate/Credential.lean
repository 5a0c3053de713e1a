import SessionGate.Hash.Blake3
import SessionGate.Identifier.SessionId
import SessionGate.Identifier.UserId

/-! Broker passwords: derived from the session and its user under a key, and so never stored. -/

namespace SessionGate

/-- The key under which passwords are derived. -/
structure CredentialKey where
  bytes : Vector UInt8 32
  deriving DecidableEq

namespace CredentialKey

/-- The number of bytes in a key. -/
def length : Nat := 32

/-- The label that sets these passwords apart from other uses of the key. -/
def label : List UInt8 := Text.utf8 "linkgate-broker-credential"

/-- A key of the given bytes, cut or filled up with zeros to its length. -/
def ofBytes (bytes : List UInt8) : CredentialKey :=
  ⟨Vector.ofFn fun i : Fin 32 => bytes.getD i.val 0⟩

/-- Reads a key from its hexadecimal text, blanks around it not counting. -/
def ofHex (text : String) : Except Text.HexFault CredentialKey := do
  let bytes ← Text.ofHex length (Text.trim text)
  return ofBytes bytes

/-- What is hashed for a session: the label, the session's bytes and the user's name. -/
def material (session : SessionId) (user : UserId) : List UInt8 :=
  -- The session has a fixed width, so the user's name cannot run into it.
  label ++ session.bytes.toList ++ Text.utf8 user.text

/-- The password of a session. -/
def derive (key : CredentialKey) (session : SessionId) (user : UserId) : String :=
  Text.hex (Blake3.keyedHash key.bytes.toList (material session user))

/-- A key is never shown. -/
def describe (_key : CredentialKey) : String := "CredentialSecret(..)"

end CredentialKey

end SessionGate
