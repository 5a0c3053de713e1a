import SessionGate.Text.Utf8

/-! Base64 text with padding, as a Basic authorization header carries its account. -/

namespace SessionGate.Text

/-- The sign of a six-bit number. -/
def base64Sign (value : Nat) : Char :=
  -- Capitals come first, then small letters and digits, each in one run of characters.
  if value < 26 then Char.ofNat (65 + value)
  else if value < 52 then Char.ofNat (71 + value)
  else if value < 62 then Char.ofNat (value - 4)
  else if value == 62 then '+'
  else '/'

/-- Three bytes become four signs, and a shorter end is filled up with `=`. -/
def base64Chars : List UInt8 → List Char
  | a :: b :: c :: rest =>
    -- Twenty-four bits divide into four numbers of six bits.
    let bits := a.toNat * 65536 + b.toNat * 256 + c.toNat
    base64Sign (bits / 262144) :: base64Sign (bits / 4096 % 64) ::
      base64Sign (bits / 64 % 64) :: base64Sign (bits % 64) :: base64Chars rest
  | [a, b] =>
    let bits := a.toNat * 65536 + b.toNat * 256
    -- Two bytes fill three signs, the last two bits of which are zero.
    -- One byte fills two signs, the last four bits of which are zero.
    [base64Sign (bits / 262144), base64Sign (bits / 4096 % 64), base64Sign (bits / 64 % 64), '=']
  | [a] =>
    let bits := a.toNat * 65536
    [base64Sign (bits / 262144), base64Sign (bits / 4096 % 64), '=', '=']
  | [] => []

/-- Bytes as padded base64 text. -/
def base64 (bytes : List UInt8) : String :=
  String.ofList (base64Chars bytes)

/-- The value of an authorization header for an account and its password. -/
def basicAuthorization (account password : List UInt8) : String :=
  -- A colon stands between the two, so only the password may hold another one.
  "Basic " ++ base64 (account ++ 58 :: password)

end SessionGate.Text
