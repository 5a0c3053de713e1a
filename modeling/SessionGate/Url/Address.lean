import SessionGate.Text.Hex

/-! IPv4 and IPv6 addresses as URLs write and read them, and why a text is no URL. -/

namespace SessionGate.Url

/-- What is wrong with the text of a URL. -/
inductive ParseError where
  | emptyHost
  | idna
  | invalidPort
  | invalidIpv4
  | invalidIpv6
  | invalidDomainCharacter
  | relativeWithoutBase
  deriving DecidableEq, Repr

/-- The wording of a fault. -/
def ParseError.message : ParseError → String
  | .emptyHost => "empty host"
  | .idna => "invalid international domain name"
  | .invalidPort => "invalid port number"
  | .invalidIpv4 => "invalid IPv4 address"
  | .invalidIpv6 => "invalid IPv6 address"
  | .invalidDomainCharacter => "invalid domain character"
  | .relativeWithoutBase => "relative URL without a base"

/-- A text cut at every separator. -/
def splitAt (isSeparator : Char → Bool) : List Char → List (List Char)
  | [] => [[]]
  | c :: rest =>
    -- A separator always has text on both sides, even if that text is empty.
    if isSeparator c then [] :: splitAt isSeparator rest
    else
      match splitAt isSeparator rest with
      | first :: others => (c :: first) :: others
      | [] => [[c]]

/-- The value of digits in a base, if each is one. -/
def valueIn (base : Nat) (digits : List Char) : Option Nat :=
  digits.foldlM (fun value c => do
    let digit ← Text.hexValue? c
    if digit < base then some (value * base + digit) else none) 0

/-- A number of an IPv4 address: decimal, octal after a zero, or hexadecimal after `0x`. -/
def ipv4Number? : List Char → Option Nat
  | [] => none
  -- A mark without digits behind it is zero, as an empty sum is.
  | '0' :: 'x' :: digits => valueIn 16 digits
  | '0' :: 'X' :: digits => valueIn 16 digits
  | '0' :: digit :: digits => valueIn 8 (digit :: digits)
  | digits => valueIn 10 digits

/-- The parts of a dotted name, an empty one at the end left out. -/
def dottedParts (name : List Char) : List (List Char) :=
  let parts := splitAt (· == '.') name
  -- One dot at the end only closes the name.
  if parts.length > 1 && parts.getLast? == some [] then parts.dropLast else parts

/-- A name whose last part is a number must be an IPv4 address. -/
def endsInNumber (name : List Char) : Bool :=
  match (dottedParts name).getLast? with
  | some last =>
    (!last.isEmpty && last.all fun c => '0' ≤ c && c ≤ '9') || (ipv4Number? last).isSome
  | none => false

/-- The address that up to four numbers spell, the last of them filling the bytes left over. -/
def ipv4? (name : List Char) : Except ParseError Nat :=
  let parts := dottedParts name
  if 4 < parts.length then .error .invalidIpv4
  else
    match parts.mapM ipv4Number? with
    | none => .error .invalidIpv4
    | some numbers =>
      let leading := numbers.dropLast
      let last := numbers.getLastD 0
      -- The last number takes over the bytes that no number of its own was written for.
      if Nat.pow 256 (4 - leading.length) ≤ last || leading.any (255 < ·) then .error .invalidIpv4
      else
        .ok (leading.zipIdx.foldl
          (fun value (number, place) => value + number * Nat.pow 256 (3 - place)) last)

/-- An IPv4 address as four decimal numbers. -/
def ipv4Text (value : Nat) : String :=
  ".".intercalate
    ([value / 16777216, value / 65536 % 256, value / 256 % 256, value % 256].map toString)

/-- A piece of an IPv6 address and what follows it: up to four hexadecimal digits. -/
def hexPiece (chars : List Char) : Nat × Nat × List Char :=
  let digits := (chars.take 4).takeWhile fun c => (Text.hexValue? c).isSome
  ((valueIn 16 digits).getD 0, digits.length, chars.drop digits.length)

/-- A decimal number of an embedded IPv4 address: without leading zeros, and below 256. -/
def embeddedNumber? (chars : List Char) : Option (Nat × List Char) :=
  let digits := chars.takeWhile fun c => '0' ≤ c && c ≤ '9'
  let value := (valueIn 10 digits).getD 0
  -- Here a leading zero is refused, since it would look like an octal number.
  if digits.isEmpty || 255 < value || (1 < digits.length && digits.head? == some '0') then none
  else some (value, chars.drop digits.length)

/-- The four numbers of an embedded IPv4 address, which ends the text. -/
def embedded? (chars : List Char) : Option (List Nat) := do
  let (a, rest) ← embeddedNumber? chars
  let '.' :: rest := rest | none
  let (b, rest) ← embeddedNumber? rest
  let '.' :: rest := rest | none
  let (c, rest) ← embeddedNumber? rest
  let '.' :: rest := rest | none
  let (d, rest) ← embeddedNumber? rest
  -- The four bytes make up two pieces of the longer address.
  if rest.isEmpty then some [a * 256 + b, c * 256 + d] else none

/-- The pieces taken up so far, the gap counting as one. -/
def takenPieces (pieces : List Nat) (gap : Option Nat) : Nat :=
  pieces.length + (if gap.isSome then 1 else 0)

/-- The pieces read so far and the place of the gap, from the rest of the text; `fuel` bounds the
number of pieces. -/
def ipv6Pieces : Nat → List Nat → Option Nat → List Char → Option (List Nat × Option Nat)
  | _, pieces, gap, [] => some (pieces, gap)
  | 0, _, _, _ :: _ => none
  | fuel + 1, pieces, gap, c :: rest =>
    -- The gap stands for at least one piece, so there may be no eight others beside it.
    if 8 ≤ takenPieces pieces gap then none
    else if c == ':' then
      -- A second gap would leave open how long either of them is.
      if gap.isSome then none else ipv6Pieces fuel pieces (some pieces.length) rest
    else
      let (value, count, after) := hexPiece (c :: rest)
      match after with
      | [] => if count == 0 then none else some (pieces ++ [value], gap)
      | '.' :: _ =>
        -- An embedded address needs room for its two pieces.
        if count == 0 || 6 < takenPieces pieces gap then none
        else (embedded? (c :: rest)).map fun numbers => (pieces ++ numbers, gap)
      | ':' :: next =>
        -- A single colon cannot end the address.
        if next.isEmpty || count == 0 then none
        else ipv6Pieces fuel (pieces ++ [value]) gap next
      | _ :: _ => none

/-- The eight pieces of an IPv6 address; one gap stands for as many zeros as are missing. -/
def ipv6? (chars : List Char) : Except ParseError (List Nat) :=
  -- A colon at the front is half of a gap.
  let start : Option (List Char × Option Nat) := match chars with
    | ':' :: ':' :: rest => some (rest, some 0)
    | ':' :: _ => none
    | _ => some (chars, none)
  match start.bind fun (rest, gap) => ipv6Pieces (chars.length + 1) [] gap rest with
  | some (pieces, some gap) =>
    .ok (pieces.take gap ++ List.replicate (8 - pieces.length) 0 ++ pieces.drop gap)
  | some (pieces, none) =>
    if pieces.length == 8 then .ok pieces else .error .invalidIpv6
  | none => .error .invalidIpv6

/-- The start and the length of the first longest run of zeros. -/
def longestZeros : Nat → List Nat → Nat × Nat
  | _, [] => (0, 0)
  | place, piece :: rest =>
    let here := ((piece :: rest).takeWhile (· == 0)).length
    let (start, length) := longestZeros (place + 1) rest
    -- Of two equal runs the earlier one wins, because later ones are found first.
    if length ≤ here then (place, here) else (start, length)

/-- An IPv6 address in small hexadecimal digits, its first longest run of two or more zeros
written as a gap. -/
def ipv6Text (pieces : List Nat) : String :=
  let join (part : List Nat) : String := ":".intercalate (part.map Text.hexNumber)
  let (start, length) := longestZeros 0 pieces
  -- A single zero is not worth a gap.
  if length < 2 then join pieces
  else join (pieces.take start) ++ "::" ++ join (pieces.drop (start + length))

end SessionGate.Url
