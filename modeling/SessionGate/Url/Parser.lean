import SessionGate.Url.Segments

/-! Reading a URL part by part, as the living standard of URLs lays down. -/

namespace SessionGate.Url

/-- A character that does not count at either end of a URL. -/
def isTrimmed (c : Char) : Bool := c.toNat ≤ 0x20

/-- The characters of a URL that count. -/
def significant (text : String) : List Char :=
  -- Ends are trimmed first, so what is dropped inside does not protect a blank beside it.
  let start := text.toList.dropWhile isTrimmed
  ((start.reverse.dropWhile isTrimmed).reverse).filter fun c => !isDropped c

/-- A character of a scheme. -/
def isSchemeChar (c : Char) : Bool := c.isAlphanum || c == '+' || c == '-' || c == '.'

/-- The scheme in small letters, and what follows its colon. -/
def scheme? (chars : List Char) : Option (List Char × List Char) :=
  let scheme := chars.takeWhile isSchemeChar
  match chars.drop scheme.length with
  | ':' :: rest =>
    -- Digits and marks may not begin a scheme.
    if (scheme.head?.map Char.isAlpha).getD false then some (scheme.map Text.lowerChar, rest)
    else none
  | _ => none

/-- A character that ends the part with the host. -/
def endsAuthority (special : Bool) (c : Char) : Bool :=
  c == '/' || c == '?' || c == '#' || (special && c == '\\')

/-- The text before the last occurrence of a character, and the text after it. -/
def splitLast (wanted : Char) (chars : List Char) : Option (List Char × List Char) :=
  if chars.contains wanted then
    let after := (chars.reverse.takeWhile (· != wanted)).reverse
    some (chars.take (chars.length - after.length - 1), after)
  else none

/-- The account before the host, and the text from the host on. An account without a host is a
fault, also when the account is empty and something follows. -/
def readAccount (special : Bool) (chars : List Char) :
    Except ParseError (List Char × Option (List Char) × Bool × List Char) :=
  let part := chars.takeWhile fun c => !endsAuthority special c
  -- The last sign counts, so an account may hold others before it.
  match splitLast '@' part with
  | none => .ok ([], none, false, chars)
  | some ([], _) =>
    let rest := chars.drop 1
    -- An empty account is refused when a path, a query or a fragment follows in place of a host.
    if (rest.head?.map (endsAuthority special)).getD false then .error .emptyHost
    else .ok ([], none, false, rest)
  | some (info, _) =>
    let rest := chars.drop (info.length + 1)
    -- The first colon divides the two, so only the password may hold another one.
    let username := encode inUserInfo (info.takeWhile (· != ':'))
    let password := encode inUserInfo ((info.dropWhile (· != ':')).drop 1)
    let password := if password.isEmpty then none else some password
    .ok (username, password, !username.isEmpty || password.isSome, rest)

/-- The text of the host: up to a colon outside of brackets, or the end of its part. -/
def hostText (special : Bool) : Bool → List Char → List Char
  | _, [] => []
  | inside, c :: rest =>
    -- The colons of an address stand in brackets and do not announce a port.
    if (c == ':' && !inside) || endsAuthority special c then []
    else c :: hostText special (c == '[' || (inside && c != ']')) rest

/-- A character that no host outside the web may hold. -/
def isForbiddenInHost (c : Char) : Bool :=
  c.toNat == 0 || c == ' ' || isDropped c ||
    ['#', '/', ':', '<', '>', '?', '@', '[', '\\', ']', '^', '|'].contains c

/-- A letter, a digit, a hyphen or a full stop. -/
def isPlainByte (byte : UInt8) : Bool :=
  let c := Char.ofNat byte.toNat
  c.isAlphanum || c == '-' || c == '.'

/-- A name of plain bytes. It has no two hyphens in a row, which may announce another script. -/
def isPlainName : List UInt8 → Bool
  | 0x2D :: 0x2D :: _ => false
  | byte :: rest => isPlainByte byte && isPlainName rest
  | [] => true

/-- Bytes as characters, with capitals made small. -/
def smallLetters (bytes : List UInt8) : List Char :=
  bytes.map fun byte => Text.lowerChar (Char.ofNat byte.toNat)

/-- How domain names are looked up. Names in any script are brought into one form by tables of all
characters, which are not a part of reading a URL; of the tables no more is known than what they
make of plain names. -/
class DomainLookup where
  /-- The name that is looked up where bytes are told, or none if they tell no name. -/
  find? : List UInt8 → Option (List Char)
  /-- A plain name is looked up in small letters. -/
  find?_plain : ∀ bytes, isPlainName bytes = true → find? bytes = some (smallLetters bytes)

/-- Plain names are looked up, and no others. -/
@[reducible]
def DomainLookup.plainOnly : DomainLookup where
  find? bytes := if isPlainName bytes then some (smallLetters bytes) else none
  find?_plain _ plain := if_pos plain

/-- A domain name as it is looked up, if it may be one. -/
def lookUp [DomainLookup] (bytes : List UInt8) : Except ParseError (List Char) :=
  match DomainLookup.find? bytes with
  | some name => .ok name
  | none => .error .idna

/-- The host that a text names. -/
def readHost [DomainLookup] (special : Bool) (text : List Char) : Except ParseError Host :=
  if text.head? == some '[' then
    -- A bracket announces an address, and must be closed where the host ends.
    if text.getLast? == some ']' then do
      let pieces ← ipv6? (text.drop 1).dropLast
      return .ipv6 pieces
    else .error .invalidIpv6
  else if special then do
    -- Escapes in the name are undone before it is looked up.
    let name ← lookUp (decode text)
    if name.isEmpty then .error .emptyHost
    -- Such a name could be meant only as an address, so it must be a good one.
    else if endsInNumber name then
      let value ← ipv4? name
      return .ipv4 value
    else return .domain name
  else if text.any isForbiddenInHost then .error .invalidDomainCharacter
  else .ok (.domain (encode controls text))

/-- The port, and what follows it: a scheme's own port is not kept. -/
def readPort (scheme : List Char) (value : Nat) (found : Bool) :
    List Char → Except ParseError (Option Nat × List Char)
  | [] => .ok (if found && defaultPort? scheme != some value then some value else none, [])
  | c :: rest =>
    if '0' ≤ c && c ≤ '9' then
      let grown := value * 10 + (c.toNat - 48)
      -- The number is refused as soon as it is too large, whatever follows it.
      if 65535 < grown then .error .invalidPort else readPort scheme grown true rest
    else if c == '/' || c == '\\' || c == '?' || c == '#' then
      .ok (if found && defaultPort? scheme != some value then some value else none, c :: rest)
    else .error .invalidPort

/-- The query and the fragment that follow a path. -/
def queryAndFragment (special : Bool) (chars : List Char) :
    Option (List Char) × Option (List Char) :=
  -- The first number sign ends the query, and all after it belongs to the fragment.
  let fragment (rest : List Char) : Option (List Char) :=
    match rest with
    | '#' :: rest => some (encode inFragment rest)
    | _ => none
  match chars with
  | '?' :: rest =>
    let query := rest.takeWhile (· != '#')
    (some (encode (if special then inSpecialQuery else inQuery) query),
      fragment (rest.dropWhile (· != '#')))
  | rest => (none, fragment rest)

/-- The text of the path, and what follows it. -/
def pathText (chars : List Char) : List Char × List Char :=
  (chars.takeWhile fun c => c != '?' && c != '#', chars.dropWhile fun c => c != '?' && c != '#')

/-- A character that separates the segments of a path. -/
def isSeparator (special : Bool) (c : Char) : Bool := c == '/' || (special && c == '\\')

/-- The path that follows a host. In the schemes of the web it is at least the root. -/
def pathAfterHost (special : Bool) (text : List Char) : List Char :=
  match text with
  | [] => if special then ['/'] else []
  | c :: rest =>
    -- A path without a slash in front is put below the root all the same.
    if isSeparator special c then addSegments ['/'] (splitAt (isSeparator special) rest)
    else addSegments ['/'] (splitAt (isSeparator special) (c :: rest))

/-- The URL whose account and host follow two slashes. -/
def withAuthority [DomainLookup] (scheme : List Char) (chars : List Char) : Except ParseError Url := do
  let special := isSpecial scheme
  let (username, password, hasAccount, rest) ← readAccount special chars
  let text := hostText special false rest
  let rest := rest.drop text.length
  -- In the schemes of the web the host is missing before anything else is wrong.
  if special && text.isEmpty then throw .emptyHost
  let host ← readHost special text
  -- Elsewhere an empty host is allowed unless an account or a port depends on it.
  if text.isEmpty && (rest.head? == some ':' || hasAccount) then throw .emptyHost
  let (port, rest) ← match rest with
    | ':' :: rest => readPort scheme 0 false rest
    | rest => pure (none, rest)
  let (path, rest) := pathText rest
  let (query, fragment) := queryAndFragment special rest
  return {
    scheme, username, password, host := some host, port
    path := .rooted (pathAfterHost special path), guarded := false, query, fragment }

/-- The URL of a local file; the host of the machine itself is left out. -/
def localFile [DomainLookup] (scheme : List Char) (chars : List Char) : Except ParseError Url := do
  -- Exactly two slashes announce a host; further ones begin the path.
  let announced := 2 ≤ (chars.takeWhile (isSeparator true)).length
  let start := if announced then chars.drop 2 else chars
  let part := if announced then start.takeWhile fun c => !endsAuthority true c else []
  -- A drive in the place of a host belongs to the path.
  let part := if isDrive part then [] else part
  let found ← if part.isEmpty then pure (Host.domain []) else readHost true part
  let name := if found == .domain "localhost".toList then .domain [] else found
  let (text, rest) := pathText (start.drop part.length)
  -- Where a host was expected and none is left, the first slash is a part of the path.
  let below :=
    if !announced || name != .domain [] then
      if (text.head?.map (isSeparator true)).getD false then text.drop 1 else text
    else text
  let (full, onDrive) := addLocalSegments ['/'] false (splitAt (isSeparator true) below)
  let (query, fragment) := queryAndFragment true rest
  return {
    -- Drives belong to the machine itself, so a host before one does not count.
    scheme, username := [], password := none, host := some (if onDrive then .domain [] else name)
    port := none, path := .rooted ('/' :: full.dropWhile (· == '/')), guarded := false
    query, fragment }

/-- The URL of a scheme outside the web. -/
def outsideWeb [DomainLookup] (scheme : List Char) (chars : List Char) : Except ParseError Url :=
  match chars with
  | '/' :: '/' :: rest => withAuthority scheme rest
  | _ =>
    let (text, rest) := pathText chars
    -- A text without a slash in front cannot be divided.
    let path := match text with
      | '/' :: rest => Path.rooted (addSegments ['/'] (splitAt (isSeparator false) rest))
      | text => Path.undivided (encode controls text)
    let guarded := match path with
      | .rooted ('/' :: '/' :: _) => true
      | _ => false
    let (query, fragment) := queryAndFragment false rest
    .ok {
      scheme, username := [], password := none, host := none, port := none, path, guarded
      query, fragment }

/-- Reads an absolute URL. -/
def parse [DomainLookup] (text : String) : Except ParseError Url :=
  match scheme? (significant text) with
  | none => .error .relativeWithoutBase
  | some (scheme, rest) =>
    -- Any number of slashes of either kind may stand before a host of the web.
    if isFile scheme then localFile scheme rest
    else if isSpecial scheme then withAuthority scheme (rest.dropWhile (isSeparator true))
    else outsideWeb scheme rest

end SessionGate.Url
