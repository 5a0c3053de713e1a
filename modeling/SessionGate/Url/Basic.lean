import SessionGate.Url.Address
import SessionGate.Url.Percent

/-! URLs by their parts, and their text. -/

namespace SessionGate

namespace Url

/-- The host of a URL: a name, or an address of either family. -/
inductive Host where
  | domain (name : List Char)
  | ipv4 (value : Nat)
  | ipv6 (pieces : List Nat)
  deriving DecidableEq, Repr

/-- The text of a host. -/
def Host.chars : Host → List Char
  | .domain name => name
  | .ipv4 value => (ipv4Text value).toList
  -- Brackets keep the colons of the address from being taken for a port.
  | .ipv6 pieces => '[' :: (ipv6Text pieces).toList ++ [']']

/-- The path of a URL: slash-separated segments, or one text that is not divided. -/
inductive Path where
  | rooted (chars : List Char)
  | undivided (chars : List Char)
  deriving DecidableEq, Repr

/-- The text of a path. -/
def Path.chars : Path → List Char
  | .rooted chars => chars
  | .undivided chars => chars

end Url

/-- A URL by its parts, each as it is written. A guarded path has a mark before it, since it was
read without a host and with two leading slashes, which would announce one. -/
structure Url where
  scheme : List Char
  username : List Char
  password : Option (List Char)
  host : Option Url.Host
  port : Option Nat
  path : Url.Path
  guarded : Bool
  query : Option (List Char)
  fragment : Option (List Char)
  deriving DecidableEq, Repr

namespace Url

/-- The port that a scheme uses when none is given. -/
def defaultPort? (scheme : List Char) : Option Nat :=
  if scheme == "http".toList || scheme == "ws".toList then some 80
  else if scheme == "https".toList || scheme == "wss".toList then some 443
  else if scheme == "ftp".toList then some 21
  else none

/-- The scheme of local files. -/
def isFile (scheme : List Char) : Bool := scheme == "file".toList

/-- The schemes of the web have a host that is looked up and a path that is never empty. -/
def isSpecial (scheme : List Char) : Bool := (defaultPort? scheme).isSome || isFile scheme

/-- The part before the host: the user name, and the password after a colon. -/
def userInfo (url : Url) : List Char :=
  let password := match url.password with
    | some password => ':' :: password
    | none => []
  -- The sign before the host shows only if there is an account before it.
  if url.username.isEmpty && url.password.isNone then [] else url.username ++ password ++ ['@']

/-- The host and the port, after the two slashes that announce them. -/
def authority (url : Url) : List Char :=
  match url.host with
  | none => []
  | some host =>
    let port := match url.port with
      | some port => ':' :: (toString port).toList
      | none => []
    "//".toList ++ url.userInfo ++ host.chars ++ port

/-- The mark that keeps a path of two leading slashes from being taken for a host. -/
def pathGuard (url : Url) : List Char :=
  -- The mark stays when the path changes later.
  if url.guarded then "/.".toList else []

/-- The text of a URL. -/
def chars (url : Url) : List Char :=
  -- An empty query or fragment keeps its mark, and one that is missing has none.
  let query := match url.query with
    | some query => '?' :: query
    | none => []
  let fragment := match url.fragment with
    | some fragment => '#' :: fragment
    | none => []
  url.scheme ++ ':' :: url.authority ++ url.pathGuard ++ url.path.chars ++ query ++ fragment

/-- The text of a URL. -/
def render (url : Url) : String := String.ofList url.chars

/-- Nothing can be added to an undivided path. -/
def cannotBeBase (url : Url) : Bool :=
  match url.path with
  | .undivided _ => true
  | .rooted _ => false

/-- A URL may carry an account when it has a host that is not empty. -/
def mayCarryAccount (url : Url) : Bool :=
  match url.host with
  | none => false
  | some (.domain []) => false
  -- Local files have nobody to log in to.
  | some _ => !isFile url.scheme

end Url

end SessionGate
