import SessionGate.Http.MediaType
import SessionGate.Json.Shape
import SessionGate.Text.Number

/-! Requests of the gateway's clients: where they go, and what their bodies hold. -/

namespace SessionGate

/-- A request of a client. -/
structure Request where
  method : String
  target : String
  headers : List (String × String)
  body : List UInt8
  deriving DecidableEq

/-- Why the body of a request cannot be taken. -/
inductive BodyFault where
  | wrongMediaType
  | tooLong
  | mismatched
  | malformed
  deriving DecidableEq, Repr

/-- The wording for a body that cannot be taken. -/
def BodyFault.message : BodyFault → String
  | .wrongMediaType =>
    let mark := String.singleton (Char.ofNat 0x60)
    "Expected request with " ++ mark ++ "Content-Type: application/json" ++ mark
  | .tooLong => "Failed to buffer the request body: length limit exceeded"
  | .mismatched => "Failed to deserialize the JSON body into the target type"
  | .malformed => "Failed to parse the request body as JSON"

namespace Request

/-- A character of a scheme. -/
def isSchemeChar (c : Char) : Bool := c.isAlphanum || ['+', '-', '.'].contains c

/-- The path in a target without a fragment. A target may also name a scheme and a host; a host
alone has no path. -/
def pathChars (target : List Char) : List Char :=
  match target with
  | ['*'] => ['*']
  | '/' :: _ => target.takeWhile (· != '?')
  | _ =>
    match target.dropWhile isSchemeChar with
    -- A scheme and a host are passed over, and then the path may be missing.
    | ':' :: '/' :: '/' :: rest =>
      match (rest.dropWhile fun c => c != '/' && c != '?').takeWhile (· != '?') with
      -- A host with a scheme is asked for its root.
      | [] => ['/']
      | path => path
    | _ => []

/-- The path that a request goes to, with its escapes. -/
def path (request : Request) : String :=
  String.ofList (pathChars (request.target.toList.takeWhile (· != '#')))

/-- The first value of a header, whose name may be written in small or capital letters. -/
def header? (request : Request) (name : String) : Option String :=
  -- A header that comes several times counts by its first value.
  (request.headers.find? fun header => Text.lower header.1 == name).map Prod.snd

/-- A text of printable ASCII characters and tabs. -/
def isPrintable (text : String) : Bool :=
  text.toList.all fun c => (0x20 ≤ c.toNat && c.toNat < 0x7F) || c == '\t'

/-- The request says that its body is a JSON document. -/
def announcesJson (request : Request) : Bool :=
  -- A value that is not printable is as good as missing.
  match (request.header? "content-type").filter isPrintable with
  | none => false
  | some text => (MediaType.read? text).any MediaType.isJson

/-- The length of the body that a request announces, if it is a number of eight bytes. -/
def announcedLength? (request : Request) : Option Nat :=
  match request.header? "content-length" with
  | none => none
  -- What is no number announces nothing.
  | some text => (Text.readNumber (Nat.pow 2 64 - 1) text).toOption

/-- How long a body may be, as far as its announcement goes: none is accepted when a longer one
is announced than there may be. -/
def admittedLength? (request : Request) (longest : Nat) : Option Nat :=
  match request.announcedLength? with
  | none => some longest
  -- A body is not read beyond what it announces, so the announcement is the new bound.
  | some announced => if longest < announced then none else some announced

/-- No body that is read is longer than this many bytes. -/
def longestRead : Nat := 2097152

/-- Reads the document in the body of a request, which must have a shape. -/
def readJson {α : Type} (request : Request) (longest : Nat) (shape : Json.Shape)
    (ofJson? : Json → Option α) : Except BodyFault α :=
  -- The media type is judged before the body is read, and the body's length before its text.
  if request.announcesJson = false then .error .wrongMediaType
  else if min longest longestRead < request.body.length then .error .tooLong
  else
    match shape.read request.body with
    | .error .mismatched => .error .mismatched
    -- A text that ends too early is as malformed as any other.
    | .error _ => .error .malformed
    | .ok document =>
      match ofJson? document with
      | some value => .ok value
      | none => .error .mismatched

end Request

end SessionGate
