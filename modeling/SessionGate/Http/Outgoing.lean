import SessionGate.Json.Value
import SessionGate.Program
import SessionGate.Text.Base64
import SessionGate.Url.Basic

/-! Requests that are sent to other services, and what comes back. -/

namespace SessionGate

/-- What another service answered. -/
structure Reply where
  status : Nat
  body : List UInt8
  deriving DecidableEq

/-- A request to another service. -/
structure Outgoing where
  method : String
  url : Url
  account : Option (String × String)
  body : Option String
  deriving DecidableEq

/-- A request that brought no answer: its URL cannot be asked, or the connection failed. -/
inductive SendFault where
  | unaskable (url : String)
  | disconnected (url : String)
  deriving DecidableEq

/-- The wording of a failed request. -/
def SendFault.message : SendFault → String
  | .unaskable url => "builder error for url (" ++ url ++ ")"
  | .disconnected url => "error sending request for url (" ++ url ++ ")"

namespace Outgoing

/-- The account in the URL, if there is one, with its escapes taken back. A name that is no text
then is left where it is. -/
def urlAccount? (request : Outgoing) : Option (String × String) :=
  match Text.ofUtf8? (Url.decode request.url.username) with
  | none => none
  | some name =>
    match request.url.password.bind fun password => Text.ofUtf8? (Url.decode password) with
    | some password => some (name, password)
    -- A password that is no text counts as none.
    | none => if name.isEmpty then none else some (name, "")

/-- The URL without an account and a fragment, as it is asked. -/
def sentUrl (request : Outgoing) : Url :=
  { request.url with username := [], password := none, fragment := none }

/-- The URL as it is told in faults: without the account that was taken from it. -/
def shownUrl (request : Outgoing) : Url :=
  -- An account that could not be read was not taken, and so it stays in the URL.
  if request.urlAccount?.isSome then { request.url with username := [], password := none }
  else request.url

/-- The authorizations of a request: the account in its URL before its own. -/
def authorizations (request : Outgoing) : List String :=
  -- Both are sent if there are two, and the receiver chooses.
  (request.urlAccount?.toList ++ request.account.toList).map fun (name, password) =>
    Text.basicAuthorization (Text.utf8 name) (Text.utf8 password)

/-- A character of a name that requests cannot carry although a host may hold it. -/
def isUnsendable (c : Char) : Bool :=
  [Char.ofNat 0x22, Char.ofNat 0x60, Char.ofNat 0x7B, Char.ofNat 0x7D].contains c

/-- A request can be made of the two schemes of the web, to a name that it can carry. -/
def isAskable (request : Outgoing) : Bool :=
  (request.url.scheme == "http".toList || request.url.scheme == "https".toList) &&
    !((request.url.host.map Url.Host.chars).getD []).any isUnsendable

/-- The fault of a request whose URL cannot be asked. -/
def unaskable (request : Outgoing) : SendFault := .unaskable request.shownUrl.render

/-- The fault of a request whose connection failed. -/
def disconnected (request : Outgoing) : SendFault := .disconnected request.shownUrl.render

end Outgoing

/-- A computation that sends requests to other services. -/
abbrev SendProgram := Program Outgoing fun _ => Except SendFault Reply

/-- Sends a request, unless its URL cannot be asked. -/
def Outgoing.send (request : Outgoing) : SendProgram (Except SendFault Reply) :=
  -- A request that cannot be made asks nobody.
  if request.isAskable then Program.question request else .done (.error request.unaskable)

end SessionGate
