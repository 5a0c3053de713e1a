import SessionGate.Gateway.Request

/-! Whose pages may ask the gateway from within a browser. -/

namespace SessionGate

/-- Pages of anyone may ask, or those of certain origins. -/
inductive OriginPolicy where
  | anyone
  | only (origins : List String)
  deriving DecidableEq, Repr

namespace OriginPolicy

/-- A text that a header can carry. -/
def isHeaderValue (text : String) : Bool :=
  text.toList.all fun c => (0x20 ≤ c.toNat && c.toNat != 0x7F) || c == '\t'

/-- The policy for origins as they are configured: an asterisk stands for anyone, and what no
header can carry is no origin. -/
def ofList (origins : List String) : OriginPolicy :=
  -- One asterisk among other origins is enough.
  if origins.contains "*" then .anyone else .only (origins.filter isHeaderValue)

/-- What a browser is told about who may read the answer to a request. -/
def admitted? (policy : OriginPolicy) (request : Request) : Option String :=
  match policy with
  | .anyone => some "*"
  | .only origins => (request.header? "origin").filter origins.contains

/-- The headers on which answers depend. -/
def varying : String := "origin, access-control-request-method, access-control-request-headers"

/-- The headers by which a browser is told who may read an answer. -/
def headers (policy : OriginPolicy) (request : Request) : List (String × String) :=
  -- The first header stands even where nobody is admitted, so that no cache mixes answers up.
  ("vary", varying) ::
    ((policy.admitted? request).map fun origin => ("access-control-allow-origin", origin)).toList

/-- The headers by which a browser is told what pages may ask for. -/
def preflightHeaders : List (String × String) :=
  [("access-control-allow-methods", "*"), ("access-control-allow-headers", "*")]

end OriginPolicy

end SessionGate
