import SessionGate.Identifier.UserId

/-! The names of the broker resources that belong to a user, and the patterns of permissions. -/

namespace SessionGate.BrokerNames

/-- The exchange that carries one notification for each new session. -/
def connectionExchange : String := "new_connections_exchange"

/-- The name that the default exchange has in permission patterns. -/
def defaultExchange : String := "amq.default"

/-- The broker account of a user has the user's own name. -/
def account (user : UserId) : String := user.text

/-- The queue that carries dispatcher messages to the client. -/
def dispatcherQueue (user : UserId) : String := user.text ++ "_dispatcher_queue"

/-- The queue that carries the client's output to calibration. -/
def outputsQueue (user : UserId) : String := user.text ++ "_outputs_cal_queue"

/-- A queue that is declared no longer but still removed. -/
def inputsQueue (user : UserId) : String := user.text ++ "_inputs_cal_queue"

/-- The shovel that relays the user's output. -/
def outputsShovel (user : UserId) : String := user.text ++ "_outputs_shovel"

/-- A character with a meaning of its own in a pattern. -/
def isOperator (c : Char) : Bool :=
  ['\\', '.', '+', '*', '?', '(', ')', '|', '[', ']', Char.ofNat 0x7B, Char.ofNat 0x7D, '^',
    '$'].contains c

/-- A character as a pattern for itself. -/
def escapeChar (c : Char) : List Char := if isOperator c then ['\\', c] else [c]

/-- A text as a pattern for itself: each operator has a backslash before it. -/
def escapePattern (literal : String) : String :=
  String.ofList (literal.toList.flatMap escapeChar)

/-- A client may consume from its dispatcher queue alone. -/
def readPattern (user : UserId) : String := "^" ++ escapePattern (dispatcherQueue user) ++ "$"

/-- A client may publish to its outputs queue or to the default exchange. -/
def writePattern (user : UserId) : String :=
  -- The parentheses keep both anchors in force for both names.
  "^(" ++ escapePattern (outputsQueue user) ++ "|" ++ escapePattern defaultExchange ++ ")$"

end SessionGate.BrokerNames
