import SessionGate.Broker.Channel
import SessionGate.Http.Outgoing
import SessionGate.Time.Duration

/-! Scripts by which collaborators answer in a rehearsal. -/

namespace SessionGate

/-- What a scripted server does with a request: it replies, or it closes the connection. -/
inductive ServerMove where
  | reply (status : Nat) (body : List UInt8)
  | drop
  deriving DecidableEq

/-- The servers behind all requests: whether they can be reached, and their moves in order. -/
structure RemoteServers where
  isOnline : Bool
  moves : List ServerMove
  deriving DecidableEq

namespace RemoteServers

/-- The reply when no move is left. -/
def exhausted : Reply := ⟨500, Text.utf8 "no scripted response"⟩

/-- Replies of some statuses have no body. -/
def isBodiless (status : Nat) : Bool := status == 204 || status == 304

/-- The servers hear a request if they can be reached; they speak plain HTTP alone. -/
def hear (servers : RemoteServers) (request : Outgoing) : Bool :=
  servers.isOnline && request.url.scheme == "http".toList

/-- Answers a request that can be sent. -/
def serve (servers : RemoteServers) (request : Outgoing) :
    Except SendFault Reply × RemoteServers :=
  -- A request that nobody hears uses up no move.
  if servers.hear request = false then (.error request.disconnected, servers)
  else
    match servers.moves with
    | [] => (.ok exhausted, servers)
    -- A dropped connection looks to the sender like one that was never made.
    | .drop :: rest => (.error request.disconnected, { servers with moves := rest })
    | .reply status body :: rest =>
      (.ok ⟨status, if isBodiless status then [] else body⟩, { servers with moves := rest })

end RemoteServers

/-- How a call of a scripted channel ends. -/
inductive ChannelEnd where
  | succeeded
  | reopened
  | failed (reason : String)
  deriving DecidableEq

/-- What a scripted channel does with a call: it takes its time and ends, or it never ends. -/
inductive ChannelMove where
  | finish (delay : Duration) (how : ChannelEnd)
  | hang
  deriving DecidableEq

/-- The moves of a channel, in order for each kind of call; after them every call succeeds. -/
structure ChannelScript where
  ensureOpen : List ChannelMove
  declare : List ChannelMove
  publish : List ChannelMove
  close : List ChannelMove
  deriving DecidableEq

namespace ChannelScript

/-- A channel on which every call succeeds at once. -/
def empty : ChannelScript := ⟨[], [], [], []⟩

/-- The first of some moves, and the others. -/
def first : List ChannelMove → ChannelMove × List ChannelMove
  -- A script that has run out leaves a channel on which nothing goes wrong.
  | [] => (.finish .zero .succeeded, [])
  | move :: rest => (move, rest)

/-- The move that meets a call. -/
def next (script : ChannelScript) : ChannelCall → ChannelMove × ChannelScript
  | .ensureOpen =>
    let (move, rest) := first script.ensureOpen
    (move, { script with ensureOpen := rest })
  | .declare _ =>
    let (move, rest) := first script.declare
    (move, { script with declare := rest })
  | .publish _ _ =>
    let (move, rest) := first script.publish
    (move, { script with publish := rest })
  | .close =>
    let (move, rest) := first script.close
    (move, { script with close := rest })

end ChannelScript

/-- The answer to a call that ends in some way. -/
def ChannelEnd.answer (how : ChannelEnd) : (call : ChannelCall) → call.Answer
  | .ensureOpen =>
    match how with
    | .succeeded => .ok false
    | .reopened => .ok true
    | .failed reason => .error (.channel reason)
  | .declare _ | .publish _ _ | .close =>
    match how with
    | .succeeded | .reopened => .ok ()
    | .failed reason => .error (.channel reason)

end SessionGate
