/-! The places at which the gateway can be asked for something. -/

namespace SessionGate

/-- A place of the gateway. Those that concern one session hold the part of the path that names
it. -/
inductive Route where
  | health
  | ready
  | connect
  | session (segment : String)
  | complete (segment : String)
  | timeOut (segment : String)
  | dispatcherStatus (segment : String)
  deriving DecidableEq, Repr

namespace Route

/-- The place at a path. The parts between slashes are taken as they are written; the part that
names a session is not empty. -/
def ofPath? (path : String) : Option Route :=
  -- A path starts with a slash, so its first part is empty; so is the last one after a slash.
  match (path.toList.splitOn '/').map String.ofList with
  | ["", "health"] => some .health
  | ["", "ready"] => some .ready
  | ["", "users", "connect"] => some .connect
  -- This path is never taken for that of a session called by the name.
  | ["", "sessions", "start"] => some .connect
  | "" :: "sessions" :: segment :: rest =>
    if segment.isEmpty then none
    else
      match rest with
      | [] => some (.session segment)
      | ["status", "completed"] => some (.complete segment)
      | ["status", "timeout"] => some (.timeOut segment)
      | ["dispatcher-status"] => some (.dispatcherStatus segment)
      | _ => none
  | _ => none

/-- The methods that a place serves. What can be read can also be asked for its headers alone. -/
def methods : Route → List String
  | .health | .ready | .session _ => ["GET", "HEAD"]
  | .connect => ["POST"]
  | .complete _ | .timeOut _ | .dispatcherStatus _ => ["PUT"]

/-- A place serves a method. -/
def serves (route : Route) (method : String) : Bool := route.methods.contains method

/-- The methods of a place, as clients get them told. -/
def allow (route : Route) : String := ",".intercalate route.methods

end Route

end SessionGate
