import SessionGate.Text.Blank
import SessionGate.Url.Basic

/-! Paths segment by segment: how dot segments take others away, and how segments are added. What
else a URL may be given: an account, and names with values in its query. -/

namespace SessionGate.Url

/-- A segment that stands for the place it is at. -/
def isSingleDot (segment : List Char) : Bool :=
  segment == ['.'] || segment.map Text.lowerChar == "%2e".toList

/-- A segment that stands for the place above. -/
def isDoubleDot (segment : List Char) : Bool :=
  -- Either dot may be written as an escape of either case.
  let small := segment.map Text.lowerChar
  small == "..".toList || small == "%2e%2e".toList || small == ".%2e".toList ||
    small == "%2e.".toList

/-- A path up to and with its last slash. -/
def toLastSlash (path : List Char) : List Char :=
  (path.reverse.dropWhile (· != '/')).reverse

/-- The path ends with a slash. -/
def endsWithSlash (path : List Char) : Bool := path.getLast? == some '/'

/-- What follows the last slash of a path. -/
def lastSegment (path : List Char) : List Char :=
  (path.reverse.takeWhile (· != '/')).reverse

/-- A letter that names a drive, with its colon or the bar that may stand for it. -/
def isDrive : List Char → Bool
  | [letter, mark] => letter.isAlpha && (mark == ':' || mark == '|')
  | _ => false

/-- The path one place above: its last segment is gone, but the root and a drive stay. -/
def parentPath (path : List Char) : List Char :=
  -- A slash at the end closes the last segment and goes with it.
  let shorter := path.dropLast
  -- No place is above a drive, wherever it stands; a backslash ends its name as a slash does.
  let onDrive := isDrive ((lastSegment shorter).takeWhile (· != '\\'))
  if endsWithSlash path && shorter.contains '/' && !onDrive then toLastSlash shorter
  else toLastSlash path

/-- The path with a slash at its end. -/
def withSlash (path : List Char) : List Char :=
  if endsWithSlash path then path else path ++ ['/']

/-- A path with one more segment, already escaped; `more` holds when a slash follows it. -/
def addSegment (path segment : List Char) (more : Bool) : List Char :=
  if isDoubleDot segment then
    -- A step up at the end of a path still leaves a slash behind.
    if more then withSlash (parentPath path) else parentPath path
  else if isSingleDot segment then withSlash path
  else path ++ segment ++ (if more then ['/'] else [])

/-- A path with segments added that are not escaped yet. -/
def addSegments (path : List Char) : List (List Char) → List Char
  | [] => path
  | [last] => addSegment path (encode inPath last) false
  | segment :: next :: rest =>
    addSegments (addSegment path (encode inPath segment) true) (next :: rest)

/-- The path of a local file with segments added that are not escaped yet, and whether a drive was
put right below the root. -/
def addLocalSegments (path : List Char) (onDrive : Bool) : List (List Char) → List Char × Bool
  | [] => (path, onDrive)
  | segment :: rest =>
    let segment := encode inPath segment
    if path == ['/'] && isDrive segment then
      -- The mark of a drive at this place is always written as a colon.
      let drive := path ++ segment.take 1 ++ [':']
      addLocalSegments (if rest.isEmpty then drive else withSlash drive) true rest
    else addLocalSegments (addSegment path segment !rest.isEmpty) onDrive rest

/-- Tabs and line ends do not count anywhere in a URL. -/
def isDropped (c : Char) : Bool := c == '\t' || c == '\n' || c == '\r'

/-- A path with a text pushed as one segment. A dot segment is left out, and a slash is put before
the segment unless the path is the root. -/
def pushSegment (special : Bool) (path : List Char) (text : String) : List Char :=
  if text == "." || text == ".." then path
  else
    -- The root has its slash already.
    let base := if path == ['/'] then path else path ++ ['/']
    -- What is dropped elsewhere in a URL is dropped before it could be escaped.
    let set := if special then inSpecialSegment else inSegment
    addSegment base (encode set (text.toList.filter fun c => !isDropped c)) false

/-- Changes the path of a URL, if it is divided into segments. -/
def mapPath (change : List Char → List Char) (url : Url) : Url :=
  match url.path with
  | .rooted path => { url with path := .rooted (change path) }
  | .undivided _ => url

/-- Cuts a path back to its root; an empty one stays empty. -/
def clearPath (url : Url) : Url := url.mapPath fun path => path.take 1

/-- Takes an empty last segment off a path. -/
def popIfEmpty (url : Url) : Url :=
  url.mapPath fun path => if 1 < path.length && endsWithSlash path then path.dropLast else path

/-- Adds segments to a path, each escaped so that it stays one. -/
def push (url : Url) (segments : List String) : Url :=
  url.mapPath fun path => segments.foldl (pushSegment (isSpecial url.scheme)) path

/-- Gives a URL a user name, if it can carry one. -/
def withUsername? (url : Url) (username : String) : Option Url :=
  if url.mayCarryAccount then
    some { url with username := encode inUserInfo username.toList }
  else none

/-- Gives a URL a password, if it can carry one; an empty password is none. -/
def withPassword? (url : Url) (password : String) : Option Url :=
  if url.mayCarryAccount then
    some { url with
      password :=
        if password.isEmpty then none else some (encode inUserInfo password.toList) }
  else none

/-- A URL with one more name and value in its query. -/
def addQueryPair (url : Url) (name value : String) : Url :=
  let pair := (formPair name value).toList
  match url.query with
  -- Only a query that holds something needs a separator.
  | none | some [] => { url with query := some pair }
  | some query => { url with query := some (query ++ '&' :: pair) }

end SessionGate.Url
