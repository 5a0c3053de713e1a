/-! Labels outside ASCII written in ASCII: their ASCII characters, and the places of the others as
numbers of varying base. -/

namespace SessionGate.Url.Punycode

/-- The bias once a distance has been made small enough. -/
def settle (delta shift : Nat) : Nat :=
  if 455 < delta then settle (delta / 35) (shift + 36) else shift + 36 * delta / (delta + 38)
termination_by delta
decreasing_by exact Nat.div_lt_self (by omega) (by omega)

/-- The bias that the next distance is written under. -/
def adapt (delta count : Nat) (first : Bool) : Nat :=
  -- The first distance tells little about the next ones and is damped more.
  let scaled := if first then delta / 700 else delta / 2
  settle (scaled + scaled / count) 0

/-- The sign of a number below thirty-six. -/
def sign (value : Nat) : Char :=
  -- The letters come before the digits.
  if value < 26 then Char.ofNat (97 + value) else Char.ofNat (22 + value)

/-- The number that a sign stands for. -/
def digit? (c : Char) : Option Nat :=
  if 'a' ≤ c && c ≤ 'z' then some (c.toNat - 97)
  else if '0' ≤ c && c ≤ '9' then some (c.toNat - 22)
  else none

/-- The number below which a sign ends its distance. -/
def threshold (place bias : Nat) : Nat :=
  if place ≤ bias then 1 else if bias + 26 ≤ place then 26 else place - bias

/-- A threshold leaves at least one sign that ends a distance. -/
theorem threshold_pos (place bias : Nat) : 1 ≤ threshold place bias := by
  -- Between the two bounds the place lies beyond the bias.
  unfold threshold
  split
  · omega
  · split <;> omega

/-- A distance as signs of varying base. -/
def distance (bias place value : Nat) : List Char :=
  if value < threshold place bias then [sign value]
  else
    let beyond := value - threshold place bias
    let base := 36 - threshold place bias
    sign (threshold place bias + beyond % base) :: distance bias (place + 36) (beyond / base)
termination_by value
decreasing_by
  -- What is left is no larger than what lies beyond a threshold of at least one.
  have positive := threshold_pos place bias
  exact Nat.lt_of_le_of_lt (Nat.div_le_self _ _) (by omega)

/-- One pass over the label: the distances of the characters at a point. -/
def pass (label : List Nat) (point start : Nat) (delta bias handled : Nat) :
    List Char × Nat × Nat × Nat :=
  label.foldl (fun (signs, delta, bias, handled) c =>
    -- Characters below the point are in place already, and the distance runs past them.
    if c < point then (signs, delta + 1, bias, handled)
    else if c == point then
      (signs ++ distance bias 36 delta, 0, adapt delta (handled + 1) (handled == start),
        handled + 1)
    else (signs, delta, bias, handled)) ([], delta, bias, handled)

/-- The signs of the characters at some points, in the order of the points; `point` is the least
that has not been looked at. -/
def passes (label : List Nat) (start point delta bias handled : Nat) : List Nat → List Char
  | [] => []
  | next :: rest =>
    -- Every point that is skipped counts for one round through all places.
    let (signs, delta, bias, handled) :=
      pass label next start (delta + (next - point) * (handled + 1)) bias handled
    signs ++ passes label start (next + 1) (delta + 1) bias handled rest

/-- The points outside ASCII that occur in a label, each once, from the least on. -/
def points (label : List Nat) : List Nat :=
  ((label.filter (0x80 ≤ ·)).mergeSort fun first second => first ≤ second).eraseDups

/-- A label in ASCII: its own ASCII characters, a hyphen, and the places of the others. -/
def encode (label : List Char) : List Char :=
  let basic := label.filter fun c => c.toNat < 0x80
  -- A label without ASCII characters has no hyphen either.
  let marked := if basic.isEmpty then [] else basic ++ ['-']
  let numbers := label.map Char.toNat
  marked ++ passes numbers basic.length 0x80 0 72 basic.length (points numbers)

/-- Reads one distance: the number, added to `value`, and the signs after it. -/
def readDistance (bias : Nat) : Nat → Nat → Nat → List Char → Option (Nat × List Char)
  | _, _, _, [] => none
  | place, weight, value, c :: rest =>
    match digit? c with
    | none => none
    | some found =>
      -- The same thresholds as in writing tell where the number ends.
      if found < threshold place bias then some (value + found * weight, rest)
      else
        readDistance bias (place + 36) (weight * (36 - threshold place bias))
          (value + found * weight) rest

/-- Reading a distance uses up at least one sign. -/
theorem readDistance_length (bias : Nat) (signs : List Char) (place weight value : Nat)
    {number : Nat} {rest : List Char}
    (found : readDistance bias place weight value signs = some (number, rest)) :
    rest.length < signs.length := by
  -- Either the first sign ends the number, or the number ends further on.
  induction signs generalizing place weight value with
  | nil => simp [readDistance] at found
  | cons c tail ih =>
    simp only [readDistance] at found
    split at found
    · simp at found
    · split at found
      · simp only [Option.some.injEq, Prod.mk.injEq] at found
        simp [← found.2]
      · have shorter := ih _ _ _ found
        simp only [List.length_cons]
        omega

/-- Puts the characters that signs tell of among those at hand. -/
def insertions (made : List Char) (point start bias : Nat) (signs : List Char) :
    Option (List Char) :=
  if signs.isEmpty then some made
  else
    match _ : readDistance bias 36 1 start signs with
    | none => none
    | some (position, rest) =>
      -- One place more than there are characters, since the new one may also come last.
      let count := made.length + 1
      let next := point + position / count
      if next.isValidChar then
        insertions (made.insertIdx (position % count) (Char.ofNat next)) next
          (position % count + 1) (adapt (position - start) count (start == 0)) rest
      else none
termination_by signs.length
decreasing_by exact readDistance_length _ _ _ _ _ (by assumption)

/-- The label that signs encode: the characters before the last hyphen, and those told after it. -/
def decode (signs : List Char) : Option (List Char) :=
  -- Without a hyphen, or with one in front, there are no characters that stand as they are.
  let told := (signs.reverse.takeWhile (· != '-')).reverse
  let kept := signs.take (signs.length - told.length - 1)
  insertions kept 0x80 0 72 (if kept.isEmpty then signs else told)

end SessionGate.Url.Punycode
