/-! Lengths of time in nanoseconds, up to the largest number of seconds of one machine word. -/

namespace SessionGate

/-- Nanoseconds in a second. -/
def Duration.perSecond : Nat := 1000000000

/-- The longest duration in nanoseconds. -/
def Duration.limit : Nat := Nat.pow 2 64 * Duration.perSecond - 1

/-- A length of time that does not pass the longest one. -/
structure Duration where
  nanoseconds : Nat
  within : nanoseconds ≤ Duration.limit
  deriving DecidableEq

namespace Duration

/-- A number of nanoseconds, cut off at the longest duration. -/
def ofNanoseconds (count : Nat) : Duration :=
  ⟨min count limit, Nat.min_le_right count limit⟩

/-- A number of seconds, cut off at the longest duration. -/
def ofSeconds (count : Nat) : Duration := ofNanoseconds (count * perSecond)

/-- A number of milliseconds, cut off at the longest duration. -/
def ofMilliseconds (count : Nat) : Duration := ofNanoseconds (count * 1000000)

/-- No time at all. -/
def zero : Duration := ofNanoseconds 0

/-- A duration taken several times, cut off at the longest one. -/
def times (step : Duration) (count : Nat) : Duration := ofNanoseconds (step.nanoseconds * count)

/-- The whole seconds of a duration. -/
def seconds (duration : Duration) : Nat := duration.nanoseconds / perSecond

/-- The nanoseconds past the whole seconds. -/
def subsecond (duration : Duration) : Nat := duration.nanoseconds % perSecond

/-- The digits of a fraction of the given width, without the zeros at its end. -/
def fractionDigits (width value : Nat) : List Char :=
  let digits := Nat.toDigits 10 value
  let padded := List.replicate (width - digits.length) '0' ++ digits
  -- Zeros in front place the digits; those at the end tell nothing.
  (padded.reverse.dropWhile (· == '0')).reverse

/-- A count of a unit with the fraction of it that is left. -/
def counted (duration : Duration) (unit width : Nat) (suffix : String) : String :=
  let whole := toString (duration.nanoseconds / unit)
  let fraction := fractionDigits width (duration.nanoseconds % unit)
  -- A whole count stands without a point.
  if fraction.isEmpty then whole ++ suffix
  else whole ++ "." ++ String.ofList fraction ++ suffix

/-- A duration is shown in the largest of seconds, milliseconds, microseconds and nanoseconds
that it holds at least one of. -/
def describe (duration : Duration) : String :=
  let count := duration.nanoseconds
  -- The unit is the largest that fits, so the whole part is never zero except for no time at all.
  if count ≥ perSecond then duration.counted perSecond 9 "s"
  else if count ≥ 1000000 then duration.counted 1000000 6 "ms"
  else if count ≥ 1000 then duration.counted 1000 3 "µs"
  else toString count ++ "ns"

end Duration

end SessionGate
