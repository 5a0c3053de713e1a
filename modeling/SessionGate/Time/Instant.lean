import SessionGate.Time.Duration

/-! Moments of a clock that only goes forward, as the time since it was started. -/

namespace SessionGate

/-- A moment, as the nanoseconds since the clock was started. -/
structure Instant where
  sinceStart : Nat
  deriving DecidableEq, Repr

namespace Instant

/-- The moment at which the clock is started. -/
def start : Instant := ⟨0⟩

/-- The moments that the clock can tell end here. -/
def reach : Nat := Nat.pow 2 63 * Duration.perSecond

/-- What stands for a length of time that ends beyond the reach of the clock: thirty years. -/
def farAway : Nat := 946080000 * Duration.perSecond

/-- The moment a length of time after another one. -/
def after (moment : Instant) (duration : Duration) : Instant :=
  -- A sum that the clock cannot tell is as good as never, and so it lies far ahead.
  if moment.sinceStart + duration.nanoseconds < reach then
    ⟨moment.sinceStart + duration.nanoseconds⟩
  else ⟨moment.sinceStart + farAway⟩

/-- A moment has come when the clock shows it or a later one. -/
def hasCome (moment now : Instant) : Bool := moment.sinceStart ≤ now.sinceStart

/-- The whole milliseconds since the clock was started. -/
def milliseconds (moment : Instant) : Nat := moment.sinceStart / 1000000

end Instant

end SessionGate
