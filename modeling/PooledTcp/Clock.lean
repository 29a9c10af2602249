import PooledTcp.Duration

/-!
# Moments and timers

A moment is a number of nanoseconds since the clock started. Timers fire on whole milliseconds:
`tick t` is the moment at which a deadline `t` is noticed, never before it (`le_tick`) and less than
a millisecond after it (`tick_lt`).
-/

namespace PooledTcp.Clock

/-- From here on a moment cannot be told: its seconds leave the signed 64-bit range. -/
def horizon : Nat := UInt64.size / 2 * nanosPerSec

/-- The moment `d` after `now`, unless it lies beyond the horizon. -/
def after? (now : Nat) (d : Duration) : Option Nat :=
  if now + d.nanos < horizon then some (now + d.nanos) else none

/-- Where a sleep ends whose end cannot be told: thirty years on. -/
def farFuture (now : Nat) : Nat := now + 86400 * 365 * 30 * nanosPerSec

/-- The end of a sleep of `d` begun at `now`. -/
def sleepEnd (now : Nat) (d : Duration) : Nat := (after? now d).getD (farFuture now)

/-- The whole millisecond at which a timer set for `t` fires. -/
def tick (t : Nat) : Nat := (t + (nanosPerMilli - 1)) / nanosPerMilli * nanosPerMilli

/-- A timer set for `t` has fired by `now`. -/
def fired (now t : Nat) : Bool := decide (tick t ≤ now)

/-- The span from `earlier` to `now`. -/
def span (earlier now : Nat) : Duration := (Duration.ofNanos? (now - earlier)).getD .longest

/-- The whole milliseconds at `now`. -/
def millis (now : Nat) : Nat := now / nanosPerMilli

theorem le_tick (t : Nat) : t ≤ tick t := by
  simp only [tick, nanosPerMilli]; omega

theorem tick_lt (t : Nat) : tick t < t + nanosPerMilli := by
  simp only [tick, nanosPerMilli]; omega

theorem tick_tick (t : Nat) : tick (tick t) = tick t := by
  simp only [tick, nanosPerMilli]; omega

theorem tick_mono {s t : Nat} (h : s ≤ t) : tick s ≤ tick t := by
  simp only [tick, nanosPerMilli]; omega

end PooledTcp.Clock
