import PooledTcp.Duration

/-!
# Waiting longer after each failure

The wait after the first failure is `base`, and each further failure in a row doubles it, up to `max`.
From that ceiling a random jitter is taken off, less than a tenth of it. The draw that decides the
jitter is an argument, so that a delay is a function of its inputs; `Spread` tells which delays the
draws can give.
-/

namespace PooledTcp

namespace Backoff

/-- The greatest 64-bit number. -/
def greatest : UInt64 := 0xFFFFFFFFFFFFFFFF

/-- A number that does not exceed 64 bits, or the greatest that does not. -/
def saturate (n : Nat) : UInt64 := if n < UInt64.size then UInt64.ofNat n else greatest

/-- `2 ^ k`, or the greatest number. -/
def power (k : Nat) : UInt64 := if k < 64 then saturate (Nat.pow 2 k) else greatest

/-- The longest delay in milliseconds after `attempt` failures in a row. -/
def ceiling (attempt : UInt32) (base max : UInt64) : UInt64 :=
  if attempt = 0 then 0
  else min (saturate (base.toNat * (power (attempt.toNat - 1)).toNat)) max

/-- How many values the jitter has; with none of them there is no jitter. -/
def jitterRange (ceiling : UInt64) : UInt64 := ceiling / 10

/-- The jitter that a draw decides. -/
def jitter (ceiling : UInt64) (draw : UInt64) : UInt64 :=
  if jitterRange ceiling = 0 then 0 else draw % jitterRange ceiling

/-- The delay in milliseconds after `attempt` failures in a row. -/
def delayMs (attempt : UInt32) (base max draw : UInt64) : UInt64 :=
  let c := ceiling attempt base max
  c - jitter c draw

/-- The delay after `attempt` failures in a row. -/
def delay (attempt : UInt32) (base max draw : UInt64) : Duration :=
  .ofMillis (delayMs attempt base max draw)

/-- The delays that the draws give: every one from the least to the greatest. -/
structure Spread where
  least : UInt64
  greatest : UInt64
  deriving DecidableEq, Repr

/-- How many of the delays are in a range. -/
inductive Coverage where
  | all | none | some
  deriving DecidableEq, Repr

namespace Spread

/-- The delays after `attempt` failures in a row. -/
def of (attempt : UInt32) (base max : UInt64) : Spread :=
  let c := ceiling attempt base max
  { least := if jitterRange c = 0 then c else c - (jitterRange c - 1), greatest := c }

def varies (s : Spread) : Bool := s.least != s.greatest

/-- How many of the delays are from `low` to `high`. -/
def within (s : Spread) (low high : UInt64) : Coverage :=
  if low ≤ s.least && s.greatest ≤ high then .all
  else if s.greatest < low || high < s.least then .none
  else .some

end Spread
end Backoff

/-- A count of failures in a row, with the bounds of the delay in milliseconds. -/
structure Backoff where
  attempts : UInt32 := 0
  base : UInt64
  max : UInt64
  deriving DecidableEq, Repr

namespace Backoff

/-- No failure yet. Bounds count in whole milliseconds, of which 64 bits are kept. -/
def ofBounds (base max : Duration) : Backoff :=
  { base := UInt64.ofNat base.millis, max := UInt64.ofNat max.millis }

/-- One more failure; the count stays at its greatest value. -/
def fail (b : Backoff) : Backoff :=
  { b with attempts := if b.attempts = 0xFFFFFFFF then b.attempts else b.attempts + 1 }

/-- One more failure, and how long to wait after it. -/
def next (b : Backoff) (draw : UInt64) : Backoff × Duration :=
  (b.fail, delay b.fail.attempts b.base b.max draw)

/-- A success. -/
def reset (b : Backoff) : Backoff := { b with attempts := 0 }

/-- `n` more failures. -/
def failures (b : Backoff) (n : Nat) : Backoff := Nat.repeat fail n b

/-- The delays that the next failure may bring. -/
def nextSpread (b : Backoff) : Spread := .of b.fail.attempts b.base b.max

end Backoff
end PooledTcp
