/-!
# Spans of time

A `Duration` is a whole number of nanoseconds whose whole seconds fit in 64 bits. It is written in
the largest unit that it reaches, with as many decimals as it needs.
-/

namespace PooledTcp

/-- Nanoseconds in a second. -/
def nanosPerSec : Nat := 1000000000

/-- Nanoseconds in a millisecond. -/
def nanosPerMilli : Nat := 1000000

/-- A span of time; its whole seconds fit in 64 bits. -/
structure Duration where
  nanos : Nat
  inRange : nanos < UInt64.size * nanosPerSec := by decide
  deriving DecidableEq, Repr

namespace Duration

def zero : Duration := ⟨0, by decide⟩

/-- The longest span. -/
def longest : Duration := ⟨UInt64.size * nanosPerSec - 1, by decide⟩

instance : Inhabited Duration := ⟨zero⟩

/-- A span of that many nanoseconds, unless it is too long. -/
def ofNanos? (n : Nat) : Option Duration :=
  if h : n < UInt64.size * nanosPerSec then some ⟨n, h⟩ else none

/-- Whole seconds and a fraction in nanoseconds; a fraction of a second or more carries over. -/
def ofSecsNanos? (secs fraction : Nat) : Option Duration :=
  ofNanos? (secs * nanosPerSec + fraction)

/-- Any 64-bit number of milliseconds is a span. -/
def ofMillis (ms : UInt64) : Duration :=
  ⟨ms.toNat * nanosPerMilli, by
    have := ms.toNat_lt
    simp only [nanosPerMilli, nanosPerSec, UInt64.size]
    omega⟩

/-- The whole seconds. -/
def secs (d : Duration) : Nat := d.nanos / nanosPerSec

/-- What is left after the whole seconds, in nanoseconds. -/
def subsecNanos (d : Duration) : Nat := d.nanos % nanosPerSec

/-- The whole milliseconds. -/
def millis (d : Duration) : Nat := d.nanos / nanosPerMilli

def isZero (d : Duration) : Bool := d.nanos == 0

/-- `number / unit` in decimal without trailing zeros; `unit` is `10 ^ places`. -/
def decimal (number unit places : Nat) : String :=
  let whole := toString (number / unit)
  let digits := Nat.toDigits 10 (number % unit)
  let padded := List.replicate (places - digits.length) '0' ++ digits
  let fraction := (padded.reverse.dropWhile (· == '0')).reverse
  if fraction.isEmpty then whole else whole ++ "." ++ String.ofList fraction

/-- The span in the largest of the units s, ms, µs and ns that it reaches: `1.5s`, `33.5ms`, `0ns`. -/
def text (d : Duration) : String :=
  if nanosPerSec ≤ d.nanos then decimal d.nanos nanosPerSec 9 ++ "s"
  else if nanosPerMilli ≤ d.nanos then decimal d.nanos nanosPerMilli 6 ++ "ms"
  else if 1000 ≤ d.nanos then decimal d.nanos 1000 3 ++ "µs"
  else toString d.nanos ++ "ns"

end Duration

end PooledTcp
