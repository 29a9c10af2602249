import PooledTcp.Clock
import PooledTcp.Stream.Basic

/-!
# Streams with deadlines

Wrapping a stream may fix two moments: after the one nothing more is read, after the other nothing more is
written or flushed. They are fixed once and nothing puts them off. Until then, and for shutting the stream
down always, the wrapped stream does what the bare one does. Whoever looks at a deadline that has not passed
is told when it passes.
-/

namespace PooledTcp

/-- The two directions of a stream. -/
inductive Half where
  | reading | writing
  deriving DecidableEq, Repr

/-- What is done in one direction. -/
def Half.name : Half → String
  | .reading => "read"
  | .writing => "write"

/-- The half of a stream that an operation is for. -/
def Operation.half : Operation → Half
  | .read _ | .readExact _ _ => .reading
  | .write _ | .writeAll _ | .flush | .shutdown => .writing

/-- A moment that is fixed. -/
structure Timer where
  deadline : Nat
  /-- Whoever looked at it last is told when it passes. -/
  watched : Bool := false
  deriving DecidableEq, Repr

namespace Timer

def watch (t : Timer) : Timer := { t with watched := true }

def fired (t : Timer) (now : Nat) : Bool := Clock.fired now t.deadline

/-- When somebody is told, if anybody is. -/
def alarm (t : Timer) : Option Nat := if t.watched then some (Clock.tick t.deadline) else none

end Timer

/-- A stream's state with deadlines around it. -/
structure Deadlined (σ : Type) where
  inner : σ
  /-- From its moment on nothing is read; `none` is never. -/
  readTimer : Option Timer
  /-- From its moment on nothing is written or flushed; `none` is never. -/
  writeTimer : Option Timer

namespace Deadlined

variable {σ : Type}

/-- The timer that a timeout sets. Zero sets none. -/
def timer? (now : Nat) (timeout : Duration) : Option Timer :=
  if timeout.isZero then none else some { deadline := Clock.sleepEnd now timeout }

/-- Wrap a stream at the moment `now`. -/
def wrap (inner : σ) (now : Nat) (read write : Duration) : Deadlined σ :=
  { inner, readTimer := timer? now read, writeTimer := timer? now write }

/-- The timer of one half. -/
def timer (d : Deadlined σ) : Half → Option Timer
  | .reading => d.readTimer
  | .writing => d.writeTimer

/-- Look at the timer of one half. -/
def watch (d : Deadlined σ) : Half → Deadlined σ
  | .reading => { d with readTimer := d.readTimer.map Timer.watch }
  | .writing => { d with writeTimer := d.writeTimer.map Timer.watch }

/-- Whether the deadline of one half has passed. -/
def expired (d : Deadlined σ) (half : Half) (now : Nat) : Bool := (d.timer half).any (·.fired now)

/-- The failure of an operation after its deadline. -/
def exceeded (half : Half) : IoError := .raised .timedOut (half.name ++ " deadline exceeded")

/-- An operation on the bare stream, unless its deadline has passed. -/
def guarded {α : Type} (half : Half) (now : Nat) (op : σ → Poll (Except IoError α) × σ) (d : Deadlined σ) :
    Poll (Except IoError α) × Deadlined σ :=
  if d.expired half now then (.ready (.error (exceeded half)), d)
  else
    let (p, inner) := op d.inner
    (p, { d.watch half with inner })

/-- The wrapped stream at the moment `now`. -/
def stream (s : Stream σ) (now : Nat) : Stream (Deadlined σ) where
  read n d := guarded .reading now (s.read n) d
  write bytes d := guarded .writing now (s.write bytes) d
  flush d := guarded .writing now s.flush d
  shutdown d := let (p, inner) := s.shutdown d.inner; (p, { d with inner })

/-- The timer that an operation is subject to. Shutting down is subject to none. -/
def timerOf (d : Deadlined σ) : Operation → Option Timer
  | .shutdown => none
  | op => d.timer op.half

/-- How a report shows a wrapped value that has no deadlines. -/
def debugText (inner : String) : String :=
  Text.record "DeadlineStream"
    [("inner", inner), ("read_deadline", "None"), ("write_deadline", "None")]

end Deadlined
end PooledTcp
