import PooledTcp.Stream.Basic

/-!
# Two-way pipes in memory

A pipe has two ends and in each direction a queue of limited capacity. An end that is shut down sends
nothing more; what it sent before can still be read. An end that is dropped takes nothing more either.
-/

namespace PooledTcp

/-- The queue of one direction. -/
structure Channel where
  capacity : Nat
  queue : Bytes := []
  closed : Bool := false
  deriving DecidableEq, Repr

namespace Channel

/-- Take at most `n` bytes. An empty queue makes the reader wait, unless it is closed or nothing is
wanted. -/
def read (n : Nat) (c : Channel) : Poll (Except IoError Bytes) × Channel :=
  if n = 0 then (.ready (.ok []), c)
  else if c.queue.isEmpty && !c.closed then (.pending, c)
  else (.ready (.ok (c.queue.take n)), { c with queue := c.queue.drop n })

/-- Put in as many bytes as there is room for. A full queue makes the writer wait. -/
def write (bytes : Bytes) (c : Channel) : Poll (Except IoError Nat) × Channel :=
  let room := c.capacity - c.queue.length
  if c.closed then (.ready (.error (.standard .brokenPipe "broken pipe")), c)
  else if room = 0 then (.pending, c)
  else (.ready (.ok (min bytes.length room)), { c with queue := c.queue ++ bytes.take room })

def close (c : Channel) : Channel := { c with closed := true }

end Channel

/-- A pipe, as its near end sees it. -/
structure Pipe where
  /-- From the near end to the far one. -/
  outward : Channel
  /-- From the far end to the near one. -/
  inward : Channel
  deriving DecidableEq, Repr

namespace Pipe

def empty (capacity : Nat) : Pipe := { outward := { capacity }, inward := { capacity } }

/-- The pipe as the other end sees it. -/
def flip (p : Pipe) : Pipe := { outward := p.inward, inward := p.outward }

/-- The near end. -/
def near : Stream Pipe where
  read n p := let (r, inward) := p.inward.read n; (r, { p with inward })
  write bytes p := let (r, outward) := p.outward.write bytes; (r, { p with outward })
  flush p := (.ready (.ok ()), p)
  shutdown p := (.ready (.ok ()), { p with outward := p.outward.close })

/-- The far end. -/
def far : Stream Pipe where
  read n p := let (r, q) := near.read n p.flip; (r, q.flip)
  write bytes p := let (r, q) := near.write bytes p.flip; (r, q.flip)
  flush p := let (r, q) := near.flush p.flip; (r, q.flip)
  shutdown p := let (r, q) := near.shutdown p.flip; (r, q.flip)

/-- One end is dropped. -/
def drop (p : Pipe) : Pipe := { outward := p.outward.close, inward := p.inward.close }

end Pipe
end PooledTcp
