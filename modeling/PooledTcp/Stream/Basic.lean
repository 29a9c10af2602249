import PooledTcp.Bytes
import PooledTcp.IoError

/-!
# Streams of bytes

A stream is polled: each operation either is done or has to wait, and moves the stream on. `Operation` is
what a caller wants of a stream. Reading exactly so many bytes, or writing all of them, takes several polls
of the stream; what was moved when the caller gives up stays moved.
-/

namespace PooledTcp

/-- What a poll comes to. -/
inductive Poll (α : Type) where
  | ready (result : α)
  /-- Not yet. -/
  | pending
  deriving DecidableEq, Repr

/-- A stream whose state is a `σ`. -/
structure Stream (σ : Type) where
  /-- At most so many bytes; none at the end of the stream. -/
  read : Nat → σ → Poll (Except IoError Bytes) × σ
  /-- Some of the bytes, from the first on; how many. -/
  write : Bytes → σ → Poll (Except IoError Nat) × σ
  flush : σ → Poll (Except IoError Unit) × σ
  /-- No more will be written. -/
  shutdown : σ → Poll (Except IoError Unit) × σ

/-- What a caller wants of a stream, and what is left of it to do. -/
inductive Operation where
  /-- One read of at most `n` bytes. -/
  | read (n : Nat)
  /-- `left` bytes after those that were read already. -/
  | readExact (done : Bytes) (left : Nat)
  /-- One write. -/
  | write (bytes : Bytes)
  | writeAll (rest : Bytes)
  | flush
  | shutdown
  deriving DecidableEq, Repr

/-- What an operation brings. -/
inductive Outcome where
  | bytes (b : Bytes)
  | count (n : Nat)
  | done
  deriving DecidableEq, Repr

namespace Stream

variable {σ : Type}

/-- The stream ended before all bytes were read. -/
def earlyEnd : IoError := .standard .unexpectedEof "early eof"

/-- The stream takes no more bytes. -/
def nothingWritten : IoError := .standard .writeZero "failed to write whole buffer"

/-- What a poll comes to once its result is known to be `f` of it. -/
def outcome {α : Type} (f : α → Outcome) : Poll (Except IoError α) → Poll (Except IoError Outcome)
  | .ready r => .ready (r.map f)
  | .pending => .pending

/-- Read until nothing is left to read. -/
def readExact (s : Stream σ) (done : Bytes) (left : Nat) (x : σ) :
    Poll (Except IoError Outcome) × Operation × σ :=
  if left = 0 then (.ready (.ok (.bytes done)), .readExact done 0, x)
  else
    match s.read left x with
    | (.pending, x) => (.pending, .readExact done left, x)
    | (.ready (.error e), x) => (.ready (.error e), .readExact done left, x)
    | (.ready (.ok []), x) => (.ready (.error earlyEnd), .readExact done left, x)
    | (.ready (.ok (b :: bs)), x) => s.readExact (done ++ b :: bs) (left - (bs.length + 1)) x
termination_by left

/-- Write until nothing is left to write. -/
def writeAll (s : Stream σ) (rest : Bytes) (x : σ) :
    Poll (Except IoError Outcome) × Operation × σ :=
  match rest with
  | [] => (.ready (.ok .done), .writeAll [], x)
  | b :: bs =>
    match s.write (b :: bs) x with
    | (.pending, x) => (.pending, .writeAll (b :: bs), x)
    | (.ready (.error e), x) => (.ready (.error e), .writeAll (b :: bs), x)
    | (.ready (.ok 0), x) => (.ready (.error nothingWritten), .writeAll (b :: bs), x)
    | (.ready (.ok (n + 1)), x) => s.writeAll (bs.drop n) x
termination_by rest.length
decreasing_by simp only [List.length_drop, List.length_cons]; omega

/-- Take an operation as far as it goes now: what it comes to and what is left of it. -/
def poll (s : Stream σ) (op : Operation) (x : σ) :
    Poll (Except IoError Outcome) × Operation × σ :=
  match op with
  | .read n => let (p, x) := s.read n x; (outcome .bytes p, op, x)
  | .readExact done left => s.readExact done left x
  | .write bytes => let (p, x) := s.write bytes x; (outcome .count p, op, x)
  | .writeAll rest => s.writeAll rest x
  | .flush => let (p, x) := s.flush x; (outcome (fun _ => .done) p, op, x)
  | .shutdown => let (p, x) := s.shutdown x; (outcome (fun _ => .done) p, op, x)

end Stream
end PooledTcp
