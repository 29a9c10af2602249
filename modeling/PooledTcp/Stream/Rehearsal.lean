import PooledTcp.Stream.Deadline
import PooledTcp.Stream.Pipe

/-!
# A stream with deadlines under a script

The near end of a pipe is wrapped, the far end is bare, and one operation at a time is performed on either
of them under a clock that moves only while something waits: to the deadline of the operation, or to the
moment at which it is given up, whichever comes first. At a tie the deadline wins.
-/

namespace PooledTcp.Deadlined

/-- What an operation is performed on. -/
inductive Target where
  /-- The near end, as it is now: wrapped or bare. -/
  | stream
  /-- The far end. -/
  | peer
  /-- The end within the wrapping. -/
  | inner
  deriving DecidableEq, Repr

/-- One step of a script. -/
inductive Op where
  /-- An operation, given up after `limit` milliseconds. -/
  | perform (on : Target) (op : Operation) (limit : Nat)
  /-- Sleep that many milliseconds. -/
  | sleep (ms : Nat)
  /-- Which deadlines there are. -/
  | flags
  /-- Take the wrapping off. What was bare already is dropped. -/
  | unwrap
  | dropStream
  | dropPeer

/-- What a step answers. -/
inductive Reply where
  | done (result : Except IoError Outcome)
  /-- It was given up. -/
  | pending
  /-- There is nothing to perform it on. -/
  | gone
  | flags (read write : Bool)
  | ok

/-- What the near end is now. -/
inductive Form where
  | wrapped | bare | dropped
  deriving DecidableEq, Repr

/-- A pipe with deadlines around its near end. -/
structure Rehearsal where
  now : Nat
  stream : Deadlined Pipe
  form : Form := .wrapped
  hasPeer : Bool := true

namespace Rehearsal

/-- Poll an operation on the wrapped near end. -/
def pollWrapped (r : Rehearsal) (op : Operation) :
    Poll (Except IoError Outcome) × Operation × Rehearsal :=
  let (p, op, stream) := (Deadlined.stream Pipe.near r.now).poll op r.stream
  (p, op, { r with stream })

/-- Poll an operation on a bare end. -/
def pollBare (end_ : Stream Pipe) (r : Rehearsal) (op : Operation) :
    Poll (Except IoError Outcome) × Operation × Rehearsal :=
  let (p, op, inner) := end_.poll op r.stream.inner
  (p, op, { r with stream := { r.stream with inner } })

/-- Perform an operation on the wrapped near end: once now, and once more if it is told of its deadline before
it is given up. -/
def performWrapped (r : Rehearsal) (op : Operation) (limit : Nat) : Rehearsal × Reply :=
  match r.pollWrapped op with
  | (.ready result, _, r) => (r, .done result)
  | (.pending, op, r) =>
    let givenUp := r.now + limit * nanosPerMilli
    match (r.stream.timerOf op).bind Timer.alarm with
    | some t =>
      if t ≤ givenUp then
        match ({ r with now := t }).pollWrapped op with
        | (.ready result, _, r) => (r, .done result)
        | (.pending, _, r) => ({ r with now := givenUp }, .pending)
      else ({ r with now := givenUp }, .pending)
    | none => ({ r with now := givenUp }, .pending)

/-- Perform an operation on a bare end. -/
def performBare (end_ : Stream Pipe) (r : Rehearsal) (op : Operation) (limit : Nat) :
    Rehearsal × Reply :=
  match pollBare end_ r op with
  | (.ready result, _, r) => (r, .done result)
  | (.pending, _, r) => ({ r with now := r.now + limit * nanosPerMilli }, .pending)

/-- One of the ends is dropped. -/
def dropEnd (r : Rehearsal) : Rehearsal :=
  { r with stream := { r.stream with inner := r.stream.inner.drop } }

/-- The near end is dropped, if it is there. -/
def dropNear (r : Rehearsal) : Rehearsal :=
  if r.form = .dropped then r else { r.dropEnd with form := .dropped }

/-- Perform one step. -/
def act (r : Rehearsal) : Op → Rehearsal × Reply
  | .perform .stream op limit =>
    match r.form with
    | .wrapped => r.performWrapped op limit
    | .bare => performBare Pipe.near r op limit
    | .dropped => (r, .gone)
  | .perform .inner op limit =>
    if r.form = .wrapped then performBare Pipe.near r op limit else (r, .gone)
  | .perform .peer op limit =>
    if r.hasPeer then performBare Pipe.far r op limit else (r, .gone)
  | .sleep ms => ({ r with now := r.now + ms * nanosPerMilli }, .ok)
  | .flags =>
    if r.form = .wrapped then
      (r, .flags r.stream.readTimer.isSome r.stream.writeTimer.isSome)
    else (r, .gone)
  | .unwrap => (if r.form = .wrapped then { r with form := .bare } else r.dropNear, .ok)
  | .dropStream => (r.dropNear, .ok)
  | .dropPeer => (if r.hasPeer then { r.dropEnd with hasPeer := false } else r, .ok)

/-- Perform steps one after the other; the replies and the clock in milliseconds after each. -/
def runOps (r : Rehearsal) : List Op → List (Reply × Nat)
  | [] => []
  | op :: ops =>
    let (r, reply) := r.act op
    (reply, Clock.millis r.now) :: r.runOps ops

/-- An empty pipe whose near end is wrapped when the clock starts. -/
def start (capacity : Nat) (read write : Duration) : Rehearsal :=
  { now := 0, stream := Deadlined.wrap (Pipe.empty capacity) 0 read write }

end Rehearsal
end PooledTcp.Deadlined
