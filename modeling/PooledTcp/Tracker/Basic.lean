import PooledTcp.Log
import PooledTcp.Metrics
import PooledTcp.Keyed
import PooledTcp.Task

/-!
# Counting open connections

A tracker counts the guards that it has handed out and that are not dropped yet; all its clones share the
count. Guards are numbered in the order in which they are made, over all trackers. A task may wait until
a tracker is idle: it begins to listen, looks at the count, and goes on listening unless the count is
zero. The drop that brings the count to zero tells every task that listens.

Each event touches the shared state once, so that anything else may happen in between: a guard is counted
before it is numbered, a drop counts down before it tells, and a task listens before it looks.
-/

namespace PooledTcp

/-- The number of a guard, and of the connection that it counts. -/
abbrev GuardId := Nat

abbrev TrackerId := Nat

/-- How far a wait for an idle tracker has come. -/
inductive IdleStage where
  /-- It has not run yet. -/
  | begun
  /-- It listens, and is about to look; `told` when the count has come to zero since. -/
  | looking (told : Bool)
  /-- It listens, and found the count not zero. -/
  | listening (told : Bool)
  | finished
  | aborted
  deriving DecidableEq, Repr

namespace IdleStage

/-- Where a wait goes on to, if it can; who was told listens anew before it looks again. -/
def next? (count : Nat) : IdleStage → Option IdleStage
  | begun | listening true => some (looking false)
  | looking told => some (if count = 0 then finished else listening told)
  | listening false | finished | aborted => none

/-- Where a wait goes that is aborted; it cannot be while it runs, nor once it has ended. -/
def cut? : IdleStage → Option IdleStage
  | begun | listening _ => some aborted
  | looking _ | finished | aborted => none

def tell : IdleStage → IdleStage
  | looking _ => looking true
  | listening _ => listening true
  | stage => stage

end IdleStage

/-- A task that waits until a tracker is idle. -/
structure IdleWait where
  tracker : TrackerId
  stage : IdleStage
  deriving DecidableEq, Repr

/-- Tell a wait that the count of `tracker` has come to zero. -/
def IdleWait.tell (tracker : TrackerId) (w : IdleWait) : IdleWait :=
  if w.tracker = tracker then { w with stage := w.stage.tell } else w

/-- What trackers let others see. -/
inductive TrackNote where
  | made (guard : GuardId) (tracker : TrackerId)
  /-- A count is published. -/
  | active (count : Nat)
  | closed (guard : GuardId)
  /-- A wait is over. -/
  | idle (task : TaskId)
  deriving DecidableEq, Repr

namespace TrackNote

def measurement? : TrackNote → Option Measurement
  | active n => some (.set ⟨"netpool_server_active_connections", []⟩ n)
  | _ => none

/-- The name of a connection in the log. -/
def connectionName (id : GuardId) : String := "conn-" ++ toString id

def line? : TrackNote → Option LogEntry
  | closed id =>
    some { level := .trace, message := "Connection closed",
           fields := [("connection_id", connectionName id)] }
  | _ => none

end TrackNote

/-- Trackers, their live guards, and the tasks that wait for them. -/
structure Trackers where
  /-- The count of each tracker. -/
  counts : List Nat := []
  /-- The trackers of the guards that are counted and not numbered yet. -/
  making : List TrackerId := []
  guards : List (GuardId × TrackerId) := []
  /-- The guards that were dropped and have yet to tell, with the counts that they left. -/
  closing : List (GuardId × TrackerId × Nat) := []
  waits : List (TaskId × IdleWait) := []
  nextGuard : GuardId := 1
  /-- What others saw, latest first. -/
  history : List TrackNote := []

namespace Trackers

/-- What can happen. -/
inductive Event where
  | create
  /-- A guard is taken from a tracker or a clone of it, and counted. -/
  | track (tracker : TrackerId)
  /-- A counted guard gets its number. -/
  | number (tracker : TrackerId)
  /-- A number is taken without a guard. -/
  | skip
  /-- A guard is dropped, and no longer counted. -/
  | drop (guard : GuardId)
  /-- A dropped guard tells, if it left the count at zero. -/
  | close (guard : GuardId)
  /-- Task `t` is started, to wait until a tracker is idle. -/
  | wait (t : TaskId) (tracker : TrackerId)
  /-- Task `t` goes on. -/
  | run (t : TaskId)
  | abort (t : TaskId)
  deriving DecidableEq, Repr

def count (b : Trackers) (tracker : TrackerId) : Nat := b.counts.getD tracker 0

def note (b : Trackers) (n : TrackNote) : Trackers := { b with history := n :: b.history }

def setCount (b : Trackers) (tracker : TrackerId) (n : Nat) : Trackers :=
  { b with counts := b.counts.set tracker n }.note (.active n)

/-- Tell the tasks that listen for a tracker that its count has come to zero. -/
def tellIdle (b : Trackers) (tracker : TrackerId) : Trackers :=
  { b with waits := b.waits.map fun (t, w) => (t, w.tell tracker) }

/-- Task `t` has come to `stage`. -/
def moveTo (b : Trackers) (t : TaskId) (w : IdleWait) (stage : IdleStage) : Trackers :=
  let b := { b with waits := put t { w with stage } b.waits }
  if stage = .finished then b.note (.idle t) else b

/-- A counted guard of a tracker gets the next number. -/
def giveNumber (b : Trackers) (tracker : TrackerId) : Trackers :=
  { b with making := b.making.erase tracker, guards := (b.nextGuard, tracker) :: b.guards,
           nextGuard := b.nextGuard + 1 }.note (.made b.nextGuard tracker)

/-- A guard of a tracker is dropped. -/
def dropGuard (b : Trackers) (guard : GuardId) (tracker : TrackerId) : Trackers :=
  let remaining := b.count tracker - 1
  { b with guards := b.guards.filter (·.1 != guard),
           closing := (guard, tracker, remaining) :: b.closing }.setCount tracker remaining

/-- A guard that was dropped tells if it left the count of its tracker at zero. -/
def closeGuard (b : Trackers) (guard : GuardId) (tracker : TrackerId) (remaining : Nat) : Trackers :=
  let b := { b with closing := b.closing.filter (·.1 != guard) }
  (if remaining = 0 then b.tellIdle tracker else b).note (.closed guard)

/-- What comes of an event; `none` where it cannot happen. -/
def step (b : Trackers) : Event → Option Trackers
  | .create => some { b with counts := b.counts ++ [0] }
  | .track tracker =>
    if tracker < b.counts.length then
      some ({ b with making := tracker :: b.making }.setCount tracker (b.count tracker + 1))
    else none
  | .number tracker => if tracker ∈ b.making then some (b.giveNumber tracker) else none
  | .skip => some { b with nextGuard := b.nextGuard + 1 }
  | .drop guard => (b.guards.lookup guard).map (b.dropGuard guard)
  | .close guard =>
    (b.closing.lookup guard).map fun (tracker, remaining) => b.closeGuard guard tracker remaining
  | .wait t tracker =>
    if (b.waits.lookup t).isSome || b.counts.length ≤ tracker then none
    else some { b with waits := (t, { tracker, stage := .begun }) :: b.waits }
  | .run t => do
    let w ← b.waits.lookup t
    let stage ← w.stage.next? (b.count w.tracker)
    return b.moveTo t w stage
  | .abort t => do
    let w ← b.waits.lookup t
    let stage ← w.stage.cut?
    return b.moveTo t w stage

/-- Nothing is under way, and no task can go on. -/
structure Quiet (b : Trackers) : Prop where
  making : b.making = []
  closing : b.closing = []
  tasks : ∀ t, b.step (.run t) = none

/-- The live guards of a tracker. -/
def guardsOf (b : Trackers) (tracker : TrackerId) : List GuardId :=
  (b.guards.filter (·.2 == tracker)).map (·.1)

def log (b : Trackers) : List LogEntry := b.history.reverse.filterMap (·.line?)

def measurements (b : Trackers) : List Measurement := b.history.reverse.filterMap (·.measurement?)

end Trackers
end PooledTcp
