import PooledTcp.Tracker.Basic

/-!
# Trackers under a script

Trackers, guards and tasks have names; a tracker is made when its name is first mentioned. After every
operation each task goes on as far as it can, and then the tracker is looked at. The first number of a
guard is taken before the script begins, and guards are reported by how many came before them.
-/

namespace PooledTcp.Trackers

/-- One operation on a tracker. -/
inductive Op where
  /-- A guard under a name. One that had the name is dropped afterwards. -/
  | track (name : String)
  | drop (name : String)
  /-- Another handle to the same tracker, under a name of its own. -/
  | clone (copy : String)
  /-- A task that waits until the tracker is idle. -/
  | wait (task : String)
  /-- One guard is dropped and another one is taken before any task goes on. -/
  | blip (name as : String)
  | look

/-- What an operation answers. -/
inductive Reply where
  | ok
  /-- How many guards were made so far. -/
  | guard (n : Nat)
  /-- Whether there was such a guard. -/
  | dropped (existed : Bool)

/-- An answer and what is seen after it. -/
structure Report where
  reply : Reply
  active : Nat
  /-- The names of the tasks that have waited to the end. -/
  finished : List String

/-- Trackers with names. -/
structure Rehearsal where
  board : Trackers := { nextGuard := 2 }
  trackers : List (String × TrackerId) := []
  guards : List (String × GuardId) := []
  tasks : List (String × TaskId) := []

namespace Rehearsal

/-- Perform an event, if it can happen. -/
def perform (r : Rehearsal) (e : Event) : Rehearsal := { r with board := (r.board.step e).getD r.board }

/-- Every task goes on as far as it can: it listens and looks. -/
def settle (r : Rehearsal) : Rehearsal :=
  r.tasks.foldr (fun (_, t) r => (r.perform (.run t)).perform (.run t)) r

/-- The tracker behind a name, made if there is none. -/
def trackerOf (r : Rehearsal) (name : String) : Rehearsal × TrackerId :=
  match r.trackers.lookup name with
  | some s => (r, s)
  | none =>
    let s := r.board.counts.length
    ({ r.perform .create with trackers := (name, s) :: r.trackers }, s)

/-- A guard is dropped, and tells if it has to. -/
def dropped (r : Rehearsal) (guard : GuardId) : Rehearsal :=
  (r.perform (.drop guard)).perform (.close guard)

/-- Take a guard and keep it under a name. -/
def track (r : Rehearsal) (tracker : TrackerId) (name : String) : Rehearsal × GuardId :=
  let id := r.board.nextGuard
  let old := r.guards.lookup name
  let r := (r.perform (.track tracker)).perform (.number tracker)
  let r := { r with guards := put name id r.guards }
  ((old.map r.dropped).getD r, id)

/-- Drop the guard kept under a name. -/
def drop (r : Rehearsal) (name : String) : Rehearsal :=
  match r.guards.lookup name with
  | some id => { r.dropped id with guards := r.guards.filter (·.1 != name) }
  | none => r

/-- Perform an operation on a tracker. -/
def act (r : Rehearsal) (tracker : TrackerId) : Op → Rehearsal × Reply
  | .track name =>
    let (r, id) := r.track tracker name
    (r, .guard (id - 1))
  | .drop name => (r.drop name, .dropped (r.guards.lookup name).isSome)
  | .clone copy => ({ r with trackers := put copy tracker r.trackers }, .ok)
  | .wait task =>
    let t := r.tasks.length
    ({ r.perform (.wait t tracker) with tasks := (task, t) :: r.tasks }, .ok)
  | .blip name as => (((r.drop name).track tracker as).1, .ok)
  | .look => (r, .ok)

/-- The names of the tasks that have waited to the end, sorted. -/
def finished (r : Rehearsal) : List String :=
  let done := r.tasks.filter fun (_, t) => (r.board.waits.lookup t).any (·.stage == .finished)
  (done.map (·.1)).eraseDups.mergeSort fun a b => decide (a ≤ b)

/-- Perform one operation and look at the tracker. -/
def stepOp (r : Rehearsal) (name : String) (op : Op) : Rehearsal × Report :=
  let (r, s) := r.trackerOf name
  let (r, reply) := r.act s op
  let r := r.settle
  (r, { reply, active := r.board.count s, finished := r.finished })

/-- Perform operations, one after the other. -/
def runOps (r : Rehearsal) : List (String × Op) → Rehearsal × List Report
  | [] => (r, [])
  | (name, op) :: ops =>
    let (r, report) := r.stepOp name op
    let (r, reports) := r.runOps ops
    (r, report :: reports)

end Rehearsal
end PooledTcp.Trackers
