import PooledTcp.Signal.Basic

/-!
# Signals under a script

Handles and tasks have names; a handle is made when its name is first mentioned. After every operation
each task goes on as far as it can, and then the signal behind the name is looked at.
-/

namespace PooledTcp.Signals

/-- One operation on the handle of some name. -/
inductive Op where
  | trigger
  /-- Another handle to the same signal, under a name of its own. -/
  | clone (copy : String)
  /-- A task that waits. -/
  | wait (task : String)
  | abort (task : String)
  /-- The handle is dropped. -/
  | forget
  | look

/-- What an operation answers, and what is seen after it. -/
structure Report where
  /-- What a trigger answers. -/
  first : Option Bool
  triggered : Bool
  receivers : Nat
  /-- The names of the tasks that have waited to the end. -/
  finished : List String

/-- Signals with names. -/
structure Rehearsal where
  board : Signals := {}
  handles : List (String × SignalId) := []
  tasks : List (String × TaskId) := []

namespace Rehearsal

/-- Perform an event, if it can happen. -/
def perform (r : Rehearsal) (e : Event) : Rehearsal := { r with board := (r.board.step e).getD r.board }

/-- Every task goes on as far as it can: it subscribes and looks, or looks. -/
def settle (r : Rehearsal) : Rehearsal :=
  r.tasks.foldr (fun (_, t) r => (r.perform (.run t)).perform (.run t)) r

/-- The signal behind a name, made if there is none. -/
def signalOf (r : Rehearsal) (name : String) : Rehearsal × SignalId :=
  match r.handles.lookup name with
  | some s => (r, s)
  | none =>
    let s := r.board.signals.length
    ({ r.perform .create with handles := (name, s) :: r.handles }, s)

/-- Perform an operation on signal `s`, whose handle has that name. -/
def act (r : Rehearsal) (name : String) (s : SignalId) : Op → Rehearsal × Option Bool
  | .trigger =>
    let first := !r.board.isTriggered s
    (r.perform (.trigger s), some first)
  | .clone copy =>
    let r := r.perform (.clone s)
    let r := match r.handles.lookup copy with
      | some old => r.perform (.drop old)
      | none => r
    ({ r with handles := put copy s r.handles }, none)
  | .wait task =>
    let t := r.tasks.length
    ({ r.perform (.wait t s) with tasks := (task, t) :: r.tasks }, none)
  | .abort task =>
    match r.tasks.lookup task with
    | some t => (r.perform (.abort t), none)
    | none => (r, none)
  | .forget =>
    ({ r.perform (.drop s) with handles := r.handles.filter (·.1 != name) }, none)
  | .look => (r, none)

/-- The names of the tasks that have waited to the end, sorted. -/
def finished (r : Rehearsal) : List String :=
  let done := r.tasks.filter fun (_, t) => (r.board.waits.lookup t).any (·.stage == .finished)
  (done.map (·.1)).eraseDups.mergeSort fun a b => decide (a ≤ b)

/-- Perform one operation and look at the signal. -/
def stepOp (r : Rehearsal) (name : String) (op : Op) : Rehearsal × Report :=
  let (r, s) := r.signalOf name
  let (r, first) := r.act name s op
  let r := r.settle
  (r, { first, triggered := r.board.isTriggered s, receivers := r.board.receiverCount s,
        finished := r.finished })

/-- Perform operations, one after the other. -/
def runOps (r : Rehearsal) : List (String × Op) → List Report
  | [] => []
  | (name, op) :: ops =>
    let (r, report) := r.stepOp name op
    report :: r.runOps ops

end Rehearsal
end PooledTcp.Signals
