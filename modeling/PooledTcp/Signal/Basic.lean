import PooledTcp.Keyed
import PooledTcp.Task

/-!
# Signals that are given once

A signal is triggered at most once and stays so. Whoever holds a handle may trigger it, look at it, hand
out another handle, or wait for it; a wait that begins after the trigger is over at once. `Signals` are
several signals with the tasks that wait for them, and `step` is what can happen to them. A wait subscribes
and then looks; where it finds the signal not triggered it listens, and looks again only when a trigger has
woken it. Other tasks may do anything between two of its steps.
-/

namespace PooledTcp

/-- The number of a signal. -/
abbrev SignalId := Nat

/-- One signal. -/
structure Signal where
  triggered : Bool := false
  /-- How many handles are held, those of the waiting tasks left out. -/
  handles : Nat := 1
  /-- The tasks that listen for the trigger. -/
  receivers : List TaskId := []
  deriving DecidableEq, Repr, Inhabited

namespace Signal

/-- Trigger the signal; only the first time does something. -/
def trigger (s : Signal) : Signal × Bool := ({ s with triggered := true }, !s.triggered)

def subscribe (s : Signal) (t : TaskId) : Signal := { s with receivers := t :: s.receivers }

def unsubscribe (s : Signal) (t : TaskId) : Signal :=
  { s with receivers := s.receivers.filter (· != t) }

end Signal

/-- How far a wait has come. -/
inductive WaitStage where
  /-- It has not run yet. -/
  | begun
  /-- It is subscribed, and about to look. -/
  | subscribed
  /-- It found the signal not triggered; `woken` tells whether a trigger has woken it since. -/
  | listening (woken : Bool)
  | finished
  | aborted
  deriving DecidableEq, Repr

namespace WaitStage

/-- Where a wait goes on to, if it can. -/
def next? (triggered : Bool) : WaitStage → Option WaitStage
  | begun => some subscribed
  | subscribed | listening true => some (if triggered then finished else listening false)
  | listening false | finished | aborted => none

/-- Where a wait goes that is aborted; it cannot be while it runs, nor once it has ended. -/
def cut? : WaitStage → Option WaitStage
  | begun | listening _ => some aborted
  | subscribed | finished | aborted => none

def wake : WaitStage → WaitStage
  | listening _ => listening true
  | stage => stage

end WaitStage

namespace Signal

/-- The signal with task `t` at that stage; who is subscribed receives until it ends. -/
def attend (s : Signal) (t : TaskId) : WaitStage → Signal
  | .subscribed => s.subscribe t
  | .finished | .aborted => s.unsubscribe t
  | .begun | .listening _ => s

end Signal

/-- A task that waits for a signal. -/
structure SignalWait where
  signal : SignalId
  stage : WaitStage
  deriving DecidableEq, Repr

/-- Signals and the tasks that wait for them. -/
structure Signals where
  signals : List Signal := []
  waits : List (TaskId × SignalWait) := []
  /-- What the triggers answered, latest first. -/
  triggers : List (SignalId × Bool) := []

namespace Signals

/-- What can happen. -/
inductive Event where
  /-- A new signal is made, with one handle. -/
  | create
  | clone (s : SignalId)
  | drop (s : SignalId)
  | trigger (s : SignalId)
  /-- Task `t` is started, to wait for a signal. -/
  | wait (t : TaskId) (s : SignalId)
  /-- Task `t` goes on. -/
  | run (t : TaskId)
  | abort (t : TaskId)
  deriving DecidableEq, Repr

/-- Change one signal. -/
def change (b : Signals) (s : SignalId) (f : Signal → Signal) : Signals :=
  { b with signals := b.signals.modify s f }

def isTriggered (b : Signals) (s : SignalId) : Bool := b.signals[s]?.any (·.triggered)

/-- The signal with that number, if somebody holds a handle to it. -/
def held? (b : Signals) (s : SignalId) : Option Signal :=
  b.signals[s]?.filter fun signal => 0 < signal.handles

/-- Task `t`, which waits, has come to `stage`. -/
def moveTo (b : Signals) (t : TaskId) (w : SignalWait) (stage : WaitStage) : Signals :=
  { b.change w.signal (·.attend t stage) with waits := put t { w with stage } b.waits }

/-- Wake the tasks that listen for a signal. -/
def wake (b : Signals) (s : SignalId) : Signals :=
  { b with waits := b.waits.map fun (t, w) =>
      (t, if w.signal = s then { w with stage := w.stage.wake } else w) }

/-- Trigger a signal, which is `signal` so far. The first time wakes who listens. -/
def fire (b : Signals) (s : SignalId) (signal : Signal) : Signals :=
  let first := signal.trigger.2
  let fired := b.change s fun signal => signal.trigger.1
  { (if first then fired.wake s else fired) with triggers := (s, first) :: b.triggers }

/-- What comes of an event; `none` where it cannot happen. -/
def step (b : Signals) : Event → Option Signals
  | .create => some { b with signals := b.signals ++ [{}] }
  | .clone s =>
    (b.held? s).map fun _ => b.change s fun signal => { signal with handles := signal.handles + 1 }
  | .drop s =>
    (b.held? s).map fun _ => b.change s fun signal => { signal with handles := signal.handles - 1 }
  | .trigger s => (b.held? s).map (b.fire s)
  | .wait t s =>
    if (b.waits.lookup t).isSome then none
    else (b.held? s).map fun _ => { b with waits := (t, { signal := s, stage := .begun }) :: b.waits }
  | .run t => do
    let w ← b.waits.lookup t
    let stage ← w.stage.next? (b.isTriggered w.signal)
    return b.moveTo t w stage
  | .abort t => do
    let w ← b.waits.lookup t
    let stage ← w.stage.cut?
    return b.moveTo t w stage

/-- No task can go on. -/
def Quiet (b : Signals) : Prop := ∀ t, b.step (.run t) = none

/-- How many tasks listen for a signal. -/
def receiverCount (b : Signals) (s : SignalId) : Nat := (b.signals[s]?.map (·.receivers.length)).getD 0

end Signals
end PooledTcp
