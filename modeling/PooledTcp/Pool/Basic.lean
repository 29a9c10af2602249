import PooledTcp.Clock
import PooledTcp.Pool.Note

/-!
# A bounded pool of connections to one address

A pool keeps idle connections in a queue, oldest first, and counts the connections that are checked
out. Its operations run side by side: each one runs without a break up to the next point where it
waits for the factory or for a connection to be given back, and there others may run. A `Pool` is the
shared state together with every operation in flight and the point where it waits; an `Event` is one
uninterrupted piece of work; `step` performs it, or is `none` where the event cannot happen.

- An acquire takes the front of the queue. If that entry is too old it is closed, else it is pinged
  and handed out, or closed when the ping fails; then the acquire starts over. With an empty queue it
  dials, unless `maxConns` are out. Its slot counts as checked out from the moment it looks.
- A patient acquire does not take "exhausted" for an answer before its deadline: it parks until
  something is given back. It hears of everything given back since it last looked.
- A release parks the connection at the back of the queue, or closes it when the queue is full, the
  pool is shut down, or nothing was checked out.
- An acquire that is given up returns its slot, and puts the entry that it was checking back to the
  front of the queue. Where there is no room it leaves the entry to a task of its own, which closes
  it; where no task can be started the connection is dropped.
-/

namespace PooledTcp

/-- An idle connection and the moment it came back. -/
structure IdleEntry where
  conn : ConnId
  returnedAt : Nat
  deriving DecidableEq, Repr

namespace Pool

/-- How a patient acquire listens for connections being given back. -/
structure Patience where
  /-- When it stops waiting; `none` never. -/
  deadline : Option Nat
  /-- Whether something was given back since it began to listen. -/
  notified : Bool
  /-- Its place among the listeners. -/
  ticket : Nat
  deriving DecidableEq, Repr

/-- Where an acquire waits. -/
inductive AcquireStage where
  /-- For the ping of the entry that it holds. -/
  | pinging (entry : IdleEntry)
  /-- For the end of the close of a connection that it evicted. -/
  | evicting (conn : ConnId)
  /-- For the dial. -/
  | dialing
  /-- For something to be given back. -/
  | parked
  deriving DecidableEq, Repr

/-- An operation in flight. -/
inductive Call where
  | acquire (patience : Option Patience) (stage : AcquireStage)
  /-- A release that closes its connection before it answers. -/
  | release (conn : ConnId) (answer : Except PoolError Unit)
  | discard (conn : ConnId)
  /-- A shutdown that closes `conn` and has the entries `rest` left. -/
  | shutdown (conn : ConnId) (rest : List IdleEntry)
  /-- A task that is about to close the connection an abandoned acquire left. -/
  | abandoned (conn : ConnId)
  /-- That task, closing it. -/
  | tidying (conn : ConnId)

/-- Tell an operation that something was given back. -/
def Call.notify : Call → Call
  | .acquire (some w) stage => .acquire (some { w with notified := true }) stage
  | c => c

end Pool

/-- A pool with its operations in flight. -/
structure Pool where
  addr : String
  limits : PoolLimits
  /-- The clock. -/
  now : Nat
  /-- Connections that are checked out, or about to be. -/
  checkedOut : Nat
  /-- The idle queue, oldest first; `none` once the pool is shut down. -/
  idle : Option (List IdleEntry)
  calls : List (CallId × Pool.Call)
  /-- The place of the next listener. -/
  nextTicket : Nat
  /-- What others saw, latest first. -/
  history : List Pool.Note

namespace Pool

/-- How many connections are idle; none once the pool is shut down. -/
def idleCount (p : Pool) : Nat := (p.idle.getD []).length

def isClosed (p : Pool) : Bool := p.idle.isNone

def note (p : Pool) (n : Note) : Pool := { p with history := n :: p.history }

def say (p : Pool) (n : Notice) : Pool := p.note (.logged n)

/-- The operation with that number. -/
def call? (p : Pool) (id : CallId) : Option Call := p.calls.lookup id

/-- The other operations. -/
def others (p : Pool) (id : CallId) : List (CallId × Call) := p.calls.filter (·.1 != id)

/-- Operation `id` goes on waiting, at another point. -/
def hold (p : Pool) (id : CallId) (c : Call) : Pool := { p with calls := (id, c) :: p.others id }

/-- Operation `id` ends. -/
def finish (p : Pool) (id : CallId) (a : Answer) : Pool :=
  { p with calls := p.others id }.note (.answered id a)

/-- Operation `id` begins a call to the factory. -/
def request (p : Pool) (id : CallId) (c : FactoryCall) : Pool := p.note (.called id c)

/-- Tell every listener that something was given back. -/
def notifyAll (p : Pool) : Pool := { p with calls := p.calls.map fun (i, c) => (i, c.notify) }

/-- One slot is free again. -/
def freeSlot (p : Pool) : Pool := { p with checkedOut := p.checkedOut - 1 }

/-- Free a slot and tell everybody. -/
def giveBack (p : Pool) : Pool := p.freeSlot.notifyAll

/-- Whether an idle entry is too old to be handed out. -/
def isStale (p : Pool) (e : IdleEntry) : Bool :=
  !p.limits.idleTimeout.isZero && decide (p.limits.idleTimeout.nanos < p.now - e.returnedAt)

/-- An acquire looks for a connection: it takes the front of the queue, or a free slot to dial for. -/
def look (p : Pool) (id : CallId) (patience : Option Patience) : Pool :=
  match p.idle with
  | none => p.finish id (.acquired (.error .closed))
  | some [] =>
    if p.limits.maxConns ≤ p.checkedOut then
      match patience with
      | none => (p.note .exhausted).finish id (.acquired (.error .exhausted))
      | some w => (p.note .exhausted).hold id (.acquire (some w) .parked)
    else
      ({ p with checkedOut := p.checkedOut + 1 }.request id .dial).hold id
        (.acquire patience .dialing)
  | some (e :: rest) =>
    let p := { p with idle := some rest, checkedOut := p.checkedOut + 1 }.note
      (.idleLength rest.length)
    if p.isStale e then
      (((p.say (.evictingStale (Clock.span e.returnedAt p.now))).note (.evicted .stale)).request id
        (.close e.conn)).hold id (.acquire patience (.evicting e.conn))
    else
      (p.request id (.ping e.conn)).hold id (.acquire patience (.pinging e))

/-- Begin to listen anew, behind every other listener. -/
def listen (p : Pool) (deadline : Option Nat) : Pool × Patience :=
  ({ p with nextTicket := p.nextTicket + 1 },
   { deadline, notified := false, ticket := p.nextTicket })

/-- The health check of `e` ended. -/
def afterPing (p : Pool) (id : CallId) (patience : Option Patience) (e : IdleEntry) :
    Option IoError → Pool
  | none => ((p.say .reusing).note (.acquired .idle)).finish id (.acquired (.ok e.conn))
  | some cause =>
    (((p.say (.unhealthy cause)).note (.evicted .unhealthy)).request id (.close e.conn)).hold id
      (.acquire patience (.evicting e.conn))

/-- A dial ended. -/
def afterDial (p : Pool) (id : CallId) : Except IoError ConnId → Pool
  | .ok conn => ((p.say .opened).note (.acquired .new)).finish id (.acquired (.ok conn))
  | .error cause =>
    ((p.say (.dialFailed cause)).finish id (.acquired (.error (.factory cause)))).giveBack

/-- Log a close that failed. -/
def sayCloseFailed (p : Pool) : Option IoError → Pool
  | none => p
  | some cause => p.say (.closeFailed cause)

/-- What operation `id` listens with. -/
def patienceOf (p : Pool) (id : CallId) : Option Patience :=
  match p.call? id with
  | some (.acquire patience _) => patience
  | _ => none

/-- An evicted connection is closed: its slot is free and the acquire looks again. -/
def afterEviction (p : Pool) (id : CallId) : Pool :=
  let p := p.giveBack
  p.look id (p.patienceOf id)

/-- Close the next idle entry of a shutdown, or end it. -/
def drain (p : Pool) (id : CallId) : List IdleEntry → Pool
  | [] => (p.note (.idleLength 0)).finish id .shutDown
  | e :: rest => (p.request id (.close e.conn)).hold id (.shutdown e.conn rest)

/-- A release decides what becomes of its connection. -/
def release (p : Pool) (id : CallId) (conn : ConnId) : Pool :=
  match p.idle with
  | none =>
    (p.giveBack.request id (.close conn)).hold id (.release conn (.error .closed))
  | some idle =>
    if p.checkedOut = 0 then
      ((p.notifyAll.say .notCheckedOut).request id (.close conn)).hold id
        (.release conn (.error .invalidConnection))
    else if idle.length < p.limits.maxIdle then
      let idle := idle ++ [⟨conn, p.now⟩]
      (({ p.freeSlot with idle := some idle }.note (.idleLength idle.length)).notifyAll).finish id
        (.released (.ok ()))
    else
      ((p.giveBack.say .queueFull).request id (.close conn)).hold id (.release conn (.ok ()))

/-- A shutdown takes the idle queue. Only the first one finds a queue. -/
def shutdown (p : Pool) (id : CallId) : Pool :=
  match p.idle with
  | none => p.finish id .shutDown
  | some idle => (({ p with idle := none }.say (.shuttingDown idle.length)).notifyAll).drain id idle

/-- Leave a connection that nobody holds to a task of its own, or drop it. -/
def leave (p : Pool) (conn : ConnId) (canSpawn : Bool) (task : CallId) : Pool :=
  if canSpawn then p.hold task (.abandoned conn)
  else (p.say .nobodyToClose).note (.dropped conn)

/-- The entry that an abandoned acquire was checking goes back to the front, if there is room. -/
def reclaim (p : Pool) (e : IdleEntry) (canSpawn : Bool) (task : CallId) : Pool :=
  match p.idle with
  | none => p.giveBack.leave e.conn canSpawn task
  | some idle =>
    if idle.length < p.limits.maxIdle then { p.freeSlot with idle := some (e :: idle) }.notifyAll
    else p.giveBack.leave e.conn canSpawn task

/-- An acquire is given up. -/
def cancel (p : Pool) (id : CallId) (canSpawn : Bool) (task : CallId) : AcquireStage → Pool
  | .pinging e => (p.finish id .cancelled).reclaim e canSpawn task
  | .evicting _ => (p.finish id .cancelled).giveBack
  | .dialing => (p.finish id .cancelled).giveBack
  | .parked => p.finish id .cancelled

/-- One uninterrupted piece of work. -/
inductive Event where
  /-- An acquire begins; with `wait` it is patient for that long. -/
  | acquire (id : CallId) (wait : Option Duration)
  | release (id : CallId) (conn : ConnId)
  | discard (id : CallId) (conn : ConnId)
  | shutdown (id : CallId)
  /-- The dial of operation `id` ends. -/
  | dialed (id : CallId) (result : Except IoError ConnId)
  /-- The ping of operation `id` ends, well or with a failure. -/
  | pinged (id : CallId) (failure : Option IoError)
  /-- The close of operation `id` ends, well or with a failure. -/
  | closed (id : CallId) (failure : Option IoError)
  /-- A parked acquire that heard of something given back looks again. -/
  | retry (id : CallId)
  /-- A parked acquire whose deadline has passed stops waiting. -/
  | expire (id : CallId)
  /-- The caller drops an acquire; `task` closes a connection that is left, if tasks can start. -/
  | cancel (id : CallId) (canSpawn : Bool) (task : CallId)
  /-- The task that an abandoned acquire left begins its work. -/
  | tidy (id : CallId)
  /-- Time passes. -/
  | pass (nanos : Nat)

/-- The operations that an event begins or gives up; those that the world moves on are left out. -/
def Event.mentions : Event → List CallId
  | .acquire id _ | .release id _ | .discard id _ | .shutdown id => [id]
  | .cancel id _ task => [id, task]
  | _ => []

/-- Whether a deadline has passed; one that cannot be told never does. -/
def expired (p : Pool) (deadline : Option Nat) : Bool :=
  match deadline with
  | none => false
  | some t => Clock.fired p.now t

/-- Perform an event, if it can happen. -/
def step (p : Pool) : Event → Option Pool
  | .acquire id wait =>
    if (p.call? id).isSome then none
    else match wait with
      | none => some (p.look id none)
      | some d =>
        let (p, w) := p.listen (Clock.after? p.now d)
        some (p.look id (some w))
  | .release id conn => if (p.call? id).isSome then none else some (p.release id conn)
  | .discard id conn =>
    if (p.call? id).isSome then none
    else some ((p.giveBack.request id (.close conn)).hold id (.discard conn))
  | .shutdown id => if (p.call? id).isSome then none else some (p.shutdown id)
  | .dialed id result =>
    match p.call? id with
    | some (.acquire _ .dialing) => some (p.afterDial id result)
    | _ => none
  | .pinged id failure =>
    match p.call? id with
    | some (.acquire w (.pinging e)) => some (p.afterPing id w e failure)
    | _ => none
  | .closed id failure =>
    match p.call? id with
    | some (.acquire _ (.evicting _)) => some ((p.sayCloseFailed failure).afterEviction id)
    | some (.release _ answer) => some ((p.sayCloseFailed failure).finish id (.released answer))
    | some (.discard _) => some ((p.sayCloseFailed failure).finish id .discarded)
    | some (.shutdown _ rest) => some ((p.sayCloseFailed failure).drain id rest)
    | some (.tidying _) =>
      match failure with
      | none => some (p.finish id .tidied)
      | some cause => some ((p.say (.abandonedCloseFailed cause)).finish id .tidied)
    | _ => none
  | .retry id =>
    match p.call? id with
    | some (.acquire (some w) .parked) =>
      if w.notified then
        let (p, w) := p.listen w.deadline
        some (p.look id (some w))
      else none
    | _ => none
  | .expire id =>
    match p.call? id with
    | some (.acquire (some w) .parked) =>
      if !w.notified && p.expired w.deadline then
        some (p.finish id (.acquired (.error .exhausted)))
      else none
    | _ => none
  | .cancel id canSpawn task =>
    match p.call? id with
    | some (.acquire _ stage) =>
      if (p.call? task).isSome then none else some (p.cancel id canSpawn task stage)
    | _ => none
  | .tidy id =>
    match p.call? id with
    | some (.abandoned conn) => some ((p.request id (.close conn)).hold id (.tidying conn))
    | _ => none
  | .pass nanos => some { p with now := p.now + nanos }

/-- The answer that operation `id` got, if it ended. -/
def answer? (p : Pool) (id : CallId) : Option Answer := p.history.findSome? (·.answerTo? id)

/-- Whether no operation ever had that number. -/
def isFresh (p : Pool) (id : CallId) : Bool := (p.call? id).isNone && (p.answer? id).isNone

/-- The log, first entry first. -/
def log (p : Pool) : List LogEntry := p.history.reverse.filterMap (·.line? p.addr)

/-- What was measured, first measurement first. -/
def measurements (p : Pool) : List Measurement := p.history.reverse.filterMap (·.measurement? p.addr)

/-- What a pool says about itself. -/
def debugText (p : Pool) : String :=
  Text.record "ConnectionPool"
    [("addr", Text.quoted p.addr), ("limits", p.limits.debugText),
     ("stats", Text.record "PoolStats"
       [("idle", toString p.idleCount), ("open", toString p.checkedOut),
        ("max_conns", toString p.limits.maxConns), ("max_idle", toString p.limits.maxIdle)])]

end Pool
end PooledTcp
