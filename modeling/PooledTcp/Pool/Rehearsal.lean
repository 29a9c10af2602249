import PooledTcp.Pool.Opening

/-!
# Rehearsing a pool

A rehearsal runs a pool against a scripted factory under a clock that stands still while anybody can
run and then jumps to the next timer. The script says for each call how long it takes and whether it
fails; connections are numbered in the order in which the dials that will succeed begin. One party
performs the operations of the rehearsal one after the other; acquires can also run as tasks, or as
futures that move only when they are polled. Tasks that are woken together run in the order in which
they began to wait, after the performer. After each operation every task that can run does so.

The pool itself moves only by `Pool.step`, so every state of a rehearsed pool is one that its events
reach.
-/

namespace PooledTcp.Pool.Rehearsal

/-- What the factory does in one call: it waits, then fails or succeeds. -/
structure Behaviour where
  /-- In milliseconds. -/
  delay : Nat := 0
  failure : Option IoError := none
  deriving DecidableEq, Repr

/-- The behaviours of the calls to come, by kind; a kind that ran out succeeds at once. -/
structure Script where
  dial : List Behaviour := []
  ping : List Behaviour := []
  close : List Behaviour := []
  deriving DecidableEq, Repr

namespace Script

def append (s t : Script) : Script :=
  { dial := s.dial ++ t.dial, ping := s.ping ++ t.ping, close := s.close ++ t.close }

/-- The behaviour of the next call of that kind, and the script after it. -/
def take (s : Script) : FactoryCall → Behaviour × Script
  | .dial => (s.dial.headD {}, { s with dial := s.dial.tail })
  | .ping _ => (s.ping.headD {}, { s with ping := s.ping.tail })
  | .close _ => (s.close.headD {}, { s with close := s.close.tail })

def length (s : Script) : Nat := s.dial.length + s.ping.length + s.close.length

end Script

/-- A factory call in progress. -/
structure Work where
  call : FactoryCall
  endsAt : Nat
  failure : Option IoError
  /-- The connection that a dial will yield. -/
  conn : ConnId

/-- What the performer does next. -/
inductive Op where
  | acquire (name : String) (wait cancelAfter : Option Duration)
  | release (name : String) (conn : ConnId)
  | discard (name : String) (conn : ConnId)
  | shutdown
  | advance (ms : Nat)
  | script (more : Script)
  | sever (conns : List ConnId)
  | spawn (name : String) (wait : Option Duration)
  | status (name : String)
  | join (name : String)
  | abort (name : String)
  | start (name : String) (wait : Option Duration)
  | poll (name : String)
  | drop (name : String) (outside : Bool)
  | info

/-- What comes of it. -/
inductive Reply where
  | opened
  | ok
  | conn (id : ConnId)
  | failed (error : PoolError)
  | cancelled
  | pending
  | finished (yes : Bool)
  | info (addr : String) (limits : PoolLimits) (debug : String)
  /-- There is nothing under that name. -/
  | missing
  /-- Nothing can run any more and no timer is set. -/
  | stuck

/-- What is seen after an operation. -/
structure Report where
  reply : Reply
  idle : Nat
  checkedOut : Nat
  limits : PoolLimits
  closed : Bool
  /-- The clock in milliseconds. -/
  at_ : Nat
  calls : List FactoryCall

end Rehearsal

/-- A pool in rehearsal. -/
structure Rehearsal where
  pool : Pool
  script : Rehearsal.Script
  /-- Connections whose next ping fails. -/
  severed : List ConnId
  nextConn : ConnId
  nextCall : CallId
  /-- Factory calls in progress, by the operation that made them. -/
  work : List (CallId × Rehearsal.Work)
  /-- Timers that are set, in the order in which they were set. -/
  timers : List (CallId × Nat)
  /-- Tasks that can run, in order. -/
  ready : List CallId
  /-- Acquires that have not yet begun. -/
  unstarted : List (CallId × Option Duration)
  /-- The operations that run as tasks. -/
  tasks : List CallId
  /-- Tasks that were told to stop. -/
  aborted : List CallId
  /-- Named acquires: tasks and futures. -/
  named : List (String × CallId)
  /-- Named connections. -/
  kept : List (String × ConnId)
  /-- How much of the history was reported. -/
  reported : Nat

namespace Rehearsal

/-- More turns than any loop below takes. -/
def effort (r : Rehearsal) : Nat :=
  let n := r.script.length + r.pool.calls.length + r.unstarted.length + r.pool.idleCount +
    r.timers.length + r.pool.limits.maxIdle + 4
  n * n * 4

/-- Number a new operation. -/
def newCall (r : Rehearsal) : Rehearsal × CallId :=
  ({ r with nextCall := r.nextCall + 1 }, r.nextCall)

/-- A factory call begins: take its behaviour from the script. -/
def beginWork (r : Rehearsal) (id : CallId) (call : FactoryCall) : Rehearsal :=
  let (b, script) := r.script.take call
  let work : Work :=
    { call, endsAt := r.pool.now + b.delay * nanosPerMilli, failure := b.failure, conn := r.nextConn }
  let numbered := call == .dial && b.failure.isNone
  { r with script, nextConn := if numbered then r.nextConn + 1 else r.nextConn,
           work := (id, work) :: r.work.filter (·.1 != id) }

/-- How a factory call ends. A ping that would succeed fails when the connection was severed. -/
def outcome (r : Rehearsal) (id : CallId) (w : Work) : Event :=
  match w.call with
  | .dial =>
    .dialed id (match w.failure with | some e => .error e | none => .ok w.conn)
  | .ping conn =>
    .pinged id (match w.failure with
      | some e => some e
      | none => if r.severed.contains conn then some (.raised .brokenPipe "broken") else none)
  | .close _ => .closed id w.failure

/-- The place among the listeners of a parked operation that was told of something given back. -/
def heard : Call → Option Nat
  | .acquire (some w) .parked => if w.notified then some w.ticket else none
  | _ => none

/-- The operations parked in `after` that were told between `before` and `after`, by their place. -/
def woken (before after : Pool) : List CallId :=
  let fresh := after.calls.filterMap fun (id, c) =>
    match heard c with
    | some ticket => if ((before.call? id).bind heard).isSome then none else some (ticket, id)
    | none => none
  (fresh.mergeSort fun a b => decide (a.1 ≤ b.1)).map (·.2)

/-- Let a task run, if it is not about to anyway. -/
def wake (r : Rehearsal) (id : CallId) : Rehearsal :=
  if r.tasks.contains id && !r.ready.contains id then { r with ready := r.ready ++ [id] } else r

/-- Perform an event of the pool: begin the factory calls that it makes and wake whom it tells. -/
def perform (r : Rehearsal) (id : CallId) (e : Event) : Rehearsal :=
  match r.pool.step e with
  | none => r
  | some pool =>
    let made := (pool.history.take (pool.history.length - r.pool.history.length)).reverse.filterMap
      (·.call?)
    let told := woken r.pool pool
    let r := { r with pool, timers := r.timers.filter (·.1 != id), work := r.work.filter (·.1 != id) }
    let r := made.foldl (fun r (id, call) => r.beginWork id call) r
    told.foldl wake r

/-- Set the timer of an operation, unless it is set. -/
def setTimer (r : Rehearsal) (id : CallId) (t : Nat) : Rehearsal :=
  if r.timers.any (·.1 == id) then r else { r with timers := r.timers ++ [(id, t)] }

/-- Let an operation run until it waits or ends. -/
def poll (r : Rehearsal) (id : CallId) : Nat → Rehearsal
  | 0 => r
  | fuel + 1 =>
    match r.unstarted.lookup id with
    | some wait =>
      ({ r with unstarted := r.unstarted.filter (·.1 != id) }.perform id (.acquire id wait)).poll id
        fuel
    | none =>
      match r.work.lookup id with
      | some w =>
        if Clock.fired r.pool.now w.endsAt then (r.perform id (r.outcome id w)).poll id fuel
        else r.setTimer id w.endsAt
      | none =>
        match r.pool.call? id with
        | some (.acquire (some w) .parked) =>
          if w.notified then (r.perform id (.retry id)).poll id fuel
          else if r.pool.expired w.deadline then (r.perform id (.expire id)).poll id fuel
          else match w.deadline with
            | some t => r.setTimer id t
            | none => r
        | some (.abandoned _) => (r.perform id (.tidy id)).poll id fuel
        | _ => r

/-- Whether an operation ended. -/
def isOver (r : Rehearsal) (id : CallId) : Bool :=
  (r.pool.call? id).isNone && (r.unstarted.lookup id).isNone

/-- Give an acquire up. What it leaves is closed by a new task, if tasks can start. -/
def giveUp (r : Rehearsal) (id : CallId) (canSpawn : Bool) : Rehearsal :=
  if (r.unstarted.lookup id).isSome then
    { r with unstarted := r.unstarted.filter (·.1 != id) }
  else
    let (r, task) := r.newCall
    let r := r.perform id (.cancel id canSpawn task)
    if (r.pool.call? task).isSome then { r with tasks := task :: r.tasks }.wake task else r

/-- Let one task run: it goes on, or stops if it was told to. -/
def turn (r : Rehearsal) (id : CallId) : Rehearsal :=
  if r.aborted.contains id && !r.isOver id then r.giveUp id true else r.poll id r.effort

/-- Let every task run that can. -/
def settle (r : Rehearsal) : Nat → Rehearsal
  | 0 => r
  | fuel + 1 =>
    match r.ready with
    | [] => r
    | id :: rest => ({ r with ready := rest }.turn id).settle fuel

/-- Move the clock to the next timer, `until_` included, and wake whose timers fire. -/
def jump (r : Rehearsal) (until_ : Option Nat) : Option Rehearsal :=
  match (until_.toList ++ r.timers.map (·.2)).map Clock.tick with
  | [] => none
  | t :: ts =>
    let next := ts.foldl min t
    let r := { r with pool := (r.pool.step (.pass (next - r.pool.now))).getD r.pool }
    let (due, rest) := r.timers.partition fun (_, t) => Clock.fired r.pool.now t
    some ((due.map (·.1)).foldl wake { r with timers := rest })

/-- How the performer's wait for an operation ends. -/
inductive Wait where
  | over | cancelled | stuck

/-- The performer waits for its own operation `id`, at most until `until_`. -/
def await (r : Rehearsal) (id : CallId) (until_ : Option Nat) : Nat → Rehearsal × Wait
  | 0 => (r, .stuck)
  | fuel + 1 =>
    let r := r.poll id r.effort
    if r.isOver id then (r, .over)
    else if until_.any (Clock.fired r.pool.now) then (r.giveUp id true, .cancelled)
    else
      let r := (r.settle r.effort)
      let r := r.poll id r.effort
      if r.isOver id then (r, .over)
      else match r.jump until_ with
        | none => (r, .stuck)
        | some r => r.await id until_ fuel

/-- The performer waits for a task to end. -/
def awaitTask (r : Rehearsal) (id : CallId) : Nat → Rehearsal × Wait
  | 0 => (r, .stuck)
  | fuel + 1 =>
    if r.isOver id then (r, .over)
    else
      let r := r.settle r.effort
      if r.isOver id then (r, .over)
      else match r.jump none with
        | none => (r, .stuck)
        | some r => r.awaitTask id fuel

/-- The performer sleeps until `t`. -/
def sleep (r : Rehearsal) (t : Nat) : Nat → Rehearsal
  | 0 => r
  | fuel + 1 =>
    if Clock.fired r.pool.now t then r
    else match (r.settle r.effort).jump (some t) with
      | none => r
      | some r => r.sleep t fuel

/-- The reply for an acquire that ended, whose connection is then kept under `name`. -/
def acquired (r : Rehearsal) (name : String) (id : CallId) : Rehearsal × Reply :=
  match r.pool.answer? id with
  | some (.acquired (.ok conn)) =>
    ({ r with kept := (name, conn) :: r.kept.filter (·.1 != name) }, .conn conn)
  | some (.acquired (.error e)) => (r, .failed e)
  | _ => (r, .cancelled)

/-- The connection kept under `name`, which is then forgotten, or else `conn`. -/
def takeKept (r : Rehearsal) (name : String) (conn : ConnId) : Rehearsal × ConnId :=
  ({ r with kept := r.kept.filter (·.1 != name) }, (r.kept.lookup name).getD conn)

/-- Perform an operation that gives a connection back or shuts the pool down. -/
def conduct (r : Rehearsal) (event : CallId → Event) : Rehearsal × Reply :=
  let (r, id) := r.newCall
  let (r, wait) := (r.perform id (event id)).await id none r.effort
  match wait, r.pool.answer? id with
  | .stuck, _ => (r, .stuck)
  | _, some (.released (.error e)) => (r, .failed e)
  | _, _ => (r, .ok)

/-- Give a name to an acquire that is yet to begin. -/
def enlist (r : Rehearsal) (name : String) (wait : Option Duration) : Rehearsal × CallId :=
  let (r, id) := r.newCall
  ({ r with named := (name, id) :: r.named.filter (·.1 != name),
            unstarted := (id, wait) :: r.unstarted }, id)

/-- The reply for a named acquire that the performer waited for. -/
def collect (r : Rehearsal) (name : String) (id : CallId) : Rehearsal × Reply :=
  match r.awaitTask id r.effort with
  | (r, .stuck) => (r, .stuck)
  | (r, _) => r.acquired name id

/-- Poll a future once. -/
def pollOnce (r : Rehearsal) (name : String) (id : CallId) : Rehearsal × Reply :=
  let r := r.poll id r.effort
  if r.isOver id then r.acquired name id else (r, .pending)

/-- Perform one operation. -/
def act (r : Rehearsal) : Op → Rehearsal × Reply
  | .acquire name wait cancelAfter =>
    let (r, id) := r.newCall
    let until_ := cancelAfter.map (Clock.sleepEnd r.pool.now)
    match (r.perform id (.acquire id wait)).await id until_ r.effort with
    | (r, .stuck) => (r, .stuck)
    | (r, .cancelled) => (r, .cancelled)
    | (r, .over) => r.acquired name id
  | .release name conn =>
    let (r, conn) := r.takeKept name conn
    r.conduct (.release · conn)
  | .discard name conn =>
    let (r, conn) := r.takeKept name conn
    r.conduct (.discard · conn)
  | .shutdown => r.conduct .shutdown
  | .advance ms => (r.sleep (r.pool.now + ms * nanosPerMilli) (r.effort + ms), .ok)
  | .script more => ({ r with script := r.script.append more }, .ok)
  | .sever conns => ({ r with severed := r.severed ++ conns }, .ok)
  | .spawn name wait =>
    let (r, id) := r.enlist name wait
    ({ r with tasks := id :: r.tasks }.wake id, .ok)
  | .status name =>
    match r.named.lookup name with
    | some id => (r, .finished (r.isOver id))
    | none => (r, .missing)
  | .join name =>
    match r.named.lookup name with
    | some id => r.collect name id
    | none => (r, .missing)
  | .abort name =>
    match r.named.lookup name with
    | some id =>
      let r := if r.isOver id then r else { r with aborted := id :: r.aborted }.wake id
      r.collect name id
    | none => (r, .missing)
  | .start name wait =>
    let (r, id) := r.enlist name wait
    r.pollOnce name id
  | .poll name =>
    match r.named.lookup name with
    | some id => r.pollOnce name id
    | none => (r, .missing)
  | .drop name outside =>
    match r.named.lookup name with
    | some id => (if r.isOver id then r else r.giveUp id (!outside), .ok)
    | none => (r, .missing)
  | .info => (r, .info r.pool.addr r.pool.limits r.pool.debugText)

/-- What is seen now, and what was called since the last look. -/
def report (r : Rehearsal) (reply : Reply) : Rehearsal × Report :=
  let unseen := r.pool.history.take (r.pool.history.length - r.reported)
  ({ r with reported := r.pool.history.length },
   { reply, idle := r.pool.idleCount, checkedOut := r.pool.checkedOut, limits := r.pool.limits,
     closed := r.pool.isClosed, at_ := Clock.millis r.pool.now,
     calls := unseen.reverse.filterMap fun n => n.call?.map (·.2) })

/-- Perform an operation, let every task run that can, and look. -/
def stepOp (r : Rehearsal) (op : Op) : Rehearsal × Report :=
  let (r, reply) := r.act op
  (r.settle r.effort).report reply

/-- Perform the operations one after the other. -/
def runOps (r : Rehearsal) : List Op → Rehearsal × List Report
  | [] => (r, [])
  | op :: ops =>
    let (r, report) := r.stepOp op
    let (r, reports) := r.runOps ops
    (r, report :: reports)

/-- What the opening of a pool came to. -/
inductive Opened where
  | ready (r : Rehearsal)
  /-- The first connections could not be opened. -/
  | failed (opening : Opening) (cause : IoError)
  | unfinished

/-- Open a pool under the script, dial by dial. -/
def openWith (o : Opening) (script : Script) (nextConn : ConnId) : Nat → Opened
  | 0 => .unfinished
  | fuel + 1 =>
    match o.stage with
    | .ready =>
      match o.pool? with
      | some pool =>
        .ready { pool, script, severed := [], nextConn, nextCall := Opening.callId + 1, work := [],
                 timers := [], ready := [], unstarted := [], tasks := [], aborted := [],
                 named := [], kept := [], reported := 0 }
      | none => .unfinished
    | .failed cause => .failed o cause
    | .dialing _ =>
      let (b, script) := script.take .dial
      let o := o.pass (Clock.tick (o.now + b.delay * nanosPerMilli) - o.now)
      match b.failure with
      | some e =>
        match o.dialed (.error e) with
        | some o => openWith o script nextConn fuel
        | none => .unfinished
      | none =>
        match o.dialed (.ok nextConn) with
        | some o => openWith o script (nextConn + 1) fuel
        | none => .unfinished
    | .closing _ _ =>
      let (b, script) := script.take (.close 0)
      match (o.pass (Clock.tick (o.now + b.delay * nanosPerMilli) - o.now)).closed with
      | some o => openWith o script nextConn fuel
      | none => .unfinished

/-- How a rehearsal ends. -/
inductive Result where
  /-- The pool could not be built; the calls made and the clock in milliseconds. -/
  | refused (error : PoolError) (calls : List FactoryCall) (at_ : Nat) (log : List LogEntry)
      (metrics : Metrics)
  /-- The idle queue cannot be allocated. -/
  | capacityOverflow
  | reports (reports : List Report) (log : List LogEntry) (metrics : Metrics)

/-- The bytes of an idle entry for a numbered connection: the number and a moment. -/
def entryBytes : Nat := 24

/-- Open a pool and perform the operations. -/
def run (addr : String) (request : PoolRequest) (hasFactory : Bool) (script : Script)
    (ops : List Op) : Result :=
  match Opening.start addr request hasFactory entryBytes 0 with
  | .error (.refused e) => .refused e [] 0 [] []
  | .error .capacityOverflow => .capacityOverflow
  | .ok o =>
    match openWith o script 0 (2 * o.limits.warm + 2) with
    | .unfinished => .refused .closed [] 0 [] []
    | .failed o cause =>
      .refused (.factory cause) (o.history.reverse.filterMap fun n => n.call?.map (·.2))
        (Clock.millis o.now) o.log (Metrics.ofList o.measurements)
    | .ready r =>
      let (r, first) := r.report .opened
      let (r, reports) := r.runOps ops
      .reports (first :: reports) r.pool.log (Metrics.ofList r.pool.measurements)

end Rehearsal
end PooledTcp.Pool
