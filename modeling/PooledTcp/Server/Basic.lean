import PooledTcp.Backoff
import PooledTcp.Clock
import PooledTcp.Net.KeepAlive
import PooledTcp.Server.Note

/-!
# A server that hands connections to a handler

A server accepts connections in one or more loops and runs each connection as a task of its own. Its
operations run side by side; each one runs without a break up to the next point where it waits. A `Server`
is the shared state together with every loop, connection and stop in flight; an `Event` is one uninterrupted
piece of work; `step` performs it, or is `none` where the event cannot happen.

- A loop counts its listener before it begins and releases it before it stops counting it. It hears of the
  close before it looks for a connection; here both are one piece of work, so that none is accepted after the
  close. A failed accept is followed by a wait that grows with the failures in a row.
- A connection is counted from when it is accepted until its socket is gone. Its handler returns, panics, or is
  dropped when connections are forced; whatever happens, its socket is shut down once.
- Closing marks the server, tells every loop, and waits until no listener is counted. Shutting down then
  waits for the connections for as long as the grace lasts, forces those that are left, and waits a little
  for them.

Where the steps that are one piece of work here may be torn apart by what others do, they are taken one by one in
`Server.Parallel`.
-/

namespace PooledTcp

/-- Deadlines and keep-alive of every accepted connection. Zero switches each off. -/
structure Timeouts where
  read : Duration := .zero
  write : Duration := .zero
  keepAlive : Duration := .zero
  deriving DecidableEq, Repr

namespace Server

/-- The first wait after a failed accept. -/
def acceptBase : Duration := .ofMillis 5

/-- The longest wait after failed accepts. -/
def acceptMax : Duration := .ofMillis 1000

/-- How long forced connections get to end. -/
def forceWait : Duration := .ofMillis 1000

/-- Where a loop waits. -/
inductive ServeStage where
  /-- For its address to be bound. -/
  | binding
  /-- For a connection. -/
  | accepting (address : String) (backoff : Backoff)
  /-- Until it may look for a connection again. -/
  | retrying (address : String) (backoff : Backoff) (until_ : Nat)
  deriving DecidableEq, Repr

/-- Where a stop waits. -/
inductive StopStage where
  /-- Until no listener is counted; then with `grace` for the connections. -/
  | closing (grace : Option Duration)
  /-- For the connections to end. `told` once their number has come to zero. -/
  | draining (grace : Duration) (deadline : Nat) (told : Bool)
  /-- For the forced connections to end. -/
  | forcing (remaining deadline : Nat) (told : Bool)
  deriving DecidableEq, Repr

/-- Tell a stop that the number of connections has come to zero. -/
def StopStage.tell : StopStage → StopStage
  | .closing grace => .closing grace
  | .draining grace deadline _ => .draining grace deadline true
  | .forcing remaining deadline _ => .forcing remaining deadline true

/-- An accepted connection. -/
structure Connection where
  /-- The listener's address. -/
  address : String
  peer : String
  acceptedAt : Nat
  options : SocketOptions
  /-- Its handler runs. -/
  begun : Bool := false
  deriving DecidableEq, Repr

/-- Why the configured address is not bound. -/
inductive BindFailure where
  /-- It cannot be listened on. -/
  | refused (cause : IoError)
  /-- It is listened on, but the address of the listener cannot be told. -/
  | untold (cause : IoError)
  deriving DecidableEq, Repr

/-- What a panic carries. -/
inductive Panic where
  /-- The request to end the connection without a word. -/
  | abort
  | text (message : String)
  /-- Anything else. -/
  | other
  deriving DecidableEq, Repr

/-- How a panic is reported, if it is. -/
def Panic.report? : Panic → Option String
  | .abort => none
  | .text message => some message
  | .other => some "Box<dyn Any>"

/-- How a handler ends. -/
inductive Ending where
  | returned
  | panicked (p : Panic)
  /-- It is dropped while it runs. -/
  | forced
  deriving DecidableEq, Repr

end Server

/-- A server with its operations in flight. -/
structure Server where
  /-- The configured address. -/
  addr : String
  timeouts : Timeouts := {}
  /-- The clock. -/
  now : Nat := 0
  state : ServerState := .notStarted
  /-- The signal that stops the loops and cancels the handlers. -/
  done : Bool := false
  /-- The signal that drops the handlers. -/
  force : Bool := false
  /-- The signal from outside that cancels the handlers. -/
  base : Bool := false
  /-- Where the server listens, or listened last. -/
  localAddr : Option String := none
  /-- How many listeners are counted. -/
  listeners : Nat := 0
  /-- How many connections are counted. -/
  active : Nat := 0
  /-- The loops, by the operation that runs them. -/
  loops : List (CallId × Server.ServeStage) := []
  stops : List (CallId × Server.StopStage) := []
  conns : List (GuardId × Server.Connection) := []
  nextConn : GuardId := 1
  /-- What others saw, latest first. -/
  history : List Server.Note := []

namespace Server

def note (s : Server) (n : Note) : Server := { s with history := n :: s.history }

def isClosed (s : Server) : Bool := s.state == .closed

/-- Whether the context of the connections says that they are cancelled. -/
def isCancelled (s : Server) : Bool := s.isClosed || s.base

/-- Whether waiting for the cancellation of a connection is over at once. -/
def cancelledResolves (s : Server) : Bool := s.done || s.base

/-- Whether an operation with that number is in flight. -/
def isBusy (s : Server) (id : CallId) : Bool :=
  (s.loops.lookup id).isSome || (s.stops.lookup id).isSome

def answer (s : Server) (id : CallId) (a : Except ServerError Unit) : Server :=
  s.note (.answered id a)

/-- Loop `id` goes on waiting, at another point. -/
def holdLoop (s : Server) (id : CallId) (stage : ServeStage) : Server :=
  { s with loops := put id stage s.loops }

/-- Loop `id` is gone. -/
def dropLoop (s : Server) (id : CallId) : Server :=
  { s with loops := s.loops.filter (·.1 != id) }

/-- Stop `id` goes on waiting, at another point. -/
def holdStop (s : Server) (id : CallId) (stage : StopStage) : Server :=
  { s with stops := put id stage s.stops }

/-- Stop `id` ends. -/
def endStop (s : Server) (id : CallId) (a : Except ServerError Unit) : Server :=
  { s with stops := s.stops.filter (·.1 != id) }.answer id a

/-- Count a listener. -/
def countListener (s : Server) : Server :=
  { s with listeners := s.listeners + 1 }.note (.listeners (s.listeners + 1))

/-- Release the listener of operation `id`, and only then stop counting it. -/
def releaseListener (s : Server) (id : CallId) : Server :=
  let s := s.note (.released id)
  { s with listeners := s.listeners - 1 }.note (.listeners (s.listeners - 1))

/-- A loop begins on an open listener, unless the server is closed. -/
def beginLoop (s : Server) (id : CallId) (address : String) : Server :=
  let s := s.countListener
  if s.isClosed then ((s.releaseListener id).dropLoop id).answer id (.error .closed)
  else
    ({ s with state := .listening, localAddr := some address }.note (.listening address)).holdLoop id
      (.accepting address (Backoff.ofBounds acceptBase acceptMax))

/-- A loop ends because the server was closed. -/
def endLoop (s : Server) (id : CallId) (address : String) : Server :=
  ((((s.releaseListener id).note (.stopped address)).dropLoop id)).answer id (.error .closed)

/-- Count an accepted connection, set its options, and give it a task. -/
def dispatch (s : Server) (address peer : String) : Server :=
  let conn := s.nextConn
  let s := { s with active := s.active + 1, nextConn := conn + 1 }.note (.tracked conn (s.active + 1))
  let (options, s) :=
    if s.timeouts.keepAlive.isZero then (({} : SocketOptions), s)
    else
      match ({} : SocketOptions).setKeepAlive s.timeouts.keepAlive with
      | (o, .ok ()) => (o, s)
      | (o, .error e) => (o, s.note (.keepAliveFailed peer e))
  { s with conns := (conn, { address, peer, acceptedAt := s.now, options }) :: s.conns }.note
    (.dispatched conn peer)

/-- Tell every stop that the number of connections has come to zero. -/
def tellIdle (s : Server) : Server := { s with stops := s.stops.map fun (i, st) => (i, st.tell) }

/-- Connection `conn` is counted no longer. -/
def untrack (s : Server) (conn : GuardId) : Server :=
  let s := { s with active := s.active - 1, conns := s.conns.filter (·.1 != conn) }
  let s := if s.active = 0 then s.tellIdle else s
  s.note (.untracked conn s.active)

/-- Say how the handler of a connection ended, where something is said. -/
def report (s : Server) (conn : GuardId) (c : Connection) : Ending → Server
  | .returned => s
  | .panicked p =>
    match p.report? with
    | some text => s.note (.panicked conn c.peer text)
    | none => s
  | .forced => s.note (.forced conn c.peer)

/-- The server is closed. Only the first time is anything said. -/
def markClosed (s : Server) : Server :=
  let previous := s.state
  let s := { s with state := .closed }
  if s.done then s else { s with done := true }.note (.closing s.addr previous)

/-- No listener is counted any more: a shutdown begins to wait for the connections. -/
def beginDrain (s : Server) (id : CallId) (grace : Duration) : Server :=
  if s.active = 0 then (s.note .drained).endStop id (.ok ())
  else s.holdStop id (.draining grace (Clock.sleepEnd s.now grace) false)

/-- The grace of stop `id` is over: force the connections that are left. -/
def forceAll (s : Server) (id : CallId) (grace : Duration) : Server :=
  if s.active = 0 then s.endStop id (.ok ())
  else
    ({ s with force := true }.note (.graceOver s.active grace)).holdStop id
      (.forcing s.active (Clock.sleepEnd s.now forceWait) false)

/-- One uninterrupted piece of work. -/
inductive Event where
  /-- Somebody calls for the server to listen on its address and serve. -/
  | listenAndServe (id : CallId)
  /-- The address of operation `id` is bound, or cannot be. -/
  | bound (id : CallId) (result : Except BindFailure String)
  /-- Somebody calls for the server to serve on a listener, of which the address can be told or not. -/
  | serve (id : CallId) (address : Except IoError String)
  /-- Loop `id` accepts a connection. -/
  | accept (id : CallId) (peer : String)
  /-- An accept of loop `id` fails; the draw decides how long it waits. -/
  | acceptFails (id : CallId) (cause : IoError) (draw : UInt64)
  /-- Loop `id` goes on: it has heard of the close, or has waited long enough. -/
  | resume (id : CallId)
  /-- Loop `id` is dropped by who runs it. -/
  | dropLoop (id : CallId)
  | close (id : CallId)
  | shutdown (id : CallId) (grace : Duration)
  /-- Stop `id` goes on. -/
  | proceed (id : CallId)
  /-- The task of a connection begins. -/
  | begin (conn : GuardId)
  /-- The handler of a connection ends, and its socket is shut down, well or with a failure. -/
  | finish (conn : GuardId) (ending : Ending) (failure : Option IoError)
  /-- The signal from outside is given. -/
  | triggerBase
  /-- Time passes. -/
  | pass (nanos : Nat)

/-- Perform an event, if it can happen. -/
def step (s : Server) : Event → Option Server
  | .listenAndServe id =>
    if s.isBusy id then none
    else if s.isClosed then some (s.answer id (.error .closed))
    else if s.addr.isEmpty then some (s.answer id (.error (.config "empty address")))
    else some (s.holdLoop id .binding)
  | .bound id result =>
    match s.loops.lookup id with
    | some .binding =>
      match result with
      | .error (.refused e) => some ((s.dropLoop id).answer id (.error (.bind s.addr e)))
      | .error (.untold e) =>
        some ((((s.note (.opened id)).note (.released id)).dropLoop id).answer id (.error (.io e)))
      | .ok address => some (((s.note (.opened id)).note (.bound address)).beginLoop id address)
    | _ => none
  | .serve id address =>
    if s.isBusy id then none
    else
      match address with
      | .error e => some (s.answer id (.error (.io e)))
      | .ok address => some ((s.note (.given id)).beginLoop id address)
  | .accept id peer =>
    match s.loops.lookup id with
    | some (.accepting address backoff) =>
      if s.done then none
      else some (((s.note .accepted).dispatch address peer).holdLoop id
        (.accepting address backoff.reset))
    | _ => none
  | .acceptFails id cause draw =>
    match s.loops.lookup id with
    | some (.accepting address backoff) =>
      if s.done then none
      else
        let (backoff, delay) := backoff.next draw
        some ((s.note (.acceptFailed cause backoff.attempts.toNat delay.millis)).holdLoop id
          (.retrying address backoff (Clock.sleepEnd s.now delay)))
    | _ => none
  | .resume id =>
    match s.loops.lookup id with
    | some (.accepting address _) => if s.done then some (s.endLoop id address) else none
    | some (.retrying address backoff until_) =>
      if s.done then some (s.endLoop id address)
      else if Clock.fired s.now until_ then some (s.holdLoop id (.accepting address backoff))
      else none
    | _ => none
  | .dropLoop id =>
    match s.loops.lookup id with
    | some .binding => some (s.dropLoop id)
    | some _ => some ((s.releaseListener id).dropLoop id)
    | none => none
  | .close id => if s.isBusy id then none else some (s.markClosed.holdStop id (.closing none))
  | .shutdown id grace =>
    if s.isBusy id then none else some (s.markClosed.holdStop id (.closing (some grace)))
  | .proceed id =>
    match s.stops.lookup id with
    | some (.closing grace) =>
      if s.listeners = 0 then
        let s := s.note (.closed id)
        match grace with
        | none => some (s.endStop id (.ok ()))
        | some g => some (s.beginDrain id g)
      else none
    | some (.draining grace deadline told) =>
      if told && s.active == 0 then some ((s.note .drained).endStop id (.ok ()))
      else if Clock.fired s.now deadline then some (s.forceAll id grace)
      else if told then some (s.holdStop id (.draining grace deadline false))
      else none
    | some (.forcing remaining deadline told) =>
      if told && s.active == 0 then some (s.endStop id (.error (.drainTimeout remaining)))
      else if Clock.fired s.now deadline then
        some ((s.note (.stillOpen s.active)).endStop id (.error (.drainTimeout remaining)))
      else if told then some (s.holdStop id (.forcing remaining deadline false))
      else none
    | none => none
  | .begin conn =>
    match s.conns.lookup conn with
    | some c =>
      if c.begun then none
      else some ({ s with conns := put conn { c with begun := true } s.conns }.note
        (.serving conn c.peer))
    | none => none
  | .finish conn ending failure =>
    match s.conns.lookup conn with
    | some c =>
      if c.begun && (s.force || ending != .forced) then
        some ((((s.report conn c ending).note (.shutSocket conn failure)).note
          (.droppedSocket conn)).untrack conn)
      else none
    | none => none
  | .triggerBase => some { s with base := true }
  | .pass nanos => some { s with now := s.now + nanos }

/-- The answer that operation `id` got, if it ended. -/
def answer? (s : Server) (id : CallId) : Option (Except ServerError Unit) :=
  s.history.findSome? (·.answerTo? id)

/-- The log, first entry first. -/
def log (s : Server) : List LogEntry := s.history.reverse.filterMap (·.line?)

/-- What was measured, first measurement first. -/
def measurements (s : Server) : List Measurement := s.history.reverse.filterMap (·.measurement?)

/-- What a server says about itself. -/
def debugText (s : Server) : String :=
  Text.partialRecord "Server"
    [("addr", Text.quoted s.addr), ("state", s.state.name), ("active_connections", toString s.active)]

end Server
end PooledTcp
