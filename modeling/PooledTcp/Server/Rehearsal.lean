import PooledTcp.Handler.Proxy
import PooledTcp.Pool.OnHost
import PooledTcp.Server.Builder

/-!
# Servers under a script

Servers with names run on a host without a network: they can be started, closed and shut down, and they can be
looked at, but nobody can connect to them, and no pool of sockets comes about. An operation that needs a
connection or a pool that is not there ends the script.

The servers move only by `Server.step`. After each operation every loop and every stop goes on as far as it can.
-/

namespace PooledTcp.Server

/-- Which handler a server has. -/
inductive HandlerSort where
  | echo
  | pong
  /-- The proxy over the pool of that name. -/
  | proxy (pool : String)
  | other (name : String)
  deriving DecidableEq, Repr

/-- One operation of a script, on the server of some name where it needs one. -/
inductive Op where
  | build (addr : String) (handler : HandlerSort) (timeouts : Timeouts) (base : Option String)
  /-- Listen on the configured address in a task. -/
  | start
  /-- Serve on a listener of one's own in a task. -/
  | serve
  /-- The result of that task. -/
  | join
  | waitListening
  | close
  | shutdown (grace : Duration)
  /-- Give a signal that cancels handlers. -/
  | triggerBase
  | state
  /-- Whether the number of connections comes to `n`. -/
  | waitActive (n : Nat)
  | handlerDebug
  | sleep
  /-- What handlers noted. -/
  | outcomes
  | connect (addr : String)
  /-- Use a connection. -/
  | useConnection
  | dropConnection
  | openPool (addr : String) (request : PoolRequest) (factory : TcpFactory)
  /-- Use a pool. -/
  | usePool
  /-- Connect while the server cannot accept. -/
  | starve (addr : String)

/-- What an operation answers. -/
inductive Reply where
  | ok
  | listening (yes : Bool)
  | failed (e : ServerError)
  | recorded (address : Option String)
  /-- There is no task. -/
  | noTask
  | running
  | address (address : Option String)
  | flag (yes : Bool)
  | state (state : ServerState) (active : Nat) (debug : String)
  | unreachable (cause : IoError)
  | noPool (e : PoolError)
  | nothing
  | debug (text : String)

/-- Why a script ends early. -/
inductive Crash where
  /-- There is no such connection. -/
  | noConnection
  /-- There is no such server or pool. -/
  | noEntry
  | cannotConnect (cause : IoError)
  | capacityOverflow

/-- A server under a name. -/
structure Hosted where
  server : Server
  handler : HandlerSort
  /-- The signal from outside that cancels its handlers. -/
  base : Option String
  /-- The task that serves. -/
  task : Option CallId := none

/-- Servers with names on a host. -/
structure Rehearsal where
  host : Host := {}
  servers : List (String × Hosted) := []
  /-- The signals that were given. -/
  given : List String := []
  nextCall : CallId := 0
  log : List LogEntry := []
  measurements : List Measurement := []

namespace Rehearsal

/-- The label of the server of some name. -/
def label (name : String) : String := "<" ++ name ++ ">"

/-- Perform an event on a server, if it can happen, and take down what is seen. -/
def perform (r : Rehearsal) (name : String) (h : Hosted) (e : Event) : Rehearsal × Hosted :=
  match h.server.step e with
  | none => (r, h)
  | some server =>
    let news := (server.history.take (server.history.length - h.server.history.length)).reverse
    let h := { h with server }
    ({ r with servers := put name h r.servers, log := r.log ++ news.filterMap (·.line?),
              measurements := r.measurements ++ news.filterMap (·.measurement?) }, h)

/-- The address on which a loop listens. -/
def loopAddress? : ServeStage → Option String
  | .binding => none
  | .accepting address _ | .retrying address _ _ => some address

/-- Every loop and every stop of a server goes on as far as it can. Released addresses are free again. -/
def settle (r : Rehearsal) (name : String) (h : Hosted) : Rehearsal × Hosted :=
  let before := h.server.loops.filterMap fun (_, st) => loopAddress? st
  let (r, h) := h.server.loops.foldr (fun (id, _) (r, h) => r.perform name h (.resume id)) (r, h)
  let (r, h) := h.server.stops.foldr (fun (id, _) (r, h) => r.perform name h (.proceed id)) (r, h)
  let after := h.server.loops.filterMap fun (_, st) => loopAddress? st
  let released := after.foldl List.erase before
  ({ r with host := released.foldl Host.release r.host }, h)

/-- Number a new operation. -/
def newCall (r : Rehearsal) : Rehearsal × CallId := ({ r with nextCall := r.nextCall + 1 }, r.nextCall)

/-- Put a server under its name. -/
def keep (r : Rehearsal) (name : String) (h : Hosted) : Rehearsal :=
  { r with servers := put name h r.servers }

/-- Start to listen on the configured address. -/
def start (r : Rehearsal) (name : String) (h : Hosted) : Rehearsal × Reply :=
  let (r, id) := r.newCall
  let (r, h) := r.perform name h (.listenAndServe id)
  match h.server.answer? id with
  | some (.error .closed) => (r.keep name { h with task := some id }, .listening false)
  | some (.error e) => (r, .failed e)
  | some (.ok ()) => (r, .ok)
  | none =>
    match r.host.listen h.server.addr (label name) with
    | .error e =>
      ((r.perform name h (.bound id (.error (.refused e)))).1, .failed (.bind h.server.addr e))
    | .ok (host, address) =>
      let (r, h) := ({ r with host }).perform name h (.bound id (.ok address))
      (r.keep name { h with task := some id }, .listening true)

/-- Serve on a listener of one's own. -/
def serve (r : Rehearsal) (name : String) (h : Hosted) : Rehearsal × Reply :=
  let (r, id) := r.newCall
  let (r, h) := r.perform name h (.serve id (.ok (label name)))
  let r := if (h.server.answer? id).isNone then
    { r with host := { r.host with inUse := label name :: r.host.inUse } } else r
  (r.keep name { h with task := some id }, .recorded h.server.localAddr)

/-- Begin to stop a server and wait for the end. -/
def stop (r : Rehearsal) (name : String) (h : Hosted) (event : CallId → Event) : Rehearsal × Reply :=
  let (r, id) := r.newCall
  let (r, h) := r.perform name h (event id)
  let (r, h) := r.settle name h
  match h.server.answer? id with
  | some (.error e) => (r, .failed e)
  | _ => (r, .ok)

/-- Perform an operation that needs the server of some name. -/
def actOn (r : Rehearsal) (name : String) (h : Hosted) : Op → Rehearsal × Reply
  | .start => r.start name h
  | .serve => r.serve name h
  | .join =>
    match h.task.map (fun id => h.server.answer? id) with
    | none => (r, .noTask)
    | some none => (r, .running)
    | some (some (.error e)) => (r.keep name { h with task := none }, .failed e)
    | some (some (.ok ())) => (r.keep name { h with task := none }, .ok)
  | .waitListening => (r, .address h.server.localAddr)
  | .close => r.stop name h .close
  | .shutdown grace => r.stop name h (.shutdown · grace)
  | .state => (r, .state h.server.state h.server.active h.server.debugText)
  | .waitActive n => (r, .flag (h.server.active == n))
  | .handlerDebug =>
    (r, .debug (match h.handler with
      | .echo => "EchoHandler"
      | .pong => "PongHandler"
      | .proxy pool => ProxyServer.debugText pool
      | .other name => name))
  | .outcomes => (r, .nothing)
  | _ => (r, .ok)

/-- Perform an operation. -/
def act (r : Rehearsal) (name : String) : Op → Except Crash (Rehearsal × Reply)
  | .build addr handler timeouts base =>
    match handler with
    | .proxy _ => .error .noEntry
    | _ =>
      let builder : ServerBuilder HandlerSort := { addr, timeouts, handler := some handler }
      match builder.build with
      | .error _ => .error .noEntry
      | .ok (server, handler) =>
        let server := { server with base := base.any r.given.contains }
        .ok (r.keep name { server, handler, base }, .ok)
  | .triggerBase =>
    let first := !r.given.contains name
    let r := r.servers.foldr (fun (n, h) r =>
      if h.base == some name then (r.perform n h .triggerBase).1 else r) r
    .ok ({ r with given := name :: r.given }, .flag first)
  | .sleep => .ok (r, .ok)
  | .connect addr => .ok (r, .unreachable (Host.refusal addr))
  | .useConnection => .error .noConnection
  | .dropConnection => .ok (r, .ok)
  | .openPool addr request factory =>
    match Pool.openOnHost factory addr request with
    | .ok _ => .error .noEntry
    | .error { error := .capacityOverflow, .. } => .error .capacityOverflow
    | .error { error := .refused e, log, measurements } =>
      .ok ({ r with log := r.log ++ log, measurements := r.measurements ++ measurements }, .noPool e)
  | .usePool => .error .noEntry
  | .starve addr => .error (.cannotConnect (Host.refusal addr))
  | op =>
    match r.servers.lookup name with
    | some h => .ok (r.actOn name h op)
    | none => .error .noEntry

/-- Perform operations one after the other. -/
def runOps (r : Rehearsal) : List (String × Op) → Except Crash (Rehearsal × List Reply)
  | [] => .ok (r, [])
  | (name, op) :: ops =>
    match r.act name op with
    | .error c => .error c
    | .ok (r, reply) =>
      match r.runOps ops with
      | .error c => .error c
      | .ok (r, replies) => .ok (r, reply :: replies)

end Rehearsal
end PooledTcp.Server
