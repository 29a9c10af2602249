import PooledTcp.Pool.Basic
import PooledTcp.Server.Basic

/-!
# Passing connections on through a pool

The proxy handler acquires a connection to the backend server, copies bytes both ways until either side is
done, fails or the connection is cancelled, and then discards the backend connection. `ProxyServer` is a
server with such a handler together with the pool. When connections are forced the handler of a connection is
dropped wherever it waits, also before it began. An acquire that is under way is given up; a discard that is under
way has freed its slot, and nobody waits for its end any more; a backend connection that is being copied from is
dropped with the handler. A handler does not wait between the answer to its acquire and the copying.
-/

namespace PooledTcp

/-- Where the handler of a connection is. -/
inductive ProxySession where
  | acquiring (call : CallId)
  | copying (backend : ConnId)
  | discarding (call : CallId)
  deriving DecidableEq, Repr

/-- A server that passes connections on. -/
structure ProxyServer where
  server : Server
  pool : Pool
  sessions : List (GuardId × ProxySession) := []

namespace ProxyServer

/-- How the handler shows itself in a report. -/
def debugText (backend : String) : String :=
  Text.record "ProxyHandler" [("upstream", Text.quoted backend)]

/-- One uninterrupted piece of work. -/
inductive Event where
  /-- Something happens to the server, its handlers left out. -/
  | server (e : Server.Event)
  /-- Something happens to the pool: the world answers, time passes, or others use it. -/
  | pool (e : Pool.Event)
  /-- The handler of a connection begins and calls for a backend connection. -/
  | begin (conn : GuardId) (call : CallId)
  /-- The handler hears what became of its call. -/
  | acquired (conn : GuardId) (failure : Option IoError)
  /-- The copying ends, or is cancelled, and the backend connection is discarded. -/
  | copied (conn : GuardId) (call : CallId)
  /-- The handler hears that its backend connection is discarded. -/
  | discarded (conn : GuardId) (failure : Option IoError)
  /-- The handler is dropped; `task` closes what an acquire that is given up leaves, if tasks can start. -/
  | forced (conn : GuardId) (canSpawn : Bool) (task : CallId) (failure : Option IoError)

/-- Whether an event of the server is one that its handlers bring about. -/
def isHandlers : Server.Event → Bool
  | .begin _ | .finish _ _ _ => true
  | _ => false

/-- Whether a session waits for an operation of the pool. -/
def usesCall (p : ProxyServer) (call : CallId) : Bool :=
  p.sessions.any fun (_, s) =>
    match s with
    | .acquiring c | .discarding c => c == call
    | .copying _ => false

/-- The handler of a connection is over. -/
def finish (p : ProxyServer) (conn : GuardId) (ending : Server.Ending) (failure : Option IoError) :
    Option ProxyServer :=
  (p.server.step (.finish conn ending failure)).map fun server =>
    { p with server, sessions := p.sessions.filter (·.1 != conn) }

/-- The handler of a connection goes on at another point. -/
def hold (p : ProxyServer) (conn : GuardId) (s : ProxySession) : ProxyServer :=
  { p with sessions := put conn s p.sessions }

/-- Perform an event, if it can happen. -/
def step (p : ProxyServer) : Event → Option ProxyServer
  | .server e =>
    if isHandlers e then none else (p.server.step e).map fun server => { p with server }
  | .pool e =>
    if e.mentions.any p.usesCall then none else (p.pool.step e).map fun pool => { p with pool }
  | .begin conn call =>
    if p.usesCall call || !p.pool.isFresh call then none
    else
      match p.server.step (.begin conn), p.pool.step (.acquire call none) with
      | some server, some pool => some ({ p with server, pool }.hold conn (.acquiring call))
      | _, _ => none
  | .acquired conn failure =>
    match p.sessions.lookup conn with
    | some (.acquiring call) =>
      match p.pool.answer? call with
      | some (.acquired (.ok backend)) => some (p.hold conn (.copying backend))
      | some (.acquired (.error _)) => p.finish conn .returned failure
      | _ => none
    | _ => none
  | .copied conn call =>
    match p.sessions.lookup conn with
    | some (.copying backend) =>
      if p.usesCall call || !p.pool.isFresh call then none
      else (p.pool.step (.discard call backend)).map fun pool =>
        { p with pool }.hold conn (.discarding call)
    | _ => none
  | .discarded conn failure =>
    match p.sessions.lookup conn with
    | some (.discarding call) =>
      match p.pool.answer? call with
      | some .discarded => p.finish conn .returned failure
      | _ => none
    | _ => none
  | .forced conn canSpawn task failure =>
    match p.sessions.lookup conn with
    | some (.acquiring call) =>
      if p.usesCall task || !p.pool.isFresh task then none
      else
        match p.finish conn .forced failure, p.pool.step (.cancel call canSpawn task) with
        | some p, some pool => some { p with pool }
        | _, _ => none
    | some _ => p.finish conn .forced failure
    | none => (p.server.step (.begin conn)).bind fun server =>
      { p with server }.finish conn .forced failure

end ProxyServer
end PooledTcp
