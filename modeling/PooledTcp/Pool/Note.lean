import PooledTcp.Log
import PooledTcp.Metrics
import PooledTcp.Pool.Limits
import PooledTcp.Task

/-!
# What a pool lets others see

A pool's history is a list of notes: the calls it makes to the factory that opens, checks and closes
connections, what it measures, what it logs, and what it answers to its callers. The log and the
metrics of a pool are read off its history.
-/

namespace PooledTcp

/-- A connection, told from every other one by its number. -/
abbrev ConnId := Nat

namespace Pool

/-- What a pool asks of its factory. -/
inductive FactoryCall where
  | dial
  | ping (conn : ConnId)
  | close (conn : ConnId)
  deriving DecidableEq, Repr

/-- Where an acquired connection comes from. -/
inductive Source where
  | idle | new
  deriving DecidableEq, Repr

/-- Why an idle connection is not handed out. -/
inductive Eviction where
  | stale | unhealthy
  deriving DecidableEq, Repr

/-- How an operation ends. -/
inductive Answer where
  | acquired (result : Except PoolError ConnId)
  | released (result : Except PoolError Unit)
  | discarded
  | shutDown
  /-- The caller gave the operation up. -/
  | cancelled
  /-- A connection that an abandoned acquire left behind is closed. -/
  | tidied

/-- What a pool logs. -/
inductive Notice where
  | ready (limits : PoolLimits)
  | warmUpFailed (cause : IoError) (created : Nat)
  | evictingStale (idleFor : Duration)
  | unhealthy (cause : IoError)
  | reusing
  | opened
  | dialFailed (cause : IoError)
  | queueFull
  | notCheckedOut
  | shuttingDown (idle : Nat)
  | nobodyToClose
  | closeFailed (cause : IoError)
  | abandonedCloseFailed (cause : IoError)
  deriving DecidableEq, Repr

namespace Notice

def level : Notice → LogLevel
  | ready _ => .info
  | warmUpFailed _ _ => .error
  | evictingStale _ => .debug
  | unhealthy _ => .warn
  | reusing => .trace
  | opened => .debug
  | dialFailed _ => .warn
  | queueFull => .debug
  | notCheckedOut => .warn
  | shuttingDown _ => .info
  | nobodyToClose => .warn
  | closeFailed _ => .debug
  | abandonedCloseFailed _ => .debug

def message : Notice → String
  | ready _ => "Connection pool ready"
  | warmUpFailed _ _ => "Pool warm-up failed"
  | evictingStale _ => "Evicting stale idle connection"
  | unhealthy _ => "Idle connection failed health check"
  | reusing => "Reusing idle connection"
  | opened => "Opened new connection"
  | dialFailed _ => "Failed to open connection"
  | queueFull => "Idle queue full, closing released connection"
  | notCheckedOut => "Released connection was not checked out"
  | shuttingDown _ => "Shutting down connection pool"
  | nobodyToClose => "No runtime to close abandoned connection, dropping it"
  | closeFailed _ => "Error closing pooled connection"
  | abandonedCloseFailed _ => "Error closing abandoned connection"

/-- What an entry says besides its message and the pool's address. -/
def details : Notice → List (String × String)
  | ready l =>
    [("init_conns", toString l.initConns), ("max_conns", toString l.maxConns),
     ("max_idle", toString l.maxIdle), ("idle_timeout", l.idleTimeout.text)]
  | warmUpFailed e n => [("error", e.message), ("created", toString n)]
  | evictingStale d => [("idle_for", d.text)]
  | unhealthy e => [("error", e.message)]
  | dialFailed e => [("error", e.message)]
  | shuttingDown n => [("idle", toString n)]
  | closeFailed e => [("error", e.message)]
  | abandonedCloseFailed e => [("error", e.message)]
  | reusing | opened | queueFull | notCheckedOut | nobodyToClose => []

/-- The log entry of a notice by the pool for `addr`. -/
def entry (addr : String) (n : Notice) : LogEntry :=
  { level := n.level, message := n.message, fields := ("addr", addr) :: n.details }

end Notice

/-- One thing that a pool lets others see. -/
inductive Note where
  /-- Operation `id` begins a call to the factory. -/
  | called (id : CallId) (call : FactoryCall)
  /-- The number of idle connections is published. -/
  | idleLength (n : Nat)
  /-- A checkout succeeded. -/
  | acquired (source : Source)
  /-- An idle connection was found unfit. -/
  | evicted (reason : Eviction)
  /-- A checkout found the pool full. -/
  | exhausted
  /-- A log entry. -/
  | logged (notice : Notice)
  /-- Operation `id` ends. -/
  | answered (id : CallId) (answer : Answer)
  /-- A connection is dropped without being closed. -/
  | dropped (conn : ConnId)

namespace Note

def source : Source → String
  | .idle => "idle"
  | .new => "new"

def reason : Eviction → String
  | .stale => "stale"
  | .unhealthy => "unhealthy"

/-- What the note measures, for the pool for `addr`. -/
def measurement? (addr : String) : Note → Option Measurement
  | idleLength n => some (.set ⟨"netpool_pool_idle_connections", [("addr", addr)]⟩ n)
  | acquired s => some (.raise ⟨"netpool_pool_acquire_total", [("addr", addr), ("source", source s)]⟩)
  | evicted r => some (.raise ⟨"netpool_pool_evicted_total", [("addr", addr), ("reason", reason r)]⟩)
  | exhausted => some (.raise ⟨"netpool_pool_exhausted_total", [("addr", addr)]⟩)
  | _ => none

/-- What the note writes to the log of the pool for `addr`. -/
def line? (addr : String) : Note → Option LogEntry
  | logged n => some (n.entry addr)
  | _ => none

/-- The factory call that the note tells of, and who makes it. -/
def call? : Note → Option (CallId × FactoryCall)
  | called id c => some (id, c)
  | _ => none

/-- The answer that the note gives to operation `id`. -/
def answerTo? (id : CallId) : Note → Option Answer
  | answered i a => if i = id then some a else none
  | _ => none

end Note
end Pool
end PooledTcp
