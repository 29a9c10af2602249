import PooledTcp.Bytes
import PooledTcp.Keyed
import PooledTcp.Pool.Basic

/-!
# Load tests

Clients share a pool, and nobody else uses it. Each client makes its requests one after the other: it acquires a
connection, sends the payload, waits for as many bytes in return, and releases the connection, or discards it
when the exchange failed. When a request ends it is counted under exactly one of four results.
-/

namespace PooledTcp

/-- What a load test is asked to do. -/
structure LoadPlan where
  addr : String
  clients : Nat
  /-- Requests of each client. -/
  requests : Nat
  payload : Bytes
  /-- How long a request waits for a connection; `none` is not at all. -/
  patience : Option Duration
  deriving DecidableEq, Repr

namespace LoadTest

abbrev ClientId := Nat

/-- What a request comes to. -/
inductive Result where
  | succeeded
  /-- Other bytes than the payload came back. -/
  | mismatched
  /-- There was no connection to be had. -/
  | exhausted
  | failed
  deriving DecidableEq, Repr

/-- Where a client is. -/
inductive Stage where
  /-- Between requests. -/
  | ready
  | acquiring (call : CallId)
  | exchanging (conn : ConnId)
  /-- Whether the payload came back is known already. -/
  | releasing (call : CallId) (matched : Bool)
  | discarding (call : CallId)
  deriving DecidableEq, Repr

/-- A client on its way. -/
structure Client where
  /-- Requests that are not counted yet. -/
  left : Nat
  /-- When the latest request began. -/
  begunAt : Nat := 0
  stage : Stage := .ready
  deriving DecidableEq, Repr

/-- How many requests came to what. -/
structure Tally where
  succeeded : Nat := 0
  mismatched : Nat := 0
  exhausted : Nat := 0
  failed : Nat := 0
  /-- How long those took that succeeded, in microseconds. -/
  latencyUs : Nat := 0
  deriving DecidableEq, Repr

namespace Tally

/-- Count a request that took that many nanoseconds. -/
def count (t : Tally) (nanos : Nat) : Result → Tally
  | .succeeded =>
    { t with succeeded := t.succeeded + 1, latencyUs := t.latencyUs + nanos / 1000 }
  | .mismatched => { t with mismatched := t.mismatched + 1 }
  | .exhausted => { t with exhausted := t.exhausted + 1 }
  | .failed => { t with failed := t.failed + 1 }

/-- The requests that are counted. -/
def total (t : Tally) : Nat := t.succeeded + t.mismatched + t.exhausted + t.failed

end Tally

/-- What a request comes to that the pool refuses. -/
def Result.ofPoolError : PoolError → Result
  | .exhausted => .exhausted
  | _ => .failed

/-- What a request comes to whose connection went back. -/
def Result.ofExchange (matched : Bool) : Result := if matched then .succeeded else .mismatched

end LoadTest

/-- A load test on its way. -/
structure LoadTest where
  plan : LoadPlan
  pool : Pool
  startedAt : Nat
  clients : List (LoadTest.ClientId × LoadTest.Client)
  tally : LoadTest.Tally := {}

namespace LoadTest

/-- All clients are about to begin. -/
def start (plan : LoadPlan) (pool : Pool) : LoadTest :=
  { plan, pool, startedAt := pool.now,
    clients := (List.range plan.clients).map fun i => (i, { left := plan.requests }) }

/-- One uninterrupted piece of work. -/
inductive Event where
  /-- The world answers the pool, or time passes. -/
  | pool (e : Pool.Event)
  /-- A client begins a request and calls for a connection. -/
  | begin (client : ClientId) (call : CallId)
  /-- It hears what became of its call. -/
  | acquired (client : ClientId)
  /-- The exchange ends with the bytes that came back or with a failure, and the connection is given away. -/
  | exchanged (client : ClientId) (call : CallId) (reply : Except IoError Bytes)
  /-- The client hears that its connection is given away. -/
  | gaveAway (client : ClientId)

/-- A client goes on at another point. -/
def hold (t : LoadTest) (i : ClientId) (c : Client) (stage : Stage) : LoadTest :=
  { t with clients := put i { c with stage } t.clients }

/-- The request of a client ends. -/
def finish (t : LoadTest) (i : ClientId) (c : Client) (r : Result) : LoadTest :=
  { t with clients := put i { c with left := c.left - 1, stage := .ready } t.clients,
           tally := t.tally.count (t.pool.now - c.begunAt) r }

/-- Perform an event, if it can happen. -/
def step (t : LoadTest) : Event → Option LoadTest
  | .pool e => if e.mentions.isEmpty then (t.pool.step e).map fun pool => { t with pool } else none
  | .begin i call =>
    match t.clients.lookup i with
    | some { left := left + 1, stage := .ready, .. } =>
      if t.pool.isFresh call then
        (t.pool.step (.acquire call t.plan.patience)).map fun pool =>
          { t with pool }.hold i { left := left + 1, begunAt := t.pool.now } (.acquiring call)
      else none
    | _ => none
  | .acquired i =>
    match t.clients.lookup i with
    | some c =>
      match c.stage with
      | .acquiring call =>
        match t.pool.answer? call with
        | some (.acquired (.ok conn)) => some (t.hold i c (.exchanging conn))
        | some (.acquired (.error e)) => some (t.finish i c (.ofPoolError e))
        | _ => none
      | _ => none
    | none => none
  | .exchanged i call reply =>
    match t.clients.lookup i with
    | some c =>
      match c.stage with
      | .exchanging conn =>
        if t.pool.isFresh call then
          match reply with
          | .error _ =>
            (t.pool.step (.discard call conn)).map fun pool =>
              { t with pool }.hold i c (.discarding call)
          | .ok bytes =>
            if bytes.length = t.plan.payload.length then
              (t.pool.step (.release call conn)).map fun pool =>
                { t with pool }.hold i c (.releasing call (bytes == t.plan.payload))
            else none
        else none
      | _ => none
    | none => none
  | .gaveAway i =>
    match t.clients.lookup i with
    | some c =>
      match c.stage with
      | .releasing call matched =>
        match t.pool.answer? call with
        | some (.released (.ok ())) => some (t.finish i c (.ofExchange matched))
        | some (.released (.error e)) => some (t.finish i c (.ofPoolError e))
        | _ => none
      | .discarding call =>
        match t.pool.answer? call with
        | some .discarded => some (t.finish i c .failed)
        | _ => none
      | _ => none
    | none => none

/-- Whether every request is counted. -/
def isOver (t : LoadTest) : Bool := t.clients.all fun (_, c) => c.left == 0

end LoadTest
end PooledTcp
