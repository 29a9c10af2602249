import PooledTcp.Duration
import PooledTcp.Pool.Error
import PooledTcp.Text.Record

/-!
# Limits of a pool

A `PoolRequest` names the limits that are wanted; a count of zero asks for the default.
`PoolRequest.limits` fills in the defaults and clamps, so that `PoolLimits` always allow at least one
connection, idle or not.
-/

namespace PooledTcp

/-- How many connections a pool may have out at once unless it is told otherwise. -/
def defaultMaxConns : Nat := 10

/-- How many connections a pool opens at first unless it is told otherwise. -/
def defaultInitConns : Nat := 10

/-- The limits that are asked for. Zero counts select the defaults. -/
structure PoolRequest where
  initConns : Nat := 0
  maxConns : Nat := 0
  maxIdle : Nat := 0
  idleTimeout : Duration := .zero
  deriving DecidableEq, Repr

/-- The limits that a pool keeps. -/
structure PoolLimits where
  /-- Connections wanted at the start. -/
  initConns : Nat
  /-- Most connections out at once. -/
  maxConns : Nat
  /-- Most idle connections kept. -/
  maxIdle : Nat
  /-- Idle connections older than this are closed; zero keeps them for ever. -/
  idleTimeout : Duration
  deriving DecidableEq, Repr

/-- `n`, or `fallback` when `n` is zero. -/
def orDefault (n fallback : Nat) : Nat := if n = 0 then fallback else n

namespace PoolRequest

/-- Defaults filled in and counts clamped to `maxConns`; an unset idle limit follows the initial count. -/
def limits (r : PoolRequest) : PoolLimits :=
  let maxConns := orDefault r.maxConns defaultMaxConns
  let initConns := min (orDefault r.initConns defaultInitConns) maxConns
  { initConns, maxConns,
    maxIdle := min (orDefault r.maxIdle initConns) maxConns,
    idleTimeout := r.idleTimeout }

/-- The limits of a pool that has a factory to open connections with; there is no pool without one. -/
def normalize (r : PoolRequest) (hasFactory : Bool) : Except PoolError PoolLimits :=
  if hasFactory then .ok r.limits else .error (.config "connection factory is required")

end PoolRequest

namespace PoolLimits

/-- The limits as a request. -/
def toRequest (l : PoolLimits) : PoolRequest :=
  { initConns := l.initConns, maxConns := l.maxConns, maxIdle := l.maxIdle,
    idleTimeout := l.idleTimeout }

/-- How many connections are opened at the start. -/
def warm (l : PoolLimits) : Nat := min l.initConns l.maxIdle

def debugText (l : PoolLimits) : String :=
  Text.record "PoolLimits"
    [("init_conns", toString l.initConns), ("max_conns", toString l.maxConns),
     ("max_idle", toString l.maxIdle), ("idle_timeout", l.idleTimeout.text)]

end PoolLimits
end PooledTcp
