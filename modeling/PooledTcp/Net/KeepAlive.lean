import PooledTcp.Duration
import PooledTcp.IoError

/-!
# Keep-alive probes

A connected socket may send probes while it is silent: the first after a span of silence, the next ones at
intervals. The system counts both in whole seconds, from 1 to 32767, and refuses anything else after the
probes were switched on.
-/

namespace PooledTcp

/-- The options of a connected socket. -/
structure SocketOptions where
  keepAlive : Bool := false
  /-- Seconds of silence before the first probe. -/
  probeAfter : Nat := 7200
  /-- Seconds between probes. -/
  probeEvery : Nat := 75
  noDelay : Bool := false
  deriving DecidableEq, Repr

namespace SocketOptions

/-- The most seconds that the system takes. -/
def greatestSeconds : Nat := 32767

/-- Switch probes on, the first after `idle` of silence and the others as far apart. -/
def setKeepAlive (o : SocketOptions) (idle : Duration) : SocketOptions × Except IoError Unit :=
  let o := { o with keepAlive := true }
  if 1 ≤ idle.secs ∧ idle.secs ≤ greatestSeconds then
    ({ o with probeAfter := idle.secs, probeEvery := idle.secs }, .ok ())
  else (o, .error (.system .invalidArgument))

end SocketOptions
end PooledTcp
