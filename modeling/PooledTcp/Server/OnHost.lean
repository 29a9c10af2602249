import PooledTcp.Net.Host
import PooledTcp.Server.Basic

/-!
# Starting a server on a host

A server that has not started listens on its address and serves, unless it may not start or the host refuses.
-/

namespace PooledTcp.Server

/-- The operation under which a server starts. -/
def startId : CallId := 0

/-- Perform an event, if it can happen. -/
def perform (s : Server) (e : Event) : Server := (s.step e).getD s

/-- Listen on the configured address and serve. -/
def startOnHost (s : Server) (host : Host) : Except ServerError Server :=
  let s := s.perform (.listenAndServe startId)
  let result := ((host.listen s.addr s.addr).map (·.2)).mapError BindFailure.refused
  let s := s.perform (.bound startId result)
  match s.answer? startId with
  | some (.error e) => .error e
  | _ => .ok s

end PooledTcp.Server
