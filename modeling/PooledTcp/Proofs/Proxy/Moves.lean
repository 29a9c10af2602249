import PooledTcp.Handler.Proxy

/-!
# What a proxy can do next

`ProxyServer.step` refuses most events in most states. `Move` lists what is left, one constructor for each
event and each point at which the handler of its connection can wait for it.
-/

namespace PooledTcp.ProxyServer

/-- The handler of a connection is over, and `server` is what the server is then. -/
def without (p : ProxyServer) (conn : GuardId) (server : Server) : ProxyServer :=
  { p with server, sessions := p.sessions.filter (·.1 != conn) }

/-- What an event can do to a proxy, by the point at which the handler that it moves on waits. -/
inductive Move (p : ProxyServer) : Event → ProxyServer → Prop where
  | server {e : Server.Event} {server : Server} : isHandlers e = false →
    p.server.step e = some server → Move p (.server e) { p with server }
  | pool {e : Pool.Event} {pool : Pool} : p.pool.step e = some pool →
    Move p (.pool e) { p with pool }
  | begins {conn : GuardId} {call : CallId} {server : Server} {pool : Pool} :
    p.pool.isFresh call = true → p.server.step (.begin conn) = some server →
    p.pool.step (.acquire call none) = some pool →
    Move p (.begin conn call) ({ p with server, pool }.hold conn (.acquiring call))
  | served {conn : GuardId} {failure : Option IoError} {call : CallId} {backend : ConnId} :
    p.sessions.lookup conn = some (.acquiring call) →
    p.pool.answer? call = some (.acquired (.ok backend)) →
    Move p (.acquired conn failure) (p.hold conn (.copying backend))
  | refused {conn : GuardId} {failure : Option IoError} {call : CallId} {err : PoolError}
      {server : Server} : p.sessions.lookup conn = some (.acquiring call) →
    p.pool.answer? call = some (.acquired (.error err)) →
    p.server.step (.finish conn .returned failure) = some server →
    Move p (.acquired conn failure) (p.without conn server)
  | copied {conn : GuardId} {call : CallId} {backend : ConnId} {pool : Pool} :
    p.sessions.lookup conn = some (.copying backend) → p.pool.isFresh call = true →
    p.pool.step (.discard call backend) = some pool →
    Move p (.copied conn call) ({ p with pool }.hold conn (.discarding call))
  | discarded {conn : GuardId} {failure : Option IoError} {call : CallId} {server : Server} :
    p.sessions.lookup conn = some (.discarding call) →
    p.server.step (.finish conn .returned failure) = some server →
    Move p (.discarded conn failure) (p.without conn server)
  /-- Its acquire is given up. -/
  | givenUp {conn : GuardId} {canSpawn : Bool} {task : CallId} {failure : Option IoError}
      {call : CallId} {server : Server} {pool : Pool} :
    p.sessions.lookup conn = some (.acquiring call) → p.pool.isFresh task = true →
    p.server.step (.finish conn .forced failure) = some server →
    p.pool.step (.cancel call canSpawn task) = some pool →
    Move p (.forced conn canSpawn task failure) { p.without conn server with pool }
  /-- It is dropped with the backend connection that it copies from. -/
  | dropped {conn : GuardId} {canSpawn : Bool} {task : CallId} {failure : Option IoError}
      {backend : ConnId} {server : Server} : p.sessions.lookup conn = some (.copying backend) →
    p.server.step (.finish conn .forced failure) = some server →
    Move p (.forced conn canSpawn task failure) (p.without conn server)
  /-- It is dropped while it waits for the end of its discard. -/
  | unheard {conn : GuardId} {canSpawn : Bool} {task : CallId} {failure : Option IoError}
      {call : CallId} {server : Server} : p.sessions.lookup conn = some (.discarding call) →
    p.server.step (.finish conn .forced failure) = some server →
    Move p (.forced conn canSpawn task failure) (p.without conn server)
  /-- It is dropped before it begins. -/
  | neverBegun {conn : GuardId} {canSpawn : Bool} {task : CallId} {failure : Option IoError}
      {begun server : Server} : p.sessions.lookup conn = none →
    p.server.step (.begin conn) = some begun →
    begun.step (.finish conn .forced failure) = some server →
    Move p (.forced conn canSpawn task failure) (p.without conn server)

/-- Nothing but a move happens. -/
theorem Move.of_step {p q : ProxyServer} {e : Event} (h : p.step e = some q) : Move p e q := by
  cases e with
  | server e =>
    simp only [step, Option.ite_none_left_eq_some, Option.map_eq_some_iff] at h
    obtain ⟨hnot, server, hserver, rfl⟩ := h
    exact .server (Bool.eq_false_iff.2 hnot) hserver
  | pool e =>
    simp only [step, Option.ite_none_left_eq_some, Option.map_eq_some_iff] at h
    obtain ⟨-, pool, hpool, rfl⟩ := h
    exact .pool hpool
  | «begin» conn call =>
    simp only [step, Option.ite_none_left_eq_some, Bool.or_eq_true, not_or, Bool.not_eq_true',
      Bool.not_eq_false] at h
    obtain ⟨⟨-, hfresh⟩, h⟩ := h
    split at h
    · rename_i server pool hserver hpool
      cases h
      exact .begins hfresh hserver hpool
    · cases h
  | acquired conn failure =>
    simp only [step] at h
    split at h
    · rename_i call hconn
      split at h
      · rename_i backend hanswer
        cases h
        exact .served hconn hanswer
      · rename_i err hanswer
        obtain ⟨server, hserver, rfl⟩ := Option.map_eq_some_iff.1 h
        exact .refused hconn hanswer hserver
      · cases h
    · cases h
  | copied conn call =>
    simp only [step] at h
    split at h
    · rename_i backend hconn
      simp only [Option.ite_none_left_eq_some, Bool.or_eq_true, not_or, Bool.not_eq_true',
        Bool.not_eq_false, Option.map_eq_some_iff] at h
      obtain ⟨⟨-, hfresh⟩, pool, hpool, rfl⟩ := h
      exact .copied hconn hfresh hpool
    · cases h
  | discarded conn failure =>
    simp only [step] at h
    split at h
    · rename_i call hconn
      split at h
      · obtain ⟨server, hserver, rfl⟩ := Option.map_eq_some_iff.1 h
        exact .discarded hconn hserver
      · cases h
    · cases h
  | forced conn canSpawn task failure =>
    simp only [step] at h
    split at h
    · rename_i call hconn
      simp only [Option.ite_none_left_eq_some, Bool.or_eq_true, not_or, Bool.not_eq_true',
        Bool.not_eq_false] at h
      obtain ⟨⟨-, hfresh⟩, h⟩ := h
      split at h
      · rename_i ended pool hended hpool
        obtain ⟨server, hserver, rfl⟩ := Option.map_eq_some_iff.1 hended
        cases h
        exact .givenUp hconn hfresh hserver hpool
      · cases h
    · rename_i session hnot hconn
      obtain ⟨server, hserver, rfl⟩ := Option.map_eq_some_iff.1 h
      cases session with
      | acquiring call => exact absurd rfl (hnot call)
      | copying backend => exact .dropped hconn hserver
      | discarding call => exact .unheard hconn hserver
    · rename_i hconn
      obtain ⟨begun, hbegun, hended⟩ := Option.bind_eq_some_iff.1 h
      obtain ⟨server, hserver, rfl⟩ := Option.map_eq_some_iff.1 hended
      exact .neverBegun hconn hbegun hserver

end PooledTcp.ProxyServer
