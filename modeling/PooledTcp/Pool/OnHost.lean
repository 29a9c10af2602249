import PooledTcp.Net.TcpFactory
import PooledTcp.Pool.Opening

/-!
# Opening a pool of sockets

A pool of sockets is opened on a host without a network: the first dial fails, and nothing is left to close.
-/

namespace PooledTcp.Pool

/-- The bytes of an idle entry for a socket: the socket and a moment. -/
def socketEntryBytes : Nat := 48

/-- Why there is no pool, and what was seen of it. -/
structure Unopened where
  error : OpenError
  log : List LogEntry := []
  measurements : List Measurement := []

/-- Go on with the opening of a pool until it ends, dial by dial. -/
def Opening.fail (o : Opening) (cause : IoError) : Opening := (o.dialed (.error cause)).getD o

/-- Open a pool of sockets for `addr`, if that can be. -/
def openOnHost (factory : TcpFactory) (addr : String) (request : PoolRequest) :
    Except Unopened Pool :=
  match Opening.start addr request true socketEntryBytes 0 with
  | .error e => .error { error := e }
  | .ok o =>
    match o.pool?, factory.dial addr with
    | some pool, _ => .ok pool
    | none, .ok _ => .error { error := .refused .exhausted }
    | none, .error cause =>
      let o := o.fail cause
      .error { error := .refused (.factory cause), log := o.log, measurements := o.measurements }

end PooledTcp.Pool
