import PooledTcp.Net.TcpFactory

/-!
# A factory under a script

Sockets are opened under names on a host without a network. An operation on a name that no socket has ends the
script.
-/

namespace PooledTcp.TcpFactory

/-- One operation. -/
inductive Op where
  /-- Open a socket for an address. -/
  | open_ (addr : String)
  /-- Drop the far end of a socket, if there is one. -/
  | dropPeer
  /-- Anything else that is done with a socket. -/
  | use

/-- What an operation answers. -/
inductive Reply where
  | opened (options : SocketOptions)
  | failed (cause : IoError)
  | ok

/-- Perform operations on sockets that are not there; `none` where one of them needs its socket. -/
def rehearse (f : TcpFactory) : List Op → Option (List Reply)
  | [] => some []
  | .open_ addr :: ops =>
    let reply := match f.dial addr with
      | .ok o => .opened o
      | .error e => .failed e
    (f.rehearse ops).map (reply :: ·)
  | .dropPeer :: ops => (f.rehearse ops).map (.ok :: ·)
  | .use :: _ => none

end PooledTcp.TcpFactory
