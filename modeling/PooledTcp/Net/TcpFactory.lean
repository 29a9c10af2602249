import PooledTcp.Bytes
import PooledTcp.Net.Host
import PooledTcp.Net.KeepAlive

/-!
# Opening and checking pooled sockets

A factory opens sockets with certain options, within a limit of time, and checks whether a socket is still
good. The check looks at the front of what was received without taking it: a byte or nothing yet is good,
the end of the stream is not.
-/

namespace PooledTcp

/-- How sockets are opened. -/
structure TcpFactory where
  connectTimeout : Duration := .ofMillis 5000
  /-- Silence before the first keep-alive probe, if there are to be probes. -/
  keepAlive : Option Duration := none
  noDelay : Bool := true

/-- How an attempt to connect ends. -/
inductive Attempt where
  | connected
  | failed (cause : IoError)
  /-- Nothing had happened when the time was up. -/
  | tooLate
  deriving DecidableEq, Repr

/-- What was received on a socket and not yet read. -/
structure Inbox where
  unread : Bytes := []
  /-- The peer will send no more. -/
  finished : Bool := false
  /-- The connection was broken off. -/
  failure : Option IoError := none
  deriving DecidableEq, Repr

namespace Inbox

/-- The peer sends bytes. -/
def receive (b : Inbox) (bytes : Bytes) : Inbox :=
  if b.finished then b else { b with unread := b.unread ++ bytes }

/-- The peer closes its side. -/
def finish (b : Inbox) : Inbox := { b with finished := true }

/-- The holder reads at most `n` bytes. -/
def read (b : Inbox) (n : Nat) : Bytes × Inbox :=
  (b.unread.take n, { b with unread := b.unread.drop n })

end Inbox

/-- What a look at the front of an inbox shows. -/
inductive Peek where
  | byte (b : UInt8)
  /-- The end of the stream. -/
  | ended
  | nothingYet
  | failed (cause : IoError)
  deriving DecidableEq, Repr

def Inbox.peek (b : Inbox) : Peek :=
  match b.failure, b.unread with
  | some e, _ => .failed e
  | none, x :: _ => .byte x
  | none, [] => if b.finished then .ended else .nothingYet

namespace TcpFactory

/-- The peer closed its side. -/
def closedByPeer : IoError := .raised .unexpectedEof "connection closed by peer"

/-- Whether a socket is still good, by a look at what it received. -/
def ping : Peek → Except IoError Unit
  | .ended => .error closedByPeer
  | .byte _ | .nothingYet => .ok ()
  | .failed e => if e.kind = .wouldBlock then .ok () else .error e

/-- Set the options of a connected socket. -/
def configure (f : TcpFactory) : Except IoError SocketOptions :=
  let o : SocketOptions := { noDelay := f.noDelay }
  match f.keepAlive with
  | none => .ok o
  | some idle =>
    match o.setKeepAlive idle with
    | (o, .ok ()) => .ok o
    | (_, .error e) => .error e

/-- A socket for `addr`, from the attempt to connect to it. -/
def newConnection (f : TcpFactory) (addr : String) (attempt : Attempt) :
    Except IoError SocketOptions :=
  if addr.isEmpty then .error (.raised .invalidInput "address is empty")
  else
    match attempt with
    | .connected => f.configure
    | .failed e => .error e
    | .tooLate =>
      .error (.raised .timedOut
        ("connect to " ++ addr ++ " timed out after " ++ f.connectTimeout.text))

/-- The result of a close: that the peer is gone already does not matter. -/
def closed : Option IoError → Except IoError Unit
  | none => .ok ()
  | some e => if e.kind = .notConnected then .ok () else .error e

/-- A socket for `addr` on a host without a network. -/
def dial (f : TcpFactory) (addr : String) : Except IoError SocketOptions :=
  f.newConnection addr (.failed (Host.refusal addr))

end TcpFactory
end PooledTcp
