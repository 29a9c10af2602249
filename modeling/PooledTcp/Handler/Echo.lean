import PooledTcp.Handler.Proxy
import PooledTcp.Stream.Deadline

/-!
# Sending every byte back

The echo handler reads some bytes into its buffer, writes them all, and begins anew, until the peer ends its
stream or an operation fails. While it reads it also listens for the cancellation of its connection; while it
writes it does not. `EchoServer` is a server with such a handler together with the streams of its connections,
which are given the server's deadlines. When connections are forced a handler is dropped wherever it waits, also
before it began.
-/

namespace PooledTcp

namespace Echo

/-- How many bytes the buffer holds, the most bytes of one read. -/
def bufferSize : Nat := 8192

/-- Why an echo ends. -/
inductive End where
  | peerEnded
  | cancelled
  | readFailed (cause : IoError)
  | writeFailed (cause : IoError)
  /-- It is dropped where it waits. -/
  | dropped
  deriving DecidableEq, Repr

/-- What an echo does now. -/
inductive Stage where
  | reading
  /-- These bytes of the buffer are still to be written. -/
  | writing (rest : Bytes)
  | ended (why : End)
  deriving DecidableEq, Repr

end Echo

/-- An echo on its way. -/
structure Echo where
  stage : Echo.Stage := .reading
  /-- One for all reads: a read overwrites its beginning. -/
  buffer : Bytes := List.replicate Echo.bufferSize 0

namespace Echo

variable {σ : Type}

def isOver (e : Echo) : Bool :=
  match e.stage with
  | .ended _ => true
  | .reading | .writing _ => false

/-- The echo once it has ended. -/
def finish (e : Echo) (why : End) : Echo := { e with stage := .ended why }

/-- The echo after a read. -/
def afterRead (e : Echo) : Except IoError Bytes → Echo
  | .error cause => e.finish (.readFailed cause)
  | .ok [] => e.finish .peerEnded
  | .ok (b :: bs) =>
    let buffer := b :: bs ++ e.buffer.drop (bs.length + 1)
    { buffer, stage := .writing (buffer.take (bs.length + 1)) }

/-- The echo after a write out of `rest`. -/
def afterWrite (e : Echo) (rest : Bytes) : Except IoError Nat → Echo
  | .error cause => e.finish (.writeFailed cause)
  | .ok 0 => e.finish (.writeFailed Stream.nothingWritten)
  | .ok (n + 1) =>
    let left := rest.drop (n + 1)
    { e with stage := if left.isEmpty then .reading else .writing left }

/-- Poll an echo once, up to the end of a read or a write. Where it reads, `readFirst` says whether the stream is
looked at before the cancellation. -/
def poll (s : Stream σ) (cancelled readFirst : Bool) (e : Echo) (x : σ) : Poll Echo × σ :=
  match e.stage with
  | .ended _ => (.pending, x)
  | .writing rest =>
    match s.write rest x with
    | (.ready r, x) => (.ready (e.afterWrite rest r), x)
    | (.pending, x) => (.pending, x)
  | .reading =>
    if cancelled && !readFirst then (.ready (e.finish .cancelled), x)
    else
      match s.read bufferSize x with
      | (.ready r, x) => (.ready (e.afterRead r), x)
      | (.pending, x) => (if cancelled then .ready (e.finish .cancelled) else .pending, x)

end Echo

/-- The handler of a connection, and the stream that it serves. -/
structure EchoSession (σ : Type) where
  echo : Echo := {}
  stream : Deadlined σ

namespace EchoSession

variable {σ : Type}

/-- The handler begins to serve a connection that was accepted at `made`. -/
def start (timeouts : Timeouts) (made : Nat) (socket : σ) : EchoSession σ :=
  { stream := Deadlined.wrap socket made timeouts.read timeouts.write }

/-- The session with something else behind its stream. -/
def under (x : EchoSession σ) (inner : σ) : EchoSession σ := { x with stream := { x.stream with inner } }

/-- One poll at the moment `now`. -/
def poll (s : Stream σ) (now : Nat) (cancelled readFirst : Bool) (x : EchoSession σ) : EchoSession σ :=
  match x.echo.poll (Deadlined.stream s now) cancelled readFirst x.stream with
  | (.ready echo, stream) => { echo, stream }
  | (.pending, stream) => { x with stream }

end EchoSession

/-- A server that sends every byte back. -/
structure EchoServer (σ : Type) where
  server : Server
  /-- The handlers that have begun, also those that are over. -/
  sessions : List (GuardId × EchoSession σ) := []

namespace EchoServer

variable {σ : Type}

/-- One uninterrupted piece of work. -/
inductive Event (σ : Type) where
  /-- Something happens to the server, its handlers left out. -/
  | server (e : Server.Event)
  /-- The handler of a connection begins to serve its socket. -/
  | begin (conn : GuardId) (socket : σ)
  | poll (conn : GuardId) (readFirst : Bool)
  /-- The handler has ended, and its socket is shut down, well or with a failure. -/
  | finish (conn : GuardId) (failure : Option IoError)
  /-- The handler is dropped. -/
  | forced (conn : GuardId) (failure : Option IoError)
  /-- The peer, or the world, does something to the socket. -/
  | outside (conn : GuardId) (change : σ → σ)

/-- The handler of a connection and its stream from now on. -/
def hold (u : EchoServer σ) (conn : GuardId) (x : EchoSession σ) : EchoServer σ :=
  { u with sessions := put conn x u.sessions }

/-- Perform an event, if it can happen. -/
def step (s : Nat → Stream σ) (u : EchoServer σ) : Event σ → Option (EchoServer σ)
  | .server e =>
    if ProxyServer.isHandlers e then none else (u.server.step e).map fun server => { u with server }
  | .begin conn socket =>
    match u.server.conns.lookup conn, u.server.step (.begin conn) with
    | some c, some server =>
      some ({ u with server }.hold conn (.start server.timeouts c.acceptedAt socket))
    | _, _ => none
  | .poll conn readFirst =>
    match u.sessions.lookup conn with
    | some x =>
      if x.echo.isOver then none
      else
        let now := u.server.now
        some (u.hold conn (x.poll (s now) now u.server.cancelledResolves readFirst))
    | none => none
  | .finish conn failure =>
    match u.sessions.lookup conn with
    | some x =>
      if x.echo.isOver then
        (u.server.step (.finish conn .returned failure)).map fun server => { u with server }
      else none
    | none => none
  | .forced conn failure =>
    match u.sessions.lookup conn with
    | some x =>
      if x.echo.isOver then none
      else (u.server.step (.finish conn .forced failure)).map fun server =>
        { u with server }.hold conn { x with echo := x.echo.finish .dropped }
    | none => (u.server.step (.begin conn)).bind fun server =>
      (server.step (.finish conn .forced failure)).map fun server => { u with server }
  | .outside conn change => (u.sessions.lookup conn).map fun x =>
    u.hold conn (x.under (change x.stream.inner))

end EchoServer

end PooledTcp
