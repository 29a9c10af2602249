import PooledTcp.Cli.Course
import PooledTcp.Config.Load
import PooledTcp.Server.Builder

/-!
# The server program

The program reads its settings from a file if it is given one, lets two options override them, and checks them
once more. Then it opens the metrics listener, if there is to be one, the pool of the proxy, and its own listener.
-/

namespace PooledTcp.Cli.ServerProgram

def name : String := "netpool"

def options : List OptionSpec :=
  [{ long := "config", short := some 'c', kind := .value fun path => !path.isEmpty },
   { long := "bind", short := some 'b', kind := .value fun _ => true },
   { long := "handler", kind := .value fun s => (HandlerKind.ofName? s).isSome }]

/-- What the command line says in place of the settings. -/
def override (given : Given) (s : Settings) : Settings :=
  { s with server :=
    { s.server with
      bindAddress := valueOr given "bind" s.server.bindAddress
      handler := ((given.lookup "handler").bind HandlerKind.ofName?).getD s.server.handler } }

/-- The settings of a run; `files` holds the bytes of the files that are there. -/
def settings (files : String → Option Bytes) (given : Given) : Except ConfigError Settings := do
  let s ← match given.lookup "config" with
    | some path => Config.load (files path)
    | none => .ok {}
  (override given s).validate.mapError .invalid

/-- Open the metrics listener, if there is to be one. -/
def listenForMetrics (host : Host) (s : ObservabilitySettings) : Except String Host :=
  if s.metricsEnabled then
    match host.listen s.metricsAddress s.metricsAddress with
    | .ok (host, _) => .ok host
    | .error e => .error (Text.wrapped "FailedToCreateHTTPListener" (Text.quoted e.message))
  else .ok host

/-- The factory of the proxy's pool. -/
def factory (s : PoolSettings) : TcpFactory := { connectTimeout := s.connectTimeout }

/-- Open what has to be open before the server listens. -/
def prepare (host : Host) (s : Settings) : Except Outcome Host := do
  let host ← (listenForMetrics host s.observability).mapError fun report => .failed (some report)
  match s.server.handler with
  | .echo | .pong => .ok host
  | .proxy =>
    match Pool.openOnHost (factory s.pool) (s.proxy.backend.getD "") s.pool.toRequest with
    | .ok _ => .ok host
    | .error u => .error (.ofUnopened u)

/-- Run with those settings. -/
def serve (host : Host) (s : Settings) : Course :=
  match prepare host s with
  | .error o => .ended o
  | .ok host =>
    match ((ServerBuilder.ofSettings s.server).withHandler s.server.handler).build with
    | .error _ => .ended { status := Outcome.panicStatus }
    | .ok (server, _) =>
      match server.startOnHost host with
      | .error e => .ended (.failed (some e.debugText))
      | .ok server => .serving server

/-- Run the program on a host. -/
def run (host : Host) (files : String → Option Bytes) (args : List String) : Course :=
  match readArguments options args with
  | .error h => .ended (.ofHalt name version h)
  | .ok given =>
    match settings files given with
    | .error e => .ended (.failed e.debugText?)
    | .ok s => serve host s

end PooledTcp.Cli.ServerProgram
