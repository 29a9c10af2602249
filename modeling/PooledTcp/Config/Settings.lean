import PooledTcp.Duration
import PooledTcp.Pool.Limits

/-!
# Settings of the server program

The settings come in four sections, and each field has a default, so that a section or a field may be
left out. Counts and times are 64-bit numbers, times in milliseconds.
-/

namespace PooledTcp

/-- What the server does with a connection. -/
inductive HandlerKind where
  /-- Send every byte back. -/
  | echo
  /-- Send a fixed greeting. -/
  | pong
  /-- Pass everything to another server. -/
  | proxy
  deriving DecidableEq, Repr, Inhabited

namespace HandlerKind

def name : HandlerKind → String
  | echo => "echo"
  | pong => "pong"
  | proxy => "proxy"

def all : List HandlerKind := [echo, pong, proxy]

/-- The handler with exactly that name. -/
def ofName? (s : String) : Option HandlerKind := all.find? (·.name == s)

/-- The handler that a command line names, perhaps in capitals. -/
def ofArgument (s : String) (ignoreCase : Bool) : Except String HandlerKind :=
  match ofName? (if ignoreCase then s.map Char.toLower else s) with
  | some h => .ok h
  | none => .error ("invalid variant: " ++ s)

end HandlerKind

/-- How the server listens and treats connections. Zero times switch their effect off. -/
structure ServerSettings where
  bindAddress : String := "127.0.0.1:8000"
  readTimeoutMs : UInt64 := 0
  writeTimeoutMs : UInt64 := 0
  keepAliveTimeoutMs : UInt64 := 0
  /-- How long open connections get to finish when the server stops. -/
  shutdownGraceMs : UInt64 := 5000
  handler : HandlerKind := .echo
  deriving DecidableEq, Repr

namespace ServerSettings

def readTimeout (s : ServerSettings) : Duration := .ofMillis s.readTimeoutMs
def writeTimeout (s : ServerSettings) : Duration := .ofMillis s.writeTimeoutMs
def keepAliveTimeout (s : ServerSettings) : Duration := .ofMillis s.keepAliveTimeoutMs
def shutdownGrace (s : ServerSettings) : Duration := .ofMillis s.shutdownGraceMs

end ServerSettings

/-- The pool of connections to the backend server. -/
structure PoolSettings where
  initConnNum : UInt64 := 10
  maxConnNum : UInt64 := 10
  maxIdleNum : UInt64 := 0
  idleTimeoutMs : UInt64 := 0
  connectTimeoutMs : UInt64 := 5000
  deriving DecidableEq, Repr

namespace PoolSettings

def idleTimeout (s : PoolSettings) : Duration := .ofMillis s.idleTimeoutMs
def connectTimeout (s : PoolSettings) : Duration := .ofMillis s.connectTimeoutMs

/-- The limits that the section asks for. -/
def toRequest (s : PoolSettings) : PoolRequest :=
  { initConns := s.initConnNum.toNat, maxConns := s.maxConnNum.toNat, maxIdle := s.maxIdleNum.toNat,
    idleTimeout := s.idleTimeout }

end PoolSettings

/-- Where the proxy handler connects to. -/
structure ProxySettings where
  backend : Option String := none
  deriving DecidableEq, Repr

/-- The log and the metrics. -/
structure ObservabilitySettings where
  logLevel : String := "info"
  metricsEnabled : Bool := false
  metricsAddress : String := "127.0.0.1:9090"
  deriving DecidableEq, Repr

/-- All settings. -/
structure Settings where
  server : ServerSettings := {}
  pool : PoolSettings := {}
  proxy : ProxySettings := {}
  observability : ObservabilitySettings := {}
  deriving DecidableEq, Repr

end PooledTcp
