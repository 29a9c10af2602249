import PooledTcp.Config.Settings
import PooledTcp.Toml.Text

/-!
# Settings written out

All settings as a document: the four sections with every field under its own name, texts between double
quotes. A backend that is not there is left out.
-/

namespace PooledTcp.Config

/-- One line of a section. -/
def line (key value : String) : String := key ++ " = " ++ value ++ "\n"

def textLine (key value : String) : String :=
  line key (String.ofList ('"' :: (Toml.escapedText value.toList ++ ['"'])))

def numberLine (key : String) (n : UInt64) : String := line key (toString n.toNat)

def header (name : String) : String := "[" ++ name ++ "]\n"

def writeServer (s : ServerSettings) : String :=
  String.join
    [header "server", textLine "bind_address" s.bindAddress,
     numberLine "read_timeout_ms" s.readTimeoutMs, numberLine "write_timeout_ms" s.writeTimeoutMs,
     numberLine "keep_alive_timeout_ms" s.keepAliveTimeoutMs,
     numberLine "shutdown_grace_ms" s.shutdownGraceMs, textLine "handler" s.handler.name]

def writePool (s : PoolSettings) : String :=
  String.join
    [header "pool", numberLine "init_conn_num" s.initConnNum,
     numberLine "max_conn_num" s.maxConnNum, numberLine "max_idle_num" s.maxIdleNum,
     numberLine "idle_timeout_ms" s.idleTimeoutMs,
     numberLine "connect_timeout_ms" s.connectTimeoutMs]

def writeProxy (s : ProxySettings) : String :=
  header "proxy" ++ (match s.backend with
    | some backend => textLine "upstream" backend
    | none => "")

def writeObservability (s : ObservabilitySettings) : String :=
  String.join
    [header "observability", textLine "log_level" s.logLevel,
     line "metrics_enabled" (if s.metricsEnabled then "true" else "false"),
     textLine "metrics_address" s.metricsAddress]

/-- The document that holds the settings. -/
def write (s : Settings) : String :=
  writeServer s.server ++ writePool s.pool ++ writeProxy s.proxy ++
    writeObservability s.observability

end PooledTcp.Config
