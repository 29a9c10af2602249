import PooledTcp.IoError

/-!
# Why a server stops or does not start
-/

namespace PooledTcp

/-- How a server operation fails. -/
inductive ServerError where
  /-- The server was closed. -/
  | closed
  /-- The server cannot start like this. -/
  | config (reason : String)
  /-- The address cannot be listened on. -/
  | bind (addr : String) (cause : IoError)
  | io (cause : IoError)
  /-- Connections were still open when the time for them to finish was up. -/
  | drainTimeout (remaining : Nat)
  deriving DecidableEq, Repr

namespace ServerError

def message : ServerError → String
  | closed => "server closed"
  | config reason => "invalid server configuration: " ++ reason
  | bind addr cause => "failed to bind " ++ addr ++ ": " ++ cause.message
  | io cause => cause.message
  | drainTimeout n => s!"{n} connection(s) still active after the drain deadline"

/-- How a report shows it. -/
def debugText : ServerError → String
  | closed => "Closed"
  | config reason => Text.wrapped "Config" (Text.quoted reason)
  | bind addr cause =>
    Text.record "Bind" [("addr", Text.quoted addr), ("source", cause.debugText)]
  | io cause => Text.wrapped "Io" cause.debugText
  | drainTimeout n => Text.record "DrainTimeout" [("remaining", toString n)]

end ServerError
end PooledTcp
