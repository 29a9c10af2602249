import PooledTcp.IoError

/-!
# What a pool answers when it has no connection to give

`PoolError.isTransient` says whether a later try may succeed: only when the pool was full or a dial
failed.
-/

namespace PooledTcp

/-- Why a pool refuses. -/
inductive PoolError where
  /-- No idle connection is usable and the limit is reached. -/
  | exhausted
  /-- The pool was shut down. -/
  | closed
  /-- The connection given back was not checked out. -/
  | invalidConnection
  /-- The pool cannot be built like this. -/
  | config (reason : String)
  /-- The connection could not be opened. -/
  | factory (cause : IoError)
  deriving DecidableEq, Repr

namespace PoolError

def message : PoolError → String
  | exhausted => "connection pool exhausted"
  | closed => "connection pool closed"
  | invalidConnection => "connection does not belong to this pool"
  | config reason => "invalid pool configuration: " ++ reason
  | factory cause => "failed to create connection: " ++ cause.message

/-- Whether trying again later could succeed. -/
def isTransient : PoolError → Bool
  | exhausted => true
  | factory _ => true
  | _ => false

/-- How a report shows it. -/
def debugText : PoolError → String
  | exhausted => "Exhausted"
  | closed => "Closed"
  | invalidConnection => "InvalidConnection"
  | config reason => Text.wrapped "Config" (Text.quoted reason)
  | factory cause => Text.wrapped "Factory" cause.debugText

end PoolError
end PooledTcp
