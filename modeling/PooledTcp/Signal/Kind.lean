/-!
# Signals of the operating system that stop the server
-/

namespace PooledTcp

/-- A signal that asks the server to stop. -/
inductive StopSignal where
  | interrupt | terminate
  deriving DecidableEq, Repr

def StopSignal.name : StopSignal → String
  | interrupt => "SIGINT"
  | terminate => "SIGTERM"

end PooledTcp
