/-!
# Tasks and operations

A task runs by itself; an operation is something that somebody began on a pool or a server. Both are told
from others by their numbers.
-/

namespace PooledTcp

/-- The number of a task. -/
abbrev TaskId := Nat

/-- The number of an operation. -/
abbrev CallId := Nat

end PooledTcp
