import PooledTcp.Duration
import PooledTcp.Server.Error
import PooledTcp.Tracker.Basic

/-!
# What a server lets others see

A server's history is a list of notes: what happens to its listeners and connections, what it measures, what
it logs, and what its operations answer. The log and the metrics of a server are read off its history.
-/

namespace PooledTcp

/-- Where a server is in its life. -/
inductive ServerState where
  | notStarted | listening | closed
  deriving DecidableEq, Repr, Inhabited

def ServerState.name : ServerState → String
  | notStarted => "NotStarted"
  | listening => "Listening"
  | closed => "Closed"

namespace Server

/-- One thing that a server lets others see. -/
inductive Note where
  /-- Operation `id` has opened a listener on the configured address. -/
  | opened (id : CallId)
  /-- The address of a listener that was opened. -/
  | bound (address : String)
  /-- Operation `id` is handed an open listener. -/
  | given (id : CallId)
  /-- The listener of operation `id` is closed. -/
  | released (id : CallId)
  /-- How many listeners are counted. -/
  | listeners (n : Nat)
  | listening (address : String)
  | accepted
  /-- A connection is counted; how many there are. -/
  | tracked (conn : GuardId) (active : Nat)
  | keepAliveFailed (peer : String) (cause : IoError)
  | dispatched (conn : GuardId) (peer : String)
  | acceptFailed (cause : IoError) (attempt delayMs : Nat)
  | stopped (address : String)
  | closing (addr : String) (previous : ServerState)
  | serving (conn : GuardId) (peer : String)
  /-- A handler ended in a panic that is reported. -/
  | panicked (conn : GuardId) (peer text : String)
  | forced (conn : GuardId) (peer : String)
  /-- The socket of a connection is shut down, well or with a failure. -/
  | shutSocket (conn : GuardId) (failure : Option IoError)
  | droppedSocket (conn : GuardId)
  /-- A connection is no longer counted; how many there are. -/
  | untracked (conn : GuardId) (active : Nat)
  /-- Operation `id` finds no listener counted: its close is over. -/
  | closed (id : CallId)
  | drained
  | graceOver (remaining : Nat) (grace : Duration)
  | stillOpen (remaining : Nat)
  /-- Operation `id` ends. -/
  | answered (id : CallId) (answer : Except ServerError Unit)

namespace Note

def measurement? : Note → Option Measurement
  | accepted => some (.raise ⟨"netpool_server_accepted_total", []⟩)
  | acceptFailed _ _ _ => some (.raise ⟨"netpool_server_accept_errors_total", []⟩)
  | tracked _ n | untracked _ n => some (.set ⟨"netpool_server_active_connections", []⟩ n)
  | panicked _ _ _ => some (.raise ⟨"netpool_server_handler_panics_total", []⟩)
  | _ => none

/-- The fields that tell a connection. -/
def told (conn : GuardId) (peer : String) : List (String × String) :=
  [("connection_id", TrackNote.connectionName conn), ("peer_addr", peer)]

def line? : Note → Option LogEntry
  | bound a => some ⟨.info, "Listener bound", [("address", a)]⟩
  | listening a => some ⟨.info, "Server listening", [("address", a)]⟩
  | keepAliveFailed peer e =>
    some ⟨.warn, "Failed to enable keep-alive", [("peer_addr", peer), ("error", e.message)]⟩
  | dispatched conn peer => some ⟨.debug, "Accepted connection", told conn peer⟩
  | acceptFailed e attempt delayMs =>
    some ⟨.warn, "Accept failed", [("error", e.message), ("attempt", toString attempt),
      ("retry_in_ms", toString delayMs)]⟩
  | stopped a => some ⟨.info, "Server stopped accepting", [("address", a)]⟩
  | closing addr previous =>
    some ⟨.info, "Closing server", [("addr", addr), ("previous", previous.name)]⟩
  | serving conn peer => some ⟨.debug, "Serving connection", told conn peer⟩
  | panicked conn peer text =>
    some ⟨.error, "Handler panicked while serving connection", told conn peer ++ [("panic", text)]⟩
  | forced conn peer => some ⟨.warn, "Connection force-closed", told conn peer⟩
  | shutSocket conn (some e) =>
    some ⟨.trace, "Error shutting down connection",
      [("connection_id", TrackNote.connectionName conn), ("error", e.message)]⟩
  | untracked conn _ =>
    some ⟨.trace, "Connection closed", [("connection_id", TrackNote.connectionName conn)]⟩
  | drained => some ⟨.info, "All connections drained", []⟩
  | graceOver remaining grace =>
    some ⟨.warn, "Drain deadline passed, force-closing connections",
      [("remaining", toString remaining), ("grace_ms", toString (grace.millis % UInt64.size))]⟩
  | stillOpen remaining =>
    some ⟨.error, "Connections still open after force close", [("remaining", toString remaining)]⟩
  | _ => none

/-- The answer that the note gives to operation `id`. -/
def answerTo? (id : CallId) : Note → Option (Except ServerError Unit)
  | answered i a => if i = id then some a else none
  | _ => none

end Note
end Server
end PooledTcp
