import PooledTcp.Text.Quoted

/-!
# Log entries

An entry has a level, a fixed message and fields. A reader who asks for a level gets the entries of
that level and of the more severe ones, in the order in which they were written.
-/

namespace PooledTcp

/-- How severe an entry is. -/
inductive LogLevel where
  | error | warn | info | debug | trace
  deriving DecidableEq, Repr, Inhabited

namespace LogLevel

/-- Most severe first. -/
def rank : LogLevel → Nat
  | error => 1
  | warn => 2
  | info => 3
  | debug => 4
  | trace => 5

def name : LogLevel → String
  | error => "ERROR"
  | warn => "WARN"
  | info => "INFO"
  | debug => "DEBUG"
  | trace => "TRACE"

def all : List LogLevel := [error, warn, info, debug, trace]

/-- The level with that name in capitals. -/
def ofName? (s : String) : Option LogLevel := all.find? (·.name == s)

end LogLevel

/-- One line of the log. -/
structure LogEntry where
  level : LogLevel
  message : String
  fields : List (String × String) := []
  deriving DecidableEq, Repr

/-- The entries that a reader at `level` sees. -/
def LogEntry.visibleAt (level : LogLevel) (entries : List LogEntry) : List LogEntry :=
  entries.filter fun e => e.level.rank ≤ level.rank

end PooledTcp
