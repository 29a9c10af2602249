import PooledTcp.Cli.Arguments
import PooledTcp.LoadTest.Summary
import PooledTcp.Pool.OnHost
import PooledTcp.Server.OnHost

/-!
# How a program goes

A program ends by itself, or it serves until it is told to stop, or it runs a load test and then prints what
the test came to. When it ends it leaves a status, perhaps a line that says what went wrong, and what it printed.
-/

namespace PooledTcp.Cli

/-- What a program leaves behind. -/
structure Outcome where
  status : Nat := 0
  /-- What went wrong. -/
  failure : Option String := none
  printed : String := ""
  deriving DecidableEq, Repr

/-- How a program goes on once it has begun. -/
inductive Course where
  | ended (outcome : Outcome)
  /-- It listens until it is told to stop. -/
  | serving (server : Server)
  /-- It prints the summary when the test is over. -/
  | testing (test : LoadTest) (json : Bool)

namespace Outcome

/-- A failure, shown in the last line. -/
def failed (report : Option String) : Outcome :=
  { status := 1, failure := report.map ("Error: " ++ ·) }

/-- The status of a program whose command line cannot be understood. -/
def misusedStatus : Nat := 2

/-- The status of a program that ends in a panic. -/
def panicStatus : Nat := 101

/-- A command line without a run. The texts for help and misuse are not part of the outcome. -/
def ofHalt (program version : String) : Halt → Outcome
  | .misused => { status := misusedStatus }
  | .help => {}
  | .version => { printed := program ++ " " ++ version ++ "\n" }

/-- A pool that cannot be opened. -/
def ofUnopened (u : Pool.Unopened) : Outcome :=
  match u.error with
  | .refused e => failed (some e.debugText)
  | .capacityOverflow => { status := panicStatus }

end Outcome

/-- What the program leaves behind if nothing more happens but the request to stop. -/
def Course.outcome : Course → Outcome
  | .ended o => o
  | .serving _ => {}
  | .testing test json => { printed := if json then test.summary.json else test.summary.text }

/-- The version of the programs. -/
def version : String := "0.1.0"

end PooledTcp.Cli
