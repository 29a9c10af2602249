import PooledTcp.Cli.Course

/-!
# The load test program

The program opens a pool for the server's address, runs a load test over it, and prints the summary.
-/

namespace PooledTcp.Cli.LoadProgram

def name : String := "pool-client"

/-- Whether a value is a number. -/
def isNumber (s : String) : Bool := (number? s).isSome

def options : List OptionSpec :=
  [{ long := "addr", short := some 'a', kind := .value fun _ => true },
   { long := "clients", short := some 'c', kind := .value isNumber },
   { long := "requests", short := some 'r', kind := .value isNumber },
   { long := "message", short := some 'm', kind := .value fun _ => true },
   { long := "init-conns", kind := .value isNumber },
   { long := "max-conns", kind := .value isNumber },
   { long := "acquire-timeout-ms", kind := .value isNumber },
   { long := "json", kind := .flag },
   { long := "log-level", kind := .value fun _ => true }]

/-- The load test that a command line asks for. -/
def plan (given : Given) : LoadPlan :=
  let wait := numberOr given "acquire-timeout-ms" 0
  { addr := valueOr given "addr" "127.0.0.1:8000",
    clients := (numberOr given "clients" 8).toNat,
    requests := (numberOr given "requests" 10).toNat,
    payload := Bytes.ofText (valueOr given "message" "ping"),
    patience := if wait = 0 then none else some (.ofMillis wait) }

/-- The limits of the pool. -/
def request (given : Given) : PoolRequest :=
  { initConns := (numberOr given "init-conns" 0).toNat,
    maxConns := (numberOr given "max-conns" 0).toNat }

/-- Run the program. -/
def run (args : List String) : Course :=
  match readArguments options args with
  | .error h => .ended (.ofHalt name version h)
  | .ok given =>
    match Pool.openOnHost {} (plan given).addr (request given) with
    | .error u => .ended (.ofUnopened u)
    | .ok pool => .testing (.start (plan given) pool) (given.lookup "json").isSome

end PooledTcp.Cli.LoadProgram
