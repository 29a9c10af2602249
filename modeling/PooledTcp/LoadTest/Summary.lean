import PooledTcp.LoadTest.Basic

/-!
# What a load test comes to

A summary holds the plan, the four counts, the times, and what is left in the pool. It is printed as lines for a
reader or as one JSON object for a program.
-/

namespace PooledTcp

/-- What a load test comes to. -/
structure LoadSummary where
  addr : String
  clients : Nat
  requests : Nat
  succeeded : Nat
  failed : Nat
  exhausted : Nat
  mismatched : Nat
  elapsedMs : Nat
  /-- The mean time of a request that succeeded. -/
  avgLatencyUs : Nat
  /-- Connections that are still checked out. -/
  poolOpen : Nat
  poolIdle : Nat
  deriving DecidableEq, Repr

/-- What the test has come to so far. -/
def LoadTest.summary (t : LoadTest) : LoadSummary :=
  { addr := t.plan.addr, clients := t.plan.clients, requests := t.plan.requests,
    succeeded := t.tally.succeeded, failed := t.tally.failed, exhausted := t.tally.exhausted,
    mismatched := t.tally.mismatched, elapsedMs := (t.pool.now - t.startedAt) / nanosPerMilli,
    avgLatencyUs := t.tally.latencyUs / t.tally.succeeded,
    poolOpen := t.pool.checkedOut, poolIdle := t.pool.idleCount }

namespace LoadSummary

/-- One character of a JSON string. -/
def jsonChar (c : Char) : List Char :=
  match c with
  | '"' => ['\\', '"']
  | '\\' => ['\\', '\\']
  | '\n' => ['\\', 'n']
  | '\r' => ['\\', 'r']
  | '\t' => ['\\', 't']
  | '\x08' => ['\\', 'b']
  | '\x0c' => ['\\', 'f']
  | c => if c.toNat < 32 then ['\\', 'u'] ++ (Bytes.hexNumber 4 c.toNat).toList else [c]

/-- A JSON string. -/
def jsonText (s : String) : String := String.ofList ('"' :: (s.toList.flatMap jsonChar ++ ['"']))

/-- The fields with their values in JSON, in order. -/
def jsonFields (s : LoadSummary) : List (String × String) :=
  [("addr", jsonText s.addr), ("clients", toString s.clients), ("requests", toString s.requests),
   ("succeeded", toString s.succeeded), ("failed", toString s.failed),
   ("exhausted", toString s.exhausted), ("mismatched", toString s.mismatched),
   ("elapsed_ms", toString s.elapsedMs), ("avg_latency_us", toString s.avgLatencyUs),
   ("pool_open", toString s.poolOpen), ("pool_idle", toString s.poolIdle)]

/-- The summary as a JSON object, a field a line. -/
def json (s : LoadSummary) : String :=
  let fields := s.jsonFields.map fun (k, v) => "  " ++ jsonText k ++ ": " ++ v
  "\x7b\n" ++ ",\n".intercalate fields ++ "\n\x7d\n"

/-- The summary as lines. -/
def text (s : LoadSummary) : String :=
  String.join
    [s!"Target:        {s.addr}\n", s!"Clients:       {s.clients} x {s.requests} requests\n",
     s!"Succeeded:     {s.succeeded}\n", s!"Failed:        {s.failed}\n",
     s!"Exhausted:     {s.exhausted}\n", s!"Mismatched:    {s.mismatched}\n",
     s!"Elapsed:       {s.elapsedMs} ms\n", s!"Avg latency:   {s.avgLatencyUs} us\n",
     s!"Pool:          {s.poolOpen} open, {s.poolIdle} idle\n"]

end LoadSummary
end PooledTcp
