import PooledTcp.Pool.Basic

/-!
# Opening a pool

A new pool dials its first connections one after the other. When a dial fails, the connections
opened so far are closed in the order in which they were opened, whatever comes of it, and the pool
is not built. Nothing is dialled for an empty address or without a factory, nor when the idle queue
would need more memory than can be asked for.
-/

namespace PooledTcp.Pool

/-- The most bytes that one allocation can ask for. -/
def maxAllocation : Nat := UInt64.size / 2 - 1

/-- Why a pool is not even begun. -/
inductive OpenError where
  | refused (error : PoolError)
  /-- The idle queue cannot be allocated. -/
  | capacityOverflow
  deriving DecidableEq, Repr

/-- How far the opening of a pool has come. -/
inductive OpeningStage where
  /-- A dial is running and `left` more are to follow. -/
  | dialing (left : Nat)
  /-- A dial failed; the first entry of `rest` is being closed. -/
  | closing (rest : List IdleEntry) (cause : IoError)
  | ready
  | failed (cause : IoError)
  deriving DecidableEq, Repr

/-- A pool that is being opened. -/
structure Opening where
  addr : String
  limits : PoolLimits
  now : Nat
  /-- The connections opened so far, in order. -/
  opened : List IdleEntry
  stage : OpeningStage
  /-- What others saw, latest first. -/
  history : List Note

namespace Opening

/-- The operation number under which a pool is opened. -/
def callId : CallId := 0

def note (o : Opening) (n : Note) : Opening := { o with history := n :: o.history }

/-- Begin the next dial. -/
def dial (o : Opening) (left : Nat) : Opening :=
  { o with stage := .dialing left }.note (.called callId .dial)

/-- All first connections are open. -/
def complete (o : Opening) : Opening :=
  ({ o with stage := .ready }.note (.logged (.ready o.limits))).note (.idleLength o.opened.length)

/-- Go on with `left` dials to make. -/
def goOn (o : Opening) : Nat → Opening
  | 0 => o.complete
  | left + 1 => o.dial left

/-- Close what is left of the opened connections. -/
def closeNext (o : Opening) (cause : IoError) : List IdleEntry → Opening
  | [] => { o with stage := .failed cause }
  | e :: rest =>
    { o with stage := .closing (e :: rest) cause }.note (.called callId (.close e.conn))

/-- Begin to open a pool for `addr` at `now`; an idle entry takes `entryBytes` bytes. -/
def start (addr : String) (request : PoolRequest) (hasFactory : Bool) (entryBytes now : Nat) :
    Except OpenError Opening :=
  if addr.isEmpty then .error (.refused (.config "address is empty"))
  else match request.normalize hasFactory with
    | .error e => .error (.refused e)
    | .ok limits =>
      if maxAllocation < limits.maxIdle * entryBytes then .error .capacityOverflow
      else .ok (goOn { addr, limits, now, opened := [], stage := .ready, history := [] } limits.warm)

/-- The running dial ended. -/
def dialed (o : Opening) (result : Except IoError ConnId) : Option Opening :=
  match o.stage with
  | .dialing left =>
    match result with
    | .ok conn => some ({ o with opened := o.opened ++ [IdleEntry.mk conn o.now] }.goOn left)
    | .error cause =>
      some ((o.note (.logged (.warmUpFailed cause o.opened.length))).closeNext cause o.opened)
  | _ => none

/-- The running close ended; whether it succeeded does not matter. -/
def closed (o : Opening) : Option Opening :=
  match o.stage with
  | .closing (_ :: rest) cause => some (o.closeNext cause rest)
  | _ => none

/-- Time passes. -/
def pass (o : Opening) (nanos : Nat) : Opening := { o with now := o.now + nanos }

/-- What can happen while a pool is opened. -/
inductive Event where
  | dialed (result : Except IoError ConnId)
  /-- A close ended, well or not. -/
  | closed
  /-- Time passes. -/
  | pass (nanos : Nat)

/-- Perform an event, if it can happen. -/
def step (o : Opening) : Event → Option Opening
  | .dialed result => o.dialed result
  | .closed => o.closed
  | .pass nanos => some (o.pass nanos)

/-- The finished pool. -/
def pool? (o : Opening) : Option Pool :=
  match o.stage with
  | .ready =>
    some { addr := o.addr, limits := o.limits, now := o.now, checkedOut := 0, idle := some o.opened,
           calls := [], nextTicket := 0, history := o.history }
  | _ => none

/-- The log, first entry first. -/
def log (o : Opening) : List LogEntry := o.history.reverse.filterMap (·.line? o.addr)

/-- What was measured, first measurement first. -/
def measurements (o : Opening) : List Measurement :=
  o.history.reverse.filterMap (·.measurement? o.addr)

end Opening
end PooledTcp.Pool
