import PooledTcp.Config.Settings
import PooledTcp.Net.Address
import PooledTcp.Text.Blank

/-!
# Rules on settings

Five rules, each judged by itself: the bind address, the two limits of the pool against its capacity, the
backend address, and the address of the metrics. `Settings.violations` lists every rule that is broken,
in this order.
-/

namespace PooledTcp

/-- A broken rule. -/
inductive Violation where
  /-- A field that may not be blank. -/
  | empty (field : String)
  /-- A field whose text is no address. -/
  | invalidAddress (field value : String)
  | initExceedsMax (init max : Nat)
  | idleExceedsMax (idle max : Nat)
  | missingBackend
  deriving DecidableEq, Repr

namespace Violation

def message : Violation → String
  | empty field => field ++ " must not be empty"
  | invalidAddress field value => field ++ " is not a valid host:port address: " ++ value
  | initExceedsMax init max =>
    s!"pool.init_conn_num ({init}) exceeds pool.max_conn_num ({max})"
  | idleExceedsMax idle max =>
    s!"pool.max_idle_num ({idle}) exceeds pool.max_conn_num ({max})"
  | missingBackend => "proxy.upstream is required when server.handler is \"proxy\""

/-- How a report shows it. -/
def debugText : Violation → String
  | empty field => Text.record "Empty" [("field", Text.quoted field)]
  | invalidAddress field value =>
    Text.record "InvalidAddress" [("field", Text.quoted field), ("value", Text.quoted value)]
  | initExceedsMax init max =>
    Text.record "InitExceedsMax" [("init", toString init), ("max", toString max)]
  | idleExceedsMax idle max =>
    Text.record "IdleExceedsMax" [("idle", toString idle), ("max", toString max)]
  | missingBackend => "MissingUpstream"

end Violation

/-- An address between blanks, if it is one. -/
def addressViolation (field text : String) : List Violation :=
  if Address.isHostPort (Text.trim text).toList then []
  else [.invalidAddress field (Text.trim text)]

/-- The bind address must be there. -/
def ServerSettings.bindViolations (s : ServerSettings) : List Violation :=
  if Text.trim s.bindAddress = "" then [.empty "server.bind_address"]
  else addressViolation "server.bind_address" s.bindAddress

/-- No more connections at first than there may be. -/
def PoolSettings.initViolations (s : PoolSettings) : List Violation :=
  if 0 < s.maxConnNum ∧ s.maxConnNum < s.initConnNum then
    [.initExceedsMax s.initConnNum.toNat s.maxConnNum.toNat]
  else []

/-- No more idle connections than there may be. -/
def PoolSettings.idleViolations (s : PoolSettings) : List Violation :=
  if 0 < s.maxConnNum ∧ s.maxConnNum < s.maxIdleNum then
    [.idleExceedsMax s.maxIdleNum.toNat s.maxConnNum.toNat]
  else []

/-- A backend must be there for the proxy; if it is there it must be an address. -/
def Settings.backendViolations (s : Settings) : List Violation :=
  let backend := s.proxy.backend.getD ""
  if Text.trim backend = "" then
    if s.server.handler = .proxy then [.missingBackend] else []
  else addressViolation "proxy.upstream" backend

/-- Where metrics are served their address must be numeric. -/
def ObservabilitySettings.metricsViolations (s : ObservabilitySettings) : List Violation :=
  if s.metricsEnabled && !Address.isNumeric s.metricsAddress.toList then
    [.invalidAddress "observability.metrics_address" s.metricsAddress]
  else []

/-- Every broken rule, in order. -/
def Settings.violations (s : Settings) : List Violation :=
  s.server.bindViolations ++ s.pool.initViolations ++ s.pool.idleViolations ++
    s.backendViolations ++ s.observability.metricsViolations

/-- Settings that break no rule. -/
def Settings.validate (s : Settings) : Except (List Violation) Settings :=
  match s.violations with
  | [] => .ok s
  | vs => .error vs

/-- Checking changes nothing. -/
theorem Settings.validate_eq_ok_iff {s t : Settings} :
    s.validate = .ok t ↔ s = t ∧ s.violations = [] := by
  unfold validate
  split
  · rename_i hnone
    simp [hnone]
  · rename_i hne
    exact ⟨nofun, fun h => absurd h.2 hne⟩

/-- Whatever an error is turned into, the same settings are accepted. -/
theorem Settings.mapError_validate_eq_ok_iff {s t : Settings} {ε : Type}
    {f : List Violation → ε} : s.validate.mapError f = .ok t ↔ s.validate = .ok t := by
  cases s.validate with
  | error vs =>
    constructor <;> intro h <;> cases h
  | ok u =>
    constructor <;> intro h <;> cases h <;> rfl

end PooledTcp
