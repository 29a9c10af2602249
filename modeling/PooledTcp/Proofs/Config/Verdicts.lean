import PooledTcp.Config.Validation
import PooledTcp.Proofs.Net.SocketAddress

/-!
# What is wrong with settings

`Settings.Breaks` says which rules settings break and how, address by address and count by count. Checking reports all
of it and nothing else, each rule at most once and in the order of the rules, so the report of any settings can be told
from the rules alone (`validate_exact`). A rule looks at its own fields only: whatever the other ones hold, its
verdict is the same.
-/

namespace PooledTcp

/-- The rules on settings, in their order. -/
inductive Rule where
  | bind | init | idle | backend | metrics
  deriving DecidableEq, Repr

namespace Rule

/-- The place of a rule among the others. -/
def place : Rule → Nat
  | bind => 0
  | init => 1
  | idle => 2
  | backend => 3
  | metrics => 4

def all : List Rule := [bind, init, idle, backend, metrics]

/-- Two settings agree on what the rule looks at. -/
def SameFields (s t : Settings) : Rule → Prop
  | bind => s.server.bindAddress = t.server.bindAddress
  | init => s.pool.initConnNum = t.pool.initConnNum ∧ s.pool.maxConnNum = t.pool.maxConnNum
  | idle => s.pool.maxIdleNum = t.pool.maxIdleNum ∧ s.pool.maxConnNum = t.pool.maxConnNum
  | backend => s.proxy.backend = t.proxy.backend ∧ s.server.handler = t.server.handler
  | metrics => s.observability.metricsEnabled = t.observability.metricsEnabled ∧
      s.observability.metricsAddress = t.observability.metricsAddress

theorem SameFields.symm {s t : Settings} {r : Rule} (h : r.SameFields s t) : r.SameFields t s := by
  cases r with
  | bind => exact Eq.symm h
  | _ => exact ⟨h.1.symm, h.2.symm⟩

end Rule

/-- The rule that is broken. -/
def Violation.rule : Violation → Rule
  | .empty _ => .bind
  | .initExceedsMax _ _ => .init
  | .idleExceedsMax _ _ => .idle
  | .missingBackend => .backend
  | .invalidAddress field _ =>
    if field = "server.bind_address" then .bind
    else if field = "proxy.upstream" then .backend
    else .metrics

namespace Violation

variable (field value : String) (n max : Nat)

@[simp] theorem rule_empty : (empty field).rule = .bind := rfl

@[simp] theorem rule_initExceedsMax : (initExceedsMax n max).rule = .init := rfl

@[simp] theorem rule_idleExceedsMax : (idleExceedsMax n max).rule = .idle := rfl

@[simp] theorem rule_missingBackend : missingBackend.rule = .backend := rfl

@[simp] theorem rule_bindAddress : (invalidAddress "server.bind_address" value).rule = .bind := by
  simp [rule]

@[simp] theorem rule_backendAddress : (invalidAddress "proxy.upstream" value).rule = .backend := by
  simp [rule]

@[simp] theorem rule_metricsAddress :
    (invalidAddress "observability.metrics_address" value).rule = .metrics := by
  simp [rule]

end Violation

/-- Each rule is broken at most once, and the rules come in their order. -/
def InOrder (vs : List Violation) : Prop := vs.Pairwise fun v w => v.rule.place < w.rule.place

/-- There is one list of given violations in the order of the rules. -/
theorem InOrder.eq_of_mem {vs ws : List Violation} (hvs : InOrder vs) (hws : InOrder ws)
    (h : ∀ v, v ∈ vs ↔ v ∈ ws) : vs = ws := by
  have hnodup {us : List Violation} (hus : InOrder us) : us.Nodup :=
    hus.imp fun hlt heq => absurd (heq ▸ hlt) (Nat.lt_irrefl _)
  have hperm := (List.perm_ext_iff_of_nodup (hnodup hvs) (hnodup hws)).2 h
  exact hperm.eq_of_pairwise (fun v w _ _ hvw hwv => absurd hvw (Nat.lt_asymm hwv)) hvs hws

namespace Settings

/-- The settings break a rule. Addresses to bind and to connect to are judged without the blanks around them, that of
the metrics as it stands; the counts only where there is a capacity. -/
inductive Breaks (s : Settings) : Violation → Prop where
  | bindBlank : Text.trim s.server.bindAddress = "" → Breaks s (.empty "server.bind_address")
  | bindMalformed : Text.trim s.server.bindAddress ≠ "" →
    ¬ Address.HostPort (Text.trim s.server.bindAddress).toList →
    Breaks s (.invalidAddress "server.bind_address" (Text.trim s.server.bindAddress))
  | init : 0 < s.pool.maxConnNum → s.pool.maxConnNum < s.pool.initConnNum →
    Breaks s (.initExceedsMax s.pool.initConnNum.toNat s.pool.maxConnNum.toNat)
  | idle : 0 < s.pool.maxConnNum → s.pool.maxConnNum < s.pool.maxIdleNum →
    Breaks s (.idleExceedsMax s.pool.maxIdleNum.toNat s.pool.maxConnNum.toNat)
  | backendMissing : s.server.handler = .proxy →
    (∀ backend, s.proxy.backend = some backend → Text.trim backend = "") → Breaks s .missingBackend
  | backendMalformed {backend : String} : s.proxy.backend = some backend → Text.trim backend ≠ "" →
    ¬ Address.HostPort (Text.trim backend).toList →
    Breaks s (.invalidAddress "proxy.upstream" (Text.trim backend))
  | metrics : s.observability.metricsEnabled = true →
    ¬ Address.IsSocketAddress s.observability.metricsAddress.toList →
    Breaks s (.invalidAddress "observability.metrics_address" s.observability.metricsAddress)

/-- What checking finds by one of the rules. -/
def judged (s : Settings) : Rule → List Violation
  | .bind => s.server.bindViolations
  | .init => s.pool.initViolations
  | .idle => s.pool.idleViolations
  | .backend => s.backendViolations
  | .metrics => s.observability.metricsViolations

variable {s t : Settings} {v : Violation} {vs : List Violation} {r : Rule}

theorem violations_eq (s : Settings) : s.violations = Rule.all.flatMap s.judged := by
  simp [violations, Rule.all, judged]

theorem mem_addressViolation {field text : String} : v ∈ addressViolation field text ↔
    ¬ Address.HostPort (Text.trim text).toList ∧ v = .invalidAddress field (Text.trim text) := by
  rw [addressViolation, List.mem_ite_nil_left, List.mem_singleton, Address.isHostPort_iff]

theorem mem_bindViolations : v ∈ s.server.bindViolations ↔ s.Breaks v ∧ v.rule = .bind := by
  unfold ServerSettings.bindViolations
  constructor
  · intro h
    split at h
    · rename_i hblank
      obtain rfl := List.mem_singleton.1 h
      exact ⟨.bindBlank hblank, rfl⟩
    · rename_i hthere
      obtain ⟨hbad, rfl⟩ := mem_addressViolation.1 h
      exact ⟨.bindMalformed hthere hbad, Violation.rule_bindAddress _⟩
  · rintro ⟨hbreaks, hrule⟩
    cases hbreaks with
    | bindBlank hblank =>
      rw [if_pos hblank]
      exact List.mem_singleton_self _
    | bindMalformed hthere hbad =>
      rw [if_neg hthere]
      exact mem_addressViolation.2 ⟨hbad, rfl⟩
    | _ => simp at hrule

theorem mem_initViolations : v ∈ s.pool.initViolations ↔ s.Breaks v ∧ v.rule = .init := by
  rw [PoolSettings.initViolations, List.mem_ite_nil_right, List.mem_singleton]
  constructor
  · rintro ⟨⟨hpos, hlt⟩, rfl⟩
    exact ⟨.init hpos hlt, rfl⟩
  · rintro ⟨hbreaks, hrule⟩
    cases hbreaks with
    | init hpos hlt => exact ⟨⟨hpos, hlt⟩, rfl⟩
    | _ => simp at hrule

theorem mem_idleViolations : v ∈ s.pool.idleViolations ↔ s.Breaks v ∧ v.rule = .idle := by
  rw [PoolSettings.idleViolations, List.mem_ite_nil_right, List.mem_singleton]
  constructor
  · rintro ⟨⟨hpos, hlt⟩, rfl⟩
    exact ⟨.idle hpos hlt, rfl⟩
  · rintro ⟨hbreaks, hrule⟩
    cases hbreaks with
    | idle hpos hlt => exact ⟨⟨hpos, hlt⟩, rfl⟩
    | _ => simp at hrule

theorem trim_empty : Text.trim "" = "" := by decide +kernel

/-- A backend that is not there is as good as a blank one. -/
theorem trim_backend_iff : Text.trim (s.proxy.backend.getD "") = "" ↔
    ∀ backend, s.proxy.backend = some backend → Text.trim backend = "" := by
  cases s.proxy.backend with
  | none => simp [trim_empty]
  | some backend => simp

theorem mem_backendViolations : v ∈ s.backendViolations ↔ s.Breaks v ∧ v.rule = .backend := by
  unfold backendViolations
  dsimp only
  constructor
  · intro h
    split at h
    · rename_i hblank
      split at h
      · rename_i hproxy
        obtain rfl := List.mem_singleton.1 h
        exact ⟨.backendMissing hproxy (trim_backend_iff.1 hblank), rfl⟩
      · cases h
    · rename_i hthere
      obtain ⟨hbad, rfl⟩ := mem_addressViolation.1 h
      cases hbackend : s.proxy.backend with
      | none =>
        rw [hbackend, Option.getD_none] at hthere
        exact absurd trim_empty hthere
      | some backend =>
        rw [hbackend] at hthere hbad
        exact ⟨.backendMalformed hbackend hthere hbad, Violation.rule_backendAddress _⟩
  · rintro ⟨hbreaks, hrule⟩
    cases hbreaks with
    | backendMissing hproxy hblank =>
      rw [if_pos (trim_backend_iff.2 hblank), if_pos hproxy]
      exact List.mem_singleton_self _
    | backendMalformed hbackend hthere hbad =>
      rw [hbackend, Option.getD_some, if_neg hthere]
      exact mem_addressViolation.2 ⟨hbad, rfl⟩
    | _ => simp at hrule

theorem mem_metricsViolations : v ∈ s.observability.metricsViolations ↔ s.Breaks v ∧ v.rule = .metrics := by
  rw [ObservabilitySettings.metricsViolations, List.mem_ite_nil_right, List.mem_singleton, Bool.and_eq_true,
    Bool.not_eq_true', ← Bool.not_eq_true, Address.isNumeric_iff]
  constructor
  · rintro ⟨⟨hon, hbad⟩, rfl⟩
    exact ⟨.metrics hon hbad, Violation.rule_metricsAddress _⟩
  · rintro ⟨hbreaks, hrule⟩
    cases hbreaks with
    | metrics hon hbad => exact ⟨⟨hon, hbad⟩, rfl⟩
    | _ => simp at hrule

/-- By a rule checking finds what breaks this rule. -/
theorem mem_judged : v ∈ s.judged r ↔ s.Breaks v ∧ v.rule = r := by
  cases r with
  | bind => exact mem_bindViolations
  | init => exact mem_initViolations
  | idle => exact mem_idleViolations
  | backend => exact mem_backendViolations (s := s)
  | metrics => exact mem_metricsViolations

/-- One rule is broken at most once. -/
theorem length_judged (s : Settings) (r : Rule) : (s.judged r).length ≤ 1 := by
  have haddress (field text : String) : (addressViolation field text).length ≤ 1 := by
    unfold addressViolation
    split <;> simp
  cases r with
  | bind =>
    simp only [judged, ServerSettings.bindViolations]
    split
    · exact Nat.le_refl 1
    · exact haddress _ _
  | init =>
    simp only [judged, PoolSettings.initViolations]
    split <;> simp
  | idle =>
    simp only [judged, PoolSettings.idleViolations]
    split <;> simp
  | backend =>
    simp only [judged, backendViolations]
    split
    · split <;> simp
    · exact haddress _ _
  | metrics =>
    simp only [judged, ObservabilitySettings.metricsViolations]
    split <;> simp

/-- What checking finds are the broken rules. -/
theorem mem_violations : v ∈ s.violations ↔ s.Breaks v := by
  rw [violations_eq, List.mem_flatMap]
  constructor
  · rintro ⟨r, -, hv⟩
    exact (mem_judged.1 hv).1
  · intro hbreaks
    have hall : v.rule ∈ Rule.all := by
      cases v.rule <;> decide
    exact ⟨v.rule, hall, mem_judged.2 ⟨hbreaks, rfl⟩⟩

/-- It finds them in the order of the rules. -/
theorem inOrder_violations (s : Settings) : InOrder s.violations := by
  have hplaces : Rule.all.Pairwise fun q r => q.place < r.place := by decide
  rw [violations_eq, InOrder, List.pairwise_flatMap]
  constructor
  · intro r _
    have hone := s.length_judged r
    cases hfound : s.judged r with
    | nil => exact .nil
    | cons v vs =>
      rw [hfound, List.length_cons] at hone
      obtain rfl : vs = [] := List.length_eq_zero_iff.1 (by omega)
      exact List.pairwise_singleton _ v
  · refine hplaces.imp fun hlt v hv w hw => ?_
    rwa [(mem_judged.1 hv).2, (mem_judged.1 hw).2]

/-- What is reported of the settings. -/
def Reports (s : Settings) (v : Violation) : Prop := ∃ vs, s.validate = .error vs ∧ v ∈ vs

theorem validate_eq_error_iff : s.validate = .error vs ↔ vs ≠ [] ∧ s.violations = vs := by
  unfold validate
  generalize s.violations = found
  cases found with
  | nil =>
    constructor
    · intro h
      cases h
    · rintro ⟨hne, rfl⟩
      exact absurd rfl hne
  | cons v found =>
    constructor
    · intro h
      cases h
      exact ⟨List.cons_ne_nil v found, rfl⟩
    · rintro ⟨-, rfl⟩
      rfl

theorem reports_iff : s.Reports v ↔ s.Breaks v := by
  rw [← mem_violations]
  constructor
  · rintro ⟨vs, herror, hv⟩
    obtain ⟨-, rfl⟩ := validate_eq_error_iff.1 herror
    exact hv
  · intro hv
    exact ⟨s.violations, validate_eq_error_iff.2 ⟨List.ne_nil_of_mem hv, rfl⟩, hv⟩

/-- How a rule is broken is told by what the rule looks at. -/
theorem Breaks.of_sameFields (hv : s.Breaks v) : v.rule.SameFields s t → t.Breaks v := by
  cases hv with
  | bindBlank hblank =>
    rintro (hbind : s.server.bindAddress = _)
    exact .bindBlank (hbind ▸ hblank)
  | bindMalformed hthere hbad =>
    rw [Violation.rule_bindAddress]
    rintro (hbind : s.server.bindAddress = _)
    rw [hbind] at hthere hbad ⊢
    exact .bindMalformed hthere hbad
  | init hpos hlt =>
    rintro ⟨hinit, hmax⟩
    rw [hmax] at hpos
    rw [hinit, hmax] at hlt ⊢
    exact .init hpos hlt
  | idle hpos hlt =>
    rintro ⟨hidle, hmax⟩
    rw [hmax] at hpos
    rw [hidle, hmax] at hlt ⊢
    exact .idle hpos hlt
  | backendMissing hproxy hblank =>
    rintro ⟨hbackend, hhandler⟩
    exact .backendMissing (hhandler ▸ hproxy) (hbackend ▸ hblank)
  | backendMalformed hsome hthere hbad =>
    rw [Violation.rule_backendAddress]
    rintro ⟨hbackend, -⟩
    exact .backendMalformed (hbackend ▸ hsome) hthere hbad
  | metrics hon hbad =>
    rw [Violation.rule_metricsAddress]
    rintro ⟨henabled, haddress⟩
    rw [haddress] at hbad ⊢
    exact .metrics (henabled ▸ hon) hbad

/-- Settings are accepted, as they are, exactly if they break no rule; otherwise the report is the one list of the
broken rules in their order; and what is reported by a rule is told by what the rule looks at. -/
theorem validate_exact (s : Settings) :
    (∀ u, s.validate = .ok u ↔ u = s ∧ ∀ v, ¬ s.Breaks v) ∧
      (∀ vs, s.validate = .error vs ↔ vs ≠ [] ∧ InOrder vs ∧ ∀ v, v ∈ vs ↔ s.Breaks v) ∧
      ∀ (t : Settings) (r : Rule), r.SameFields s t → ∀ v, v.rule = r → (s.Reports v ↔ t.Reports v) := by
  refine ⟨fun u => ?_, fun vs => ?_, fun t r hsame v hr => ?_⟩
  · rw [validate_eq_ok_iff, eq_comm, List.eq_nil_iff_forall_not_mem]
    exact and_congr_right fun _ => forall_congr' fun v => not_congr mem_violations
  · rw [validate_eq_error_iff]
    refine and_congr_right fun _ => ⟨?_, ?_⟩
    · rintro rfl
      exact ⟨inOrder_violations s, fun v => mem_violations⟩
    · rintro ⟨horder, hmem⟩
      exact InOrder.eq_of_mem (inOrder_violations s) horder fun v => mem_violations.trans (hmem v).symm
  · subst hr
    rw [reports_iff, reports_iff]
    exact ⟨fun hs => hs.of_sameFields hsame, fun ht => ht.of_sameFields (Rule.SameFields.symm hsame)⟩

/-- Settings that break every rule: a blank bind address, counts beyond the capacity, a proxy without a backend, and
metrics on a host that has to be resolved. -/
def allBroken : Settings :=
  { server := { bindAddress := "\u00a0 ", handler := .proxy },
    pool := { initConnNum := 20, maxConnNum := 5, maxIdleNum := 6 },
    observability := { metricsEnabled := true, metricsAddress := "localhost:9090" } }

/-- All five are reported; with a good bind address the others are still there. -/
theorem validate_all_broken :
    (∀ v, v ∈ [.empty "server.bind_address", .initExceedsMax 20 5, .idleExceedsMax 6 5, .missingBackend,
        .invalidAddress "observability.metrics_address" "localhost:9090"] ↔ allBroken.Breaks v) ∧
      ∀ v, v.rule = .backend →
        (allBroken.Reports v ↔ Reports { allBroken with server := { handler := .proxy } } v) := by
  have herror : allBroken.validate = .error [.empty "server.bind_address", .initExceedsMax 20 5,
      .idleExceedsMax 6 5, .missingBackend,
      .invalidAddress "observability.metrics_address" "localhost:9090"] :=
    validate_eq_error_iff.2 ⟨List.cons_ne_nil _ _, by decide +kernel⟩
  obtain ⟨-, hreport, hsame⟩ := validate_exact allBroken
  exact ⟨((hreport _).1 herror).2.2, hsame _ .backend ⟨rfl, rfl⟩⟩

end Settings
end PooledTcp
