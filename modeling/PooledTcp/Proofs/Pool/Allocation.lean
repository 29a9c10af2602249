import PooledTcp.Proofs.Config.Addresses
import PooledTcp.Proofs.Pool.WarmUp

/-!
# Room for the idle queue

A new pool asks for the memory of its whole idle queue at once. The rules on settings bound the two counts of a
pool by its capacity, and nothing bounds the capacity. `PoolSettings.idleRoom` is the number of entries that
accepted settings ask for, as they name it; the pool opens as it should exactly if one allocation can hold that
many (`opens_iff_room_fits`).
-/

namespace PooledTcp

namespace PoolRequest

variable {r : PoolRequest}

theorem maxIdle_of_unbounded (hmax : r.maxConns = 0) :
    r.limits.maxIdle = min (orDefault r.maxIdle (orDefault r.initConns defaultInitConns)) defaultMaxConns := by
  simp only [limits, orDefault, hmax, if_true]
  split <;> omega

theorem maxIdle_of_within (hmax : r.maxConns ≠ 0) (hinit : r.initConns ≤ r.maxConns)
    (hidle : r.maxIdle ≤ r.maxConns) :
    r.limits.maxIdle = orDefault r.maxIdle (orDefault r.initConns (min defaultInitConns r.maxConns)) := by
  simp only [limits, orDefault, if_neg hmax]
  by_cases hsome : r.maxIdle = 0
  · rw [if_pos hsome, if_pos hsome]
    split <;> omega
  · rw [if_neg hsome, if_neg hsome, Nat.min_eq_left hidle]

end PoolRequest

namespace PoolSettings

/-- The number of idle entries that the settings make room for. Without a capacity the counts are clamped to the
default one; with a capacity, the rules have the counts stay within it. -/
def idleRoom (s : PoolSettings) : Nat :=
  if s.maxConnNum = 0 then
    min (orDefault s.maxIdleNum.toNat (orDefault s.initConnNum.toNat defaultInitConns)) defaultMaxConns
  else
    orDefault s.maxIdleNum.toNat (orDefault s.initConnNum.toNat (min defaultInitConns s.maxConnNum.toNat))

variable {s : PoolSettings}

/-- Where a rule on a count is kept, the count is at most the capacity, if there is one. -/
theorem within_of_ite {n max : UInt64} {v : Violation} (hmax : max ≠ 0)
    (h : (if 0 < max ∧ max < n then [v] else []) = []) : n.toNat ≤ max.toNat := by
  have hpos : 0 < max := UInt64.pos_iff_ne_zero.2 hmax
  split at h
  · cases h
  · rename_i hnot
    exact UInt64.le_iff_toNat_le.1 (UInt64.not_lt.1 fun hlt => hnot ⟨hpos, hlt⟩)

/-- For settings that keep the rules no clamp is needed beyond those of the defaults. -/
theorem maxIdle_eq_idleRoom (hinit : s.initViolations = []) (hidle : s.idleViolations = []) :
    s.toRequest.limits.maxIdle = s.idleRoom := by
  by_cases hmax : s.maxConnNum = 0
  · have hzero : s.toRequest.maxConns = 0 := by simp [toRequest, hmax]
    rw [PoolRequest.maxIdle_of_unbounded hzero, idleRoom, if_pos hmax]
    rfl
  · have hpos : s.toRequest.maxConns ≠ 0 := fun h => hmax (UInt64.toNat_inj.1 h)
    rw [PoolRequest.maxIdle_of_within hpos (within_of_ite hmax hinit) (within_of_ite hmax hidle), idleRoom,
      if_neg hmax]
    rfl

end PoolSettings

namespace Pool.Opening

/-- A pool is opened, or the failure of a dial reported, whatever the factory answers. The opening begins; after
at most two answers for each connection it has ended; it ends with the pool or with what a dial failed with; and
until then it goes on with any answer. -/
def Opens (addr : String) (r : PoolRequest) (entryBytes now : Nat) : Prop :=
  ∃ o, start addr r true entryBytes now = .ok o ∧ ∀ es o', Run step o es o' →
    (dialResults es).length + closesIn es ≤ 2 * r.limits.warm ∧
    ((∃ p, o'.outcome? = some (.ok p)) ∨ (∃ cause, o'.outcome? = some (.error (.factory cause))) ∨
      (∀ result, (o'.step (.dialed result)).isSome) ∨ (o'.step .closed).isSome)

variable {addr : String} {r : PoolRequest} {entryBytes now : Nat} {o o' : Opening} {es : List Event}

theorem outcome_or_goes_on (h : start addr r true entryBytes now = .ok o) (hrun : Run step o es o') :
    (∃ p, o'.outcome? = some (.ok p)) ∨ (∃ cause, o'.outcome? = some (.error (.factory cause))) ∨
      (∀ result, (o'.step (.dialed result)).isSome) ∨ (o'.step .closed).isSome := by
  obtain ⟨hstands, hopened⟩ := stands_run h hrun
  have hsound := hrun.keeps (P := Sound r) (fun _ _ _ => sound_step) (sound_start h)
  cases hout : o'.outcome? with
  | none => exact .inr (.inr (hstands.goes_on hout))
  | some res =>
    have hcame := hstands.cameTo hsound.inOrder hout
    generalize dialResults es = results at hcame
    generalize o'.asked = asked at hcame
    cases hcame with
    | built _ _ _ _ => exact .inl ⟨_, rfl⟩
    | failed _ => exact .inr (.inl ⟨_, rfl⟩)

/-- With an address and a factory, the memory of the queue is the only thing that can be missing. -/
theorem start_cases (r : PoolRequest) (entryBytes now : Nat) (haddr : addr ≠ "") :
    (r.limits.maxIdle * entryBytes ≤ maxAllocation ∧ ∃ o, start addr r true entryBytes now = .ok o) ∨
      (maxAllocation < r.limits.maxIdle * entryBytes ∧
        start addr r true entryBytes now = .error .capacityOverflow) := by
  rcases Nat.lt_or_ge maxAllocation (r.limits.maxIdle * entryBytes) with hover | hroom
  · have hnonempty : ¬addr.isEmpty = true := by simpa using haddr
    refine .inr ⟨hover, ?_⟩
    simp only [start, if_neg hnonempty, PoolRequest.normalize, if_true, if_pos hover]
  · exact .inl ⟨hroom, _, start_eq_ok now haddr hroom⟩

theorem opens_iff (haddr : addr ≠ "") :
    Opens addr r entryBytes now ↔ r.limits.maxIdle * entryBytes ≤ maxAllocation := by
  constructor
  · rintro ⟨o, hstart, -⟩
    rcases start_cases r entryBytes now haddr with ⟨hroom, -⟩ | ⟨-, hover⟩
    · exact hroom
    · cases hover.symm.trans hstart
  · intro hroom
    have hstart := start_eq_ok now haddr hroom
    exact ⟨_, hstart, fun es o' hrun => ⟨(stands_run hstart hrun).1.answers_le,
      outcome_or_goes_on hstart hrun⟩⟩

/-- With accepted settings a pool opens, or reports the failure of a dial, exactly if the memory for its idle
queue can be asked for in one allocation. Where it cannot, the opening breaks off before the first dial. -/
theorem opens_iff_room_fits {s : Settings} (h : s.Accepted) (haddr : addr ≠ "") (entryBytes now : Nat) :
    (Opens addr s.pool.toRequest entryBytes now ↔ s.pool.idleRoom * entryBytes ≤ maxAllocation) ∧
      (start addr s.pool.toRequest true entryBytes now = .error .capacityOverflow ↔
        maxAllocation < s.pool.idleRoom * entryBytes) := by
  have hnone := h.violations
  simp only [Settings.violations, List.append_eq_nil_iff] at hnone
  obtain ⟨⟨⟨⟨-, hinit⟩, hidle⟩, -⟩, -⟩ := hnone
  rw [← PoolSettings.maxIdle_eq_idleRoom hinit hidle]
  refine ⟨opens_iff haddr, ?_⟩
  rcases start_cases s.pool.toRequest entryBytes now haddr with
    ⟨hroom, o, hstart⟩ | ⟨hover, hstart⟩
  · rw [hstart]
    refine ⟨fun hfail => ?_, fun hover => absurd hover (Nat.not_lt.2 hroom)⟩
    cases hfail
  · exact ⟨fun _ => hover, fun _ => hstart⟩

/-- The default settings. -/
theorem opens_with_defaults : Settings.Accepted {} ∧ "mem" ≠ "" ∧
    Opens "mem" (PoolSettings.toRequest {}) 24 0 := by
  have haccepted : Settings.Accepted {} :=
    .checked (Settings.validate_eq_ok_iff.2 ⟨rfl, by decide +kernel⟩)
  have haddr : "mem" ≠ "" := by decide
  exact ⟨haccepted, haddr, (opens_iff_room_fits haccepted haddr 24 0).1.2 (by decide +kernel)⟩

/-- As many idle connections as can be written down. -/
def unbounded : Settings :=
  { pool := { initConnNum := 1, maxConnNum := 18446744073709551615, maxIdleNum := 18446744073709551615 } }

/-- The rules are kept, as both counts are within the capacity. -/
theorem unbounded_overflows : unbounded.Accepted ∧
    start "mem" unbounded.pool.toRequest true 24 0 = .error .capacityOverflow ∧
    ¬ Opens "mem" unbounded.pool.toRequest 24 0 := by
  have haccepted : unbounded.Accepted :=
    .checked (Settings.validate_eq_ok_iff.2 ⟨rfl, by decide +kernel⟩)
  have hover : start "mem" unbounded.pool.toRequest true 24 0 = .error .capacityOverflow := by
    have haddr : "mem" ≠ "" := by decide
    rcases start_cases unbounded.pool.toRequest 24 0 haddr with ⟨hroom, -⟩ | ⟨-, hover⟩
    · exact absurd hroom (by decide +kernel)
    · exact hover
  refine ⟨haccepted, hover, ?_⟩
  rintro ⟨o, hstart, -⟩
  cases hover.symm.trans hstart

end Pool.Opening
end PooledTcp
