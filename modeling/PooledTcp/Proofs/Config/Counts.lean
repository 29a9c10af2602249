import PooledTcp.Proofs.Config.Verdicts
import PooledTcp.Proofs.Pool.Rounds

/-!
# Counts that are checked and counts that are kept

The counts of a pool are treated twice: settings are checked against the capacity, and a pool that opens fills in
defaults and clamps what is too much. Neither knows of the other. They agree nevertheless where the settings give a
capacity: a count is reported exactly if the pool does not keep it (`reported_iff_clamped`). Without a capacity
nothing is reported, and the pool may still clamp, to the default capacity.
-/

namespace PooledTcp

variable {n max fallback : Nat}

theorem orDefault_of_pos (h : 0 < n) : orDefault n fallback = n := if_neg (Nat.ne_of_gt h)

/-- A count is lost, though it is given, if it is more than there may be. -/
theorem clamped_iff : (n ≠ 0 ∧ min (orDefault n fallback) max ≠ n) ↔ max < n := by
  constructor
  · rintro ⟨hn, hlost⟩
    rw [orDefault_of_pos (Nat.pos_of_ne_zero hn)] at hlost
    omega
  · intro hlt
    have hpos : 0 < n := Nat.zero_lt_of_lt hlt
    rw [orDefault_of_pos hpos]
    omega

namespace PoolLimits

/-- There may be a connection at first and an idle one, and no more of them than there may be at all. -/
structure Sound (l : PoolLimits) : Prop where
  init_pos : 1 ≤ l.initConns
  init_le : l.initConns ≤ l.maxConns
  idle_pos : 1 ≤ l.maxIdle
  idle_le : l.maxIdle ≤ l.maxConns

/-- Sound limits stay as they are. -/
theorem Sound.limits_toRequest {l : PoolLimits} (h : l.Sound) : l.toRequest.limits = l := by
  obtain ⟨hinit, hinit', hidle, hidle'⟩ := h
  have hmax : 0 < l.maxConns := Nat.lt_of_lt_of_le hinit hinit'
  simp only [toRequest, PoolRequest.limits, orDefault_of_pos hinit, orDefault_of_pos hidle, orDefault_of_pos hmax,
    Nat.min_eq_left hinit', Nat.min_eq_left hidle']

end PoolLimits

namespace PoolRequest

variable {r : PoolRequest}

theorem initConns_pos (r : PoolRequest) : 0 < r.limits.initConns := by
  have hwanted : 0 < orDefault r.initConns defaultInitConns := by
    unfold orDefault defaultInitConns
    split <;> omega
  exact Nat.lt_min.2 ⟨hwanted, r.maxConns_pos⟩

theorem sound_limits (r : PoolRequest) : r.limits.Sound where
  init_pos := r.initConns_pos
  init_le := Nat.min_le_right _ _
  idle_pos := r.maxIdle_pos
  idle_le := r.maxIdle_le_maxConns

/-- Every count that the request gives is among the limits. -/
structure KeptBy (r : PoolRequest) (l : PoolLimits) : Prop where
  init : r.initConns ≠ 0 → l.initConns = r.initConns
  max : r.maxConns ≠ 0 → l.maxConns = r.maxConns
  idle : r.maxIdle ≠ 0 → l.maxIdle = r.maxIdle

theorem limits_maxConns (h : r.maxConns ≠ 0) : r.limits.maxConns = r.maxConns :=
  orDefault_of_pos (Nat.pos_of_ne_zero h)

theorem clamps_init_iff (h : r.maxConns ≠ 0) :
    (r.initConns ≠ 0 ∧ r.limits.initConns ≠ r.initConns) ↔ r.maxConns < r.initConns := by
  rw [← limits_maxConns h]
  exact clamped_iff

theorem clamps_idle_iff (h : r.maxConns ≠ 0) :
    (r.maxIdle ≠ 0 ∧ r.limits.maxIdle ≠ r.maxIdle) ↔ r.maxConns < r.maxIdle := by
  rw [← limits_maxConns h]
  exact clamped_iff

/-- All counts are kept exactly if neither of those that can be clamped is. -/
theorem keptBy_limits_iff (h : r.maxConns ≠ 0) :
    r.KeptBy r.limits ↔ ¬ r.maxConns < r.initConns ∧ ¬ r.maxConns < r.maxIdle := by
  rw [← clamps_init_iff h, ← clamps_idle_iff h, not_and, not_and, Decidable.not_not, Decidable.not_not]
  constructor
  · intro hkept
    exact ⟨hkept.init, hkept.idle⟩
  · rintro ⟨hinit, hidle⟩
    exact ⟨hinit, limits_maxConns, hidle⟩

end PoolRequest

namespace Settings

variable {s : Settings}

/-- More connections are reported for the start than there may be. -/
def ReportsInit (s : Settings) : Prop := ∃ init max, s.Reports (.initExceedsMax init max)

/-- More idle connections are reported than there may be. -/
def ReportsIdle (s : Settings) : Prop := ∃ idle max, s.Reports (.idleExceedsMax idle max)

theorem reportsInit_iff :
    s.ReportsInit ↔ 0 < s.pool.maxConnNum ∧ s.pool.maxConnNum < s.pool.initConnNum := by
  constructor
  · rintro ⟨init, max, hreport⟩
    cases reports_iff.1 hreport with
    | init hpos hlt => exact ⟨hpos, hlt⟩
  · rintro ⟨hpos, hlt⟩
    exact ⟨_, _, reports_iff.2 (.init hpos hlt)⟩

theorem reportsIdle_iff :
    s.ReportsIdle ↔ 0 < s.pool.maxConnNum ∧ s.pool.maxConnNum < s.pool.maxIdleNum := by
  constructor
  · rintro ⟨idle, max, hreport⟩
    cases reports_iff.1 hreport with
    | idle hpos hlt => exact ⟨hpos, hlt⟩
  · rintro ⟨hpos, hlt⟩
    exact ⟨_, _, reports_iff.2 (.idle hpos hlt)⟩

/-- The limits of a pool on these settings are sound, and on the limits themselves they are the same again. Where the
settings give a capacity, a count is reported exactly if it is given and the limits have another one; nothing is
reported of the counts exactly if the limits have all that are given. -/
theorem reported_iff_clamped (s : Settings) :
    ∃ l, s.pool.toRequest.normalize true = .ok l ∧ l.Sound ∧ l.toRequest.normalize true = .ok l ∧
      (0 < s.pool.maxConnNum →
        (s.ReportsInit ↔ s.pool.initConnNum ≠ 0 ∧ l.initConns ≠ s.pool.initConnNum.toNat) ∧
        (s.ReportsIdle ↔ s.pool.maxIdleNum ≠ 0 ∧ l.maxIdle ≠ s.pool.maxIdleNum.toNat) ∧
        (¬ s.ReportsInit ∧ ¬ s.ReportsIdle ↔ s.pool.toRequest.KeptBy l)) := by
  have hsound := s.pool.toRequest.sound_limits
  refine ⟨s.pool.toRequest.limits, rfl, hsound, congrArg Except.ok hsound.limits_toRequest, fun hpos => ?_⟩
  have hmax : s.pool.toRequest.maxConns ≠ 0 := Nat.ne_of_gt (UInt64.lt_iff_toNat_lt.1 hpos)
  have hinit : s.ReportsInit ↔ s.pool.toRequest.maxConns < s.pool.toRequest.initConns :=
    reportsInit_iff.trans ((and_iff_right hpos).trans UInt64.lt_iff_toNat_lt)
  have hidle : s.ReportsIdle ↔ s.pool.toRequest.maxConns < s.pool.toRequest.maxIdle :=
    reportsIdle_iff.trans ((and_iff_right hpos).trans UInt64.lt_iff_toNat_lt)
  have hgiven (n : UInt64) : n.toNat ≠ 0 ↔ n ≠ 0 := not_congr (UInt64.toNat_inj (b := 0))
  refine ⟨?_, ?_, ?_⟩
  · rw [hinit, ← PoolRequest.clamps_init_iff hmax]
    exact and_congr_left fun _ => hgiven s.pool.initConnNum
  · rw [hidle, ← PoolRequest.clamps_idle_iff hmax]
    exact and_congr_left fun _ => hgiven s.pool.maxIdleNum
  · rw [hinit, hidle, PoolRequest.keptBy_limits_iff hmax]

/-- Four connections, of which eight are to be opened at first and nine may be idle. -/
def overfull : Settings := { pool := { initConnNum := 8, maxConnNum := 4, maxIdleNum := 9 } }

/-- Both counts are reported, and both are clamped to four. -/
theorem overfull_reported : 0 < overfull.pool.maxConnNum ∧
    overfull.pool.toRequest.normalize true = .ok ⟨4, 4, 4, .zero⟩ ∧
      overfull.ReportsInit ∧ overfull.ReportsIdle ∧ ¬ overfull.pool.toRequest.KeptBy ⟨4, 4, 4, .zero⟩ := by
  have hpos : 0 < overfull.pool.maxConnNum := by decide
  have hlimits : overfull.pool.toRequest.normalize true = .ok ⟨4, 4, 4, .zero⟩ := rfl
  obtain ⟨l, hl, -, -, hagree⟩ := reported_iff_clamped overfull
  obtain rfl := Except.ok.inj (hl.symm.trans hlimits)
  obtain ⟨hinit, hidle, hkept⟩ := hagree hpos
  have hreported : overfull.ReportsInit := hinit.2 ⟨by decide, by decide⟩
  exact ⟨hpos, hlimits, hreported, hidle.2 ⟨by decide, by decide⟩, fun h => (hkept.2 h).1 hreported⟩

end Settings
end PooledTcp
