import Mathlib.Algebra.Group.Nat.Defs
import PooledTcp.Backoff

/-!
# How long the wait after a failure is

The arithmetic of a delay never leaves 64 bits: powers and products stop at the greatest number. Since the bound
is a 64-bit number too, the ceiling is nevertheless what it is in unbounded arithmetic (`toNat_ceiling`), also after
more failures than are counted (`toNat_ceiling_of_failures`). From the ceiling less than a tenth is taken off, and
nothing where it is less than ten (`shaved_delayMs`).
-/

namespace PooledTcp.Backoff

variable {attempt : UInt32} {base max c draw : UInt64} {k m n : Nat}

/-- The delay is the ceiling, or less by less than a tenth of it. -/
def Shaved (ceiling delay : Nat) : Prop :=
  (ceiling < 10 → delay = ceiling) ∧ (10 ≤ ceiling → 9 * ceiling < 10 * delay ∧ 10 * delay ≤ 10 * ceiling)

/-- What is taken off leaves something, and nothing is added. -/
theorem Shaved.bounds {ceiling delay least : Nat} (h : Shaved ceiling delay) (hleast : least ≤ ceiling)
    (hsmall : least < 10) : least ≤ delay ∧ delay ≤ ceiling := by
  obtain ⟨hexact, hshaved⟩ := h
  omega

theorem toNat_saturate (n : Nat) : (saturate n).toNat = min n (UInt64.size - 1) := by
  unfold saturate
  split
  · rename_i h
    rw [UInt64.toNat_ofNat_of_lt' h]
    omega
  · have hgreatest : greatest.toNat = UInt64.size - 1 := rfl
    omega

theorem toNat_power (k : Nat) : (power k).toNat = min (2 ^ k) (UInt64.size - 1) := by
  unfold power
  split
  · exact toNat_saturate _
  · have hle : 2 ^ 64 ≤ 2 ^ k := Nat.pow_le_pow_right (by decide) (by omega)
    have hgreatest : greatest.toNat = UInt64.size - 1 := rfl
    have hsize : UInt64.size = 2 ^ 64 := rfl
    omega

theorem toNat_min (m n : UInt64) : (min m n).toNat = min m.toNat n.toNat := by
  change (if m ≤ n then m else n).toNat = _
  split
  · rename_i h
    exact (Nat.min_eq_left (UInt64.le_iff_toNat_le.1 h)).symm
  · rename_i h
    exact (Nat.min_eq_right (Nat.le_of_not_le fun hle => h (UInt64.le_iff_toNat_le.2 hle))).symm

/-- Under a 64-bit bound nothing beyond 64 bits makes a difference. -/
theorem min_mul_pow_of_le (base : Nat) (max : UInt64) (hm : UInt64.size - 1 ≤ m) (hn : UInt64.size - 1 ≤ n) :
    min (base * m) max.toNat = min (base * n) max.toNat := by
  have hmax : max.toNat ≤ UInt64.size - 1 := Nat.le_sub_one_of_lt max.toNat_lt
  rcases Nat.eq_zero_or_pos base with rfl | hpos
  · rw [Nat.zero_mul, Nat.zero_mul]
  · have hbound {x : Nat} (hx : UInt64.size - 1 ≤ x) : max.toNat ≤ base * x :=
      Nat.le_trans hmax (Nat.le_trans hx (Nat.le_mul_of_pos_left x hpos))
    rw [Nat.min_eq_right (hbound hm), Nat.min_eq_right (hbound hn)]

/-- The ceiling is not changed by what 64 bits cannot hold. -/
theorem toNat_ceiling (h : attempt ≠ 0) :
    (ceiling attempt base max).toNat = min (base.toNat * 2 ^ (attempt.toNat - 1)) max.toNat := by
  have hmax : max.toNat ≤ UInt64.size - 1 := Nat.le_sub_one_of_lt max.toNat_lt
  rw [ceiling, if_neg h, toNat_min, toNat_saturate, toNat_power, Nat.min_assoc, Nat.min_eq_right hmax]
  rcases Nat.le_total (2 ^ (attempt.toNat - 1)) (UInt64.size - 1) with hle | hge
  · rw [Nat.min_eq_left hle]
  · rw [Nat.min_eq_right hge]
    exact min_mul_pow_of_le base.toNat max (Nat.le_refl _) hge

/-- The ceiling after `k` failures in a row, of which as many are counted as can be. -/
theorem toNat_ceiling_of_failures (hk : 0 < k) (h : attempt.toNat = min k (UInt32.size - 1)) :
    (ceiling attempt base max).toNat = min (base.toNat * 2 ^ (k - 1)) max.toNat := by
  have hsize : UInt32.size = 2 ^ 32 := rfl
  have hne : attempt ≠ 0 := by
    rintro rfl
    rw [UInt32.toNat_zero] at h
    omega
  rw [toNat_ceiling hne]
  rcases Nat.lt_or_ge k UInt32.size with hlt | hge
  · have hall : min k (UInt32.size - 1) = k := Nat.min_eq_left (Nat.le_sub_one_of_lt hlt)
    rw [h, hall]
  · have hpow {x : Nat} (hx : 64 ≤ x) : UInt64.size - 1 ≤ 2 ^ x :=
      Nat.le_trans (Nat.sub_le _ _) (Nat.pow_le_pow_right Nat.two_pos hx)
    exact min_mul_pow_of_le base.toNat max (hpow (by omega)) (hpow (by omega))

theorem jitter_of_lt (h : c.toNat < 10) : jitter c draw = 0 := by
  have hrange : jitterRange c = 0 := by
    rw [← UInt64.toNat_inj, jitterRange, UInt64.toNat_div]
    exact Nat.div_eq_of_lt h
  rw [jitter, if_pos hrange]

/-- Where there is a jitter at all it is less than a tenth, and what a draw makes of it. -/
theorem toNat_jitter (draw : UInt64) (h : 10 ≤ c.toNat) : (jitter c draw).toNat = draw.toNat % (c.toNat / 10) := by
  have hrange : (jitterRange c).toNat = c.toNat / 10 := UInt64.toNat_div c 10
  have hpos : jitterRange c ≠ 0 := by
    intro hzero
    rw [hzero, UInt64.toNat_zero] at hrange
    omega
  rw [jitter, if_neg hpos, UInt64.toNat_mod, hrange]

/-- Less than a tenth is taken off. -/
theorem jitter_lt_of_le (draw : UInt64) (h : 10 ≤ c.toNat) : 10 * (jitter c draw).toNat < c.toNat := by
  have hlt : draw.toNat % (c.toNat / 10) < c.toNat / 10 := Nat.mod_lt _ (by omega)
  rw [toNat_jitter draw h]
  omega

theorem jitter_le (c draw : UInt64) : jitter c draw ≤ c := by
  rw [UInt64.le_iff_toNat_le]
  rcases Nat.lt_or_ge c.toNat 10 with hsmall | hlarge
  · rw [jitter_of_lt hsmall]
    exact Nat.zero_le _
  · have hlt := jitter_lt_of_le draw hlarge
    omega

theorem toNat_delayMs (attempt : UInt32) (base max draw : UInt64) :
    (delayMs attempt base max draw).toNat =
      (ceiling attempt base max).toNat - (jitter (ceiling attempt base max) draw).toNat :=
  UInt64.toNat_sub_of_le _ _ (jitter_le _ _)

theorem shaved_delayMs (attempt : UInt32) (base max draw : UInt64) :
    Shaved (ceiling attempt base max).toNat (delayMs attempt base max draw).toNat := by
  rw [toNat_delayMs]
  constructor
  · intro hsmall
    rw [jitter_of_lt hsmall]
    rfl
  · intro hlarge
    have hlt := jitter_lt_of_le draw hlarge
    omega

/-- One more failure is counted, unless as many are counted as can be. -/
theorem toNat_attempts_fail (b : Backoff) :
    b.fail.attempts.toNat = min (b.attempts.toNat + 1) (UInt32.size - 1) := by
  have hsize : UInt32.size = 2 ^ 32 := rfl
  have hlt := b.attempts.toNat_lt
  unfold fail
  dsimp only
  split
  · rename_i hmost
    rw [hmost]
    rfl
  · rename_i hless
    have hne : b.attempts.toNat ≠ 0xFFFFFFFF := fun heq => hless (UInt32.toNat_inj.1 heq)
    rw [UInt32.toNat_add, UInt32.toNat_one]
    omega

end PooledTcp.Backoff
