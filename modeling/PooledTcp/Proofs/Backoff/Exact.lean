import Mathlib.Algebra.Group.Nat.Defs
import Mathlib.Data.Nat.PSub
import PooledTcp.Proofs.Backoff.Growth

/-!
# Delays are exact

A delay is reckoned in 64 bits: a power and a product stop at the greatest number, and a jitter is taken off in
arithmetic that wraps around. `exactDelay?` takes the same steps in numbers without bound and gives up where one of
them leaves its range. It never does, and the two agree (`exactDelay?_toNat`). So a delay is the ceiling of unbounded
arithmetic less a jitter, and the jitter is any number of milliseconds below a tenth of the ceiling (`delay_exact`).
-/

namespace PooledTcp.Backoff

/-- The longest delay in milliseconds, in numbers without bound. -/
def exactCeiling (attempt base max : Nat) : Nat :=
  if attempt = 0 then 0 else min (base * 2 ^ (attempt - 1)) max

/-- A number of 64 bits. -/
def word? (n : Nat) : Option Nat := if n < UInt64.size then some n else none

/-- One of the numbers below `range`, if there is one. -/
def pick? (range draw : Nat) : Option Nat := if range = 0 then none else some (draw % range)

/-- What is taken off: nothing from less than ten, and otherwise one of the numbers below a tenth. -/
def jitter? (ceiling draw : Nat) : Option Nat :=
  if ceiling < 10 then some 0 else pick? (ceiling / 10) draw

/-- The delay step by step, in numbers without bound. There is none if a difference is below zero, the milliseconds
are beyond 64 bits, there is nothing to draw from, or the span is too long. -/
def exactDelay? (attempt base max draw : Nat) : Option Duration :=
  if attempt = 0 then some .zero
  else do
    let doublings ← attempt.psub 1
    let ceiling ← word? (min (base * 2 ^ doublings) max)
    let jitter ← jitter? ceiling draw
    let left ← ceiling.psub jitter
    Duration.ofNanos? (left * nanosPerMilli)

variable {attempt attempt' base base' max max' : Nat}

theorem exactCeiling_le (attempt base max : Nat) : exactCeiling attempt base max ≤ max := by
  unfold exactCeiling
  split
  · exact Nat.zero_le _
  · exact Nat.min_le_right _ _

/-- More failures, a longer first wait and a greater bound never make the ceiling less. -/
theorem exactCeiling_mono (hattempt : attempt ≤ attempt') (hbase : base ≤ base') (hmax : max ≤ max') :
    exactCeiling attempt base max ≤ exactCeiling attempt' base' max' := by
  unfold exactCeiling
  split
  · exact Nat.zero_le _
  · rename_i hsome
    have hsome' : attempt' ≠ 0 := by omega
    have hpow : 2 ^ (attempt - 1) ≤ 2 ^ (attempt' - 1) :=
      Nat.pow_le_pow_right Nat.two_pos (Nat.sub_le_sub_right hattempt 1)
    have hproduct : base * 2 ^ (attempt - 1) ≤ base' * 2 ^ (attempt' - 1) := Nat.mul_le_mul hbase hpow
    rw [if_neg hsome']
    omega

theorem exactDelay?_of_ne (base max draw : Nat) (h : attempt ≠ 0) : exactDelay? attempt base max draw =
    (word? (exactCeiling attempt base max)).bind fun ceiling => (jitter? ceiling draw).bind fun jitter =>
      (ceiling.psub jitter).bind fun left => Duration.ofNanos? (left * nanosPerMilli) := by
  have hdoublings : attempt.psub 1 = some (attempt - 1) := Nat.psub_eq_sub (Nat.one_le_iff_ne_zero.2 h)
  rw [exactDelay?, if_neg h, exactCeiling, if_neg h]
  simp only [Option.bind_eq_bind]
  rw [hdoublings, Option.bind_some]

theorem word?_toNat (n : UInt64) : word? n.toNat = some n.toNat := if_pos n.toNat_lt

theorem ofNanos?_millis (ms : UInt64) :
    Duration.ofNanos? (ms.toNat * nanosPerMilli) = some (.ofMillis ms) := dif_pos _

theorem toNat_ne_zero {attempt : UInt32} (h : attempt ≠ 0) : attempt.toNat ≠ 0 :=
  fun hzero => h (UInt32.toNat_inj.1 hzero)

section Words

variable (attempt : UInt32) (base max draw : UInt64)

/-- The ceiling in 64 bits is the one of numbers without bound. -/
theorem toNat_ceiling_eq :
    (ceiling attempt base max).toNat = exactCeiling attempt.toNat base.toNat max.toNat := by
  by_cases hnone : attempt = 0
  · rw [hnone]
    rfl
  · rw [toNat_ceiling hnone, exactCeiling, if_neg (toNat_ne_zero hnone)]

/-- There is something to draw from where a jitter is drawn. -/
theorem jitter?_toNat (c : UInt64) : jitter? c.toNat draw.toNat = some (jitter c draw).toNat := by
  unfold jitter?
  split
  · rename_i hsmall
    rw [jitter_of_lt hsmall]
    rfl
  · rename_i hnot
    have hlarge : 10 ≤ c.toNat := Nat.le_of_not_lt hnot
    have hrange : c.toNat / 10 ≠ 0 := by omega
    rw [pick?, if_neg hrange, toNat_jitter draw hlarge]

/-- The jitter is taken off something that is not less. -/
theorem psub_jitter (c : UInt64) : c.toNat.psub (jitter c draw).toNat = some (c - jitter c draw).toNat := by
  have hle : jitter c draw ≤ c := jitter_le c draw
  rw [Nat.psub_eq_sub (UInt64.le_iff_toNat_le.1 hle), UInt64.toNat_sub_of_le _ _ hle]

theorem delay_zero : delay 0 base max draw = .zero := by
  have hceiling : ceiling 0 base max = 0 := if_pos rfl
  have hjitter : jitter 0 draw = 0 := jitter_of_lt (by decide)
  rw [delay, delayMs, hceiling, hjitter]
  rfl

/-- No step leaves its range, and stopping at the greatest number makes no difference. -/
theorem exactDelay?_toNat : exactDelay? attempt.toNat base.toNat max.toNat draw.toNat =
    some (delay attempt base max draw) := by
  by_cases hnone : attempt = 0
  · rw [hnone, delay_zero]
    rfl
  · rw [exactDelay?_of_ne _ _ _ (toNat_ne_zero hnone), ← toNat_ceiling_eq, word?_toNat,
      Option.bind_some, jitter?_toNat, Option.bind_some, psub_jitter, Option.bind_some, ofNanos?_millis, delay, delayMs]

end Words

/-- What the delays after `attempt` failures in a row are, for a ceiling of `c` milliseconds. -/
structure Exact (attempt : UInt32) (base max : UInt64) (c : Nat) : Prop where
  ceiling : (ceiling attempt base max).toNat = c
  ceiling_le : c ≤ max.toNat
  /-- No step overflows, goes below zero, or draws from nothing. -/
  unbroken : ∀ draw : UInt64, exactDelay? attempt.toNat base.toNat max.toNat draw.toNat =
    some (delay attempt base max draw)
  /-- Less than a tenth is taken off, and nothing from less than ten. -/
  shaved : ∀ draw, ∃ ms, (delay attempt base max draw).nanos = ms * nanosPerMilli ∧
    ms ≤ c ∧ (c < 10 → ms = c) ∧ (0 < c → 9 * c < 10 * ms)
  /-- The draws give all that may be left. -/
  reached : 10 ≤ c → ∀ ms, (∃ draw, (delay attempt base max draw).nanos = ms * nanosPerMilli) ↔
    c - c / 10 < ms ∧ ms ≤ c
  grows : ∀ (attempt' : UInt32) (base' max' : UInt64), attempt ≤ attempt' → base ≤ base' → max ≤ max' →
    c ≤ exactCeiling attempt'.toNat base'.toNat max'.toNat

/-- After any number of failures and for any bounds the delays are those of unbounded arithmetic. -/
theorem delay_exact (attempt : UInt32) (base max : UInt64) :
    Exact attempt base max (exactCeiling attempt.toNat base.toNat max.toNat) := by
  have hceiling := toNat_ceiling_eq attempt base max
  refine ⟨hceiling, exactCeiling_le _ _ _, exactDelay?_toNat attempt base max, fun draw => ?_,
    fun hlarge ms => ?_, fun attempt' base' max' hattempt hbase hmax => ?_⟩
  · obtain ⟨hsmall, hlarge⟩ := shaved_delayMs attempt base max draw
    rw [hceiling] at hsmall hlarge
    exact ⟨_, rfl, by omega, hsmall, by omega⟩
  · have hmilli : nanosPerMilli ≠ 0 := by decide
    have hdelay (draw : UInt64) : (delay attempt base max draw).nanos =
        (delayMs attempt base max draw).toNat * nanosPerMilli := rfl
    simp only [hdelay, Nat.mul_left_inj hmilli]
    rw [exists_delayMs_iff, hceiling, lowest]
    omega
  · exact exactCeiling_mono (UInt32.le_iff_toNat_le.1 hattempt) (UInt64.le_iff_toNat_le.1 hbase)
      (UInt64.le_iff_toNat_le.1 hmax)

/-- After 65 failures neither the power nor the product fits 64 bits. Under the greatest bound there is, the draws
still give all but a tenth of it, and nothing less. -/
theorem delay_exact_beyond_words : exactCeiling 65 3 (2 ^ 64 - 1) = 2 ^ 64 - 1 ∧
    (∃ draw, (delay 65 3 greatest draw).nanos = 16602069666338596455 * nanosPerMilli) ∧
    ¬ ∃ draw, (delay 65 3 greatest draw).nanos = 16602069666338596454 * nanosPerMilli := by
  have hceiling : exactCeiling 65 3 (2 ^ 64 - 1) = 2 ^ 64 - 1 := by decide
  have hexact : Exact 65 3 greatest (2 ^ 64 - 1) := hceiling ▸ delay_exact 65 3 greatest
  exact ⟨hceiling, (hexact.reached (by decide) _).2 (by decide),
    fun h => absurd ((hexact.reached (by decide) _).1 h) (by decide)⟩

end PooledTcp.Backoff
