import Mathlib.Algebra.Group.Nat.Defs
import Mathlib.Data.List.Induction
import PooledTcp.Proofs.Backoff

/-!
# When a further failure is waited for longer

A `Backoff` is told of failures and successes, and waits after each failure. How long depends on the number of
failures in a row alone (`tracks_after`) and on a draw, and the draws give every number of milliseconds from `lowest`
to the ceiling and no other (`exists_delayMs_iff`). So whatever is drawn a wait is longer than the one before it,
exactly if the ceiling of the one is below the lowest that the other can be (`lengthens_iff`).

Of the bounds the whole milliseconds are kept, and of these 64 bits. Where something is kept of the first one and the
second one fits, each wait is longer until the bound is reached (`waits_lengthen_iff`). But of a first bound of less
than a millisecond nothing is kept, and then there is no wait at all.
-/

namespace PooledTcp.Backoff

section Delays

variable {attempt : UInt32} {base max c : UInt64} {n : Nat}

/-- The least that the draws leave of a ceiling. -/
def lowest (ceiling : Nat) : Nat := ceiling - (ceiling / 10 - 1)

theorem exists_jitter_iff : (∃ draw, (jitter c draw).toNat = n) ↔ n ≤ c.toNat / 10 - 1 := by
  rcases Nat.lt_or_ge c.toNat 10 with hsmall | hlarge
  · have hnone : c.toNat / 10 - 1 = 0 := by omega
    simp only [jitter_of_lt hsmall, hnone, UInt64.toNat_zero, exists_const, Nat.le_zero, eq_comm]
  · constructor
    · rintro ⟨draw, rfl⟩
      have hlt : draw.toNat % (c.toNat / 10) < c.toNat / 10 := Nat.mod_lt _ (by omega)
      rw [toNat_jitter draw hlarge]
      omega
    · intro hn
      have hfits : n < UInt64.size := by
        have hc := c.toNat_lt
        simp only [UInt64.size]
        omega
      refine ⟨UInt64.ofNat n, ?_⟩
      rw [toNat_jitter _ hlarge, UInt64.toNat_ofNat_of_lt' hfits]
      exact Nat.mod_eq_of_lt (by omega)

/-- The delays that the draws give. -/
theorem exists_delayMs_iff : (∃ draw, (delayMs attempt base max draw).toNat = n) ↔
    lowest (ceiling attempt base max).toNat ≤ n ∧ n ≤ (ceiling attempt base max).toNat := by
  simp only [toNat_delayMs]
  generalize ceiling attempt base max = c
  constructor
  · rintro ⟨draw, rfl⟩
    have hjitter : (jitter c draw).toNat ≤ c.toNat / 10 - 1 := exists_jitter_iff.1 ⟨draw, rfl⟩
    unfold lowest
    omega
  · rintro ⟨hlow, hle⟩
    unfold lowest at hlow
    obtain ⟨draw, hdraw⟩ : ∃ draw, (jitter c draw).toNat = c.toNat - n := exists_jitter_iff.2 (by omega)
    exact ⟨draw, by omega⟩

end Delays

/-- What a `Backoff` is told. -/
inductive Report where
  /-- A failure, and what is drawn for the wait after it. -/
  | failure (draw : UInt64)
  | success
  deriving DecidableEq, Repr

def told (b : Backoff) : Report → Backoff
  | .failure draw => (b.next draw).1
  | .success => b.reset

/-- A new `Backoff` after it was told of failures and successes, the first one first. -/
def after (base max : Duration) (rs : List Report) : Backoff := rs.foldl told (ofBounds base max)

/-- How long is waited after one more failure. -/
def wait (base max : Duration) (rs : List Report) (draw : UInt64) : Duration :=
  ((after base max rs).next draw).2

/-- One more failure in a row, or none any more. -/
def Report.streak (n : Nat) : Report → Nat
  | .failure _ => n + 1
  | .success => 0

/-- How many failures there were since the last success. -/
def failuresInRow (rs : List Report) : Nat := rs.foldl Report.streak 0

/-- What is kept of a bound: whole milliseconds, and of these 64 bits. -/
def kept (d : Duration) : Nat := d.millis % UInt64.size

/-- Whatever happened before and whatever is drawn, the wait after failure `k + 1` in a row is longer than the one
after failure `k`. -/
def Lengthens (base max : Duration) (k : Nat) : Prop :=
  ∀ (rs : List Report) (draw next : UInt64), failuresInRow rs + 1 = k →
    (wait base max rs draw).nanos < (wait base max (rs ++ [.failure draw]) next).nanos

variable {base max : Duration} {rs : List Report} {k n : Nat}

/-- All that a `Backoff` keeps of what it is told. -/
structure Tracks (base max : Duration) (rs : List Report) (b : Backoff) : Prop where
  base : b.base = UInt64.ofNat base.millis
  max : b.max = UInt64.ofNat max.millis
  attempts : b.attempts.toNat = min (failuresInRow rs) (UInt32.size - 1)

theorem Tracks.toNat_bounds {b : Backoff} (h : Tracks base max rs b) :
    b.base.toNat = kept base ∧ b.max.toNat = kept max := by
  rw [h.base, h.max]
  exact ⟨UInt64.toNat_ofNat', UInt64.toNat_ofNat'⟩

theorem after_concat (rs : List Report) (r : Report) : after base max (rs ++ [r]) = (after base max rs).told r :=
  List.foldl_append

theorem failuresInRow_concat (rs : List Report) (r : Report) :
    failuresInRow (rs ++ [r]) = r.streak (failuresInRow rs) :=
  List.foldl_append

theorem Tracks.told {b : Backoff} (h : Tracks base max rs b) (r : Report) :
    Tracks base max (rs ++ [r]) (b.told r) := by
  have hsize : UInt32.size = 2 ^ 32 := rfl
  cases r with
  | failure draw =>
    refine ⟨h.base, h.max, ?_⟩
    rw [failuresInRow_concat]
    exact (toNat_attempts_fail b).trans (by rw [h.attempts, Report.streak]; omega)
  | success =>
    refine ⟨h.base, h.max, ?_⟩
    rw [failuresInRow_concat]
    rfl

theorem tracks_after (base max : Duration) (rs : List Report) : Tracks base max rs (after base max rs) := by
  induction rs using List.reverseRecOn with
  | nil => exact ⟨rfl, rfl, rfl⟩
  | append_singleton rs r ih =>
    rw [after_concat]
    exact ih.told r

theorem failuresInRow_replicate (k : Nat) (draw : UInt64) :
    failuresInRow (List.replicate k (.failure draw)) = k := by
  induction k with
  | zero => rfl
  | succ k ih =>
    rw [List.replicate_succ', failuresInRow_concat, ih]
    rfl

/-- The longest wait after failure `k` in a row, in milliseconds. -/
def longest (base max : Duration) (k : Nat) : Nat := min (kept base * 2 ^ (k - 1)) (kept max)

section Waits

variable (base max : Duration)

/-- The waits that the draws give, in milliseconds. -/
theorem exists_wait_iff (hk : failuresInRow rs + 1 = k) :
    (∃ draw, (wait base max rs draw).nanos = n * nanosPerMilli) ↔
      lowest (longest base max k) ≤ n ∧ n ≤ longest base max k := by
  have htracks := tracks_after base max rs
  generalize hb : after base max rs = b at htracks
  have hfail : b.fail.attempts.toNat = min k (UInt32.size - 1) := by
    have htold := (htracks.told (.failure 0)).attempts
    rw [failuresInRow_concat] at htold
    rw [← hk]
    exact htold
  have hpos : 0 < k := hk ▸ Nat.succ_pos _
  obtain ⟨hbase, hmax⟩ := htracks.toNat_bounds
  have hceiling : (ceiling b.fail.attempts b.base b.max).toNat = longest base max k := by
    rw [toNat_ceiling_of_failures hpos hfail, hbase, hmax, longest]
  have hwait (draw : UInt64) : (wait base max rs draw).nanos =
      (delayMs b.fail.attempts b.base b.max draw).toNat * nanosPerMilli := by
    rw [wait, hb]
    rfl
  have hmilli : nanosPerMilli ≠ 0 := by decide
  simp only [hwait, Nat.mul_left_inj hmilli]
  rw [exists_delayMs_iff, hceiling]

theorem wait_between (hk : failuresInRow rs + 1 = k) (draw : UInt64) :
    ∃ ms, (wait base max rs draw).nanos = ms * nanosPerMilli ∧
      lowest (longest base max k) ≤ ms ∧ ms ≤ longest base max k :=
  ⟨_, rfl, (exists_wait_iff base max hk).1 ⟨draw, rfl⟩⟩

/-- Each wait is longer than the last exactly if the longest of the one is below the lowest of the other. -/
theorem lengthens_iff_longest (hk : 0 < k) :
    Lengthens base max k ↔ longest base max k < lowest (longest base max (k + 1)) := by
  have hbelow (c : Nat) : lowest c ≤ c := Nat.sub_le _ _
  have hnext {rs : List Report} {draw : UInt64} (hrow : failuresInRow rs + 1 = k) :
      failuresInRow (rs ++ [.failure draw]) + 1 = k + 1 := by
    rw [failuresInRow_concat]
    exact congrArg (· + 1) hrow
  constructor
  · intro hlengthens
    have hrow : failuresInRow (List.replicate (k - 1) (.failure 0)) + 1 = k := by
      rw [failuresInRow_replicate]
      exact Nat.sub_add_cancel hk
    obtain ⟨draw, hlast⟩ := (exists_wait_iff base max hrow).2 ⟨hbelow _, Nat.le_refl _⟩
    obtain ⟨next, hwait⟩ := (exists_wait_iff base max (hnext hrow)).2 ⟨Nat.le_refl _, hbelow _⟩
    have hlonger := hlengthens _ draw next hrow
    rw [hlast, hwait] at hlonger
    exact Nat.lt_of_mul_lt_mul_right hlonger
  · intro hlt rs draw next hrow
    obtain ⟨ms, hlast, -, hle⟩ := wait_between base max hrow draw
    obtain ⟨ms', hwait, hlow, -⟩ := wait_between base max (hnext hrow) next
    rw [hlast, hwait]
    exact Nat.mul_lt_mul_of_pos_right (by omega) (by decide)

theorem mul_two_pow (n : Nat) (hk : 0 < k) : n * 2 ^ k = 2 * (n * 2 ^ (k - 1)) := by
  obtain ⟨j, rfl⟩ := Nat.exists_eq_add_of_le' hk
  rw [Nat.add_sub_cancel, Nat.pow_succ, ← Nat.mul_assoc, Nat.mul_comm]

/-- Each wait is longer than the last while something is doubled and the bound is not near. -/
theorem lengthens_iff (hk : 0 < k) :
    Lengthens base max k ↔ 0 < kept base ∧ kept base * 2 ^ (k - 1) < lowest (kept max) := by
  have hsome : 0 < kept base ↔ 0 < kept base * 2 ^ (k - 1) :=
    (Nat.mul_pos_iff_of_pos_right (Nat.two_pow_pos _)).symm
  rw [lengthens_iff_longest base max hk, longest, longest, Nat.add_sub_cancel, mul_two_pow _ hk, hsome]
  generalize kept base * 2 ^ (k - 1) = x
  generalize kept max = m
  unfold lowest
  omega

/-- What is kept of a bound is at most the bound. -/
theorem kept_le (d : Duration) : kept d * nanosPerMilli ≤ d.nanos :=
  Nat.le_trans (Nat.mul_le_mul_right _ (Nat.mod_le _ _)) (Nat.div_mul_le_self _ _)

theorem wait_le (rs : List Report) (draw : UInt64) : (wait base max rs draw).nanos ≤ max.nanos := by
  obtain ⟨ms, hwait, -, hle⟩ := wait_between base max rfl draw
  calc (wait base max rs draw).nanos
      = ms * nanosPerMilli := hwait
    _ ≤ kept max * nanosPerMilli := Nat.mul_le_mul_right _ (Nat.le_trans hle (Nat.min_le_right _ _))
    _ ≤ max.nanos := kept_le max

/-- After a success it is as if nothing had happened before. -/
theorem after_success (rs qs : List Report) : after base max (rs ++ .success :: qs) = after base max qs := by
  obtain ⟨hbase, hmax, -⟩ := tracks_after base max rs
  have hreset : (after base max rs).told .success = ofBounds base max := by
    simp only [told, reset, hbase, hmax, ofBounds]
  rw [after, List.foldl_append, List.foldl_cons]
  exact congrArg (List.foldl told · qs) hreset

end Waits

/-- Where the bounds fit 64 bits, each wait is longer until the bound is reached, if the first one comes to a
millisecond at all. -/
theorem lengthens_iff_millis (hk : 0 < k) (hroom : base.nanos * 2 ^ k ≤ max.nanos)
    (hfits : max.millis < UInt64.size) : Lengthens base max k ↔ nanosPerMilli ≤ base.nanos := by
  have hmilli : 0 < nanosPerMilli := by decide
  have hdoubled : base.millis * 2 ^ k ≤ max.millis := by
    rw [Duration.millis, Duration.millis, Nat.le_div_iff_mul_le hmilli]
    calc base.nanos / nanosPerMilli * 2 ^ k * nanosPerMilli
        = base.nanos / nanosPerMilli * nanosPerMilli * 2 ^ k := Nat.mul_right_comm _ _ _
      _ ≤ base.nanos * 2 ^ k := Nat.mul_le_mul_right _ (Nat.div_mul_le_self _ _)
      _ ≤ max.nanos := hroom
  have hle : base.millis ≤ base.millis * 2 ^ k := Nat.le_mul_of_pos_right _ (Nat.two_pow_pos k)
  have hbase : kept base = base.millis := Nat.mod_eq_of_lt (by omega)
  have hmax : kept max = max.millis := Nat.mod_eq_of_lt hfits
  have hsome : 0 < base.millis ↔ nanosPerMilli ≤ base.nanos := by
    rw [Duration.millis, Nat.div_pos_iff]
    exact and_iff_right hmilli
  rw [lengthens_iff base max hk, hbase, hmax, ← hsome]
  refine and_iff_left_of_imp fun hpos => ?_
  have hwait : 0 < base.millis * 2 ^ (k - 1) := Nat.mul_pos hpos (Nat.two_pow_pos _)
  rw [mul_two_pow _ hk] at hdoubled
  unfold lowest
  omega

/-- When each wait is longer than the one before: exactly if something is kept of the first bound and the longest
wait is below the lowest at the second bound. For bounds that leave room for one more doubling, of which the second
fits 64 bits, this is that the first comes to a millisecond. No wait is beyond the second bound, and a success
starts the sequence over. -/
theorem waits_lengthen_iff (base max : Duration) (hk : 0 < k) :
    (Lengthens base max k ↔ 0 < kept base ∧ kept base * 2 ^ (k - 1) < lowest (kept max)) ∧
      (base.nanos * 2 ^ k ≤ max.nanos → max.millis < UInt64.size →
        (Lengthens base max k ↔ nanosPerMilli ≤ base.nanos)) ∧
      (∀ rs draw, (wait base max rs draw).nanos ≤ max.nanos) ∧
      ∀ rs qs draw, wait base max (rs ++ .success :: qs) draw = wait base max qs draw :=
  ⟨lengthens_iff base max hk, lengthens_iff_millis hk, wait_le base max, fun rs qs draw => by
    rw [wait, after_success]
    rfl⟩

/-- From five milliseconds to a second there are seven doublings. -/
theorem waits_lengthen_to_a_second : 0 < 7 ∧
    (Duration.ofMillis 5).nanos * 2 ^ 7 ≤ (Duration.ofMillis 1000).nanos ∧
      (Duration.ofMillis 1000).millis < UInt64.size ∧ Lengthens (.ofMillis 5) (.ofMillis 1000) 7 := by
  have hk : 0 < 7 := by decide
  have hroom : (Duration.ofMillis 5).nanos * 2 ^ 7 ≤ (Duration.ofMillis 1000).nanos := by decide
  have hfits : (Duration.ofMillis 1000).millis < UInt64.size := by decide
  have hmilli : nanosPerMilli ≤ (Duration.ofMillis 5).nanos := by decide
  obtain ⟨-, hlengthens, -⟩ := waits_lengthen_iff (.ofMillis 5) (.ofMillis 1000) hk
  exact ⟨hk, hroom, hfits, (hlengthens hroom hfits).2 hmilli⟩

/-- Half a millisecond. -/
def halfMilli : Duration := ⟨500000, by decide⟩

/-- With half a millisecond to begin with, which leaves room for many doublings, the second failure is waited for no
longer than the first one: not at all. -/
theorem half_milli_never_waited : 0 < halfMilli.nanos ∧ halfMilli.nanos * 2 ^ 1 ≤ (Duration.ofMillis 1000).nanos ∧
    wait halfMilli (.ofMillis 1000) [] 0 = .zero ∧ wait halfMilli (.ofMillis 1000) [.failure 0] 0 = .zero ∧
      ¬ Lengthens halfMilli (.ofMillis 1000) 1 := by
  have hfirst : wait halfMilli (.ofMillis 1000) [] 0 = .zero := by decide
  have hsecond : wait halfMilli (.ofMillis 1000) [.failure 0] 0 = .zero := by decide
  refine ⟨by decide, by decide, hfirst, hsecond, fun hlengthens => ?_⟩
  have hlonger := hlengthens [] 0 0 rfl
  rw [List.nil_append, hfirst, hsecond] at hlonger
  exact Nat.lt_irrefl _ hlonger

end PooledTcp.Backoff
