import PooledTcp.Run
import PooledTcp.Tracker.Basic

/-!
# What an event does to trackers

`Move` has one case for each kind of event. The lemmas before it say what a change of a count, of a guard or of a task
makes of a count and of the waits, and what it leaves as it was.
-/

namespace PooledTcp.Trackers

variable {b c : Trackers} {i j : TrackerId} {g : GuardId} {t t' : TaskId} {w : IdleWait} {stage : IdleStage}
  {e : Event} {n remaining : Nat}

/-! ### Counts -/

theorem lt_length_of_count (h : 0 < b.count i) : i < b.counts.length := by
  rcases Nat.lt_or_ge i b.counts.length with hlt | hge
  · exact hlt
  · rw [count, List.getD_eq_getElem?_getD, List.getElem?_eq_none hge] at h
    cases h

theorem count_create (b : Trackers) (i : TrackerId) :
    count { b with counts := b.counts ++ [0] } i = b.count i := by
  simp only [count, List.getD_eq_getElem?_getD, List.getElem?_append]
  split
  · rfl
  · rename_i hge
    rw [List.getElem?_eq_none (Nat.le_of_not_lt hge)]
    cases i - b.counts.length <;> rfl

theorem count_setCount (h : i < b.counts.length) (n : Nat) (j : TrackerId) :
    (b.setCount i n).count j = if i = j then n else b.count j := by
  simp only [count, setCount, note, List.getD_eq_getElem?_getD, List.getElem?_set, h, if_true]
  split
  · rename_i heq
    subst heq
    rfl
  · rfl

/-! ### Guards -/

/-- The guards that were made, and their trackers, latest first. -/
def made (b : Trackers) : List (GuardId × TrackerId) :=
  b.history.filterMap fun
    | .made guard tracker => some (guard, tracker)
    | _ => none

theorem made_giveNumber : (b.giveNumber i).made = (b.nextGuard, i) :: b.made := rfl

/-- What a guard that tells leaves as it was. -/
theorem closeGuard_frame (b : Trackers) (g : GuardId) (i : TrackerId) (remaining : Nat) :
    (b.closeGuard g i remaining).counts = b.counts ∧ (b.closeGuard g i remaining).making = b.making ∧
      (b.closeGuard g i remaining).guards = b.guards ∧
      (b.closeGuard g i remaining).nextGuard = b.nextGuard ∧
      (b.closeGuard g i remaining).made = b.made := by
  unfold closeGuard
  dsimp only
  split <;> exact ⟨rfl, rfl, rfl, rfl, rfl⟩

theorem closing_closeGuard :
    (b.closeGuard g i remaining).closing = b.closing.filter (·.1 != g) := by
  unfold closeGuard
  dsimp only
  split <;> rfl

theorem lookup_closeGuard (t : TaskId) : (b.closeGuard g i remaining).waits.lookup t =
    if remaining = 0 then (b.waits.lookup t).map (IdleWait.tell i) else b.waits.lookup t := by
  unfold closeGuard
  dsimp only
  split
  · exact lookup_map (IdleWait.tell i) t b.waits
  · rfl

/-! ### Tasks -/

/-- What a task that moves leaves as it was. -/
theorem moveTo_frame (b : Trackers) (t : TaskId) (w : IdleWait) (stage : IdleStage) :
    (b.moveTo t w stage).counts = b.counts ∧ (b.moveTo t w stage).making = b.making ∧
      (b.moveTo t w stage).guards = b.guards ∧ (b.moveTo t w stage).nextGuard = b.nextGuard ∧
      (b.moveTo t w stage).made = b.made := by
  unfold moveTo
  dsimp only
  split <;> exact ⟨rfl, rfl, rfl, rfl, rfl⟩

theorem closing_moveTo : (b.moveTo t w stage).closing = b.closing := by
  unfold moveTo
  dsimp only
  split <;> rfl

theorem waits_moveTo : (b.moveTo t w stage).waits = put t { w with stage } b.waits := by
  unfold moveTo
  dsimp only
  split <;> rfl

theorem lookup_moveTo_self : (b.moveTo t w stage).waits.lookup t = some { w with stage } := by
  rw [waits_moveTo, lookup_put_self]

theorem lookup_moveTo_of_ne (h : t' ≠ t) :
    (b.moveTo t w stage).waits.lookup t' = b.waits.lookup t' := by
  rw [waits_moveTo, lookup_put_of_ne h]

/-! ### Events -/

theorem step_wait_iff : b.step (.wait t i) = some c ↔ b.waits.lookup t = none ∧ i < b.counts.length ∧
    { b with waits := (t, { tracker := i, stage := .begun }) :: b.waits } = c := by
  simp only [step, Option.ite_none_left_eq_some, Bool.or_eq_true, decide_eq_true_eq, not_or,
    Option.not_isSome_iff_eq_none, Nat.not_le, Option.some.injEq, and_assoc]

theorem step_run_iff : b.step (.run t) = some c ↔ ∃ w stage, b.waits.lookup t = some w ∧
    w.stage.next? (b.count w.tracker) = some stage ∧ b.moveTo t w stage = c := by
  simp only [step, Option.bind_eq_bind, Option.bind_eq_some_iff, Option.pure_def, Option.some.injEq,
    exists_and_left]

theorem step_abort_iff : b.step (.abort t) = some c ↔ ∃ w stage, b.waits.lookup t = some w ∧
    w.stage.cut? = some stage ∧ b.moveTo t w stage = c := by
  simp only [step, Option.bind_eq_bind, Option.bind_eq_some_iff, Option.pure_def, Option.some.injEq,
    exists_and_left]

/-- What comes of each event. -/
inductive Move (b : Trackers) : Event → Trackers → Prop where
  | create : Move b .create { b with counts := b.counts ++ [0] }
  | track {i : TrackerId} : i < b.counts.length →
    Move b (.track i) ({ b with making := i :: b.making }.setCount i (b.count i + 1))
  | number {i : TrackerId} : i ∈ b.making → Move b (.number i) (b.giveNumber i)
  | skip : Move b .skip { b with nextGuard := b.nextGuard + 1 }
  | drop {g : GuardId} {i : TrackerId} : b.guards.lookup g = some i → Move b (.drop g) (b.dropGuard g i)
  | close {g : GuardId} {i : TrackerId} {remaining : Nat} : b.closing.lookup g = some (i, remaining) →
    Move b (.close g) (b.closeGuard g i remaining)
  | wait {t : TaskId} {i : TrackerId} : b.waits.lookup t = none → i < b.counts.length →
    Move b (.wait t i) { b with waits := (t, { tracker := i, stage := .begun }) :: b.waits }
  | run {t : TaskId} {w : IdleWait} {stage : IdleStage} : b.waits.lookup t = some w →
    w.stage.next? (b.count w.tracker) = some stage → Move b (.run t) (b.moveTo t w stage)
  | abort {t : TaskId} {w : IdleWait} {stage : IdleStage} : b.waits.lookup t = some w →
    w.stage.cut? = some stage → Move b (.abort t) (b.moveTo t w stage)

theorem Move.of_step (h : b.step e = some c) : Move b e c := by
  cases e with
  | create =>
    cases h
    exact .create
  | track i =>
    obtain ⟨hi, h⟩ := Option.ite_none_right_eq_some.1 h
    cases h
    exact .track hi
  | number i =>
    obtain ⟨hi, h⟩ := Option.ite_none_right_eq_some.1 h
    cases h
    exact .number hi
  | skip =>
    cases h
    exact .skip
  | drop g =>
    obtain ⟨i, hg, rfl⟩ := Option.map_eq_some_iff.1 h
    exact .drop hg
  | close g =>
    obtain ⟨⟨i, remaining⟩, hg, rfl⟩ := Option.map_eq_some_iff.1 h
    exact .close hg
  | wait t i =>
    obtain ⟨hfree, hi, rfl⟩ := step_wait_iff.1 h
    exact .wait hfree hi
  | run t =>
    obtain ⟨w, stage, hw, hnext, rfl⟩ := step_run_iff.1 h
    exact .run hw hnext
  | abort t =>
    obtain ⟨w, stage, hw, hcut, rfl⟩ := step_abort_iff.1 h
    exact .abort hw hcut

end PooledTcp.Trackers
