import PooledTcp.Proofs.Stream.Session
import PooledTcp.Run
import PooledTcp.Stream.Pipe

/-!
# Deadlines bite

Whatever is asked of a wrapped stream, and whatever else happens to it, nothing is moved once the deadline has
fired, and nobody waits past it: who still waits when it fires has been woken, and time stands until the
operation has failed (`deadlines_bite`). What it has moved by then is the beginning of what it was to move.

The deadline fires at the timeout after the wrapping, in whole milliseconds. Where that moment cannot be told it
fires thirty years after the wrapping (`longest_timeout_fires_early`).

Of who waits without being woken it is kept that the timer has not fired and was looked at, so that time cannot
pass it by; of everybody who waits, that time has not passed the deadline since the operation was asked for
(`Attended`).
-/

namespace PooledTcp

namespace Session

open Deadlined

variable {σ : Type} {s : Nat → Stream σ} {made : Nat} {read write : Duration} {u v : Session σ} {half : Half}
  {w : Waiting}

/-- What is known of who waits in a half. -/
structure Attended (made : Nat) (read write : Duration) (u : Session σ) (half : Half) (w : Waiting) : Prop where
  place : w.op.half = half
  moved : Moved w.asked (u.moved half w) w.op
  earlier : w.earlier ≤ (u.stream.inner.moved half).length
  since : w.since ≤ u.now
  asks : w.since < u.now → w.op.asks = true
  parked : w.woken = false → w.op.asks = true ∧ Parked u.now w.op u.stream
  due : ∀ t, dueOf made read write w.op = some t → u.now ≤ max w.since t

/-- An operation that was asked for before its deadline and was not over when that fired was cut off then. -/
def Timely (made : Nat) (read write : Duration) (e : Ended) : Prop :=
  ∀ t, dueOf made read write e.who.asked = some t → e.who.since < t → t ≤ e.time →
    e.time = t ∧ e.result = .error (exceeded e.who.asked.half) ∧ Moved e.who.asked e.moved e.who.op

/-- What every event keeps. -/
structure Attentive (made : Nat) (read write : Duration) (u : Session σ) : Prop where
  deadlines : u.stream.deadline? = (wrap u.stream.inner made read write).deadline?
  portions : ∀ half t, due made read write half = some t → ∀ q ∈ u.stream.inner.moved half, q.1 < t
  waiting : ∀ half w, u.waiting half = some w → Attended made read write u half w
  ended : ∀ e ∈ u.ended, Timely made read write e

section Places

@[simp] theorem waiting_wait_self (u : Session σ) (half : Half) (o : Option Waiting) :
    (u.wait half o).waiting half = o := by
  cases half <;> rfl

theorem waiting_wait_of_ne (u : Session σ) {half k : Half} (h : k ≠ half) (o : Option Waiting) :
    (u.wait half o).waiting k = u.waiting k := by
  cases half <;> cases k <;> first | rfl | exact absurd rfl h

theorem wait_wait (u : Session σ) (half : Half) (o o' : Option Waiting) :
    (u.wait half o).wait half o' = u.wait half o' := by
  cases half <;> rfl

@[simp] theorem stream_wait (u : Session σ) (half : Half) (o : Option Waiting) :
    (u.wait half o).stream = u.stream := by
  cases half <;> rfl

@[simp] theorem now_wait (u : Session σ) (half : Half) (o : Option Waiting) : (u.wait half o).now = u.now := by
  cases half <;> rfl

@[simp] theorem ended_wait (u : Session σ) (half : Half) (o : Option Waiting) :
    (u.wait half o).ended = u.ended := by
  cases half <;> rfl

end Places

/-- Who has looked at a timer is woken by it when the deadline fires. -/
theorem alarm_eq (h : u.stream.deadline? = (wrap u.stream.inner made read write).deadline?)
    (hparked : Parked u.now w.op u.stream) : u.alarm w = dueOf made read write w.op := by
  rw [alarm, dueOf_eq h]
  cases htimer : u.stream.timerOf w.op with
  | none => rfl
  | some t =>
    have hwatched := hparked.watched
    rw [htimer, Option.all_some] at hwatched
    rw [Option.bind_some, Option.map_some, Timer.alarm, if_pos hwatched]

/-- Who waits is attended to as before where nothing is moved in that half and no time passes. -/
theorem Attended.of_frame (h : Attended made read write u half w) (hnow : v.now = u.now)
    (hmoved : v.stream.inner.moved half = u.stream.inner.moved half)
    (hdeadlines : v.stream.deadline? = u.stream.deadline?)
    (hwatched : ∀ k, u.stream.Watched k → v.stream.Watched k) : Attended made read write v half w := by
  refine ⟨h.place, ?_, hmoved ▸ h.earlier, hnow ▸ h.since, hnow ▸ h.asks, fun hw => ?_, hnow ▸ h.due⟩
  · rw [Session.moved, hmoved]
    exact h.moved
  · rw [hnow]
    exact (h.parked hw).imp id fun hparked => hparked.mono hdeadlines hwatched

theorem Attended.wait (h : Attended made read write u half w) (k : Half) (o : Option Waiting) :
    Attended made read write (u.wait k o) half w := by
  refine h.of_frame (now_wait u k o) ?_ ?_ ?_
  · rw [stream_wait]
  · rw [stream_wait]
  · rw [stream_wait]
    exact fun _ => id

/-- Waking somebody, for whatever reason, leaves nothing unattended. -/
theorem Attended.wake (h : Attended made read write u half w) :
    Attended made read write u half { w with woken := true } :=
  ⟨h.place, h.moved, h.earlier, h.since, h.asks, nofun, h.due⟩

/-- Time passes for who is not woken, up to the deadline, and then it wakes them. -/
theorem Attended.pass (h : Attended made read write u half w)
    (hdeadlines : u.stream.deadline? = (wrap u.stream.inner made read write).deadline?)
    (hwoken : w.woken = false) (hle : u.now ≤ v.now) (halarm : (u.alarm w).all (v.now ≤ ·) = true)
    (hstream : v.stream = u.stream) :
    Attended made read write v half { w with woken := (u.alarm w).any (· ≤ v.now) } := by
  obtain ⟨hasks, hparked⟩ := h.parked hwoken
  rw [alarm_eq hdeadlines hparked] at halarm ⊢
  refine ⟨h.place, ?_, hstream ▸ h.earlier, Nat.le_trans h.since hle, fun _ => hasks,
    fun hquiet => ⟨hasks, ?_, ?_⟩, fun t ht => ?_⟩
  · rw [Session.moved, hstream]
    exact h.moved
  · rw [hstream, refuses_eq_not_admits hdeadlines, admits]
    cases hdue : dueOf made read write w.op with
    | none => rfl
    | some t =>
      rw [hdue, Option.any_some, decide_eq_false_iff_not, Nat.not_le] at hquiet
      rw [Option.all_some, decide_eq_true hquiet]
      rfl
  · rw [hstream]
    exact hparked.watched
  · rw [ht, Option.all_some, decide_eq_true_eq] at halarm
    exact Nat.le_trans halarm (Nat.le_max_right _ _)

namespace Attentive

/-- Somebody else waits in one half, or nobody any more. -/
theorem wait (hu : Attentive made read write u) (k : Half) (o : Option Waiting)
    (ho : ∀ w, o = some w → Attended made read write u k w) : Attentive made read write (u.wait k o) := by
  refine ⟨?_, ?_, fun half w hw => ?_, ?_⟩
  · rw [stream_wait]
    exact hu.deadlines
  · rw [stream_wait]
    exact hu.portions
  · by_cases hk : half = k
    · subst hk
      rw [waiting_wait_self] at hw
      exact (ho w hw).wait half o
    · rw [waiting_wait_of_ne u hk] at hw
      exact (hu.waiting half w hw).wait k o
  · rw [ended_wait]
    exact hu.ended

/-- A poll in one half leaves the other half attended. -/
theorem advance {news : List (Nat × Bytes)} {e : Deadlined (Metered σ)} (hu : Attentive made read write u)
    (h : Advance u.now half news u.stream e) :
    Attentive made read write ({ u with stream := e }.wait half none) := by
  have hdeadlines := h.deadlines.trans hu.deadlines
  refine ⟨?_, fun k t ht q hq => ?_, fun k w hw => ?_, ?_⟩
  · rw [stream_wait]
    exact hdeadlines
  · rw [stream_wait] at hq
    by_cases hk : k = half
    · subst hk
      rw [h.moved] at hq
      rcases List.mem_append.1 hq with hq | hq
      · exact hu.portions k t ht q hq
      · obtain ⟨htime, hopen⟩ := h.times q hq
        rw [htime]
        exact lt_due hu.deadlines hopen ht
    · rw [h.others k hk] at hq
      exact hu.portions k t ht q hq
  · by_cases hk : k = half
    · subst hk
      rw [waiting_wait_self] at hw
      cases hw
    · rw [waiting_wait_of_ne _ hk] at hw
      have hattended : Attended made read write { u with stream := e } k w :=
        (hu.waiting k w (by cases k <;> exact hw)).of_frame rfl (h.others k hk) h.deadlines h.watched
      exact hattended.wait half none
  · rw [ended_wait]
    exact hu.ended

/-- Who has to wait after a poll is attended to. -/
theorem parked (hu : Attentive made read write u) (hw : u.waiting half = some w)
    {news : List (Nat × Bytes)} {op : Operation} {e : Deadlined (Metered σ)}
    (h : Polled u.now w.op u.stream news (.pending, op, e)) :
    Attended made read write { u with stream := e } half { w with op, woken := false } := by
  have hattended := hu.waiting half w hw
  obtain rfl := hattended.place
  obtain ⟨hmoved, hasks, hparked⟩ := h.parked rfl
  have hall : e.inner.moved w.op.half = u.stream.inner.moved w.op.half ++ news := h.advance.moved
  refine ⟨hmoved.half_eq, ?_, ?_, hattended.since, fun _ => hasks, fun _ => ⟨hasks, hparked⟩, ?_⟩
  · have hbytes : Session.moved { u with stream := e } w.op.half { w with op, woken := false } =
        u.moved w.op.half w ++ Metered.bytes news := by
      rw [Session.moved, hall, List.drop_append_of_le_length hattended.earlier]
      exact List.flatMap_append
    rw [hbytes]
    exact hattended.moved.trans hmoved
  · rw [hall, List.length_append]
    exact Nat.le_add_right_of_le hattended.earlier
  · rw [hmoved.dueOf_eq]
    exact hattended.due

/-- Who asked in time and still waits when the deadline has fired is refused, just then. -/
theorem refused (hu : Attentive made read write u) (hw : u.waiting half = some w) {t : Nat}
    (ht : dueOf made read write w.asked = some t) (hsince : w.since < t) (hle : t ≤ u.now) (s : Stream σ) :
    u.now = t ∧ (Deadlined.stream (s.metered u.now) u.now).poll w.op u.stream =
      (.ready (.error (exceeded half)), w.op, u.stream) := by
  have hattended := hu.waiting half w hw
  have hdue := hattended.moved.dueOf_eq.trans ht
  have hlate := hattended.due t hdue
  rw [Nat.max_eq_right (Nat.le_of_lt hsince)] at hlate
  have hrefused := refuses_of_due hu.deadlines hdue hle
  rw [poll_refused _ hrefused (hattended.asks (Nat.lt_of_lt_of_le hsince hle)), hattended.place]
  exact ⟨Nat.le_antisymm hlate hle, rfl⟩

theorem finish {result : Except IoError Outcome} (hu : Attentive made read write (u.wait half none))
    (h : Timely made read write { who := w, time := u.now, moved := u.moved half w, result }) :
    Attentive made read write (u.finish half w result) := by
  have hended := hu.ended
  rw [ended_wait] at hended
  refine ⟨hu.deadlines, hu.portions, fun k w hw => ?_, List.forall_mem_cons.2 ⟨h, hended⟩⟩
  exact (hu.waiting k w (by cases k <;> exact hw)).of_frame rfl rfl rfl fun _ => id

theorem poll (hu : Attentive made read write u) (hw : u.waiting half = some w) (s : Nat → Stream σ) :
    Attentive made read write (u.poll s half w) := by
  obtain ⟨news, hpolled⟩ := poll_spec (s u.now) u.now w.op u.stream
  rcases hpoll : (Deadlined.stream ((s u.now).metered u.now) u.now).poll w.op u.stream with ⟨p, op, e⟩
  rw [hpoll] at hpolled
  rw [Session.poll, hpoll]
  have hrest : Attentive made read write ({ u with stream := e }.wait half none) :=
    hu.advance ((hu.waiting half w hw).place ▸ hpolled.advance)
  cases p with
  | pending =>
    have hparked := (hu.parked hw hpolled).wait half none
    have hwaits := hrest.wait half (some { w with op, woken := false }) fun _ h => by cases h; exact hparked
    rwa [wait_wait] at hwaits
  | ready result =>
    refine hrest.finish fun t ht hsince hle => ?_
    obtain ⟨hnow, hrefused⟩ := hu.refused hw ht hsince hle (s u.now)
    rw [hpoll] at hrefused
    cases hrefused
    obtain ⟨hplace, hmoved, -⟩ := hu.waiting half w hw
    refine ⟨hnow, ?_, hmoved⟩
    show Except.error (exceeded half) = .error (exceeded w.asked.half)
    rw [← hmoved.half_eq, hplace]

theorem pass (hu : Attentive made read write u) {nanos : Nat} (hstep : u.step s (.pass nanos) = some v) :
    Attentive made read write v := by
  simp only [Session.step, Option.ite_none_right_eq_some, Option.some.injEq, Bool.and_eq_true] at hstep
  obtain ⟨⟨hreading, hwriting⟩, rfl⟩ := hstep
  have hstill (half : Half) : u.Still (u.now + nanos) half = true := by cases half <;> assumption
  refine ⟨hu.deadlines, hu.portions, fun half w hw => ?_, hu.ended⟩
  have hring : u.ring (u.now + nanos) half = some w := by cases half <;> exact hw
  obtain ⟨w, hwaits, rfl⟩ := Option.map_eq_some_iff.1 hring
  have hstill := hstill half
  rw [Still, hwaits, Option.all_some, Bool.and_eq_true, Bool.not_eq_true'] at hstill
  exact (hu.waiting half w hwaits).pass hu.deadlines hstill.1 (Nat.le_add_right _ _) hstill.2 rfl

theorem step {e : Event σ} (hu : Attentive made read write u) (hstep : u.step s e = some v) :
    Attentive made read write v := by
  cases e with
  | ask op =>
    simp only [Session.step, Option.ite_none_left_eq_some, Option.some.injEq] at hstep
    obtain ⟨-, rfl⟩ := hstep
    refine hu.wait _ _ fun w hw => ?_
    cases hw
    refine ⟨rfl, ?_, Nat.le_refl _, Nat.le_refl _, fun h => absurd h (Nat.lt_irrefl _), nofun,
      fun t _ => Nat.le_max_left _ _⟩
    rw [Session.moved, List.drop_length]
    exact .nothing op
  | poll half =>
    simp only [Session.step, Option.map_eq_some_iff, Option.filter_eq_some_iff] at hstep
    obtain ⟨w, ⟨hw, -⟩, rfl⟩ := hstep
    exact hu.poll hw s
  | giveUp half =>
    simp only [Session.step, Option.ite_none_right_eq_some, Option.some.injEq] at hstep
    obtain ⟨-, rfl⟩ := hstep
    exact hu.wait half none nofun
  | wake half =>
    simp only [Session.step, Option.map_eq_some_iff] at hstep
    obtain ⟨w, hw, rfl⟩ := hstep
    refine hu.wait _ _ fun w' hw' => ?_
    cases hw'
    exact (hu.waiting half w hw).wake
  | outside change =>
    cases hstep
    refine ⟨hu.deadlines, hu.portions, fun half w hw => ?_, hu.ended⟩
    exact (hu.waiting half w hw).of_frame rfl rfl rfl fun k => by cases k <;> exact id
  | pass nanos => exact hu.pass hstep

theorem start (x : σ) (made : Nat) (read write : Duration) :
    Attentive made read write (Session.start x made read write) := by
  refine ⟨rfl, fun half t _ => ?_, fun half w hw => ?_, List.forall_mem_nil _⟩
  · cases half <;> nofun
  · cases half <;> cases hw

end Attentive

/-- Who is not woken waits for a deadline that has not fired. -/
theorem Attentive.lt_due (hu : Attentive made read write u) (hw : u.waiting half = some w)
    (hwoken : w.woken = false) {t : Nat} (ht : dueOf made read write w.op = some t) : u.now < t := by
  obtain ⟨-, hopen, -⟩ := (hu.waiting half w hw).parked hwoken
  refine Nat.lt_of_not_le fun hle => ?_
  cases hopen.symm.trans (refuses_of_due hu.deadlines ht hle)

end Session
end PooledTcp
