import PooledTcp.Proofs.Signal.Apart
import PooledTcp.Proofs.Signal.Waits

/-!
# A signal is given once

Of the triggers of a signal the first alone is told that it was the first, and from then on the signal is triggered
(`answers_of_run`). Where no task can go on, those that were started for a signal and not aborted are still waiting
before it is triggered, and none is afterwards, however late it was started (`given_once`).
-/

namespace PooledTcp.Signals

variable {b c : Signals} {s : SignalId} {t : TaskId} {w : SignalWait} {e : Event} {es : List Event}

/-- As many answers, latest first; only the first one is yes. -/
def firstOnly : Nat → List Bool
  | 0 => []
  | n + 1 => List.replicate n false ++ [true]

theorem firstOnly_succ (n : Nat) : firstOnly (n + 1) = decide (n = 0) :: firstOnly n := by
  cases n <;> rfl

theorem Move.answers (h : Move b e c) (s : SignalId) :
    c.answers s = if e = .trigger s then (!b.isTriggered s) :: b.answers s else b.answers s := by
  cases h with
  | create | wait | run | abort => rfl
  | handle count he _ => rcases he with rfl | rfl <;> rfl
  | @trigger s' signal hheld =>
    rw [answers_fire]
    by_cases hs : s' = s
    · subst hs
      have htriggered : b.isTriggered s' = signal.triggered := by
        simp [Signals.isTriggered, getElem?_of_held hheld]
      rw [if_pos rfl, if_pos rfl, htriggered]
    · rw [if_neg hs, if_neg (by simpa using hs)]

/-- The first trigger of a signal is told so, and no other one is; the signal is triggered from then on. -/
theorem answers_of_run (h : Run step {} es b) (s : SignalId) :
    b.answers s = firstOnly (es.count (.trigger s)) ∧ (b.isTriggered s = true ↔ .trigger s ∈ es) := by
  refine h.induction_last (P := fun es b => b.answers s = firstOnly (es.count (.trigger s)) ∧
    (b.isTriggered s = true ↔ .trigger s ∈ es)) ⟨rfl, by simp [isTriggered]⟩ ?_
  rintro fs e u v ⟨hanswers, htriggered⟩ hstep
  have hmove := Move.of_step hstep
  constructor
  · rw [hmove.answers, hanswers, List.count_append]
    by_cases he : e = .trigger s
    · subst he
      have hfirst : (!u.isTriggered s) = decide (fs.count (.trigger s) = 0) := by
        rw [Bool.eq_iff_iff, Bool.not_eq_true', ← Bool.not_eq_true, htriggered, decide_eq_true_eq,
          List.count_eq_zero]
      rw [if_pos rfl, hfirst, List.count_singleton_self, firstOnly_succ]
    · rw [if_neg he, List.count_singleton, if_neg (by simpa using he), Nat.add_zero]
  · rw [hmove.isTriggered, htriggered, List.mem_append, List.mem_singleton, eq_comm]

/-- Task `t` was started to wait for the signal, and its wait has not ended. -/
def Pending (b : Signals) (t : TaskId) (s : SignalId) : Prop :=
  ∃ w, b.waits.lookup t = some w ∧ w.signal = s ∧ w.stage.pending = true

/-- Where no task can go on, each one sleeps or has ended. -/
theorem Quiet.stage (h : b.Quiet) (hw : b.waits.lookup t = some w) :
    w.stage = .listening false ∨ w.stage = .finished ∨ w.stage = .aborted := by
  have hnext : w.stage.next? (b.isTriggered w.signal) = none := by
    refine Option.eq_none_iff_forall_ne_some.2 fun stage hstage => ?_
    exact absurd (step_run_iff.2 ⟨w, stage, hw, hstage, rfl⟩) (by simp [h t])
  match hstage : w.stage with
  | .begun | .subscribed | .listening true => rw [hstage] at hnext; cases hnext
  | .listening false => exact .inl rfl
  | .finished => exact .inr (.inl rfl)
  | .aborted => exact .inr (.inr rfl)

/-- Where no task can go on, the waits that have not ended are those that receive. -/
theorem Quiet.pending_iff (h : b.Quiet) (t : TaskId) (s : SignalId) : b.Pending t s ↔ b.Receiving t s := by
  refine exists_congr fun w => and_congr_right fun hw => and_congr_right fun _ => ?_
  rcases h.stage hw with hstage | hstage | hstage <;> rw [hstage] <;> rfl

/-- Before the trigger a wait ends by being aborted alone. -/
theorem Quiet.pending_iff_waiting (h : b.Quiet) (hsound : Sound es b) (hfresh : b.isTriggered s = false)
    (t : TaskId) : b.Pending t s ↔ t ∈ waiting es s := by
  rw [mem_waiting, hsound.booked.started, hsound.booked.aborted]
  constructor
  · rintro ⟨w, hw, hs, hpending⟩
    refine ⟨⟨w, hw, hs⟩, ?_⟩
    rintro ⟨w', hw', haborted⟩
    cases hw.symm.trans hw'
    rw [haborted] at hpending
    cases hpending
  · rintro ⟨⟨w, hw, rfl⟩, hnot⟩
    refine ⟨w, hw, rfl, ?_⟩
    rcases h.stage hw with hstage | hstage | hstage
    · rw [hstage]
      rfl
    · have htriggered := hsound.awake t w hw
      rw [hstage, hfresh] at htriggered
      cases htriggered
    · exact absurd ⟨w, hw, hstage⟩ hnot

/-- After the trigger no task sleeps. -/
theorem Quiet.not_pending (h : b.Quiet) (hsound : Sound es b) (htriggered : b.isTriggered s = true)
    (t : TaskId) : ¬ b.Pending t s := by
  rintro ⟨w, hw, rfl, hpending⟩
  rcases h.stage hw with hstage | hstage | hstage
  · have hheard := hsound.awake t w hw
    rw [hstage, htriggered] at hheard
    cases hheard
  · rw [hstage] at hpending
    cases hpending
  · rw [hstage] at hpending
    cases hpending

/-- Of the triggers of a signal the first alone is told that it was the first, and the signal is triggered from then
on. Where no task can go on, exactly those tasks wait for a signal that is not triggered which were started for it and
not aborted, and it counts them; for a triggered signal none waits. And all of that is as if nothing had happened to
any other signal. -/
theorem given_once (h : Run step {} es b) (s : SignalId) :
    b.answers s = firstOnly (es.count (.trigger s)) ∧
    (b.isTriggered s = true ↔ .trigger s ∈ es) ∧
    (b.Quiet → b.isTriggered s = false → (waiting es s).Nodup ∧
      (∀ t, b.Pending t s ↔ t ∈ waiting es s) ∧ b.receiverCount s = (waiting es s).length) ∧
    (b.Quiet → b.isTriggered s = true → (∀ t, ¬ b.Pending t s) ∧ b.receiverCount s = 0) ∧
    ∃ c, Run step {} (b.own s es) c ∧ Alike s b c := by
  have hsound := Sound.of_run h
  obtain ⟨hanswers, htriggered⟩ := answers_of_run h s
  refine ⟨hanswers, htriggered, fun hquiet hfresh => ?_, fun hquiet hgiven => ?_, apart h .initial⟩
  · have hpending := hquiet.pending_iff_waiting hsound hfresh
    have hsame : (b.receivers s).Perm (waiting es s) := by
      refine (List.perm_ext_iff_of_nodup (hsound.attended.nodup s) (nodup_waiting h s)).2 fun t => ?_
      rw [hsound.attended.mem_iff, ← hquiet.pending_iff, hpending]
    exact ⟨nodup_waiting h s, hpending, by rw [receiverCount_eq, hsame.length_eq]⟩
  · have hnone := hquiet.not_pending hsound hgiven
    refine ⟨hnone, ?_⟩
    rw [receiverCount_eq, List.length_eq_zero_iff, List.eq_nil_iff_forall_not_mem]
    intro t ht
    exact hnone t ((hquiet.pending_iff t s).2 ((hsound.attended.mem_iff s t).1 ht))

/-- A task that was not started cannot go on. -/
theorem quiet_of_tasks (h : ∀ t ∈ b.waits.map Prod.fst, (b.step (.run t)).isNone) : b.Quiet := by
  intro t
  by_cases ht : t ∈ b.waits.map Prod.fst
  · exact Option.isNone_iff_eq_none.1 (h t ht)
  · refine Option.eq_none_iff_forall_ne_some.2 fun c hc => ht ?_
    obtain ⟨w, -, hw, -⟩ := step_run_iff.1 hc
    exact mem_keys_iff.2 (by rw [hw]; rfl)

/-- One task waits for a signal that has two handles, another wait for it was aborted, and a third task waits for
another signal. -/
def twoAsleep : Signals :=
  { signals := [{ handles := 2, receivers := [1] }, { receivers := [7] }]
    waits := [(2, { signal := 0, stage := .aborted }), (7, { signal := 1, stage := .listening false }),
      (1, { signal := 0, stage := .listening false })] }

/-- The same after the first signal was triggered twice and a late task came to wait for it. -/
def oneAsleep : Signals :=
  { signals := [{ triggered := true }, { receivers := [7] }]
    waits := [(3, { signal := 0, stage := .finished }), (1, { signal := 0, stage := .finished }),
      (2, { signal := 0, stage := .aborted }), (7, { signal := 1, stage := .listening false })]
    triggers := [(0, false), (0, true)] }

/-- A late wait for a triggered signal ends, and one for another signal goes on. -/
theorem given_once_before_late_wait :
    Run step {} [.create, .create, .clone 0, .wait 1 0, .run 1, .wait 2 0, .run 2, .run 1, .run 2, .wait 7 1,
      .run 7, .run 7, .abort 2] twoAsleep ∧
    twoAsleep.Quiet ∧ (∀ t, twoAsleep.Pending t 0 ↔ t ∈ [1]) ∧ twoAsleep.receiverCount 0 = 1 ∧
    Run step twoAsleep [.trigger 0, .trigger 0, .drop 0, .run 1, .wait 3 0, .run 3, .run 3] oneAsleep ∧
    oneAsleep.Quiet ∧ oneAsleep.answers 0 = [false, true] ∧
    (∀ t, ¬ oneAsleep.Pending t 0) ∧ oneAsleep.receiverCount 0 = 0 ∧
    (∀ t, oneAsleep.Pending t 1 ↔ t ∈ [7]) ∧ oneAsleep.receiverCount 1 = 1 := by
  have hbefore : Run step {} [.create, .create, .clone 0, .wait 1 0, .run 1, .wait 2 0, .run 2, .run 1,
    .run 2, .wait 7 1, .run 7, .run 7, .abort 2] twoAsleep := .of_foldlM rfl
  have hlater : Run step twoAsleep [.trigger 0, .trigger 0, .drop 0, .run 1, .wait 3 0, .run 3, .run 3]
    oneAsleep := .of_foldlM rfl
  have hasleep : twoAsleep.Quiet := quiet_of_tasks (by decide)
  have hgiven : oneAsleep.Quiet := quiet_of_tasks (by decide)
  obtain ⟨-, -, hwait, -, -⟩ := given_once hbefore 0
  obtain ⟨hanswers, -, -, hnone, -⟩ := given_once (hbefore.append hlater) 0
  obtain ⟨-, -, hother, -, -⟩ := given_once (hbefore.append hlater) 1
  obtain ⟨-, hpending, hcount⟩ := hwait hasleep rfl
  obtain ⟨hover, hzero⟩ := hnone hgiven rfl
  obtain ⟨-, hpending', hcount'⟩ := hother hgiven rfl
  exact ⟨hbefore, hasleep, hpending, hcount, hlater, hgiven, hanswers, hover, hzero, hpending', hcount'⟩

end PooledTcp.Signals
