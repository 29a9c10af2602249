import PooledTcp.Proofs.Tracker.Counted

/-!
# Waiting until a tracker is idle

A wait for an idle tracker ends when it finds the count at zero, and at no other moment (`ended_step`). A task sleeps
only while the count is not zero, or while the guard that left it at zero has yet to tell (`Awake`); so where nothing
is under way a task that waits has something to wait for, whatever was counted up and down while it looked
(`drain_counted`).
-/

namespace PooledTcp

namespace IdleStage

variable {stage stage' : IdleStage} {count : Nat}

/-- The wait has not ended. -/
def pending : IdleStage → Bool
  | begun | looking _ | listening _ => true
  | finished | aborted => false

theorem eq_finished_of_next? (h : stage.next? count = some .finished) : count = 0 := by
  match stage with
  | begun | listening true => cases h
  | looking told =>
    by_cases hcount : count = 0
    · exact hcount
    · simp [next?, hcount] at h
  | listening false | finished | aborted => cases h

theorem pos_of_next? (h : stage.next? count = some (.listening false)) : 0 < count := by
  match stage with
  | begun | listening true => cases h
  | looking told =>
    by_cases hcount : count = 0
    · simp [next?, hcount] at h
    · exact Nat.pos_of_ne_zero hcount
  | listening false | finished | aborted => cases h

theorem cut?_eq_some (h : stage.cut? = some stage') : stage' = aborted := by
  match stage with
  | begun | listening _ => cases h; rfl
  | looking _ | finished | aborted => cases h

theorem tell_ne_asleep : stage.tell ≠ listening false := by
  cases stage <;> exact nofun

theorem tell_eq_finished_iff : stage.tell = finished ↔ stage = finished := by
  cases stage <;> simp [tell]

end IdleStage

namespace Trackers

variable {b c : Trackers} {i j : TrackerId} {g : GuardId} {t t' : TaskId} {w : IdleWait} {e : Event}
  {es : List Event} {first : GuardId}

/-- No task sleeps while the count of its tracker is zero, unless a guard has yet to tell it. -/
def Awake (b : Trackers) : Prop :=
  ∀ t w, b.waits.lookup t = some w → w.stage = .listening false →
    0 < b.count w.tracker ∨ ∃ g, (g, w.tracker, 0) ∈ b.closing

theorem Awake.drop (h : Awake b) (hg : 0 < b.count i) (g : GuardId) : Awake (b.dropGuard g i) := by
  intro t w hw hstage
  have hcount : (b.dropGuard g i).count w.tracker =
      if i = w.tracker then b.count i - 1 else b.count w.tracker :=
    count_setCount (lt_length_of_count hg) _ _
  change _ ∨ ∃ g', (g', w.tracker, 0) ∈ (g, i, b.count i - 1) :: b.closing
  rw [hcount]
  by_cases hi : i = w.tracker
  · rw [if_pos hi]
    rcases Nat.eq_zero_or_pos (b.count i - 1) with hzero | hpos
    · exact .inr ⟨g, by rw [hzero, hi]; exact .head _⟩
    · exact .inl hpos
  · rw [if_neg hi]
    exact (h t w hw hstage).imp_right fun ⟨g', hg'⟩ => ⟨g', .tail _ hg'⟩

theorem Awake.close (h : Awake b) (hdistinct : (b.closing.map Prod.fst).Nodup) {remaining : Nat}
    (hg : b.closing.lookup g = some (i, remaining)) : Awake (b.closeGuard g i remaining) := by
  intro t w hw hstage
  obtain ⟨hcounts, -⟩ := closeGuard_frame b g i remaining
  rw [count, hcounts, closing_closeGuard]
  -- a wait that the guard tells does not sleep any more
  have hbefore : b.waits.lookup t = some w ∧ ¬ (w.tracker = i ∧ remaining = 0) := by
    rw [lookup_closeGuard] at hw
    split at hw
    · obtain ⟨w₀, hw₀, rfl⟩ := Option.map_eq_some_iff.1 hw
      by_cases hi : w₀.tracker = i
      · rw [IdleWait.tell, if_pos hi] at hstage
        exact absurd hstage IdleStage.tell_ne_asleep
      · rw [IdleWait.tell, if_neg hi] at hstage ⊢
        exact ⟨hw₀, fun hboth => hi hboth.1⟩
    · rename_i hremaining
      exact ⟨hw, fun hboth => hremaining hboth.2⟩
  obtain ⟨hw₀, hnot⟩ := hbefore
  refine (h t w hw₀ hstage).imp_right ?_
  rintro ⟨g', hg'⟩
  refine ⟨g', List.mem_filter.2 ⟨hg', bne_iff_ne.2 ?_⟩⟩
  rintro rfl
  cases hg.symm.trans (lookup_of_mem hdistinct hg')
  exact hnot ⟨rfl, rfl⟩

theorem Awake.moveTo (h : Awake b) {stage : IdleStage}
    (hstage : stage = .listening false → 0 < b.count w.tracker) : Awake (b.moveTo t w stage) := by
  intro t' w' hw' hasleep
  obtain ⟨hcounts, -⟩ := moveTo_frame b t w stage
  rw [count, hcounts, closing_moveTo]
  by_cases ht : t' = t
  · subst ht
    cases lookup_moveTo_self.symm.trans hw'
    exact .inl (hstage hasleep)
  · rw [lookup_moveTo_of_ne ht] at hw'
    exact h t' w' hw' hasleep

theorem Awake.step (h : Awake b) (hcounted : Counted b) (hnumbered : Numbered first b)
    (hstep : b.step e = some c) : Awake c := by
  obtain ⟨hguards, hclosing, -⟩ := List.nodup_append.1 hnumbered.distinct
  cases Move.of_step hstep with
  | create =>
    intro t w hw hstage
    rw [count_create]
    exact h t w hw hstage
  | @track i hi =>
    intro t w hw hstage
    rw [count_setCount (b := { b with making := i :: b.making }) hi]
    refine (h t w hw hstage).imp_left fun hpos => ?_
    split
    · exact Nat.succ_pos _
    · exact hpos
  | number _ | skip => exact h
  | drop hg => exact h.drop (hcounted.drop hguards hg).1 _
  | close hg => exact h.close hclosing hg
  | @wait t i hfree _ =>
    intro t' w hw hstage
    by_cases ht : t' = t
    · subst ht
      rw [List.lookup_cons_self] at hw
      cases hw
      cases hstage
    · rw [List.lookup_cons, beq_false_of_ne ht] at hw
      exact h t' w hw hstage
  | @run t w stage hw hnext =>
    refine h.moveTo fun hasleep => ?_
    rw [hasleep] at hnext
    exact IdleStage.pos_of_next? hnext
  | @abort t w stage hw hcut =>
    refine h.moveTo fun hasleep => ?_
    cases hasleep.symm.trans (IdleStage.cut?_eq_some hcut)

/-! ### Waits -/

/-- Task `t` waited for the tracker to its end. -/
def Ended (b : Trackers) (t : TaskId) (i : TrackerId) : Prop :=
  ∃ w, b.waits.lookup t = some w ∧ w.tracker = i ∧ w.stage = .finished

/-- Task `t` was started to wait for the tracker, and its wait has not ended. -/
def Pending (b : Trackers) (t : TaskId) (i : TrackerId) : Prop :=
  ∃ w, b.waits.lookup t = some w ∧ w.tracker = i ∧ w.stage.pending = true

theorem Ended.of_closeGuard {remaining : Nat} (h : (b.closeGuard g i remaining).Ended t j) : b.Ended t j := by
  obtain ⟨w, hw, hj, hover⟩ := h
  rw [lookup_closeGuard] at hw
  split at hw
  · obtain ⟨w₀, hw₀, rfl⟩ := Option.map_eq_some_iff.1 hw
    unfold IdleWait.tell at hj hover
    split at hj
    · rename_i hi
      rw [if_pos hi] at hover
      exact ⟨w₀, hw₀, hj, IdleStage.tell_eq_finished_iff.1 hover⟩
    · rename_i hi
      rw [if_neg hi] at hover
      exact ⟨w₀, hw₀, hj, hover⟩
  · exact ⟨w, hw, hj, hover⟩

theorem Ended.of_moveTo {stage : IdleStage} (h : (b.moveTo t' w stage).Ended t j) :
    b.Ended t j ∨ t = t' ∧ w.tracker = j ∧ stage = .finished := by
  obtain ⟨w', hw', hj, hover⟩ := h
  by_cases ht : t = t'
  · subst ht
    cases lookup_moveTo_self.symm.trans hw'
    exact .inr ⟨rfl, hj, hover⟩
  · rw [lookup_moveTo_of_ne ht] at hw'
    exact .inl ⟨w', hw', hj, hover⟩

/-- A wait ends when its task goes on and finds the count at zero. -/
theorem ended_step (hstep : b.step e = some c) (hbefore : ¬ b.Ended t j) (hafter : c.Ended t j) :
    e = .run t ∧ b.count j = 0 := by
  cases Move.of_step hstep with
  | create | track _ | number _ | skip | drop _ => exact absurd hafter hbefore
  | close _ => exact absurd hafter.of_closeGuard hbefore
  | @wait t' i hfree _ =>
    obtain ⟨w, hw, hj, hover⟩ := hafter
    by_cases ht : t = t'
    · subst ht
      rw [List.lookup_cons_self] at hw
      cases hw
      cases hover
    · rw [List.lookup_cons, beq_false_of_ne ht] at hw
      exact absurd ⟨w, hw, hj, hover⟩ hbefore
  | @run t' w stage hw hnext =>
    obtain ⟨rfl, rfl, rfl⟩ := hafter.of_moveTo.resolve_left hbefore
    exact ⟨rfl, IdleStage.eq_finished_of_next? hnext⟩
  | @abort t' w stage hw hcut =>
    obtain ⟨rfl, rfl, rfl⟩ := hafter.of_moveTo.resolve_left hbefore
    cases IdleStage.cut?_eq_some hcut

/-- Where nothing is under way, a wait that has not ended sleeps. -/
theorem Quiet.asleep (h : b.Quiet) (hw : b.waits.lookup t = some w) (hpending : w.stage.pending = true) :
    w.stage = .listening false := by
  have hnext : w.stage.next? (b.count w.tracker) = none := by
    refine Option.eq_none_iff_forall_ne_some.2 fun stage hstage => ?_
    exact absurd (step_run_iff.2 ⟨w, stage, hw, hstage, rfl⟩) (by simp [h.tasks t])
  match hstage : w.stage with
  | .begun | .looking _ | .listening true => rw [hstage] at hnext; cases hnext
  | .listening false => rfl
  | .finished | .aborted => rw [hstage] at hpending; cases hpending

/-- What holds of trackers after every run. -/
structure Sound (first : GuardId) (es : List Event) (b : Trackers) : Prop where
  numbered : Numbered first b
  counted : Counted b
  booked : Booked es b
  awake : Awake b

theorem Sound.initial (first : GuardId) : Sound first [] { nextGuard := first } where
  numbered := ⟨.nil, List.forall_mem_nil _, List.forall_mem_nil _, .nil, Nat.le_refl _⟩
  counted i := by simp [count, guardsOf]
  booked := ⟨fun g i => by simp [made], fun g hg => absurd hg List.not_mem_nil⟩
  awake t w hw := by cases hw

theorem Sound.of_run (h : Run Trackers.step { nextGuard := first } es b) : Sound first es b := by
  refine h.induction_last (P := Sound first) (.initial first) fun fs e u v hsound hstep => ?_
  obtain ⟨hguards, -, -⟩ := List.nodup_append.1 hsound.numbered.distinct
  exact ⟨hsound.numbered.step hstep, hsound.counted.step hguards hstep,
    hsound.booked.step hsound.numbered hstep,
    hsound.awake.step hsound.counted hsound.numbered hstep⟩

/-- The words that hold the numbers are as the numbers are, as long as the numbers fit. -/
theorem Numbered.words (h : Numbered first b) (hfit : b.nextGuard ≤ UInt64.size) :
    (b.numbers.map UInt64.ofNat).Pairwise (· > ·) := by
  rw [List.pairwise_map]
  refine h.decreasing.imp_of_mem fun {m n} hm hn hlt => ?_
  have hm' := Nat.lt_of_lt_of_le (h.given m hm).2 hfit
  have hn' := Nat.lt_of_lt_of_le (h.given n hn).2 hfit
  rw [gt_iff_lt, UInt64.lt_iff_toNat_lt, UInt64.toNat_ofNat_of_lt' hm', UInt64.toNat_ofNat_of_lt' hn']
  exact hlt

/-- Whatever number was the first, and whatever was taken, dropped, awaited and given up in whatever order: the count
of a tracker is the number of its guards, made and not dropped, and of those that are about to be numbered, so that
a guard that is dropped can be counted down; a wait ends only at a moment at which the count is zero; where nothing is
under way a task waits only for a count that is not zero; and the guards of all trackers are numbered upwards. -/
theorem drain_counted (h : Run step { nextGuard := first } es b) :
    (∀ i, b.count i = (b.guardsOf i).length + b.making.count i ∧ (b.guardsOf i).Nodup ∧
      ∀ g, g ∈ b.guardsOf i ↔ (g, i) ∈ b.made ∧ .drop g ∉ es) ∧
    (∀ g i, b.guards.lookup g = some i → 0 < b.count i) ∧
    (∀ e c t i, b.step e = some c → ¬ b.Ended t i → c.Ended t i → e = .run t ∧ b.count i = 0) ∧
    (b.Quiet → ∀ t i, b.Pending t i → 0 < b.count i) ∧
    b.numbers.Pairwise (· > ·) ∧
    (b.nextGuard ≤ UInt64.size → (b.numbers.map UInt64.ofNat).Pairwise (· > ·)) := by
  have hsound := Sound.of_run h
  obtain ⟨hguards, -, -⟩ := List.nodup_append.1 hsound.numbered.distinct
  refine ⟨fun i => ⟨hsound.counted i, nodup_keys_filter hguards _, fun g => ?_⟩,
    fun g i hg => (hsound.counted.drop hguards hg).1,
    fun e c t i hstep hbefore hafter => ended_step hstep hbefore hafter, ?_,
    hsound.numbered.decreasing, hsound.numbered.words⟩
  · rw [← hsound.booked.mem_guards]
    simp [guardsOf]
  · rintro hquiet t i ⟨w, hw, rfl, hpending⟩
    refine (hsound.awake t w hw (hquiet.asleep hw hpending)).resolve_right ?_
    rintro ⟨g, hg⟩
    rw [hquiet.closing] at hg
    cases hg

/-- A task that was not started cannot go on. -/
theorem quiet_of_tasks (hmaking : b.making = []) (hclosing : b.closing = [])
    (h : ∀ t ∈ b.waits.map Prod.fst, (b.step (.run t)).isNone) : b.Quiet := by
  refine ⟨hmaking, hclosing, fun t => ?_⟩
  by_cases ht : t ∈ b.waits.map Prod.fst
  · exact Option.isNone_iff_eq_none.1 (h t ht)
  · refine Option.eq_none_iff_forall_ne_some.2 fun c hc => ht ?_
    obtain ⟨w, -, hw, -⟩ := step_run_iff.1 hc
    exact mem_keys_iff.2 (by rw [hw]; rfl)

/-- A task waits for one of two trackers, which was idle for a moment before another guard was taken from it. -/
def heldAgain : Trackers :=
  { counts := [1, 0]
    guards := [(3, 0)]
    waits := [(5, { tracker := 0, stage := .listening false })]
    nextGuard := 4
    history := [.closed 1, .made 3 0, .active 1, .active 0, .made 1 0, .active 1] }

/-- The same task listens anew after that guard was dropped too, while the other tracker got a guard. -/
def idleAgain : Trackers :=
  { counts := [0, 1]
    guards := [(4, 1)]
    waits := [(5, { tracker := 0, stage := .looking false })]
    nextGuard := 5
    history := [.closed 3, .made 4 1, .active 0, .active 1, .closed 1, .made 3 0, .active 1, .active 0, .made 1 0,
      .active 1] }

/-- The wait goes on over a moment at zero, and ends with the next one. -/
theorem drain_counted_after_blip :
    Run step {} [.create, .create, .track 0, .number 0, .wait 5 0, .run 5, .run 5, .drop 1, .track 0, .skip,
      .number 0, .close 1, .run 5, .run 5] heldAgain ∧
    heldAgain.Quiet ∧ heldAgain.Pending 5 0 ∧ 0 < heldAgain.count 0 ∧
    Run step heldAgain [.track 1, .drop 3, .number 1, .close 3, .run 5] idleAgain ∧
    idleAgain.numbers = [4, 3, 1] ∧ idleAgain.numbers.Pairwise (· > ·) ∧
    ∃ c, idleAgain.step (.run 5) = some c ∧ c.Ended 5 0 ∧ idleAgain.count 0 = 0 := by
  have hbefore : Run step {} [.create, .create, .track 0, .number 0, .wait 5 0, .run 5, .run 5, .drop 1,
    .track 0, .skip, .number 0, .close 1, .run 5, .run 5] heldAgain := .of_foldlM rfl
  have hlater : Run step heldAgain [.track 1, .drop 3, .number 1, .close 3, .run 5] idleAgain :=
    .of_foldlM rfl
  have hquiet : heldAgain.Quiet := quiet_of_tasks rfl rfl (by decide)
  have hpending : heldAgain.Pending 5 0 := ⟨_, rfl, rfl, rfl⟩
  obtain ⟨-, -, -, hheld, -⟩ := drain_counted hbefore
  obtain ⟨-, -, hends, -, hnumbers, -⟩ := drain_counted (hbefore.append hlater)
  have hlooking : ¬ idleAgain.Ended 5 0 := by
    rintro ⟨w, hw, -, hover⟩
    cases hw
    cases hover
  have hstep : idleAgain.step (.run 5) =
    some (idleAgain.moveTo 5 { tracker := 0, stage := .looking false } .finished) := rfl
  have hended : (idleAgain.moveTo 5 { tracker := 0, stage := .looking false } .finished).Ended 5 0 :=
    ⟨_, lookup_moveTo_self, rfl, rfl⟩
  exact ⟨hbefore, hquiet, hpending, hheld hquiet 5 0 hpending, hlater, rfl, hnumbers, _, hstep, hended,
    (hends _ _ 5 0 hstep hlooking hended).2⟩

end Trackers
end PooledTcp
