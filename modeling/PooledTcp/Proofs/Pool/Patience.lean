import PooledTcp.Proofs.Pool.FirstLook

/-!
# A patient acquire keeps its deadline

A patient acquire makes one attempt after the other, each as a plain acquire would (`Heeds`): it goes on and ends as
the attempt does, and parks only where the attempt ends for want of a connection. Its deadline is told once, when it
begins, and stays what it is (`Patient.step`). Whoever gives something back tells a parked acquire to try again and
cannot end it; only its own timer can, and only before it was told (`gives_up_of_step`).
-/

namespace PooledTcp.Pool

/-- The pool in which acquire `id` waits where it waits, but is a plain one. -/
def plain (p : Pool) (id : CallId) : Pool :=
  match p.call? id with
  | some (.acquire _ stage) => p.hold id (.acquire none stage)
  | _ => p

/-- The pool in which operation `id` has not begun. -/
def without (p : Pool) (id : CallId) : Pool := { p with calls := p.others id }

/-- Where an event leads that acts for the acquire `id`, if the attempt that it makes is a plain acquire: that one
goes on, or it begins when a parked acquire tries again. -/
def attempt (p : Pool) (id : CallId) (deadline : Option Nat) : Event → Option Pool
  | .retry _ => ((p.listen deadline).1.without id).step (.acquire id none)
  | e => (p.plain id).step e

/-- What a patient acquire makes of its attempt, by what a plain acquire makes of it: the same, unless that one ends
for want of a connection. Then it parks. -/
inductive Heeds (id : CallId) (deadline : Option Nat) (q : Pool) : Pool → Prop where
  | same : ¬q.Ended id (.acquired (.error .exhausted)) → (∀ w, q.call? id ≠ some (.acquire w .parked)) →
    Heeds id deadline q (q.plain id)
  | parks {w : Patience} : q.call? id = some (.acquire (some w) .parked) → w.deadline = deadline →
    Heeds id deadline q (q.finish id (.acquired (.error .exhausted)))

/-- Acquire `id` is in flight with that deadline, or ended. -/
inductive Patient (id : CallId) (deadline : Option Nat) (p : Pool) : Prop where
  | waits {w : Patience} {stage : AcquireStage} : p.call? id = some (.acquire (some w) stage) →
    w.deadline = deadline → Patient id deadline p
  | ended {a : Answer} : p.Ended id a → Patient id deadline p

/-- What can become of a patient acquire from here on. -/
structure OnTime (id : CallId) (deadline : Option Nat) (p : Pool) : Prop where
  /-- It is in flight with its first deadline, or ended. -/
  patient : Patient id deadline p
  /-- Every event that acts for it, its timer apart, is one of an attempt, and whatever else the attempt ends with
  the acquire ends with, then and there. -/
  attempts : ∀ e q, p.step e = some q → id ∈ e.ops → e ≠ .expire id → id ∉ e.begun →
    ∃ r, p.attempt id deadline e = some r ∧ Heeds id deadline q r ∧
      ∀ a, a ≠ .acquired (.error .exhausted) → (q.Ended id a ↔ r.Ended id a)
  /-- Once it was told of something given back it can try again, and cannot give up before it did. -/
  woken : ∀ w, p.call? id = some (.acquire (some w) .parked) → w.notified = true →
    (p.step (.retry id)).isSome ∧ p.step (.expire id) = none
  /-- Where it can neither try again nor give up, its timer has not fired. -/
  quiet : ∀ w, p.call? id = some (.acquire w .parked) → p.step (.retry id) = none →
    p.step (.expire id) = none → ∀ t, deadline = some t → p.now < Clock.tick t

variable {p q t : Pool} {id task : CallId} {e : Event} {es : List Event} {a : Answer} {c : Call}
  {w : Patience} {stage : AcquireStage} {deadline : Option Nat}

section Apart

/-- Leaving an operation out twice leaves it out. -/
theorem others_without (p : Pool) (id : CallId) : (p.without id).others id = p.others id := by
  simp [without, List.filter_filter]

theorem call?_without_self (p : Pool) (id : CallId) : (p.without id).call? id = none :=
  lookup_filter_self id p.calls

theorem without_hold (p : Pool) (id : CallId) (c : Call) : (p.hold id c).without id = p.without id := by
  simp [without, hold, List.filter_filter]

theorem without_giveBack (p : Pool) (id : CallId) : (p.without id).giveBack = p.giveBack.without id := by
  simp only [without, giveBack, notifyAll, freeSlot, others, List.filter_map]
  rfl

/-- Where an operation waits does not matter for what it does at its end, -/
theorem finish_without (p : Pool) (id : CallId) (a : Answer) :
    (p.without id).finish id a = p.finish id a := by
  have hsame := others_without p id
  simp only [finish, hsame]
  rfl

/-- nor for where it goes on. -/
theorem hold_without (p : Pool) (id : CallId) (c : Call) : (p.without id).hold id c = p.hold id c := by
  have hsame := others_without p id
  simp only [hold, hsame]
  rfl

/-- What an acquire does that takes the front of the queue. -/
theorem look_of_cons {x : IdleEntry} {rest : List IdleEntry} (h : p.idle = some (x :: rest))
    (w : Option Patience) :
    p.look id w =
      if p.isStale x then
        ((((p.took rest).say (.evictingStale (Clock.span x.returnedAt p.now))).note (.evicted .stale)).request
          id (.close x.conn)).hold id (.acquire w (.evicting x.conn))
      else ((p.took rest).request id (.ping x.conn)).hold id (.acquire w (.pinging x)) := by
  simp only [look, h]
  rfl

theorem look_without (p : Pool) (id : CallId) (w : Option Patience) :
    (p.without id).look id w = p.look id w := by
  have hidle : (p.without id).idle = p.idle := rfl
  rcases hq : p.idle with - | _ | ⟨x, rest⟩
  · simp only [look, hidle, hq]
    exact finish_without p id _
  · by_cases hfull : p.limits.maxConns ≤ p.checkedOut
    · have hfull' : (p.without id).limits.maxConns ≤ (p.without id).checkedOut := hfull
      simp only [look, hidle, hq, if_pos hfull, if_pos hfull']
      cases w with
      | none => exact finish_without (p.note .exhausted) id _
      | some w => exact hold_without (p.note .exhausted) id _
    · have hfull' : ¬(p.without id).limits.maxConns ≤ (p.without id).checkedOut := hfull
      simp only [look, hidle, hq, if_neg hfull, if_neg hfull']
      exact hold_without ({ p with checkedOut := p.checkedOut + 1, idle := some [] }.request id .dial) id _
  · rw [look_of_cons hq, look_of_cons (hidle.trans hq)]
    have hsame : (p.without id).isStale x = p.isStale x := rfl
    rw [hsame]
    split
    · exact hold_without ((((p.took rest).say (.evictingStale (Clock.span x.returnedAt p.now))).note
        (.evicted .stale)).request id (.close x.conn)) id _
    · exact hold_without ((p.took rest).request id (.ping x.conn)) id _

theorem afterDial_without (p : Pool) (id : CallId) (result : Except IoError ConnId) :
    (p.without id).afterDial id result = p.afterDial id result := by
  cases result with
  | ok conn => exact finish_without ((p.say .opened).note (.acquired .new)) id _
  | error cause => exact congrArg giveBack (finish_without (p.say (.dialFailed cause)) id _)

theorem afterPing_without (p : Pool) (id : CallId) (w : Option Patience) (x : IdleEntry)
    (failure : Option IoError) : (p.without id).afterPing id w x failure = p.afterPing id w x failure := by
  cases failure with
  | none => exact finish_without ((p.say .reusing).note (.acquired .idle)) id _
  | some cause =>
    exact hold_without (((p.say (.unhealthy cause)).note (.evicted .unhealthy)).request id (.close x.conn))
      id _

theorem cancel_without (p : Pool) (id task : CallId) (canSpawn : Bool) (stage : AcquireStage) :
    (p.without id).cancel id canSpawn task stage = p.cancel id canSpawn task stage := by
  cases stage <;> simp only [cancel, finish_without]

/-- What an operation does that waits elsewhere, or otherwise, is what it does here. -/
theorem hold_congr {α : Type} {f : Pool → α} (hf : ∀ p : Pool, f (p.without id) = f p) (p : Pool)
    (c : Call) : f (p.hold id c) = f p := by
  rw [← hf, without_hold, hf]

end Apart

section Attempts

theorem plain_of_none (h : p.call? id = none) : p.plain id = p := by
  simp only [plain, h]

theorem plain_of_acquire {w : Option Patience} (h : p.call? id = some (.acquire w stage)) :
    p.plain id = p.hold id (.acquire none stage) := by
  simp only [plain, h]

/-- An attempt does not end the acquire for want of a connection. -/
theorem Heeds.not_given_up {r : Pool} (h : Heeds id deadline q r) :
    ¬q.Ended id (.acquired (.error .exhausted)) := by
  intro hend
  cases h with
  | same hnever _ => exact hnever hend
  | parks hparked _ => cases hparked.symm.trans hend.1

/-- Any other end of the attempt is the end of the acquire, and the acquire has no other end by it. -/
theorem Heeds.ended_iff {r : Pool} (h : Heeds id deadline q r) (ha : a ≠ .acquired (.error .exhausted)) :
    q.Ended id a ↔ r.Ended id a := by
  cases h with
  | same _ _ =>
    unfold plain
    split
    · rename_i w stage hid
      constructor
      · intro hend
        cases hid.symm.trans hend.1
      · intro hend
        cases (call?_hold_self q id _).symm.trans hend.1
    · exact Iff.rfl
  | parks hparked _ =>
    constructor
    · intro hend
      cases hparked.symm.trans hend.1
    · intro hend
      have hgiven := (ended_finish q id (.acquired (.error .exhausted))).2
      exact absurd (Option.some.inj (hend.2.symm.trans hgiven)) ha

/-- An attempt that ends otherwise ends the acquire. -/
theorem heeds_of_ended (h : q.Ended id a) (ha : a ≠ .acquired (.error .exhausted)) :
    Heeds id deadline q q := by
  have hsame : Heeds id deadline q (q.plain id) := by
    refine .same ?_ ?_
    · rintro ⟨-, hother⟩
      exact ha (Option.some.inj (h.2.symm.trans hother))
    · intro w hid
      cases h.1.symm.trans hid
  rwa [plain_of_none h.1] at hsame

/-- An attempt that goes on, goes on. -/
theorem heeds_of_hold (p : Pool) (w : Option Patience) (hstage : stage ≠ .parked) :
    Heeds id deadline (p.hold id (.acquire w stage)) (p.hold id (.acquire none stage)) := by
  have hid := call?_hold_self p id (.acquire w stage)
  have hsame : Heeds id deadline (p.hold id (.acquire w stage)) ((p.hold id (.acquire w stage)).plain id) := by
    refine .same ?_ ?_
    · rintro ⟨hnone, -⟩
      cases hid.symm.trans hnone
    · intro v hparked
      cases hid.symm.trans hparked
      exact hstage rfl
  have htwice : (p.hold id (.acquire w stage)).hold id (.acquire none stage) =
      p.hold id (.acquire none stage) :=
    hold_congr (f := fun p => p.hold id _) (fun p => hold_without p id _) p _
  rwa [plain_of_acquire hid, htwice] at hsame

theorem heeds_of_look (p : Pool) (id : CallId) (w : Patience) :
    Heeds id w.deadline (p.look id (some w)) (p.look id none) := by
  rcases hq : p.idle with - | _ | ⟨x, rest⟩
  · simp only [look, hq]
    exact heeds_of_ended (ended_finish _ _ _) (by simp)
  · simp only [look, hq]
    split
    · have hparks : Heeds id w.deadline ((p.note .exhausted).hold id (.acquire (some w) .parked)) _ :=
        .parks (call?_hold_self _ _ _) rfl
      rwa [hold_congr (f := fun p => p.finish id _) (fun p => finish_without p id _)] at hparks
    · exact heeds_of_hold _ _ (by simp)
  · rw [look_of_cons hq, look_of_cons hq]
    split
    · exact heeds_of_hold _ _ (by simp)
    · exact heeds_of_hold _ _ (by simp)

theorem heeds_of_afterDial (p : Pool) (id : CallId) (result : Except IoError ConnId) :
    Heeds id deadline (p.afterDial id result) (p.afterDial id result) := by
  cases result with
  | ok conn => exact heeds_of_ended (ended_finish _ _ _) (by simp)
  | error cause =>
    exact heeds_of_ended (ended_finish (p.say (.dialFailed cause)) id _).notifyAll (by simp)

theorem heeds_of_afterPing (p : Pool) (id : CallId) (w : Option Patience) (x : IdleEntry)
    (failure : Option IoError) :
    Heeds id deadline (p.afterPing id w x failure) (p.afterPing id none x failure) := by
  cases failure with
  | none => exact heeds_of_ended (ended_finish _ _ _) (by simp)
  | some cause => exact heeds_of_hold _ _ (by simp)

/-- What a patient acquire listens with while it is told of its own eviction. -/
theorem patienceOf_giveBack_patient (h : p.call? id = some (.acquire (some w) stage)) :
    p.giveBack.patienceOf id = some { w with notified := true } := by
  have hcall : p.giveBack.call? id = some (Call.acquire (some w) stage).notify := by
    rw [giveBack, call?_notifyAll]
    exact congrArg (Option.map Call.notify) h
  rw [patienceOf, hcall]
  rfl

theorem heeds_of_afterEviction (h : p.call? id = some (.acquire (some w) stage)) (c : AcquireStage) :
    Heeds id w.deadline (p.afterEviction id) ((p.hold id (.acquire none c)).afterEviction id) := by
  -- the free slot wakes the acquire itself too, so it looks again with `notified` set, and parks so if need be
  have hplain : (p.hold id (.acquire none c)).afterEviction id = p.giveBack.look id none := by
    rw [afterEviction, patienceOf_giveBack (call?_hold_self p id _)]
    refine hold_congr (f := fun p => p.giveBack.look id none) (fun p => ?_) p _
    rw [without_giveBack, look_without]
  rw [hplain, afterEviction, patienceOf_giveBack_patient h]
  exact heeds_of_look p.giveBack id { w with notified := true }

/-- Every event that acts for a patient acquire, its timer apart, is one of an attempt. -/
theorem heeds_of_step (hid : p.call? id = some (.acquire (some w) stage)) (hstep : p.step e = some q)
    (hmem : id ∈ e.ops) (htimer : e ≠ .expire id) :
    ∃ r, p.attempt id w.deadline e = some r ∧ Heeds id w.deadline q r := by
  have hplain := plain_of_acquire hid
  have hcall := call?_hold_self p id (.acquire none stage)
  cases advance_of_step hstep hid hmem with
  | @dialed _ result =>
    refine ⟨_, ?_, heeds_of_afterDial p id result⟩
    simp only [attempt, hplain, Pool.step, hcall]
    exact congrArg some (hold_congr (f := fun p => p.afterDial id result)
      (fun p => afterDial_without p id result) p _)
  | @pinged _ x failure =>
    refine ⟨_, ?_, heeds_of_afterPing p id (some w) x failure⟩
    simp only [attempt, hplain, Pool.step, hcall]
    exact congrArg some (hold_congr (f := fun p => p.afterPing id none x failure)
      (fun p => afterPing_without p id none x failure) p _)
  | @evicted _ conn failure =>
    have hid' := (call?_sayCloseFailed p failure id).trans hid
    refine ⟨_, ?_, heeds_of_afterEviction hid' (.evicting conn)⟩
    simp only [attempt, hplain, Pool.step, hcall, sayCloseFailed_eq]
    rfl
  | retry =>
    -- the look is the one of a plain acquire that begins now
    refine ⟨_, ?_, heeds_of_look (p.listen w.deadline).1 id (p.listen w.deadline).2⟩
    have hnone := call?_without_self (p.listen w.deadline).1 id
    simp only [attempt, Pool.step, hnone, Option.isSome_none, Bool.false_eq_true, if_false]
    exact congrArg some (look_without _ _ _)
  | expire => exact absurd rfl htimer
  | @cancel _ _ canSpawn task hne htask =>
    have hend := ended_cancel hne p canSpawn stage
    refine ⟨_, ?_, heeds_of_ended hend (by simp)⟩
    have hother : (p.hold id (.acquire none stage)).call? task = none :=
      (call?_hold_of_ne hne.symm _).trans htask
    simp only [attempt, hplain, Pool.step, hcall, hother, Option.isSome_none, Bool.false_eq_true, if_false]
    exact congrArg some (hold_congr (f := fun p => p.cancel id canSpawn task stage)
      (fun p => cancel_without p id task canSpawn stage) p _)

end Attempts

section Deadlines

theorem patient_look (p : Pool) (id : CallId) (w : Patience) :
    Patient id w.deadline (p.look id (some w)) := by
  have h := p.looked id (some w)
  generalize p.look id (some w) = q at h ⊢
  cases h with
  | refused _ => exact .ended (ended_finish _ _ _)
  | parked _ _ | dials _ _ | evicts _ _ | pings _ _ => exact .waits (call?_hold_self _ _ _) rfl

/-- Whatever happens, a patient acquire goes on with its deadline, or ends. -/
theorem Patient.step (h : Patient id deadline p) (hstep : p.step e = some q) (hnot : id ∉ e.begun) :
    Patient id deadline q := by
  cases h with
  | ended hend => exact .ended (hend.stays hstep hnot)
  | @waits w stage hid hdeadline =>
    subst hdeadline
    by_cases hmem : id ∈ e.ops
    · cases advance_of_step hstep hid hmem with
      | @dialed _ result =>
        cases result with
        | ok conn => exact .ended (ended_finish _ _ _)
        | error cause => exact .ended (ended_finish _ _ _).notifyAll
      | @pinged _ x failure =>
        cases failure with
        | none => exact .ended (ended_finish _ _ _)
        | some cause => exact .waits (call?_hold_self _ _ _) rfl
      | @evicted _ conn failure =>
        have hid' := (call?_sayCloseFailed p failure id).trans hid
        rw [afterEviction, patienceOf_giveBack_patient hid']
        exact patient_look _ id { w with notified := true }
      | retry => exact patient_look _ id (p.listen w.deadline).2
      | expire => exact .ended (ended_finish _ _ _)
      | cancel hne _ => exact .ended (ended_cancel hne p _ _)
    · rcases call?_of_notMem_ops hstep hmem with hsame | htold
      · exact .waits (hsame.trans hid) rfl
      · refine .waits (htold.trans (congrArg _ hid)) rfl

/-- At every point. -/
theorem Patient.onTime (h : Patient id deadline p) : OnTime id deadline p := by
  refine ⟨h, ?_, ?_, ?_⟩
  · intro e q hstep hmem htimer hnot
    cases h with
    | ended hend => exact absurd (mem_begun hstep hmem hend.1) hnot
    | waits hid hdeadline =>
      subst hdeadline
      obtain ⟨r, hattempt, hheeds⟩ := heeds_of_step hid hstep hmem htimer
      exact ⟨r, hattempt, hheeds, fun a => hheeds.ended_iff⟩
  · intro w hid htold
    simp [Pool.step, hid, htold]
  · intro w hid hretry hexpire t ht
    cases h with
    | ended hend => cases hid.symm.trans hend.1
    | @waits w' _ hid' hdeadline =>
      cases hid.symm.trans hid'
      have huntold : w'.notified = false := by
        cases htold : w'.notified with
        | false => rfl
        | true => simp [Pool.step, hid, htold] at hretry
      have hpending : p.expired w'.deadline = false := by
        cases hfired : p.expired w'.deadline with
        | false => rfl
        | true => simp [Pool.step, hid, huntold, hfired] at hexpire
      simpa [expired, hdeadline, ht, Clock.fired] using hpending

theorem Patient.run (h : Patient id deadline p) (hrun : Run Pool.step p es q)
    (hnew : ∀ e ∈ es, id ∉ e.begun) : Patient id deadline q := by
  induction hrun with
  | nil => exact h
  | cons hstep _ ih =>
    exact ih (h.step hstep (hnew _ List.mem_cons_self)) fun f hf => hnew f (List.mem_cons_of_mem _ hf)

/-- Nothing but its timer makes a patient acquire give up. -/
theorem gives_up_of_step (h : Patient id deadline p) (hstep : p.step e = some q) (hnot : id ∉ e.begun)
    (hbefore : ¬p.Ended id (.acquired (.error .exhausted)))
    (hend : q.Ended id (.acquired (.error .exhausted))) :
    e = .expire id ∧ p.expired deadline = true := by
  cases h with
  | @ended a hother =>
    refine absurd ?_ hbefore
    have hsame := (hother.stays hstep hnot).2.symm.trans hend.2
    rwa [Option.some.inj hsame] at hother
  | @waits w stage hid hdeadline =>
    have hmem : id ∈ e.ops := Decidable.byContradiction fun hmem => hbefore (hend.before hstep hmem)
    by_cases htimer : e = .expire id
    · subst htimer
      refine ⟨rfl, ?_⟩
      cases Move.of_step hstep with
      | expire hid' _ hfired =>
        cases hid.symm.trans hid'
        exact hdeadline ▸ hfired
    · obtain ⟨r, -, hheeds⟩ := heeds_of_step hid hstep hmem htimer
      exact absurd hend hheeds.not_given_up

/-- A patient acquire begins with an attempt, and with the deadline that is told at once. -/
theorem patient_begin {wait : Duration} (h : p.step (.acquire id (some wait)) = some q) :
    Patient id (Clock.after? p.now wait) q ∧
      ∃ r, (p.listen (Clock.after? p.now wait)).1.step (.acquire id none) = some r ∧
        Heeds id (Clock.after? p.now wait) q r := by
  cases Move.of_step h with
  | acquirePatiently hnone =>
    have hnone' : (p.listen (Clock.after? p.now wait)).1.call? id = none := hnone
    refine ⟨patient_look _ id (p.listen (Clock.after? p.now wait)).2, _, ?_,
      heeds_of_look _ id (p.listen (Clock.after? p.now wait)).2⟩
    simp only [Pool.step, hnone', Option.isSome_none, Bool.false_eq_true, if_false]

end Deadlines

/-- A patient acquire makes its first attempt at once. From then on, whatever others do and however often it is told
of something given back, every event that acts for it is one of an attempt or its timer, and it ends as its attempt
does, with the same event. Only the want of a connection makes it park, with the deadline that it began with; parked,
it tries again once it was told, and is not left waiting beyond its deadline. It ends for want of a connection only
when its timer fires, no sooner than it was to wait, and never if the end of the wait cannot be told. -/
theorem patient_acquire_keeps_deadline {wait : Duration} (hfirst : p.step (.acquire id (some wait)) = some q)
    (hrun : Run step q es t) (hnew : ∀ e ∈ es, id ∉ e.begun) :
    (∃ r, (p.listen (Clock.after? p.now wait)).1.step (.acquire id none) = some r ∧
      Heeds id (Clock.after? p.now wait) q r) ∧
    OnTime id (Clock.after? p.now wait) t ∧
    (t.Ended id (.acquired (.error .exhausted)) → ∃ es₁ es₂ u, es = es₁ ++ .expire id :: es₂ ∧
      Run step q es₁ u ∧ p.now + wait.nanos < Clock.horizon ∧ p.now + wait.nanos ≤ u.now ∧
      Clock.tick (p.now + wait.nanos) ≤ u.now) := by
  obtain ⟨hpatient, r, hplain, hheeds⟩ := patient_begin hfirst
  refine ⟨⟨r, hplain, hheeds⟩, (hpatient.run hrun hnew).onTime, ?_⟩
  intro hend
  obtain ⟨es₁, e, es₂, u, v, rfl, hu, hstep, hbefore, hafter⟩ :=
    hrun.turn (P := fun u => u.Ended id (.acquired (.error .exhausted))) hheeds.not_given_up hend
  have hu' := hpatient.run hu fun f hf => hnew f (List.mem_append_left _ hf)
  have hnot := hnew e (List.mem_append_right _ List.mem_cons_self)
  obtain ⟨rfl, hfired⟩ := gives_up_of_step hu' hstep hnot hbefore hafter
  by_cases htold : p.now + wait.nanos < Clock.horizon
  · have hpast : Clock.tick (p.now + wait.nanos) ≤ u.now := by
      simpa [expired, Clock.after?, htold, Clock.fired] using hfired
    exact ⟨es₁, es₂, u, rfl, hu, htold, Nat.le_trans (Clock.le_tick _) hpast, hpast⟩
  · simp [expired, Clock.after?, htold] at hfired

/-- A pool of one whose connection is out. The acquire is to wait for five milliseconds. It is told of a slot that is
free and finds it taken again, tries once more, and gives up after five milliseconds from its beginning. -/
theorem gives_up_after_futile_wakeup : ∃ (p q t : Pool) (wait : Duration) (es : List Event),
    p.now = 0 ∧ wait.nanos = 5000000 ∧
    es = [.pass 3000000, .discard 3 0, .acquire 4 none, .retry 2, .pass 2000000, .expire 2] ∧
    p.step (.acquire 2 (some wait)) = some q ∧ Run step q es t ∧ (∀ e ∈ es, 2 ∉ e.begun) ∧
    t.Ended 2 (.acquired (.error .exhausted)) ∧ OnTime 2 (Clock.after? p.now wait) t ∧
    ∃ es₁ es₂ u, es = es₁ ++ .expire 2 :: es₂ ∧ Run step q es₁ u ∧ p.now + wait.nanos ≤ u.now := by
  have hopen := Opened.of_foldlM (r := ⟨1, 1, 1, .zero⟩) [.dialed (.ok 0)] rfl
  have hout := hopen.start.further [.acquire 1 none, .pinged 1 none] rfl
  have hfirst := hout.further [.acquire 2 (some ⟨5000000, by decide⟩)] rfl
  have hrun := hfirst.further [.pass 3000000, .discard 3 0, .acquire 4 none, .retry 2, .pass 2000000,
    .expire 2] rfl
  have hnew : ∀ e ∈ [Event.pass 3000000, .discard 3 0, .acquire 4 none, .retry 2, .pass 2000000, .expire 2],
      2 ∉ e.begun := by decide
  obtain ⟨-, hontime, hgives⟩ := patient_acquire_keeps_deadline hfirst.single hrun hnew
  obtain ⟨es₁, es₂, u, hes, hu, -, hlate, -⟩ := hgives ⟨rfl, rfl⟩
  exact ⟨_, _, _, _, _, rfl, rfl, rfl, hfirst.single, hrun, hnew, ⟨rfl, rfl⟩, hontime,
    es₁, es₂, u, hes, hu, hlate⟩

end PooledTcp.Pool
