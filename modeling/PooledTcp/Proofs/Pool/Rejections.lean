import PooledTcp.Proofs.Pool.Counters
import PooledTcp.Proofs.Pool.Tally

/-!
# What the counter of exhausted checkouts counts

A checkout that finds the pool full is counted. An acquire that cannot wait is then told so, and there the
counter and the rejections go up together. A patient acquire parks instead: it has been counted and is told
nothing. When its wait is over it is told, and the two are even again; when it looks once more, or is given
up, they never are (`resumes`). So the counter is the number of rejections, and of acquires that are parked,
and of those that were parked and came away without a rejection (`exhausted_total_iff`).
`counted_without_rejection` is the shortest run in which an acquire waits with success.
-/

namespace PooledTcp.Pool

/-- One for an acquire that is parked. -/
def Call.waits : Call → Nat
  | .acquire _ .parked => 1
  | _ => 0

/-- How many acquires are parked. -/
def waiting (p : Pool) : Nat := tally Call.waits p.calls

/-- The acquire that was parked, and looks again or is given up. -/
def resumes (p : Pool) : Event → List CallId
  | .retry id => [id]
  | .cancel id _ _ =>
    match p.call? id with
    | some (.acquire _ .parked) => [id]
    | _ => []
  | _ => []

variable {r : PoolRequest} {p q : Pool} {id : CallId} {e : Event} {es : List Event} {c : Call}

theorem Call.waits_notify (c : Call) : c.notify.waits = c.waits := by
  cases c with
  | acquire w stage => cases w <;> cases stage <;> rfl
  | _ => rfl

theorem Call.waits_of_kind (h : c.kind ≠ .acquire) : c.waits = 0 := by
  cases c with
  | acquire w stage => exact absurd rfl h
  | _ => rfl

/-- An acquire that finds the pool full is counted, and rejected or parked. -/
theorem look_counted (p : Pool) (id : CallId) (w : Option Patience) :
    (p.lookMarks id w.isSome).countP (·.isExhausted) =
      (p.lookMarks id w.isSome).countP (·.isRejected) + measureOf Call.waits (p.look id w) id := by
  have h := p.looked id w
  generalize p.look id w = q at h ⊢
  cases h with
  | refused hidle =>
    simp only [lookMarks, hidle, measureOf_finish]
    rfl
  | rejected hidle hfull =>
    simp only [lookMarks, hidle, hfull, if_true, measureOf_finish]
    rfl
  | parked hidle hfull =>
    simp only [lookMarks, hidle, hfull, if_true, measureOf_hold]
    rfl
  | dials hidle hfree =>
    simp only [lookMarks, hidle, Nat.not_le.2 hfree, if_false, measureOf_hold]
    rfl
  | evicts hidle hstale | pings hidle hstale =>
    simp only [lookMarks, hidle, hstale, measureOf_hold]
    rfl

/-- What an event counts and rejects, and whom it parks and resumes, comes out even. -/
def Tallies (p q : Pool) (e : Event) : Prop :=
  (p.marksOf e).countP (·.isExhausted) + (e.ops.map (measureOf Call.waits p)).sum =
    (p.marksOf e).countP (·.isRejected) + (e.ops.map (measureOf Call.waits q)).sum +
      (p.resumes e).length

/-- An event for one operation that counts nothing, rejects nobody, and finds and leaves nobody parked. -/
theorem tallies_quiet (hops : e.ops = [id]) (hresumes : p.resumes e = [])
    (hmarks : ∀ n ∈ p.marksOf e, n.isExhausted = false ∧ n.isRejected = false)
    (hp : measureOf Call.waits p id = 0) (hq : measureOf Call.waits q id = 0) : Tallies p q e := by
  have hexhausted : (p.marksOf e).countP (·.isExhausted) = 0 :=
    List.countP_eq_zero.2 fun n hn => by simp [(hmarks n hn).1]
  have hrejected : (p.marksOf e).countP (·.isRejected) = 0 :=
    List.countP_eq_zero.2 fun n hn => by simp [(hmarks n hn).2]
  simp [Tallies, hops, hresumes, hexhausted, hrejected, hp, hq]

/-- An acquire that looks and was not parked. -/
theorem tallies_look {s : Pool} {w : Option Patience} (hops : e.ops = [id]) (hresumes : p.resumes e = [])
    (hmarks : p.marksOf e = s.lookMarks id w.isSome) (hp : measureOf Call.waits p id = 0) :
    Tallies p (s.look id w) e := by
  have hlook := look_counted s id w
  simpa [Tallies, hops, hresumes, hmarks, hp] using hlook

/-- An operation that is no acquire is never parked. -/
theorem Serves.waits_eq_zero {k : Kind} (h : p.Serves id k) (hk : k ≠ .acquire) :
    measureOf Call.waits p id = 0 :=
  h.measureOf_eq_zero fun _ hkind => Call.waits_of_kind (hkind ▸ hk)

theorem tallies_step (hstep : p.step e = some q) : Tallies p q e := by
  cases Move.of_step hstep with
  | acquire hid => exact tallies_look rfl rfl rfl (measureOf_of_none hid)
  | acquirePatiently hid =>
    exact tallies_look rfl rfl (lookMarks_listen p _ _ _).symm (measureOf_of_none hid)
  | @retry id w hid _ =>
    have hlook := look_counted (p.listen w.deadline).1 id (some (p.listen w.deadline).2)
    have hone : measureOf Call.waits p id = 1 := measureOf_of_call? hid
    rw [lookMarks_listen] at hlook
    simpa [Tallies, Event.ops, marksOf, resumes, hone] using hlook
  | @evicted id failure w conn hid =>
    have hpatient := isSome_patienceOf_giveBack ((call?_sayCloseFailed p failure id).trans hid)
    refine tallies_look rfl rfl ?_ (measureOf_of_call? hid)
    rw [hpatient, lookMarks_sayCloseFailed, marksOf, hid]
  | @release id conn hid =>
    exact tallies_quiet rfl rfl (by simp [marksOf]) (measureOf_of_none hid)
      ((serves_release p id conn).waits_eq_zero (by decide))
  | discard hid =>
    exact tallies_quiet rfl rfl (by simp [marksOf]) (measureOf_of_none hid) (measureOf_hold _ _ _)
  | @shutdown id hid =>
    exact tallies_quiet rfl rfl (by simp [marksOf]) (measureOf_of_none hid)
      ((serves_shutdown p id).waits_eq_zero (by decide))
  | @dialed id result w hid =>
    refine tallies_quiet rfl rfl ?_ (measureOf_of_call? hid) ?_
    · cases result <;> simp [marksOf, Note.isExhausted, Note.isRejected]
    · cases result with
      | ok conn => exact measureOf_finish _ _ _
      | error cause =>
        exact (measureOf_notifyAll Call.waits_notify _ id).trans
          (measureOf_finish (p.say (.dialFailed cause)) id (.acquired (.error (.factory cause))))
  | @pinged id failure w x hid =>
    refine tallies_quiet rfl rfl ?_ (measureOf_of_call? hid) ?_
    · cases failure <;> simp [marksOf, hid, Note.isExhausted, Note.isRejected]
    · cases failure with
      | none => exact measureOf_finish _ _ _
      | some cause => exact measureOf_hold _ _ _
  | released hid | discarded hid | tidied hid | tidiedBadly hid =>
    exact tallies_quiet rfl rfl (by simp [marksOf, hid]) (measureOf_of_call? hid) (measureOf_finish _ _ _)
  | @drained id failure _ rest hid =>
    exact tallies_quiet rfl rfl (by simp [marksOf, hid]) (measureOf_of_call? hid)
      ((serves_drain _ id rest).waits_eq_zero (by decide))
  | @expire id w hid _ _ =>
    have hone : measureOf Call.waits p id = 1 := measureOf_of_call? hid
    simp [Tallies, Event.ops, marksOf, resumes, hone, measureOf_finish, Note.isExhausted,
      Note.isRejected, -finish]
  | @cancel id task canSpawn w stage hid htask =>
    have hne : id ≠ task := by
      rintro rfl
      cases hid.symm.trans htask
    have hended := measureOf_of_none (m := Call.waits) (ended_cancel hne p canSpawn stage).1
    have htask' : measureOf Call.waits (p.cancel id canSpawn task stage) task = 0 :=
      measureOf_task hne htask fun _ hkind => Call.waits_of_kind (hkind ▸ by decide)
    simp only [Tallies, Event.ops, marksOf, List.map_cons, List.map_nil, measureOf_of_call? hid,
      measureOf_of_none htask, hended, htask', resumes, hid]
    cases stage <;> rfl
  | tidy hid =>
    exact tallies_quiet rfl rfl (by simp [marksOf]) (measureOf_of_call? hid) (measureOf_hold _ _ _)
  | pass => rfl

/-- An event changes the counter by what it makes of rejections, of acquires that are parked and of those
that were. -/
theorem exhaustedTotal_step (hd : p.Distinct) (hstep : p.step e = some q) :
    q.exhaustedTotal + (p.rejections + p.waiting) =
      p.exhaustedTotal + (q.rejections + q.waiting + (p.resumes e).length) := by
  have hwaiting : q.waiting + (e.ops.map (measureOf Call.waits p)).sum =
      p.waiting + (e.ops.map (measureOf Call.waits q)).sum := tally_step Call.waits_notify hd hstep
  have htallies := tallies_step hstep
  unfold Tallies at htallies
  rw [exhaustedTotal_eq_marks q, exhaustedTotal_eq_marks p, rejections_eq_marks q,
    rejections_eq_marks p, marks_step hstep, List.countP_append, List.countP_append]
  omega

/-- The counter is what was rejected, what is parked, and what was parked once and is not told. -/
theorem exhausted_counted (hopen : Opened r p) (hrun : Run step p es q) :
    q.exhaustedTotal = q.rejections + q.waiting + (along step resumes p es).length := by
  obtain ⟨idle, hfresh⟩ := hopen.fresh
  refine (hrun.induction_last (P := fun es q => Run step p es q ∧ q.Distinct ∧
    q.exhaustedTotal = q.rejections + q.waiting + (along step resumes p es).length) ?_ ?_).2.2
  · refine ⟨.nil p, hfresh.distinct, ?_⟩
    rw [exhaustedTotal_eq_marks, rejections_eq_marks, hfresh.marks, waiting, hfresh.calls]
    rfl
  · intro fs e u v ⟨hu, hd, hcount⟩ hstep
    refine ⟨hu.append (.cons hstep (.nil v)), Distinct.kept.step hd hstep, ?_⟩
    have hone := exhaustedTotal_step hd hstep
    rw [hu.along_concat, List.length_append]
    omega

theorem Call.waits_eq_zero_iff (c : Call) : c.waits = 0 ↔ ∀ w, c ≠ .acquire w .parked := by
  cases c with
  | acquire w stage => cases stage <;> simp [waits]
  | _ => simp [waits]

/-- Nobody waits exactly when no acquire is parked. -/
theorem waiting_eq_zero_iff (hd : p.Distinct) :
    p.waiting = 0 ↔ ∀ id w, p.call? id ≠ some (.acquire w .parked) := by
  rw [waiting, tally_eq_zero_iff]
  constructor
  · intro hzero id w hid
    exact (Call.waits_eq_zero_iff _).1 (hzero _ (mem_of_call? hid)) w rfl
  · intro hnone x hx
    refine (Call.waits_eq_zero_iff _).2 fun w hparked => hnone x.1 w ?_
    rw [← hparked]
    exact lookup_of_mem hd hx

/-- The counter of exhausted checkouts, after any run of any events. It is the number of acquires that were
told that the pool is exhausted exactly as long as none is parked and none that was parked came away
otherwise. -/
theorem exhausted_total_iff (hopen : Opened r p) (hrun : Run step p es q) :
    q.exhaustedTotal = q.rejections + q.waiting + (along step resumes p es).length ∧
      (q.exhaustedTotal = q.rejections ↔
        (∀ id w, q.call? id ≠ some (.acquire w .parked)) ∧ along step resumes p es = []) := by
  have hcount := exhausted_counted hopen hrun
  have hd : q.Distinct :=
    (hopen.reachable hrun).induct (fun _ _ h => h.distinct) fun _ _ _ h => Distinct.kept.step h
  refine ⟨hcount, ?_⟩
  rw [← waiting_eq_zero_iff hd, ← List.length_eq_zero_iff]
  omega

/-- An acquire waits in vain, and another one does not wait: both are told, and both are counted. -/
theorem counted_as_rejected : ∃ p q, Opened ⟨1, 1, 1, .zero⟩ p ∧
    Run step p [.acquire 1 none, .pinged 1 none, .acquire 2 (some (.ofMillis 20)), .pass 21000000,
      .expire 2, .acquire 3 none] q ∧ q.rejections = 2 ∧ q.exhaustedTotal = 2 := by
  have hopen := Opened.of_foldlM (r := ⟨1, 1, 1, .zero⟩) [.dialed (.ok 0)] rfl
  have hrun := hopen.start.further [.acquire 1 none, .pinged 1 none,
    .acquire 2 (some (.ofMillis 20)), .pass 21000000, .expire 2, .acquire 3 none] rfl
  exact ⟨_, _, hopen, hrun, rfl,
    (exhausted_total_iff hopen hrun).2.2 ⟨fun id w => nofun, rfl⟩⟩

/-- An acquire waits until a connection comes back and gets it: one checkout is counted as exhausted, and
nobody was told that the pool is. -/
theorem counted_without_rejection : ∃ p q, Opened ⟨1, 1, 1, .zero⟩ p ∧
    Run step p [.acquire 1 none, .pinged 1 none, .acquire 2 (some (.ofMillis 1000)), .release 3 0,
      .retry 2, .pinged 2 none] q ∧ q.answer? 2 = some (.acquired (.ok 0)) ∧ q.calls = [] ∧
    q.rejections = 0 ∧ q.exhaustedTotal = 1 := by
  have hopen := Opened.of_foldlM (r := ⟨1, 1, 1, .zero⟩) [.dialed (.ok 0)] rfl
  exact ⟨_, _, hopen, .of_foldlM rfl, rfl, rfl, rfl, rfl⟩

end PooledTcp.Pool
