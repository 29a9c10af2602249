import PooledTcp.Proofs.Pool.Absorbed
import PooledTcp.Proofs.Pool.Capacity
import PooledTcp.Proofs.Pool.Outcome

/-!
# The gauge of idle connections

A pool publishes the length of its queue whenever an acquire takes an entry, a release parks one, and when a
shutdown ends. It does not when an acquire that is given up puts its entry back. `gauge?` is what the
metrics then show for the pool; it is the length that was published last (`gauge?_eq`).

An event either publishes the length that the queue then has, or leaves both as they are (`Settled`), but
for two kinds: a shutdown that has entries left to close (`Draining`), and an acquire that puts its entry
back (`PutsBack`). So the gauge is right throughout a run, but for such shutdowns, exactly when no acquire
of the run puts an entry back (`gauge_agrees_iff`). `gauge_behind_after_cancel` is the shortest run in which
one does.
-/

namespace PooledTcp

namespace Pool

/-- The gauge of idle connections of the pool for `addr`. -/
def idleGauge (addr : String) : Metric := ⟨"netpool_pool_idle_connections", [("addr", addr)]⟩

/-- What the metrics show for the idle connections of the pool. -/
def gauge? (p : Pool) : Option Nat := (Metrics.ofList p.measurements).get? (idleGauge p.addr)

/-- The number of idle connections that the note publishes. -/
def Note.published? : Note → Option Nat
  | .idleLength n => some n
  | _ => none

/-- The number of idle connections that was published last. -/
def published? (p : Pool) : Option Nat := p.history.findSome? (·.published?)

/-- A shutdown has begun to close the entries that it found and has not ended. -/
def Draining (p : Pool) : Prop := ∃ id conn rest, p.call? id = some (.shutdown conn rest)

/-- The event gives up an acquire during its ping, and there is room to put its entry back. -/
def PutsBack (p : Pool) : Event → Prop
  | .cancel id _ _ => ∃ w x idle, p.call? id = some (.acquire w (.pinging x)) ∧
      p.idle = some idle ∧ idle.length < p.limits.maxIdle
  | _ => False

/-- The length of the queue was published, or neither it nor what was published has changed. -/
def Settled (p q : Pool) : Prop :=
  q.published? = some q.idleCount ∨ q.idle = p.idle ∧ q.published? = p.published?

variable {r : PoolRequest} {p q : Pool} {id : CallId} {e : Event} {es : List Event}

/-- The gauge shows what was published last. -/
theorem gauge?_eq (p : Pool) : p.gauge? = p.published? := by
  unfold gauge? measurements published?
  induction p.history with
  | nil => rfl
  | cons n history ih =>
    rw [List.reverse_cons, List.filterMap_append, List.findSome?_cons, ← ih]
    cases n with
    | idleLength k =>
      simp [Note.measurement?, Note.published?, Metrics.ofList_concat, Metrics.get?_record,
        Measurement.metric, Measurement.next, idleGauge]
    | acquired s =>
      simp [Note.measurement?, Note.published?, Metrics.ofList_concat, Metrics.get?_record,
        Measurement.metric, idleGauge]
    | evicted s =>
      simp [Note.measurement?, Note.published?, Metrics.ofList_concat, Metrics.get?_record,
        Measurement.metric, idleGauge]
    | exhausted =>
      simp [Note.measurement?, Note.published?, Metrics.ofList_concat, Metrics.get?_record,
        Measurement.metric, idleGauge]
    | _ => simp [Note.measurement?, Note.published?]

section Settled

attribute [local simp] published? Note.published?

theorem published?_sayCloseFailed (p : Pool) (failure : Option IoError) :
    (p.sayCloseFailed failure).published? = p.published? := by
  cases failure <;> simp [sayCloseFailed]

theorem settled_look {p' : Pool} (hidle : p'.idle = p.idle) (hsame : p'.published? = p.published?)
    (w : Option Patience) : Settled p (p'.look id w) := by
  have hsame' : p'.history.findSome? (·.published?) = p.history.findSome? (·.published?) := hsame
  unfold look
  split
  · exact .inr ⟨by simpa using hidle, by simpa using hsame'⟩
  · split
    · cases w with
      | none => exact .inr ⟨by simpa using hidle, by simpa using hsame'⟩
      | some w => exact .inr ⟨by simpa using hidle, by simpa using hsame'⟩
    · exact .inr ⟨by simpa using hidle, by simpa using hsame'⟩
  · dsimp only
    split
    · exact .inl (by simp [idleCount])
    · exact .inl (by simp [idleCount])

theorem settled_afterPing (w : Option Patience) (x : IdleEntry) (failure : Option IoError) :
    Settled p (p.afterPing id w x failure) := by
  refine .inr ⟨idle_afterPing w x failure, ?_⟩
  cases failure <;> simp [afterPing]

theorem settled_afterDial (result : Except IoError ConnId) : Settled p (p.afterDial id result) := by
  refine .inr ⟨idle_afterDial result, ?_⟩
  cases result <;> simp [afterDial]

theorem settled_release (conn : ConnId) : Settled p (p.release id conn) := by
  unfold release
  split
  · exact .inr ⟨by simp, by simp⟩
  · split
    · exact .inr ⟨by simp, by simp⟩
    · split
      · exact .inl (by simp [idleCount])
      · exact .inr ⟨by simp, by simp⟩

/-- A shutdown that goes on publishes that nothing is idle, or has entries left to close. -/
theorem settled_drain (hidle : p.idle = none) (rest : List IdleEntry) :
    (p.drain id rest).published? = some (p.drain id rest).idleCount ∨ (p.drain id rest).Draining := by
  cases rest with
  | nil => exact .inl (by simp [drain, idleCount, hidle])
  | cons x rest => exact .inr ⟨id, _, _, call?_hold_self _ _ _⟩

theorem settled_shutdown : Settled p (p.shutdown id) ∨ (p.shutdown id).Draining := by
  unfold shutdown
  split
  · exact .inl (.inr ⟨by simp, by simp⟩)
  · exact (settled_drain (by simp) _).imp_left .inl

theorem published?_leave (conn : ConnId) (canSpawn : Bool) (task : CallId) :
    (p.leave conn canSpawn task).published? = p.published? := by
  cases canSpawn <;> simp [leave]

/-- An acquire that is given up publishes nothing, whatever becomes of its entry. -/
theorem published?_cancel (p : Pool) (id task : CallId) (canSpawn : Bool) (stage : AcquireStage) :
    (p.cancel id canSpawn task stage).published? = p.published? := by
  cases stage with
  | pinging x =>
    have hleft : ((p.finish id .cancelled).giveBack.leave x.conn canSpawn task).published? =
        p.published? := (published?_leave _ _ _).trans (by simp)
    simp only [cancel, reclaim]
    split
    · exact hleft
    · split
      · simp
      · exact hleft
  | _ => simp [cancel]

theorem settled_cancel {w : Option Patience} {stage : AcquireStage} {task : CallId}
    {canSpawn : Bool} (hid : p.call? id = some (.acquire w stage))
    (hnot : ¬p.PutsBack (.cancel id canSpawn task)) :
    Settled p (p.cancel id canSpawn task stage) := by
  refine .inr ⟨?_, published?_cancel p id task canSpawn stage⟩
  cases stage with
  | pinging x =>
    simp only [cancel, reclaim]
    split
    · simp
    · rename_i idle hidle
      split
      · rename_i hroom
        exact absurd ⟨w, x, idle, hid, hidle, hroom⟩ hnot
      · simp
  | _ => rfl

/-- An event that puts no entry back settles the gauge, unless a shutdown has entries left to close. -/
theorem settled_step (hdrain : p.Draining → p.idle = none) (hnot : ¬p.PutsBack e)
    (hstep : p.step e = some q) : Settled p q ∨ q.Draining := by
  cases Move.of_step hstep with
  | acquire _ => exact .inl (settled_look rfl rfl none)
  | acquirePatiently _ => exact .inl (settled_look (by simp) (by simp) _)
  | release _ => exact .inl (settled_release _)
  | shutdown _ => exact settled_shutdown
  | dialed _ => exact .inl (settled_afterDial _)
  | pinged _ => exact .inl (settled_afterPing _ _ _)
  | @evicted _ failure _ _ _ =>
    have hsame : (p.sayCloseFailed failure).giveBack.published? = p.published? :=
      published?_sayCloseFailed p failure
    exact .inl (settled_look (by simp) hsame _)
  | released _ | discarded _ => exact .inl (.inr ⟨by simp, published?_sayCloseFailed p _⟩)
  | drained hid =>
    refine (settled_drain ?_ _).imp_left .inl
    rw [idle_sayCloseFailed]
    exact hdrain ⟨_, _, _, hid⟩
  | retry _ _ => exact .inl (settled_look (by simp) (by simp) _)
  | cancel hid _ => exact .inl (settled_cancel hid hnot)
  | _ => exact .inl (.inr ⟨by simp, by simp⟩)

end Settled

/-- A shutdown that has entries left to close has taken the queue. -/
def DrainsClosed (p : Pool) : Prop := p.Draining → p.idle = none

theorem DrainsClosed.step (h : DrainsClosed p) (hstep : p.step e = some q) : DrainsClosed q := by
  rintro ⟨id, conn, rest, hid⟩
  cases hcall : p.call? id with
  | some c =>
    have hkind := (serves_step hstep hcall).kind_eq hid
    cases c with
    | shutdown _ _ => exact (closed_step (h ⟨_, _, _, hcall⟩) hstep).1
    | _ => cases hkind
  | none =>
    have hbegins := begins_step hstep hcall hid
    cases e with
    | shutdown i =>
      cases Move.of_step hstep with
      | shutdown _ => exact idle_shutdown
    | _ => first | exact hbegins.elim | cases hbegins.2

/-- A shutdown that has entries left to close publishes that nothing is idle when it ends. -/
theorem draining_step (hclosed : DrainsClosed p) (h : p.Draining) (hstep : p.step e = some q) :
    q.published? = some q.idleCount ∨ q.Draining := by
  have hidle := hclosed h
  obtain ⟨id, conn, rest, hid⟩ := h
  by_cases he : ∃ failure, e = .closed id failure
  · obtain ⟨failure, rfl⟩ := he
    have hq : (p.sayCloseFailed failure).drain id rest = q := by
      simpa only [Pool.step, hid, Option.some.injEq] using hstep
    rw [← hq]
    exact settled_drain (by simpa using hidle) rest
  · have hne : ∀ failure, e ≠ .closed id failure := fun failure heq => he ⟨failure, heq⟩
    exact .inr ⟨id, conn, rest, call?_of_awaitsClose hid trivial hstep hne⟩

/-- An event that happens while the gauge is right leaves it right, or a shutdown with entries left to
close, unless it puts an entry back. -/
theorem gauge_step (hclosed : DrainsClosed p) (h : ¬p.Draining → p.gauge? = some p.idleCount)
    (hstep : p.step e = some q) : (¬q.Draining → q.gauge? = some q.idleCount) ↔ ¬p.PutsBack e := by
  simp only [gauge?_eq] at h ⊢
  constructor
  · intro hq hback
    cases e with
    | cancel id canSpawn task =>
      obtain ⟨w, x, idle, hid, hidle, hroom⟩ := hback
      have hidle' := idle_of_cancel hstep hid hidle hroom
      have hopen : ¬q.Draining := fun hdrain => by
        cases hidle'.symm.trans (hclosed.step hstep hdrain)
      have hsame : q.published? = p.published? := by
        cases Move.of_step hstep with
        | cancel hid' _ => exact published?_cancel _ _ _ _ _
      have hp : ¬p.Draining := fun hdrain => by cases hidle.symm.trans (hclosed hdrain)
      have hnow := hq hopen
      rw [hsame, h hp, idleCount_eq hidle, idleCount_eq hidle'] at hnow
      simp at hnow
    | _ => exact hback
  · intro hnot hdrain
    by_cases hp : p.Draining
    · exact (draining_step hclosed hp hstep).resolve_right hdrain
    · rcases (settled_step hclosed hnot hstep).resolve_right hdrain with hpub | ⟨hidle, hsame⟩
      · exact hpub
      · rw [hsame, h hp, idleCount, idleCount, hidle]

theorem not_draining_of_calls (h : p.calls = []) : ¬p.Draining := by
  rintro ⟨id, conn, rest, hid⟩
  have hmem := mem_of_call? hid
  rw [h] at hmem
  cases hmem

theorem Fresh.drainsClosed {idle : List IdleEntry} (h : Fresh r p idle) : DrainsClosed p :=
  fun hdrain => absurd hdrain (not_draining_of_calls h.calls)

/-- A pool that was just opened has published how many connections it opened. -/
theorem Fresh.gauge {idle : List IdleEntry} (h : Fresh r p idle) : p.gauge? = some p.idleCount := by
  rw [gauge?_eq, idleCount_eq h.idle, h.length, published?, h.history]
  rfl

/-- The gauge shows how many connections are idle throughout a run, wherever no shutdown has entries left to
close, exactly when the run gives up no acquire whose ping is under way while the queue has room for its
entry. -/
theorem gauge_agrees_iff (hopen : Opened r p) (hrun : Run step p es q) :
    (∀ es₁ s, es₁ <+: es → Run step p es₁ s → ¬s.Draining → s.gauge? = some s.idleCount) ↔
    ∀ es₁ e s, es₁ ++ [e] <+: es → Run step p es₁ s → ¬s.PutsBack e := by
  obtain ⟨idle, hfresh⟩ := hopen.fresh
  exact hrun.throughout_iff (P := fun s => ¬s.Draining → s.gauge? = some s.idleCount)
    (fun _ _ _ => DrainsClosed.step) (fun _ _ _ => gauge_step) hfresh.drainsClosed
    fun _ => hfresh.gauge

/-- The gauge is right when the pool is shut down during the ping, and the acquire is given up after that. -/
theorem gauge_agrees_after_shutdown : ∃ p q, Opened ⟨1, 1, 1, .zero⟩ p ∧
    Run step p [.acquire 1 none, .shutdown 2, .cancel 1 false 3] q ∧ ¬q.Draining ∧
    q.idleCount = 0 ∧ q.gauge? = some 0 := by
  have hopen := Opened.of_foldlM (r := ⟨1, 1, 1, .zero⟩) [.dialed (.ok 0)] rfl
  have hrun := hopen.start.further [.acquire 1 none, .shutdown 2, .cancel 1 false 3] rfl
  refine ⟨_, _, hopen, hrun, not_draining_of_calls rfl, rfl, ?_⟩
  refine (gauge_agrees_iff hopen hrun).2 ?_ _ _ List.prefix_rfl hrun (not_draining_of_calls rfl)
  intro es₁ e s hpre hs hback
  rcases es₁ with _ | ⟨a, _ | ⟨b, _ | ⟨c, tail⟩⟩⟩ <;> simp at hpre
  · obtain rfl := hpre
    exact hback
  · obtain ⟨rfl, rfl⟩ := hpre
    exact hback
  · obtain ⟨rfl, rfl, rfl⟩ := hpre
    obtain rfl := hs.unique (hopen.start.further [.acquire 1 none, .shutdown 2] rfl)
    obtain ⟨w, x, idle, -, hidle, -⟩ := hback
    cases hidle

/-- An acquire is given up during its ping and its entry goes back, and the gauge still shows zero. -/
theorem gauge_behind_after_cancel : ∃ p q, Opened ⟨1, 1, 1, .zero⟩ p ∧
    Run step p [.acquire 1 none, .cancel 1 true 2] q ∧ ¬q.Draining ∧
    q.idle = some [⟨0, 0⟩] ∧ q.idleCount = 1 ∧ q.gauge? = some 0 := by
  have hopen := Opened.of_foldlM (r := ⟨1, 1, 1, .zero⟩) [.dialed (.ok 0)] rfl
  exact ⟨_, _, hopen, .of_foldlM rfl, not_draining_of_calls rfl, rfl, rfl, rfl⟩

end Pool
end PooledTcp
