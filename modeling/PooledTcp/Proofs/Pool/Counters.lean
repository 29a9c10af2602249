import PooledTcp.Proofs.Pool.Frame
import PooledTcp.Proofs.Pool.Opened

/-!
# The counters of a pool

A pool counts what it hands out, what it evicts and how often it is found full. The counters are read off
the history, so each of them is the number of notes of its kind (`acquireTotal_eq`, `evictedTotal_eq`,
`exhaustedTotal_eq`). Beside them stand the answers that they are about: the connections that acquires
returned, and the acquires that were told that the pool is exhausted. `marks` keeps these notes alone, and
`marks_step` says which of them an event adds.
-/

namespace PooledTcp.Pool

namespace Note

/-- A checkout succeeded, with a connection from there. -/
def isAcquired (s : Source) : Note → Bool
  | acquired t => t = s
  | _ => false

/-- An idle connection was found unfit, for that reason. -/
def isEvicted (r : Eviction) : Note → Bool
  | evicted t => t = r
  | _ => false

def isExhausted : Note → Bool
  | exhausted => true
  | _ => false

/-- An acquire is told that the pool is exhausted. -/
def isRejected : Note → Bool
  | answered _ (.acquired (.error .exhausted)) => true
  | _ => false

/-- The acquire that returns a connection, and the connection. -/
def returned? : Note → Option (CallId × ConnId)
  | answered id (.acquired (.ok conn)) => some (id, conn)
  | _ => none

/-- The note bears on a counter. -/
def isMark : Note → Bool
  | acquired _ | evicted _ | exhausted | answered _ (.acquired (.ok _))
  | answered _ (.acquired (.error .exhausted)) => true
  | _ => false

end Note

/-- The counter of the checkouts that succeeded, by where their connections came from. -/
def acquireTotal (p : Pool) (s : Source) : Nat :=
  ((Metrics.ofList p.measurements).get?
    ⟨"netpool_pool_acquire_total", [("addr", p.addr), ("source", Note.source s)]⟩).getD 0

/-- The counter of the idle connections that were not handed out, by the reason. -/
def evictedTotal (p : Pool) (r : Eviction) : Nat :=
  ((Metrics.ofList p.measurements).get?
    ⟨"netpool_pool_evicted_total", [("addr", p.addr), ("reason", Note.reason r)]⟩).getD 0

/-- The counter of the checkouts that found the pool full. -/
def exhaustedTotal (p : Pool) : Nat :=
  ((Metrics.ofList p.measurements).get?
    ⟨"netpool_pool_exhausted_total", [("addr", p.addr)]⟩).getD 0

/-- The acquires that returned a connection, once for each time, latest first. -/
def returns (p : Pool) : List (CallId × ConnId) := p.history.filterMap (·.returned?)

/-- How often an acquire was told that the pool is exhausted. -/
def rejections (p : Pool) : Nat := p.history.countP (·.isRejected)

/-- The notes that bear on a counter, latest first. -/
def marks (p : Pool) : List Note := p.history.filter (·.isMark)

/-- The marks of an acquire that looks for a connection. -/
def lookMarks (p : Pool) (id : CallId) (patient : Bool) : List Note :=
  match p.idle with
  | none => []
  | some [] =>
    if p.limits.maxConns ≤ p.checkedOut then
      if patient then [.exhausted]
      else [.answered id (.acquired (.error .exhausted)), .exhausted]
    else []
  | some (x :: _) => if p.isStale x then [.evicted .stale] else []

/-- The marks of an event, latest first. -/
def marksOf (p : Pool) : Event → List Note
  | .acquire id wait => p.lookMarks id wait.isSome
  | .retry id => p.lookMarks id true
  | .closed id _ =>
    match p.call? id with
    | some (.acquire w (.evicting _)) => p.giveBack.lookMarks id w.isSome
    | _ => []
  | .dialed id (.ok conn) => [.answered id (.acquired (.ok conn)), .acquired .new]
  | .pinged id none =>
    match p.call? id with
    | some (.acquire _ (.pinging x)) => [.answered id (.acquired (.ok x.conn)), .acquired .idle]
    | _ => []
  | .pinged _ (some _) => [.evicted .unhealthy]
  | .expire id => [.answered id (.acquired (.error .exhausted))]
  | _ => []

variable {p q : Pool} {id : CallId} {e : Event}

section Counters

theorem acquireTotal_eq (p : Pool) (s : Source) :
    p.acquireTotal s = p.history.countP (·.isAcquired s) := by
  refine Metrics.get?_ofList_notes p.history (fun n => ?_) fun n c hn hmetric => ?_
  · cases n with
    | acquired t => cases s <;> cases t <;> simp [Note.measurement?, Note.isAcquired, Note.source]
    | _ => simp [Note.measurement?, Note.isAcquired]
  · cases n <;> simp [Note.measurement?] at hn <;> subst hn <;> simp_all [Measurement.metric]

theorem evictedTotal_eq (p : Pool) (r : Eviction) :
    p.evictedTotal r = p.history.countP (·.isEvicted r) := by
  refine Metrics.get?_ofList_notes p.history (fun n => ?_) fun n c hn hmetric => ?_
  · cases n with
    | evicted t => cases r <;> cases t <;> simp [Note.measurement?, Note.isEvicted, Note.reason]
    | _ => simp [Note.measurement?, Note.isEvicted]
  · cases n <;> simp [Note.measurement?] at hn <;> subst hn <;> simp_all [Measurement.metric]

theorem exhaustedTotal_eq (p : Pool) : p.exhaustedTotal = p.history.countP (·.isExhausted) := by
  refine Metrics.get?_ofList_notes p.history (fun n => ?_) fun n c hn hmetric => ?_
  · cases n <;> simp [Note.measurement?, Note.isExhausted]
  · cases n <;> simp [Note.measurement?] at hn <;> subst hn <;> simp_all [Measurement.metric]

/-- What counts marks alone can be counted among the marks. -/
theorem countP_marks {kind : Note → Bool} (hkind : ∀ n, kind n = true → n.isMark = true) (p : Pool) :
    p.history.countP kind = p.marks.countP kind := by
  rw [marks, List.countP_filter]
  refine List.countP_congr fun n _ => ?_
  simpa using hkind n

theorem acquireTotal_eq_marks (p : Pool) (s : Source) :
    p.acquireTotal s = p.marks.countP (·.isAcquired s) := by
  rw [acquireTotal_eq, countP_marks]
  intro n hn
  cases n <;> first | rfl | cases hn

theorem evictedTotal_eq_marks (p : Pool) (r : Eviction) :
    p.evictedTotal r = p.marks.countP (·.isEvicted r) := by
  rw [evictedTotal_eq, countP_marks]
  intro n hn
  cases n <;> first | rfl | cases hn

theorem exhaustedTotal_eq_marks (p : Pool) : p.exhaustedTotal = p.marks.countP (·.isExhausted) := by
  rw [exhaustedTotal_eq, countP_marks]
  intro n hn
  cases n <;> first | rfl | cases hn

theorem rejections_eq_marks (p : Pool) : p.rejections = p.marks.countP (·.isRejected) := by
  refine countP_marks (fun n hn => ?_) p
  unfold Note.isRejected at hn
  split at hn
  · rfl
  · cases hn

theorem returns_eq_marks (p : Pool) : p.returns = p.marks.filterMap (·.returned?) := by
  have hmark (n : Note) : (if n.isMark then n.returned? else none) = n.returned? := by
    cases hn : n.returned? with
    | none => exact ite_self none
    | some x =>
      unfold Note.returned? at hn
      split at hn
      · rfl
      · cases hn
  simp only [marks, List.filterMap_filter, hmark, returns]

end Counters

section Marks

attribute [local simp] marks Note.isMark

/-- An acquire that looks sees the queue, the slots, the clock and the limits alone. -/
theorem lookMarks_congr {p q : Pool} (hidle : p.idle = q.idle) (hout : p.checkedOut = q.checkedOut)
    (hnow : p.now = q.now) (hlimits : p.limits = q.limits) (id : CallId) (patient : Bool) :
    p.lookMarks id patient = q.lookMarks id patient := by
  unfold lookMarks isStale
  rw [hidle, hout, hnow, hlimits]

theorem lookMarks_listen (p : Pool) (deadline : Option Nat) (id : CallId) (patient : Bool) :
    (p.listen deadline).1.lookMarks id patient = p.lookMarks id patient :=
  lookMarks_congr rfl rfl rfl rfl id patient

theorem lookMarks_sayCloseFailed (p : Pool) (failure : Option IoError) (id : CallId) (patient : Bool) :
    (p.sayCloseFailed failure).giveBack.lookMarks id patient = p.giveBack.lookMarks id patient :=
  lookMarks_congr (by simp [sayCloseFailed_eq]) (by simp [sayCloseFailed_eq])
    (by simp [sayCloseFailed_eq]) (by simp [sayCloseFailed_eq]) id patient

theorem marks_look (p : Pool) (id : CallId) (w : Option Patience) :
    (p.look id w).marks = p.lookMarks id w.isSome ++ p.marks := by
  have h := p.looked id w
  generalize p.look id w = q at h ⊢
  cases h with
  | refused hidle => simp [lookMarks, hidle]
  | rejected hidle hfull | parked hidle hfull => simp [lookMarks, hidle, hfull]
  | dials hidle hfree => simp [lookMarks, hidle, Nat.not_le.2 hfree]
  | evicts hidle hstale | pings hidle hstale => simp [lookMarks, hidle, hstale, took]

theorem marks_drain (p : Pool) (id : CallId) (rest : List IdleEntry) :
    (p.drain id rest).marks = p.marks := by
  cases rest <;> simp [drain]

theorem marks_release (p : Pool) (id : CallId) (conn : ConnId) :
    (p.release id conn).marks = p.marks := by
  unfold release
  split
  · simp
  · split
    · simp
    · split <;> simp

theorem marks_shutdown (p : Pool) (id : CallId) : (p.shutdown id).marks = p.marks := by
  unfold shutdown
  split
  · simp
  · rw [marks_drain]
    simp

theorem marks_leave (p : Pool) (conn : ConnId) (canSpawn : Bool) (task : CallId) :
    (p.leave conn canSpawn task).marks = p.marks := by
  cases canSpawn <;> simp [leave]

theorem marks_cancel (p : Pool) (id task : CallId) (canSpawn : Bool) (stage : AcquireStage) :
    (p.cancel id canSpawn task stage).marks = p.marks := by
  cases stage with
  | pinging x =>
    simp only [cancel, reclaim]
    split
    · rw [marks_leave]
      simp
    · split
      · simp
      · rw [marks_leave]
        simp
  | _ => simp [cancel]

theorem marks_sayCloseFailed (p : Pool) (failure : Option IoError) :
    (p.sayCloseFailed failure).marks = p.marks := by
  cases failure <;> simp [sayCloseFailed]

/-- An acquire that is told of something given back stays as patient as it is. -/
theorem isSome_patienceOf_giveBack {w : Option Patience} {stage : AcquireStage}
    (hid : p.call? id = some (.acquire w stage)) : (p.giveBack.patienceOf id).isSome = w.isSome := by
  have hcall : p.giveBack.call? id = some (Call.acquire w stage).notify := by
    rw [giveBack, call?_notifyAll]
    exact congrArg (Option.map Call.notify) hid
  rw [patienceOf, hcall]
  cases w <;> rfl

/-- One that is not patient is not patient then. -/
theorem patienceOf_giveBack {stage : AcquireStage} (hid : p.call? id = some (.acquire none stage)) :
    p.giveBack.patienceOf id = none :=
  Option.isSome_eq_false_iff.1 (isSome_patienceOf_giveBack hid) |> Option.isNone_iff_eq_none.1

/-- A pool to which nothing has happened has counted nothing. -/
theorem Fresh.marks {r : PoolRequest} {idle : List IdleEntry} (h : Fresh r p idle) : p.marks = [] := by
  simp [h.history]

/-- The marks that an event adds. -/
theorem marks_step (hstep : p.step e = some q) : q.marks = p.marksOf e ++ p.marks := by
  cases Move.of_step hstep with
  | acquire _ => exact marks_look p _ none
  | acquirePatiently _ | retry _ _ =>
    rw [marks_look, lookMarks_listen]
    rfl
  | release _ => exact marks_release p _ _
  | shutdown _ => exact marks_shutdown p _
  | @dialed id result w _ => cases result <;> simp [afterDial, marksOf]
  | @pinged id failure w x hid => cases failure <;> simp [afterPing, marksOf, hid]
  | @evicted id failure w conn hid =>
    have hpatient := isSome_patienceOf_giveBack ((call?_sayCloseFailed p failure id).trans hid)
    have hsame : (p.sayCloseFailed failure).giveBack.marks = p.marks := marks_sayCloseFailed p failure
    rw [afterEviction, marks_look, hpatient, hsame, lookMarks_sayCloseFailed, marksOf, hid]
  | @drained id failure _ rest hid =>
    rw [marks_drain, marks_sayCloseFailed]
    simp [marksOf, hid]
  | @released id failure _ _ hid | @discarded id failure _ hid =>
    have hsame := marks_sayCloseFailed p failure
    simpa [marksOf, hid] using hsame
  | cancel _ _ => exact marks_cancel p _ _ _ _
  | tidied hid | tidiedBadly hid => simp [marksOf, hid]
  | _ => simp [marksOf]

end Marks

end PooledTcp.Pool
