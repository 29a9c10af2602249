import PooledTcp.Proofs.Pool.Handing

/-!
# What the slots of a pool are taken for

A slot is taken for a connection that was handed out and for an acquire that dials, pings, or waits for the
close of what it evicted. `owed` counts both, and an event changes the number of slots taken as it changes
what is owed, less one for a connection that is given back (`slots_step`). This needs that a slot is taken
where one is freed (`Frees`): the subtraction stops at zero.
-/

namespace PooledTcp.Pool

/-- One for an acquire that has a slot of its own: it dials, pings, or closes what it evicted. -/
def Call.reserves : Call → Nat
  | .acquire _ .parked => 0
  | .acquire _ _ => 1
  | _ => 0

/-- How many acquires have a slot of their own. -/
def reservations (p : Pool) : Nat := tally Call.reserves p.calls

/-- One if operation `id` has a slot of its own. -/
def reservedBy (p : Pool) (id : CallId) : Nat := measureOf Call.reserves p id

/-- How many slots were taken for what was handed out, and are taken for acquires. -/
def owed (p : Pool) : Nat := p.handedOut.length + p.reservations

/-- The event frees a slot. -/
def Frees (p : Pool) : Event → Prop
  | .release _ _ | .discard _ _ | .dialed _ (.error _) => True
  | .closed id _ => ∃ w conn, p.call? id = some (.acquire w (.evicting conn))
  | .cancel id _ _ => ∃ w stage, p.call? id = some (.acquire w stage) ∧ stage ≠ .parked
  | _ => False

/-- The slots taken follow what is owed, as far as operation `id` goes, and `n` connections given back. -/
def Squares (id : CallId) (n : Nat) (p q : Pool) : Prop :=
  q.checkedOut + n + (p.handedOut.length + p.reservedBy id) =
    p.checkedOut + (q.handedOut.length + q.reservedBy id)

variable {r : PoolRequest} {p q : Pool} {id task : CallId} {e : Event} {c : Call} {k : Kind}

@[simp] theorem Call.reserves_notify (c : Call) : c.notify.reserves = c.reserves := by
  cases c with
  | acquire w stage => cases w <;> cases stage <;> rfl
  | _ => rfl

section Reserved

theorem reservedBy_of_call? (h : p.call? id = some c) : p.reservedBy id = c.reserves :=
  measureOf_of_call? h

theorem reservedBy_of_none (h : p.call? id = none) : p.reservedBy id = 0 := measureOf_of_none h

theorem reservedBy_hold (p : Pool) (id : CallId) (c : Call) :
    (p.hold id c).reservedBy id = c.reserves :=
  measureOf_hold p id c

theorem reservedBy_finish (p : Pool) (id : CallId) (a : Answer) :
    (p.finish id a).reservedBy id = 0 :=
  measureOf_finish p id a

theorem reservedBy_notifyAll (p : Pool) (id : CallId) :
    p.notifyAll.reservedBy id = p.reservedBy id :=
  measureOf_notifyAll Call.reserves_notify p id

theorem reservedBy_giveBack (p : Pool) (id : CallId) :
    p.giveBack.reservedBy id = p.reservedBy id :=
  reservedBy_notifyAll p.freeSlot id

theorem Call.reserves_of_kind (h : c.kind ≠ .acquire) : c.reserves = 0 := by
  cases c with
  | acquire w stage => exact absurd rfl h
  | _ => rfl

/-- Only acquires have slots of their own. -/
theorem Serves.reservedBy (h : p.Serves id k) (hk : k ≠ .acquire) : p.reservedBy id = 0 :=
  h.measureOf_eq_zero fun _ hkind => Call.reserves_of_kind (hkind ▸ hk)

/-- The task of an acquire that is given up has no slot. -/
theorem reservedBy_task {canSpawn : Bool} {stage : AcquireStage} (hne : id ≠ task)
    (htask : p.call? task = none) : (p.cancel id canSpawn task stage).reservedBy task = 0 :=
  measureOf_task hne htask fun _ hkind => Call.reserves_of_kind (hkind ▸ nofun)

end Reserved

section Squares

attribute [local simp] handedOut Note.handed? Call.reserves

/-- An acquire that looks takes a slot for itself, or none. -/
theorem checkedOut_look (p : Pool) (id : CallId) (w : Option Patience) :
    (p.look id w).checkedOut = p.checkedOut + (p.look id w).reservedBy id := by
  unfold look
  split
  · rw [reservedBy_finish]
    simp
  · split
    · cases w with
      | none =>
        rw [reservedBy_finish]
        simp
      | some w =>
        rw [reservedBy_hold]
        simp
    · rw [reservedBy_hold]
      simp
  · dsimp only
    split
    · rw [reservedBy_hold]
      simp
    · rw [reservedBy_hold]
      simp

theorem squares_look (hid : p.reservedBy id = 0) (w : Option Patience) :
    Squares id 0 p (p.look id w) := by
  rw [Squares, hid, checkedOut_look, handedOut_look]
  omega

/-- The slot of what is evicted is free before its acquire looks again. -/
theorem squares_evicted (hid : p.reservedBy id = 1) (hpos : 0 < p.checkedOut) :
    Squares id 0 p (p.afterEviction id) := by
  rw [Squares, afterEviction, hid, checkedOut_look, handedOut_look]
  simp
  omega

/-- The slot of a ping goes to what is handed out, or stays with the acquire that waits for the close. -/
theorem squares_afterPing (hid : p.reservedBy id = 1) (w : Option Patience) (x : IdleEntry)
    (failure : Option IoError) : Squares id 0 p (p.afterPing id w x failure) := by
  cases failure with
  | none =>
    rw [Squares, hid, afterPing, reservedBy_finish]
    simp
  | some cause =>
    rw [Squares, hid, afterPing, reservedBy_hold]
    simp

/-- The slot of a dial goes to what is handed out, or is free. -/
theorem squares_afterDial (hid : p.reservedBy id = 1) (result : Except IoError ConnId)
    (hfrees : p.Frees (.dialed id result) → 0 < p.checkedOut) :
    Squares id 0 p (p.afterDial id result) := by
  cases result with
  | ok conn =>
    rw [Squares, hid, afterDial, reservedBy_finish]
    simp
  | error cause =>
    have hpos := hfrees trivial
    rw [Squares, hid, afterDial, reservedBy_giveBack, reservedBy_finish]
    simp
    omega

theorem squares_drain (hid : p.reservedBy id = 0) (rest : List IdleEntry) :
    Squares id 0 p (p.drain id rest) := by
  rw [Squares, hid, (serves_drain p id rest).reservedBy nofun]
  cases rest with
  | nil => simp [drain]
  | cons x rest => simp [drain]

theorem squares_shutdown (hid : p.reservedBy id = 0) : Squares id 0 p (p.shutdown id) := by
  rw [Squares, hid, (serves_shutdown p id).reservedBy nofun]
  unfold shutdown
  split
  · simp
  · rename_i idle _
    cases idle with
    | nil => simp [drain]
    | cons x rest => simp [drain]

/-- A release frees a slot, whatever becomes of its connection. -/
theorem squares_release (hid : p.reservedBy id = 0) (hpos : 0 < p.checkedOut) (conn : ConnId) :
    Squares id 1 p (p.release id conn) := by
  rw [Squares, hid, (serves_release p id conn).reservedBy nofun]
  unfold release
  split
  · simp
    omega
  · split
    · omega
    · split
      · simp
        omega
      · simp
        omega

theorem squares_discard (hid : p.reservedBy id = 0) (hpos : 0 < p.checkedOut) (conn : ConnId) :
    Squares id 1 p ((p.giveBack.request id (.close conn)).hold id (.discard conn)) := by
  rw [Squares, hid, reservedBy_hold]
  simp
  omega

/-- An operation without a slot ends. -/
theorem squares_finish (hid : p.reservedBy id = 0) {a : Answer}
    (ha : (Note.answered id a).handed? = none) : Squares id 0 p (p.finish id a) := by
  rw [Squares, hid, reservedBy_finish]
  simp [-Note.handed?, ha]

/-- An acquire that is given up frees the slot that it has. -/
theorem checkedOut_cancel (p : Pool) (id task : CallId) (canSpawn : Bool) (w : Option Patience)
    (stage : AcquireStage) : (p.cancel id canSpawn task stage).checkedOut =
      p.checkedOut - (Call.acquire w stage).reserves := by
  cases stage with
  | pinging x =>
    simp only [cancel, reclaim, leave]
    split
    · cases canSpawn <;> simp
    · split
      · simp
      · cases canSpawn <;> simp
  | _ => simp [cancel]

theorem squares_tidy {conn : ConnId} (hid : p.reservedBy id = 0) :
    Squares id 0 p ((p.request id (.close conn)).hold id (.tidying conn)) := by
  rw [Squares, hid, reservedBy_hold]
  simp

/-- That a close failed is logged, and nothing else. -/
theorem squares_sayCloseFailed {n : Nat} {failure : Option IoError}
    (h : Squares id n (p.sayCloseFailed failure) q) : Squares id n p q := by
  cases failure with
  | none => exact h
  | some cause => exact h

theorem reservedBy_sayCloseFailed (p : Pool) (failure : Option IoError) (id : CallId) :
    (p.sayCloseFailed failure).reservedBy id = p.reservedBy id := by
  cases failure <;> rfl

end Squares

/-- What an event does to the slots, seen from the operations that it acts for. -/
theorem slots_ops (hfrees : p.Frees e → 0 < p.checkedOut) (hstep : p.step e = some q) :
    q.checkedOut + e.returned.length + (p.handedOut.length + (e.ops.map p.reservedBy).sum) =
      p.checkedOut + (q.handedOut.length + (e.ops.map q.reservedBy).sum) := by
  cases Move.of_step hstep with
  | acquire hid => exact squares_look (reservedBy_of_none hid) none
  | acquirePatiently hid => exact squares_look (p := (p.listen _).1) (reservedBy_of_none hid) _
  | release hid => exact squares_release (reservedBy_of_none hid) (hfrees trivial) _
  | discard hid => exact squares_discard (reservedBy_of_none hid) (hfrees trivial) _
  | shutdown hid => exact squares_shutdown (reservedBy_of_none hid)
  | dialed hid => exact squares_afterDial (reservedBy_of_call? hid) _ hfrees
  | pinged hid => exact squares_afterPing (reservedBy_of_call? hid) _ _ _
  | @evicted id failure w conn hid =>
    have hone := (reservedBy_sayCloseFailed p failure id).trans (reservedBy_of_call? hid)
    have hpos : 0 < (p.sayCloseFailed failure).checkedOut := by
      rw [sayCloseFailed_eq]
      exact hfrees ⟨w, conn, hid⟩
    exact squares_sayCloseFailed (squares_evicted hone hpos)
  | @released id failure _ _ hid | @discarded id failure _ hid =>
    have hnone := (reservedBy_sayCloseFailed p failure id).trans (reservedBy_of_call? hid)
    exact squares_sayCloseFailed (squares_finish hnone rfl)
  | @drained id failure _ rest hid =>
    have hnone := (reservedBy_sayCloseFailed p failure id).trans (reservedBy_of_call? hid)
    exact squares_sayCloseFailed (squares_drain hnone rest)
  | tidied hid => exact squares_finish (reservedBy_of_call? hid) rfl
  | tidiedBadly hid => exact squares_finish (p := p.say _) (reservedBy_of_call? hid) rfl
  | retry hid _ => exact squares_look (p := (p.listen _).1) (reservedBy_of_call? hid) _
  | expire hid _ _ => exact squares_finish (reservedBy_of_call? hid) rfl
  | @cancel id task canSpawn w stage hid htask =>
    have hne : id ≠ task := by
      rintro rfl
      cases hid.symm.trans htask
    have hout := checkedOut_cancel p id task canSpawn w stage
    have hhanded := handedOut_cancel p id task canSpawn stage
    have hend := reservedBy_of_none (ended_cancel hne p canSpawn stage).1
    have htask' : (p.cancel id canSpawn task stage).reservedBy task = 0 :=
      reservedBy_task hne htask
    have hpos : (Call.acquire w stage).reserves ≤ p.checkedOut := by
      cases stage with
      | parked => exact Nat.zero_le _
      | _ => exact hfrees ⟨w, _, hid, nofun⟩
    simp only [Event.ops, Event.returned, List.map_cons, List.map_nil, List.sum_cons, List.sum_nil,
      List.length_nil, hout, hhanded, hend, htask', reservedBy_of_call? hid,
      reservedBy_of_none htask]
    omega
  | tidy hid => exact squares_tidy (reservedBy_of_call? hid)
  | pass => rfl

/-- An acquire that is not parked has a slot of its own. -/
theorem reservations_pos {w : Option Patience} {stage : AcquireStage} (hd : p.Distinct)
    (hid : p.call? id = some (.acquire w stage)) (hstage : stage ≠ .parked) :
    0 < p.reservations := by
  have hothers := tally_others hd Call.reserves id
  have hone : measureOf Call.reserves p id = 1 := by
    refine (reservedBy_of_call? hid).trans ?_
    cases stage with
    | parked => exact absurd rfl hstage
    | _ => rfl
  unfold reservations
  omega

/-- The slot that is freed is that of what is given back, or of an acquire that has one. -/
theorem Frees.source (h : p.Frees e) (hd : p.Distinct) (hstep : p.step e = some q) :
    0 < e.returned.length + p.reservations := by
  cases e with
  | release id conn | discard id conn => exact Nat.lt_add_right _ Nat.one_pos
  | dialed id result =>
    cases Move.of_step hstep with
    | dialed hid => exact Nat.lt_add_left _ (reservations_pos hd hid nofun)
  | closed id failure =>
    obtain ⟨w, c, hid⟩ := h
    exact Nat.lt_add_left _ (reservations_pos hd hid nofun)
  | cancel id canSpawn task =>
    obtain ⟨w, stage, hid, hstage⟩ := h
    exact Nat.lt_add_left _ (reservations_pos hd hid hstage)
  | _ => exact h.elim

/-- The slots taken change as what is owed does, less what is given back. -/
theorem slots_step (hd : p.Distinct) (hfrees : p.Frees e → 0 < p.checkedOut)
    (hstep : p.step e = some q) :
    q.checkedOut + e.returned.length + p.owed = p.checkedOut + q.owed := by
  have hops : q.checkedOut + e.returned.length +
      (p.handedOut.length + (e.ops.map (measureOf Call.reserves p)).sum) =
      p.checkedOut + (q.handedOut.length + (e.ops.map (measureOf Call.reserves q)).sum) :=
    slots_ops hfrees hstep
  have htally := tally_step Call.reserves_notify hd hstep
  unfold owed reservations
  omega

end PooledTcp.Pool
