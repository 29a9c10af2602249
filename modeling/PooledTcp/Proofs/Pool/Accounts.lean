import PooledTcp.Proofs.Counting
import PooledTcp.Proofs.Pool.Custody
import PooledTcp.Proofs.Pool.Room
import PooledTcp.Proofs.Pool.Slots

/-!
# The slots of a pool account for every connection

When callers keep to the rules, the slots taken are those of the connections that callers hold and of the
acquires that dial, ping or close what they evicted, at any time, before a shutdown and after it
(`Accounted`). So whatever frees a slot finds one taken, and no release is told that its connection was not
checked out.

It follows that a pool never has more connections than it may, dials in progress included: what is idle,
held, pinged or left to a shutdown is all that was dialled and neither passed to a close nor dropped. A
connection that is dropped because no task can close it is the pool's no longer, though no close was begun:
counted as one, it makes one too many (`dropped_counts_as_open`).
-/

namespace PooledTcp.Pool

/-- One for an acquire that dials. -/
def Call.dialling : Call → Nat
  | .acquire _ .dialing => 1
  | _ => 0

/-- How many dials are in progress. -/
def dials (p : Pool) : Nat := tally Call.dialling p.calls

/-- The connection that a task of its own is about to close. -/
def Call.leftover : Call → List ConnId
  | .abandoned conn => [conn]
  | _ => []

/-- The connections that tasks of their own are about to close. -/
def leftovers (p : Pool) : List ConnId := p.calls.flatMap (·.2.leftover)

/-- The connections that an operation carries and no task of its own is about to close. -/
def Call.kept : Call → List ConnId
  | .acquire _ (.pinging x) => [x.conn]
  | .shutdown _ rest => rest.map (·.conn)
  | _ => []

/-- A release was told that its connection was not checked out, or is going to be. -/
def Refuses (p : Pool) : Prop :=
  (∃ id, .answered id (.released (.error .invalidConnection)) ∈ p.history) ∨
    ∃ id, p.Promises id .invalidConnection

section Calls

theorem Call.carries_split (c : Call) (conn : ConnId) :
    c.carries conn = c.kept.count conn + c.leftover.count conn := by
  cases c with
  | acquire w stage => cases stage <;> simp [Call.kept, Call.leftover]
  | _ => simp [Call.kept, Call.leftover]

theorem tally_carries (calls : List (CallId × Call)) (conn : ConnId) :
    tally (·.carries conn) calls = (calls.flatMap (·.2.kept)).count conn +
      (calls.flatMap (·.2.leftover)).count conn := by
  induction calls with
  | nil => rfl
  | cons x calls ih =>
    have hsplit := x.2.carries_split conn
    simp only [tally_cons, List.flatMap_cons, List.count_append]
    omega

/-- A dial and a ping have a slot, and the other connections that operations carry are left to shutdowns. -/
theorem Call.dialling_add_kept (c : Call) : c.dialling + c.kept.length ≤ c.reserves + c.left := by
  cases c with
  | acquire w stage => cases stage <;> simp [dialling, kept, reserves, left]
  | _ => simp [dialling, kept, reserves, left]

theorem dials_add_kept (calls : List (CallId × Call)) :
    tally Call.dialling calls + (calls.flatMap (·.2.kept)).length ≤
      tally Call.reserves calls + tally Call.left calls := by
  induction calls with
  | nil => exact Nat.le_refl _
  | cons x calls ih =>
    have hone := x.2.dialling_add_kept
    simp only [tally_cons, List.flatMap_cons, List.length_append]
    omega

end Calls

/-- A release is refused only if it begins while nothing is checked out. -/
theorem refuses_step {p q : Pool} {e : Event} (hpos : ∀ id conn, e = .release id conn → 0 < p.checkedOut)
    (hstep : p.step e = some q) (h : ¬p.Refuses) : ¬q.Refuses := by
  rintro (⟨id, hn⟩ | ⟨id, hid⟩)
  · obtain ⟨news, hhist, hnews⟩ := (within_step hstep).notes
    rw [hhist] at hn
    rcases List.mem_append.1 hn with hn | hn
    · exact h (.inr ⟨id, (hnews _ hn).2⟩)
    · exact h (.inl ⟨id, hn⟩)
  · rcases promises_step hstep hid with hp | ⟨conn, he, -, hzero⟩
    · exact h (.inr ⟨id, hp⟩)
    · exact absurd hzero (Nat.ne_of_gt (hpos id conn he))

namespace Custody

/-- The connections that callers hold. -/
def held (s : Custody) : List ConnId := s.pool.handedOut.diff s.returned

/-- The connections that were dialled and neither passed to a close nor left to a task to be closed. -/
def unclosed (s : Custody) : List ConnId :=
  s.dialled.filter fun conn => conn ∉ s.pool.closes ∧ conn ∉ s.pool.leftovers

/-- Those of them that were not dropped either. -/
def alive (s : Custody) : List ConnId := s.unclosed.filter (· ∉ s.pool.drops)

/-- Every slot is accounted for, and no release was told otherwise. -/
structure Accounted (s : Custody) : Prop where
  balanced : s.Balanced
  slots : s.pool.checkedOut + s.returned.length = s.pool.owed
  refuses : ¬s.pool.Refuses

variable {r : PoolRequest} {s t : Custody} {e : Event} {es : List Event} {conn : ConnId}

/-- A run under the rules is a run of the pool. -/
theorem run_pool (h : Run Custody.step s es t) : Run Pool.step s.pool es t.pool := by
  induction h with
  | nil => exact .nil _
  | cons hstep _ ih => exact .cons (step_eq_some hstep).2.1 ih

theorem count_held (s : Custody) (conn : ConnId) : s.held.count conn = s.holders conn :=
  List.count_diff _ _ _

theorem length_held (h : s.Balanced) :
    s.held.length + s.returned.length = s.pool.handedOut.length :=
  length_diff h.returned

/-- The slots taken are those of what is held and of the acquires that have one. -/
theorem Accounted.checkedOut (h : s.Accounted) :
    s.pool.checkedOut = s.held.length + s.pool.reservations := by
  have hslots := h.slots
  have hlen := length_held h.balanced
  unfold owed at hslots
  omega

/-- Whatever frees a slot finds one taken. -/
theorem Accounted.frees (h : s.Accounted) (hstep : s.step e = some t) (hfrees : s.pool.Frees e) :
    0 < s.pool.checkedOut := by
  obtain ⟨hallow, hpool, -, -⟩ := step_eq_some hstep
  have hsource := hfrees.source h.balanced.distinct hpool
  rw [h.checkedOut]
  rcases Nat.eq_zero_or_pos e.returned.length with hnone | hback
  · omega
  · obtain ⟨conn, hconn⟩ := List.exists_mem_of_length_pos hback
    have hheld := hallow.2 conn hconn
    rw [← count_held] at hheld
    exact Nat.add_pos_left (Nat.lt_of_lt_of_le hheld List.count_le_length) _

/-- Every step leaves every slot accounted for. -/
theorem Accounted.step (h : s.Accounted) (hstep : s.step e = some t) : t.Accounted := by
  obtain ⟨hallow, hpool, -, hreturned⟩ := step_eq_some hstep
  have hfrees := h.frees hstep
  refine ⟨h.balanced.step hstep, ?_, refuses_step (fun id conn he => ?_) hpool h.refuses⟩
  · have hslots := slots_step h.balanced.distinct hfrees hpool
    have hbefore := h.slots
    rw [hreturned, List.length_append]
    omega
  · subst he
    exact hfrees trivial

theorem Begins.accounted (h : Begins r s) : s.Accounted := by
  obtain ⟨idle, hfresh⟩ := h.opened.fresh
  refine ⟨h.balanced, ?_, ?_⟩
  · simp [owed, reservations, handedOut, hfresh.checkedOut, hfresh.calls, hfresh.history, h.returned,
      Note.handed?]
  · rintro (⟨id, hn⟩ | ⟨id, conn, hid⟩)
    · simp [hfresh.history] at hn
    · have hmem := mem_of_call? hid
      rw [hfresh.calls] at hmem
      cases hmem

theorem Accounted.run (h : s.Accounted) (hrun : Run Custody.step s es t) : t.Accounted :=
  hrun.keeps (fun _ _ _ hs hstep => hs.step hstep) h

section Alive

/-- A connection that is alive is idle, held, or carried by an operation that is no task of its own. -/
theorem alive_subset (h : s.Balanced) :
    s.alive ⊆ s.pool.idleConns ++ s.held ++ s.pool.calls.flatMap (·.2.kept) := by
  intro conn hconn
  obtain ⟨hunclosed, hdrops⟩ := List.mem_filter.1 hconn
  obtain ⟨hdialled, hnot⟩ := List.mem_filter.1 hunclosed
  obtain ⟨hcloses, hleft⟩ := of_decide_eq_true hnot
  have hone := h.length_places conn
  have hcloses : s.pool.closes.count conn = 0 := List.count_eq_zero.2 hcloses
  have hdrops : s.pool.drops.count conn = 0 := List.count_eq_zero.2 (of_decide_eq_true hdrops)
  have hleft : s.pool.leftovers.count conn = 0 := List.count_eq_zero.2 hleft
  rw [length_places, h.nodup.count, if_pos hdialled, tally_carries, ← leftovers, ← count_held] at hone
  rw [← List.count_pos_iff, List.count_append, List.count_append]
  omega

theorem length_alive (h : s.Balanced) : s.alive.length ≤
    s.pool.idleCount + s.held.length + (s.pool.calls.flatMap (·.2.kept)).length := by
  have hnodup : s.alive.Nodup := (h.nodup.filter _).filter _
  have hlen := (List.subperm_of_subset hnodup (alive_subset h)).length_le
  simp only [List.length_append, idleConns, List.length_map] at hlen
  exact hlen

end Alive

/-- What is alive and what is being dialled is no more than a pool may have. -/
theorem Accounted.alive_le (h : s.Accounted) (hreach : Reachable r s.pool) :
    s.pool.dials + s.alive.length ≤ r.limits.maxConns := by
  have halive := length_alive h.balanced
  have hdials := dials_add_kept s.pool.calls
  have htotal := hreach.total
  rw [h.checkedOut] at htotal
  unfold dials reservations Pool.left at *
  omega

/-- At any point of any run under the rules the slots taken are those of the connections that callers hold
and of the acquires that dial, ping or close what they evicted. So every slot that is freed was taken, no
release is refused, and the dials in progress and the connections that were dialled and neither passed to a
close nor left to a task nor dropped are together at most `maxConns`. -/
theorem slots_accounted (hbegin : Begins r s) (hrun : Run Custody.step s es t) :
    t.pool.checkedOut = t.held.length + t.pool.reservations ∧
    (∀ e u, t.step e = some u → t.pool.Frees e → 0 < t.pool.checkedOut) ∧
    (∀ id, .answered id (.released (.error .invalidConnection)) ∉ t.pool.history) ∧
    t.pool.dials + t.alive.length ≤ r.limits.maxConns := by
  have ht := hbegin.accounted.run hrun
  refine ⟨ht.checkedOut, fun e u hstep hfrees => ht.frees hstep hfrees, fun id hn => ?_, ?_⟩
  · exact ht.refuses (.inl ⟨id, hn⟩)
  · exact ht.alive_le (hbegin.opened.reachable (run_pool hrun))

/-- One acquire pings, one connection is held and a third one is dialled when the pool is shut down; two
slots are freed after that. -/
theorem slots_accounted_after_shutdown : ∃ s t, Begins ⟨1, 3, 1, .zero⟩ s ∧
    Run Custody.step s [.acquire 1 none, .acquire 2 none, .dialed 2 (.ok 1), .acquire 3 none,
      .shutdown 4, .cancel 1 true 5, .release 6 1] t ∧
    t.held = [] ∧ t.pool.reservations = 1 ∧ t.pool.checkedOut = t.held.length + t.pool.reservations ∧
    t.pool.dials + t.alive.length ≤ 3 := by
  have hopen := Opened.of_foldlM (r := ⟨1, 3, 1, .zero⟩) [.dialed (.ok 0)] rfl
  have hbegin : Begins ⟨1, 3, 1, .zero⟩ ⟨_, [0], []⟩ := ⟨hopen, by decide, rfl, rfl⟩
  have hrun := hbegin.start.further [.acquire 1 none, .acquire 2 none, .dialed 2 (.ok 1),
    .acquire 3 none, .shutdown 4, .cancel 1 true 5, .release 6 1] rfl
  obtain ⟨hout, -, -, hbound⟩ := slots_accounted hbegin hrun
  exact ⟨_, _, hbegin, hrun, by decide, rfl, hout, hbound⟩

/-- A pool of two: an acquire is given up during its ping where the queue is full and no task can be
started, and its connection is dropped. The pool goes on to hand out one connection and to dial another. -/
theorem dropped_counts_as_open : ∃ s t, Begins ⟨1, 2, 1, .zero⟩ s ∧
    Run Custody.step s [.acquire 1 none, .acquire 2 none, .dialed 2 (.ok 1), .release 3 1,
      .cancel 1 false 4, .acquire 5 none, .pinged 5 none, .acquire 6 none] t ∧
    t.pool.limits.maxConns = 2 ∧ t.pool.dials = 1 ∧ t.unclosed = [1, 0] ∧
    ¬t.pool.dials + t.unclosed.length ≤ t.pool.limits.maxConns := by
  have hopen := Opened.of_foldlM (r := ⟨1, 2, 1, .zero⟩) [.dialed (.ok 0)] rfl
  have hbegin : Begins ⟨1, 2, 1, .zero⟩ ⟨_, [0], []⟩ := ⟨hopen, by decide, rfl, rfl⟩
  have hrun := hbegin.start.further [.acquire 1 none, .acquire 2 none, .dialed 2 (.ok 1),
    .release 3 1, .cancel 1 false 4, .acquire 5 none, .pinged 5 none, .acquire 6 none] rfl
  exact ⟨_, _, hbegin, hrun, rfl, rfl, by decide, by decide⟩

end Custody
end PooledTcp.Pool
