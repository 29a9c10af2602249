import PooledTcp.Proofs.Pool.Custody
import PooledTcp.Proofs.Pool.Winding

/-!
# No connection is lost, shared or closed twice

The callers of a pool keep to the rules of `Custody`. Then each connection that was dialled is in exactly one
place at any time, whatever the order of events (`connections_conserved`). What follows is what one wants to
know of a pool of connections: nobody else gets a connection that somebody holds, a connection whose close
began is never handed out again and never closed again, and one is dropped only when its ping is given up
where neither the queue nor a task can take it.

After a shutdown, when the callers have given back what they held and no acquire is left, the pool is winding
down: every order in which the closes and tasks in flight end is finite, and leads to a state where each
connection was passed to exactly one close or was dropped.
-/

namespace PooledTcp.Pool.Custody

/-- The pool is shut down, no acquire is in flight and nobody holds a connection. -/
structure Over (s : Custody) : Prop where
  winding : Winding s.pool
  returned : ∀ conn, s.holders conn = 0

/-- The connection was passed to exactly one close, or dropped. -/
def Gone (s : Custody) (conn : ConnId) : Prop :=
  (∃ id, s.places conn = [.closed id]) ∨ s.places conn = [.dropped]

variable {r : PoolRequest} {s t : Custody} {e : Event} {es : List Event} {conn : ConnId}

/-- Where nothing is idle, held or carried, every connection is gone. -/
theorem Balanced.gone (h : Balanced s) (hidle : s.pool.idle = none)
    (hheld : ∀ conn, s.holders conn = 0) (hcarried : ∀ x ∈ s.pool.calls, x.2.carried = [])
    (hdialled : conn ∈ s.dialled) : s.Gone conn := by
  obtain ⟨place, hplace⟩ := h.eq_singleton hdialled
  have hmem : place ∈ s.places conn := by rw [hplace]; exact List.mem_singleton_self _
  rw [Gone, hplace]
  rcases of_mem_places hmem with ⟨-, hin⟩ | ⟨-, hpos⟩ | ⟨x, hx, -, hin⟩ | ⟨id, rfl⟩ | ⟨rfl, -⟩
  · simp [idleConns, hidle] at hin
  · have hnone := hheld conn
    omega
  · rw [hcarried x hx] at hin
    cases hin
  · exact .inl ⟨id, rfl⟩
  · exact .inr rfl

/-- A connection whose close began is not handed out in the next step. -/
theorem Balanced.handedOut_step (h : Balanced s) (hstep : s.step e = some t)
    (hclosed : conn ∈ s.pool.closes) :
    conn ∈ t.pool.closes ∧ t.pool.handedOut.count conn = s.pool.handedOut.count conn := by
  obtain ⟨hallow, hpool, -, hreturned⟩ := step_eq_some hstep
  have hgrown := history_step hpool
  have hclosed' : conn ∈ t.pool.closes := (hgrown.filterMap _).subset hclosed
  have hmore : s.pool.handedOut.count conn ≤ t.pool.handedOut.count conn :=
    (hgrown.filterMap _).sublist.count_le conn
  -- nobody holds it before or after, so nobody gives it back either
  have hbefore := h.holders_of_closed hclosed
  have hafter := (h.step hstep).holders_of_closed hclosed'
  have hgiven := hallow.count_le conn
  have hle := h.returned conn
  unfold holders at hbefore hafter hgiven
  rw [hreturned, List.count_append] at hafter
  exact ⟨hclosed', by omega⟩

/-- A connection whose close began is never handed out again. -/
theorem Balanced.handedOut_run (h : Balanced s) (hrun : Run Custody.step s es t)
    (hclosed : conn ∈ s.pool.closes) :
    conn ∈ t.pool.closes ∧ t.pool.handedOut.count conn = s.pool.handedOut.count conn := by
  induction hrun with
  | nil => exact ⟨hclosed, rfl⟩
  | cons hstep _ ih =>
    obtain ⟨hclosed', hsame⟩ := h.handedOut_step hstep hclosed
    obtain ⟨hclosed'', hsame'⟩ := ih (h.step hstep) hclosed'
    exact ⟨hclosed'', hsame'.trans hsame⟩

/-- Nothing is dropped at first. -/
theorem Begins.drops (h : Begins r s) : conn ∉ s.pool.drops := by
  obtain ⟨idle, hfresh⟩ := h.opened.fresh
  have hstock := stock_fresh hfresh conn
  rw [Pool.stock] at hstock
  exact List.count_eq_zero.1 (by omega)

/-- What is dropped was abandoned by an event of the run. -/
theorem dropped_abandoned (h : Begins r s) (hrun : Run Custody.step s es t)
    (hdropped : conn ∈ t.pool.drops) : ∃ es₁ e es₂ u, es = es₁ ++ e :: es₂ ∧
      Run Custody.step s es₁ u ∧ u.pool.Abandons conn e := by
  obtain ⟨es₁, e, es₂, u, v, hes, hu, hstep, hnot, hv⟩ :=
    hrun.turn (P := fun s => conn ∈ s.pool.drops) h.drops hdropped
  exact ⟨es₁, e, es₂, u, hes, hu, abandons_of_drops (step_eq_some hstep).2.1 hnot hv⟩

theorem completes_brings_nothing (he : e.Completes) : e.dialled = [] ∧ e.returned = [] := by
  cases e with
  | closed _ _ => exact ⟨rfl, rfl⟩
  | tidy _ => exact ⟨rfl, rfl⟩
  | _ => exact he.elim

/-- A close or a task that comes to its end leaves less to do, and nobody gets a connection by it. -/
theorem Over.step (h : Over s) (hs : Balanced s) (he : e.Completes) (hstep : s.step e = some t) :
    Over t ∧ t.dialled = s.dialled ∧ t.pool.work < s.pool.work := by
  obtain ⟨-, hpool, hdialled, hreturned⟩ := step_eq_some hstep
  obtain ⟨hnone, hnone'⟩ := completes_brings_nothing he
  rw [hnone] at hdialled
  rw [hnone'] at hreturned
  obtain ⟨hwinding, hhanded, hwork⟩ := winding_step hs.distinct h.winding he hpool
  refine ⟨⟨hwinding, fun conn => ?_⟩, hdialled, hwork⟩
  rw [holders, hhanded, hreturned]
  exact h.returned conn

/-- Closes and tasks come to their end only so often. -/
theorem Over.run (h : Over s) (hs : Balanced s) (hrun : Run Custody.step s es t)
    (hes : ∀ e ∈ es, e.Completes) :
    Over t ∧ t.dialled = s.dialled ∧ es.length + t.pool.work ≤ s.pool.work := by
  induction hrun with
  | nil => exact ⟨h, rfl, by simp⟩
  | cons hstep _ ih =>
    obtain ⟨he, hrest⟩ := List.forall_mem_cons.1 hes
    obtain ⟨hover, hdialled, hwork⟩ := h.step hs he hstep
    obtain ⟨hover', hdialled', hwork'⟩ := ih hover (hs.step hstep) hrest
    exact ⟨hover', hdialled'.trans hdialled, by simp only [List.length_cons]; omega⟩

/-- As long as something is in flight, a close or a task can come to its end. -/
theorem Over.progress (h : Over s) (hcalls : s.pool.calls ≠ []) :
    ∃ e t, e.Completes ∧ s.step e = some t := by
  obtain ⟨e, q, he, hstep⟩ := winding_progress h.winding hcalls
  obtain ⟨hnone, hnone'⟩ := completes_brings_nothing he
  refine ⟨e, ⟨q, e.dialled ++ s.dialled, e.returned ++ s.returned⟩, he, ?_⟩
  simp [Custody.step, Allows, hnone, hnone', hstep]

/-- At any point of any run each dialled connection is in one place and any other one in none. So no two
callers hold it, its close begins once at most and it is not handed out after that, and it is dropped only
by an event that abandons it. With the pool shut down, nothing held and nothing carried, it is gone; and when
the pool is over, the closes and tasks in flight come to their end in finitely many steps, and then every
connection is gone. -/
theorem connections_conserved (hbegin : Begins r s) (hrun : Run Custody.step s es t) :
    (∀ conn ∈ t.dialled, ∃ place, t.places conn = [place]) ∧
    (∀ conn, conn ∉ t.dialled → t.places conn = []) ∧
    (∀ conn, t.holders conn ≤ 1) ∧ t.pool.closes.Nodup ∧
    (∀ conn ∈ t.pool.closes, t.holders conn = 0 ∧ ∀ fs u, Run Custody.step t fs u →
      u.pool.handedOut.count conn = t.pool.handedOut.count conn) ∧
    (∀ conn, t.places conn = [.dropped] → ∃ es₁ e es₂ u, es = es₁ ++ e :: es₂ ∧
      Run Custody.step s es₁ u ∧ u.pool.Abandons conn e) ∧
    (t.pool.idle = none → (∀ conn, t.holders conn = 0) → (∀ x ∈ t.pool.calls, x.2.carried = []) →
      ∀ conn ∈ t.dialled, t.Gone conn) ∧
    (t.Over → ∀ fs u, Run Custody.step t fs u → (∀ e ∈ fs, e.Completes) →
      fs.length ≤ t.pool.work ∧ (u.pool.calls ≠ [] → ∃ e v, e.Completes ∧ u.step e = some v) ∧
      (u.pool.calls = [] → ∀ conn ∈ t.dialled, u.Gone conn)) := by
  have hs := hbegin.balanced
  have ht := hs.run hrun
  refine ⟨fun conn => ht.eq_singleton, fun conn => ht.eq_nil, fun conn => ?_, ?_,
    fun conn hclosed => ?_, fun conn h => ?_,
    fun hidle hheld hcarried conn => ht.gone hidle hheld hcarried, fun hover fs u hfs hall => ?_⟩
  · have hle := ht.length_le_one conn
    rw [length_places] at hle
    omega
  · refine List.nodup_iff_count.2 fun conn => ?_
    have hle := ht.length_le_one conn
    rw [length_places] at hle
    omega
  · exact ⟨ht.holders_of_closed hclosed, fun fs u hfs => (ht.handedOut_run hfs hclosed).2⟩
  · refine dropped_abandoned hbegin hrun (mem_drops_of_place ?_)
    rw [h]
    exact List.mem_singleton_self _
  · obtain ⟨hover', hdialled, hlen⟩ := hover.run ht hfs hall
    refine ⟨by omega, hover'.progress, fun hcalls conn hconn => ?_⟩
    refine (ht.run hfs).gone hover'.winding.idle hover'.returned ?_ (hdialled ▸ hconn)
    simp [hcalls]

/-- Two acquires ping, the pool is shut down, the first one is given up and the second one gets its
connection and gives it back. Then the pool is over, and both connections come to be closed. -/
theorem closed_once_after_shutdown : ∃ s t u, Begins ⟨2, 2, 2, .zero⟩ s ∧
    Run Custody.step s [.acquire 1 none, .acquire 2 none, .shutdown 3, .cancel 1 true 4,
      .pinged 2 none, .release 5 1] t ∧ t.Over ∧
    Run Custody.step t [.closed 5 none, .tidy 4, .closed 4 none] u ∧ u.pool.calls = [] ∧
    t.dialled = [0, 1] ∧ ∀ conn ∈ t.dialled, u.Gone conn := by
  have hopen := Opened.of_foldlM (r := ⟨2, 2, 2, .zero⟩) [.dialed (.ok 0), .dialed (.ok 1)] rfl
  have hbegin : Begins ⟨2, 2, 2, .zero⟩ ⟨_, [0, 1], []⟩ := ⟨hopen, by decide, rfl, rfl⟩
  have hrun := hbegin.start.further [.acquire 1 none, .acquire 2 none, .shutdown 3,
    .cancel 1 true 4, .pinged 2 none, .release 5 1] rfl
  have hfurther := hrun.further [.closed 5 none, .tidy 4, .closed 4 none] rfl
  suffices hover : Over _ from ⟨_, _, _, hbegin, hrun, hover, hfurther, rfl, rfl,
    ((connections_conserved hbegin hrun).2.2.2.2.2.2.2 hover _ _ hfurther
      (by simp [Event.Completes])).2.2 rfl⟩
  refine ⟨⟨rfl, fun x hx w stage heq => ?_⟩, fun conn => Nat.sub_self ([1].count conn)⟩
  rcases List.mem_cons.1 hx with rfl | hx
  · cases heq
  · obtain rfl := List.mem_singleton.1 hx
    cases heq

end PooledTcp.Pool.Custody
