import PooledTcp.Proofs.Pool.Stock

/-!
# What is left to do after a shutdown

Once a pool is shut down and no acquire is in flight, all that is in flight are closes and tasks that are
about to begin one. Each of them that comes to its end, in whatever order and with whatever result, leaves
less to do (`winding_step`), and as long as one is in flight one of them can (`winding_progress`).
-/

namespace PooledTcp.Pool

/-- The event ends a close, or begins the work of a task. -/
def Event.Completes : Event → Prop
  | .closed _ _ | .tidy _ => True
  | _ => False

/-- The pool is shut down and no acquire is in flight. -/
structure Winding (p : Pool) : Prop where
  idle : p.idle = none
  calls : ∀ x ∈ p.calls, ∀ w stage, x.2 ≠ .acquire w stage

/-- How often an operation is yet to move on, when it is no acquire. -/
def Call.work : Call → Nat
  | .shutdown _ rest => rest.length + 1
  | .abandoned _ => 2
  | _ => 1

/-- How often the operations in flight are yet to move on. -/
def work (p : Pool) : Nat := tally Call.work p.calls

variable {p q : Pool} {id : CallId} {c d : Call} {e : Event}

theorem work_finish (hd : p.Distinct) (hid : p.call? id = some c) (a : Answer) :
    (p.finish id a).work + c.work = p.work := by
  have hothers := tally_others hd Call.work id
  simp only [measureOf, hid, Option.map_some, Option.getD_some] at hothers
  exact hothers

theorem work_hold (hd : p.Distinct) (hid : p.call? id = some c) (d : Call) :
    (p.hold id d).work + c.work = p.work + d.work := by
  have hothers := tally_others hd Call.work id
  simp only [measureOf, hid, Option.map_some, Option.getD_some] at hothers
  simp [work]
  omega

theorem Call.work_pos (c : Call) : 0 < c.work := by
  cases c <;> simp [work]

/-- The pool is still winding down, has handed nothing out and has less to do. -/
def Less (p q : Pool) : Prop := Winding q ∧ q.handedOut = p.handedOut ∧ q.work < p.work

/-- A note that hands nothing out does not matter. -/
theorem Less.of_note {n : Note} (h : Less (p.note n) q) (hn : n.handed? = none) : Less p q := by
  obtain ⟨hq, hhanded, hwork⟩ := h
  exact ⟨hq, hhanded.trans (by simp [handedOut, hn]), hwork⟩

namespace Winding

theorem note (h : Winding p) (n : Note) : Winding (p.note n) := ⟨h.idle, h.calls⟩

theorem finish (h : Winding p) (hd : p.Distinct) (hid : p.call? id = some c) {a : Answer}
    (ha : (Note.answered id a).handed? = none) : Less p (p.finish id a) := by
  have hwork := work_finish hd hid a
  have hpos := c.work_pos
  refine ⟨⟨h.idle, fun x hx => h.calls x (List.mem_filter.1 hx).1⟩, ?_, by omega⟩
  simp [handedOut, ha]

/-- An operation that begins the next close has less to do. -/
theorem close (h : Winding p) (hd : p.Distinct) (hid : p.call? id = some c) (conn : ConnId)
    (hnot : ∀ w stage, d ≠ .acquire w stage) (hless : d.work < c.work) :
    Less p ((p.request id (.close conn)).hold id d) := by
  have hwork := work_hold (p := p.request id (.close conn)) hd hid d
  have hsame : (p.request id (.close conn)).work = p.work := rfl
  refine ⟨⟨h.idle, fun x hx => ?_⟩, by simp [handedOut, Note.handed?], by omega⟩
  rcases List.mem_cons.1 hx with rfl | hx
  · exact hnot
  · exact h.calls x (List.mem_filter.1 hx).1

theorem drain (h : Winding p) (hd : p.Distinct) {conn : ConnId} {rest : List IdleEntry}
    (hid : p.call? id = some (.shutdown conn rest)) : Less p (p.drain id rest) := by
  cases rest with
  | nil => exact ((h.note _).finish (Distinct.kept.note _ hd) hid rfl).of_note rfl
  | cons x rest => exact h.close hd hid x.conn nofun (Nat.lt_succ_self _)

/-- Whether the close failed does not matter. -/
theorem ended (h : Winding p) (hd : p.Distinct) {next : Pool → Pool}
    (hnext : ∀ {p : Pool}, Winding p → p.Distinct → p.call? id = some c → Less p (next p))
    (hid : p.call? id = some c) (failure : Option IoError) :
    Less p (next (p.sayCloseFailed failure)) := by
  cases failure with
  | none => exact hnext h hd hid
  | some cause => exact (hnext (h.note _) (Distinct.kept.note _ hd) hid).of_note rfl

end Winding

/-- The end of a close, and the beginning of a task's work, leave less to do and hand nothing out. -/
theorem winding_step (hd : p.Distinct) (h : Winding p) (he : e.Completes)
    (hstep : p.step e = some q) : Less p q := by
  cases Move.of_step hstep with
  | evicted hid => exact absurd rfl (h.calls _ (mem_of_call? hid) _ _)
  | released hid => exact h.ended hd (fun h hd hid => h.finish hd hid rfl) hid _
  | discarded hid => exact h.ended hd (fun h hd hid => h.finish hd hid rfl) hid _
  | drained hid => exact h.ended hd (fun h hd hid => h.drain hd hid) hid _
  | tidied hid => exact h.finish hd hid rfl
  | tidiedBadly hid => exact ((h.note _).finish (Distinct.kept.note _ hd) hid rfl).of_note rfl
  | tidy hid => exact h.close hd hid _ nofun (Nat.lt_succ_self 1)
  | _ => exact he.elim

/-- As long as something is in flight it can move on. -/
theorem winding_progress (h : Winding p) (hcalls : p.calls ≠ []) :
    ∃ e q, e.Completes ∧ p.step e = some q := by
  obtain ⟨⟨id, c⟩, rest, hcons⟩ := List.exists_cons_of_ne_nil hcalls
  have hid : p.call? id = some c := by simp [call?, hcons]
  cases c with
  | acquire w stage => exact absurd rfl (h.calls _ (mem_of_call? hid) w stage)
  | abandoned conn => exact ⟨.tidy id, _, trivial, by simp only [Pool.step, hid]; rfl⟩
  | _ => exact ⟨.closed id none, _, trivial, by simp only [Pool.step, hid]; rfl⟩

end PooledTcp.Pool
