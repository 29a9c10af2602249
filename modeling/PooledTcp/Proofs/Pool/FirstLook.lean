import PooledTcp.Proofs.Pool.Capacity
import PooledTcp.Proofs.Pool.Counters
import PooledTcp.Proofs.Pool.Outcome

/-!
# When a plain acquire finds the pool full

A plain acquire that finds an empty queue and no slot ends at once. It may look more than once: after the close
of an entry that it evicted it frees its slot and competes anew, and in the meantime others took connections,
brought them back, or freed slots that were never theirs. Still it never finds the pool full then. What is
checked out is never more than `maxConns`, and the slot that it frees is one of them, if not its own
(`Engaged.step`). So only the first look counts.
-/

namespace PooledTcp.Pool

/-- What an acquire can come to once it did not find the pool full. -/
inductive Answer.Served : Answer → Prop where
  | got (conn : ConnId) : Served (.acquired (.ok conn))
  | failed (cause : IoError) : Served (.acquired (.error (.factory cause)))
  | closed : Served (.acquired (.error .closed))
  | cancelled : Served .cancelled

/-- A plain acquire is in flight, or ended and never found the pool full. -/
def Engaged (p : Pool) (id : CallId) : Prop :=
  (∃ stage, p.call? id = some (.acquire none stage)) ∨ ∃ a, p.Ended id a ∧ a.Served

variable {r : PoolRequest} {p q t : Pool} {id : CallId} {e : Event} {es : List Event} {a : Answer}

/-- Nothing but an empty queue without a slot ends an acquire that looks, a shutdown apart. -/
theorem engaged_look (hfree : p.idle = some [] → p.checkedOut < p.limits.maxConns) :
    (p.look id none).Engaged id := by
  have h := p.looked id none
  generalize p.look id none = q at h ⊢
  cases h with
  | refused _ => exact .inr ⟨_, ended_finish _ _ _, .closed⟩
  | rejected hempty hfull => exact absurd (hfree hempty) (Nat.not_lt.2 hfull)
  | dials _ _ | evicts _ _ | pings _ _ => exact .inl ⟨_, call?_hold_self _ _ _⟩

/-- An operation that ended stays as it is through every run that does not begin it anew. -/
theorem Ended.run (h : p.Ended id a) (hrun : Run Pool.step p es q) (hnew : ∀ e ∈ es, id ∉ e.begun) :
    q.Ended id a := by
  induction hrun with
  | nil => exact h
  | cons hstep _ ih =>
    exact ih (h.stays hstep (hnew _ List.mem_cons_self)) fun f hf => hnew f (List.mem_cons_of_mem _ hf)

theorem engaged_afterDial (p : Pool) (id : CallId) (result : Except IoError ConnId) :
    (p.afterDial id result).Engaged id := by
  cases result with
  | ok conn => exact .inr ⟨_, ended_finish _ _ _, .got conn⟩
  | error cause =>
    have hend := ended_finish (p.say (.dialFailed cause)) id (.acquired (.error (.factory cause)))
    exact .inr ⟨_, hend.notifyAll, .failed cause⟩

theorem engaged_afterPing (p : Pool) (id : CallId) (x : IdleEntry) (failure : Option IoError) :
    (p.afterPing id none x failure).Engaged id := by
  cases failure with
  | none => exact .inr ⟨_, ended_finish _ _ _, .got x.conn⟩
  | some cause => exact .inl ⟨_, call?_hold_self _ _ _⟩

/-- Whatever happens, the acquire goes on or ends without finding the pool full: when it looks again a slot
was freed, and no more than `maxConns` had been taken. -/
theorem Engaged.step (h : p.Engaged id) (hslots : p.checkedOut ≤ p.limits.maxConns)
    (hpos : 0 < p.limits.maxConns) (hstep : p.step e = some q) (hnot : id ∉ e.begun) :
    q.Engaged id := by
  rcases h with ⟨stage, hid⟩ | ⟨a, hend, ha⟩
  · by_cases hmem : id ∈ e.ops
    · cases advance_of_step hstep hid hmem with
      | dialed => exact engaged_afterDial p _ _
      | pinged => exact engaged_afterPing p _ _ _
      | @evicted _ conn failure =>
        rw [afterEviction, patienceOf_giveBack ((call?_sayCloseFailed p failure id).trans hid)]
        refine engaged_look fun _ => ?_
        rw [sayCloseFailed_eq]
        simp only [giveBack, notifyAll_frame, freeSlot_frame]
        omega
      | cancel hne _ => exact .inr ⟨_, ended_cancel hne p _ _, .cancelled⟩
    · exact .inl ⟨stage, call?_step hstep hmem hid rfl⟩
  · exact .inr ⟨a, hend.stays hstep hnot, ha⟩

/-- From any point of a run on. -/
theorem Engaged.run (h : p.Engaged id) (hreach : Reachable r p) (hrun : Run Pool.step p es q)
    (hnew : ∀ e ∈ es, id ∉ e.begun) : q.Engaged id := by
  induction hrun with
  | nil => exact h
  | @cons p u q e es hstep _ ih =>
    obtain ⟨hlimits, -, -, hslots⟩ := reachable_within_limits hreach
    have hpos : 0 < p.limits.maxConns := hlimits ▸ r.maxConns_pos
    exact ih (h.step hslots hpos hstep (hnew e List.mem_cons_self)) (hreach.run (.cons hstep (.nil u)))
      fun f hf => hnew f (List.mem_cons_of_mem e hf)

theorem Engaged.served (h : p.Engaged id) (hend : p.Ended id a) : a.Served := by
  rcases h with ⟨stage, hid⟩ | ⟨b, hother, hb⟩
  · cases hend.1.symm.trans hid
  · obtain rfl : b = a := Option.some.inj (hother.2.symm.trans hend.2)
    exact hb

/-- Once a plain acquire looked, it ends without a connection for want of a slot exactly if its first look
found the queue empty and every slot taken, whatever others do in the meantime, strangers included. One that
had an entry to evict ends with a connection, with a failed dial, with the shutdown of the pool, or given up. -/
theorem exhausted_iff_full_at_first_look (hreach : Reachable r p)
    (hfirst : p.step (.acquire id none) = some q) (hrun : Run step q es t)
    (hnew : ∀ e ∈ es, id ∉ e.begun) :
    (t.Ended id (.acquired (.error .exhausted)) ↔
      p.idle = some [] ∧ p.checkedOut = p.limits.maxConns) ∧
    ∀ fs u conn, fs <+: es → Run step q fs u →
      u.call? id = some (.acquire none (.evicting conn)) → ∀ a, t.Ended id a → a.Served := by
  have hreach' := hreach.run (.cons hfirst (.nil q))
  obtain ⟨-, -, -, hslots⟩ := reachable_within_limits hreach
  refine ⟨⟨?_, ?_⟩, ?_⟩
  · intro hend
    refine Decidable.byContradiction ?_
    intro hnot
    have hengaged : q.Engaged id := by
      cases Move.of_step hfirst with
      | acquire _ =>
        exact engaged_look fun hempty => Nat.lt_of_le_of_ne hslots fun hfull => hnot ⟨hempty, hfull⟩
    cases (hengaged.run hreach' hrun hnew).served hend
  · rintro ⟨hempty, hfull⟩
    have hend : q.Ended id (.acquired (.error .exhausted)) := by
      cases Move.of_step hfirst with
      | acquire _ =>
        simp only [look, hempty, hfull, Nat.le_refl, if_true]
        exact ended_finish _ _ _
    exact hend.run hrun hnew
  · rintro fs u conn ⟨gs, rfl⟩ hu hid a hend
    obtain ⟨u', hu', hlast⟩ := hrun.split
    obtain rfl := hu.unique hu'
    have hengaged : u.Engaged id := .inl ⟨_, hid⟩
    exact (hengaged.run (hreach'.run hu) hlast fun e he => hnew e (List.mem_append_right fs he)).served hend

/-- A pool of one. While its connection is pinged a stranger's is discarded, which frees the slot, and another
acquire dials for it; the ping fails, and after the close the acquire dials as well, and fails. An acquire that
looked before it failed found the pool full. -/
theorem full_after_foreign_discard : ∃ p q u v t, Reachable ⟨1, 1, 1, .zero⟩ p ∧
    p.step (.acquire 1 none) = some q ∧
    Run step q [.discard 2 9, .acquire 3 none, .dialed 3 (.ok 7), .pinged 1 (some (.raised .other "gone")),
      .closed 1 none] u ∧
    u.step (.acquire 5 none) = some v ∧ Run step v [.dialed 1 (.error (.raised .other "refused"))] t ∧
    ¬t.Ended 1 (.acquired (.error .exhausted)) ∧
    t.Ended 1 (.acquired (.error (.factory (.raised .other "refused")))) ∧
    Answer.Served (.acquired (.error (.factory (.raised .other "refused")))) ∧
    t.Ended 5 (.acquired (.error .exhausted)) := by
  have hopen := Opened.of_foldlM (r := ⟨1, 1, 1, .zero⟩) [.dialed (.ok 0)] rfl
  have hreach := hopen.reachable hopen.start
  have hfirst := hopen.start.further [.acquire 1 none] rfl
  have hevicts := hfirst.further [.discard 2 9, .acquire 3 none, .dialed 3 (.ok 7),
    .pinged 1 (some (.raised .other "gone"))] rfl
  have hlooks := hevicts.further [.closed 1 none] rfl
  have hfull := hlooks.further [.acquire 5 none] rfl
  have hfails := hfull.further [.dialed 1 (.error (.raised .other "refused"))] rfl
  have hrun := (hevicts.append hlooks).append (hfull.append hfails)
  obtain ⟨hiff, hserved⟩ := exhausted_iff_full_at_first_look hreach hfirst.single hrun (by decide)
  have hreach' := hreach.run (hfirst.append (hevicts.append hlooks))
  obtain ⟨hiff', -⟩ := exhausted_iff_full_at_first_look hreach' hfull.single hfails (by decide)
  refine ⟨_, _, _, _, _, hreach, hfirst.single, hevicts.append hlooks, hfull.single, hfails, ?_,
    ⟨rfl, rfl⟩, ?_, hiff'.2 ⟨rfl, rfl⟩⟩
  · intro hend
    cases (hiff.1 hend).1
  · refine hserved _ _ 0 ?_ hevicts rfl _ ⟨rfl, rfl⟩
    exact (List.prefix_append _ _).trans (List.prefix_append _ _)

end PooledTcp.Pool
