import Mathlib.Algebra.GroupWithZero.Nat
import PooledTcp.Proofs.Pool.Kept
import PooledTcp.Proofs.Pool.Outcome

/-!
# Counting over the operations in flight

No two operations in flight have the same number (`Distinct`). So when an operation moves on or ends, a
count over the operations changes by its own part alone (`tally_others`). This is what makes sums over the
operations, such as how many connections they carry, follow the steps of a pool.
-/

namespace PooledTcp.Pool

/-- No two operations in flight have the same number. -/
def Distinct (p : Pool) : Prop := (p.calls.map Prod.fst).Nodup

/-- The sum of a measure over operations. -/
def tally (m : Call → Nat) : List (CallId × Call) → Nat
  | [] => 0
  | x :: calls => m x.2 + tally m calls

/-- What the measure is of the operation with that number, zero if there is none. -/
def measureOf (m : Call → Nat) (p : Pool) (id : CallId) : Nat := ((p.call? id).map m).getD 0

variable {r : PoolRequest} {p q : Pool} {id task : CallId} {e : Event} {c : Call} {k : Kind}
  {m : Call → Nat}

section MeasureOf

theorem measureOf_of_call? (h : p.call? id = some c) : measureOf m p id = m c := by
  simp [measureOf, h]

theorem measureOf_of_none (h : p.call? id = none) : measureOf m p id = 0 := by
  simp [measureOf, h]

theorem measureOf_hold (p : Pool) (id : CallId) (c : Call) : measureOf m (p.hold id c) id = m c :=
  measureOf_of_call? (call?_hold_self p id c)

theorem measureOf_finish (p : Pool) (id : CallId) (a : Answer) : measureOf m (p.finish id a) id = 0 :=
  measureOf_of_none (call?_finish_self p id a)

/-- A measure that is zero for every operation of a kind is zero for one that is or was of that kind. -/
theorem Serves.measureOf_eq_zero (h : p.Serves id k) (hm : ∀ c, c.kind = k → m c = 0) :
    measureOf m p id = 0 := by
  rcases h with ⟨c, hid, hkind⟩ | ⟨hid, -⟩
  · rw [measureOf_of_call? hid, hm c hkind]
  · exact measureOf_of_none hid

/-- So is it for the task of an acquire that is given up, if it is zero for what closes what is left. -/
theorem measureOf_task {canSpawn : Bool} {stage : AcquireStage} (hne : id ≠ task)
    (htask : p.call? task = none) (hm : ∀ c, c.kind = .leftover → m c = 0) :
    measureOf m (p.cancel id canSpawn task stage) task = 0 := by
  cases hcall : (p.cancel id canSpawn task stage).call? task with
  | none => exact measureOf_of_none hcall
  | some c => rw [measureOf_of_call? hcall, hm c (kind_of_cancel hne htask hcall)]

theorem measureOf_notifyAll (hm : ∀ c, m c.notify = m c) (p : Pool) (id : CallId) :
    measureOf m p.notifyAll id = measureOf m p id := by
  unfold measureOf
  rw [call?_notifyAll]
  cases p.call? id with
  | none => rfl
  | some c => exact hm c

end MeasureOf

section Distinct

theorem Distinct.hold (h : p.Distinct) (id : CallId) (c : Call) : (p.hold id c).Distinct :=
  nodup_keys_put h id c

theorem Distinct.notifyAll (h : p.Distinct) : p.notifyAll.Distinct := by
  simpa [Distinct, Function.comp_def] using h

/-- Every update keeps the numbers distinct. -/
theorem Distinct.kept : Kept Distinct where
  note _ h := h
  listen _ h := h
  finish _ _ h := nodup_keys_filter h _
  notifyAll h := h.notifyAll
  giveBack h := Distinct.notifyAll h
  pass _ h := h
  hold id h _ := h.hold id _
  park id _ h _ _ := h.hold id _
  dial id _ h _ _ := Distinct.hold h id _
  take id _ h _ _ := Distinct.hold h id _
  store _ h _ _ _ := Distinct.notifyAll h
  restore h _ _ _ := Distinct.notifyAll (nodup_keys_filter h _)
  close h := Distinct.notifyAll h

theorem Fresh.distinct {idle : List IdleEntry} (h : Fresh r p idle) : p.Distinct := by
  simp [Distinct, h.calls]

end Distinct

@[simp] theorem tally_nil : tally m [] = 0 := rfl

@[simp] theorem tally_cons (x : CallId × Call) (calls : List (CallId × Call)) :
    tally m (x :: calls) = m x.2 + tally m calls := rfl

/-- A sum is zero when every part of it is. -/
theorem tally_eq_zero_iff {calls : List (CallId × Call)} :
    tally m calls = 0 ↔ ∀ x ∈ calls, m x.2 = 0 := by
  induction calls with
  | nil => simp
  | cons x calls ih => simp [ih]

/-- What the measure does not see when everybody is told, no sum of it sees. -/
theorem tally_notify (hm : ∀ c, m c.notify = m c) (calls : List (CallId × Call)) :
    tally m (calls.map fun x => (x.1, x.2.notify)) = tally m calls := by
  induction calls with
  | nil => rfl
  | cons x calls ih => rw [List.map_cons, tally_cons, tally_cons, hm, ih]

/-- Telling everybody and leaving one operation out go in either order. -/
@[simp] theorem filter_notify (calls : List (CallId × Call)) :
    (calls.map fun x => (x.1, x.2.notify)).filter (·.1 != id) =
      (calls.filter (·.1 != id)).map fun x => (x.1, x.2.notify) := by
  rw [List.filter_map]
  rfl

/-- Some operations, as far as they are in flight, and all others. -/
theorem perm_apart (h : p.Distinct) {ops : List CallId} (hops : ops.Nodup) :
    p.calls.Perm (ops.filterMap (fun id => (p.call? id).map (id, ·)) ++ p.apart ops) := by
  induction ops with
  | nil =>
    have hall : p.apart [] = p.calls := List.filter_eq_self.2 (by simp)
    rw [hall]
    exact .refl _
  | cons id ops ih =>
    obtain ⟨hnot, hrest⟩ := List.nodup_cons.1 hops
    have happart : p.apart (id :: ops) = (p.apart ops).filter (·.1 != id) := by
      rw [apart, apart, List.filter_filter]
      refine List.filter_congr fun x _ => ?_
      by_cases hx : x.1 = id
      · simp [hx]
      · simp [hx]
    have hlookup := lookup_apart p hnot
    rw [List.filterMap_cons, happart]
    cases hid : p.call? id with
    | none =>
      have hfree : id ∉ (p.apart ops).map Prod.fst := by simp [mem_keys_iff, hlookup, hid]
      rw [filter_of_notMem_keys hfree]
      exact ih hrest
    | some c =>
      have hkeys : ((p.apart ops).map Prod.fst).Nodup := nodup_keys_filter h _
      have hfront := perm_cons_filter_of_lookup hkeys (hlookup.trans hid)
      exact ((ih hrest).trans (hfront.append_left _)).trans List.perm_middle

theorem tally_eq_sum (m : Call → Nat) (calls : List (CallId × Call)) :
    tally m calls = (calls.map fun x => m x.2).sum := by
  induction calls with
  | nil => rfl
  | cons x calls ih => rw [tally_cons, ih, List.map_cons, List.sum_cons]

/-- The sum over some operations and the sum over all others. -/
theorem tally_apart (h : p.Distinct) (m : Call → Nat) {ops : List CallId} (hops : ops.Nodup) :
    tally m (p.apart ops) + (ops.map (measureOf m p)).sum = tally m p.calls := by
  have hsum : ((ops.filterMap fun id => (p.call? id).map (id, ·)).map fun x => m x.2).sum =
      (ops.map (measureOf m p)).sum := by
    clear hops
    induction ops with
    | nil => rfl
    | cons id ops ih =>
      cases hid : p.call? id with
      | none => simp [hid, ih, measureOf_of_none hid]
      | some c => simp [hid, ih, measureOf_of_call? hid]
  have hperm := ((perm_apart h hops).map fun x => m x.2).sum_nat
  rw [List.map_append, List.sum_append, hsum] at hperm
  rw [tally_eq_sum, tally_eq_sum, hperm, Nat.add_comm]

/-- Without one operation the sum is less by the part of that operation. -/
theorem tally_others (h : p.Distinct) (m : Call → Nat) (id : CallId) :
    tally m (p.calls.filter (·.1 != id)) + measureOf m p id = tally m p.calls := by
  have hnodup : [id].Nodup := by simp
  have hone := tally_apart h m hnodup
  have happart : p.apart [id] = p.calls.filter (·.1 != id) :=
    List.filter_congr fun x _ => by by_cases hx : x.1 = id <;> simp [hx]
  rwa [happart, List.map_singleton, List.sum_singleton] at hone

/-- The operations that an event acts for have numbers of their own. -/
theorem nodup_ops (hstep : p.step e = some q) : e.ops.Nodup := by
  cases Move.of_step hstep with
  | cancel hid htask =>
    refine List.nodup_cons.2 ⟨fun hmem => ?_, by simp⟩
    rw [List.mem_singleton.1 hmem, htask] at hid
    cases hid
  | _ => simp [Event.ops]

/-- An event changes a sum over the operations by the parts of those that it acts for. -/
theorem tally_step (hm : ∀ c, m c.notify = m c) (h : p.Distinct) (hstep : p.step e = some q) :
    tally m q.calls + (e.ops.map (measureOf m p)).sum =
      tally m p.calls + (e.ops.map (measureOf m q)).sum := by
  have hp := tally_apart h m (nodup_ops hstep)
  have hq := tally_apart (Distinct.kept.step h hstep) m (nodup_ops hstep)
  have hsame : tally m (q.apart e.ops) = tally m (p.apart e.ops) := by
    rcases (within_step hstep).calls with h | h
    · rw [h]
    · rw [h, tell, tally_notify hm]
  omega

section Gather

variable {α : Type} {f : CallId → Call → List α}

/-- What is found in the operations, one after the other. -/
def gather (f : CallId → Call → List α) (p : Pool) : List α := p.calls.flatMap fun x => f x.1 x.2

/-- What is found in the operation with that number, nothing if there is none. -/
def gatherOf (f : CallId → Call → List α) (p : Pool) (id : CallId) : List α :=
  ((p.call? id).map (f id)).getD []

theorem gatherOf_of_call? (h : p.call? id = some c) : gatherOf f p id = f id c := by
  simp [gatherOf, h]

theorem gatherOf_of_none (h : p.call? id = none) : gatherOf f p id = [] := by
  simp [gatherOf, h]

theorem gatherOf_hold (p : Pool) (id : CallId) (c : Call) : gatherOf f (p.hold id c) id = f id c :=
  gatherOf_of_call? (call?_hold_self p id c)

theorem gatherOf_finish (p : Pool) (id : CallId) (a : Answer) : gatherOf f (p.finish id a) id = [] :=
  gatherOf_of_none (call?_finish_self p id a)

/-- Nothing is found in an operation that is or was of a kind in which nothing is. -/
theorem Serves.gatherOf_eq_nil (h : p.Serves id k) (hf : ∀ c, c.kind = k → f id c = []) :
    gatherOf f p id = [] := by
  rcases h with ⟨c, hid, hkind⟩ | ⟨hid, -⟩
  · rw [gatherOf_of_call? hid, hf c hkind]
  · exact gatherOf_of_none hid

theorem gatherOf_notifyAll (hf : ∀ id c, f id c.notify = f id c) (p : Pool) (id : CallId) :
    gatherOf f p.notifyAll id = gatherOf f p id := by
  unfold gatherOf
  rw [call?_notifyAll]
  cases p.call? id with
  | none => rfl
  | some c => exact hf id c

/-- What is found in some operations and what is found in all others. -/
theorem gather_apart (h : p.Distinct) (f : CallId → Call → List α) {ops : List CallId}
    (hops : ops.Nodup) : (gather f p).Perm
      (ops.flatMap (gatherOf f p) ++ (p.apart ops).flatMap fun x => f x.1 x.2) := by
  have hfound : (ops.filterMap fun id => (p.call? id).map (id, ·)).flatMap (fun x => f x.1 x.2) =
      ops.flatMap (gatherOf f p) := by
    clear hops
    induction ops with
    | nil => rfl
    | cons id ops ih =>
      cases hid : p.call? id with
      | none => simp [hid, ih, gatherOf_of_none hid]
      | some c => simp [hid, ih, gatherOf_of_call? hid]
  have hperm := (perm_apart h hops).flatMap_right fun x => f x.1 x.2
  rwa [List.flatMap_append, hfound] at hperm

/-- An event changes what is found in the operations that it acts for, and nothing else. -/
theorem gather_step (hf : ∀ id c, f id c.notify = f id c) (h : p.Distinct)
    (hstep : p.step e = some q) :
    (gather f q ++ e.ops.flatMap (gatherOf f p)).Perm
      (gather f p ++ e.ops.flatMap (gatherOf f q)) := by
  have hp := gather_apart h f (nodup_ops hstep)
  have hq := gather_apart (Distinct.kept.step h hstep) f (nodup_ops hstep)
  have hsame : (q.apart e.ops).flatMap (fun x => f x.1 x.2) =
      (p.apart e.ops).flatMap fun x => f x.1 x.2 := by
    rcases (within_step hstep).calls with h | h
    · rw [h]
    · rw [h, tell, List.flatMap_map]
      simp only [hf]
  rw [hsame] at hq
  refine (hq.append_right _).trans (.trans ?_ (hp.append_right _).symm)
  rw [List.append_assoc]
  exact List.perm_append_comm.trans (List.perm_append_comm.append_right _)

end Gather

end PooledTcp.Pool
