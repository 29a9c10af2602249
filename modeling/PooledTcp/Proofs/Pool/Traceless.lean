import Mathlib.Algebra.Ring.Int.Defs
import PooledTcp.Proofs.Pool.Accounts
import PooledTcp.Proofs.Pool.Alone
import PooledTcp.Proofs.Pool.FirstLook

/-!
# What is left of an acquire that returns nothing

An acquire that fails or is given up takes back what it did, but for the entries that it evicted. When it runs
alone this is so of the pool itself: its slots are as before, and the queue is the old one less those entries
(`Untouched`). When others run in between, the pool is another one in any case; then what counts is what the
acquire's own events did to the slots. `slotChanges` collects it, and at any point of the way it comes to the
slot that the acquire has (`Nets`). Here callers have to keep to the rules, since a slot that is freed is one of
those taken only then.

An acquire that is given up during a ping has an entry besides its slot, and `Reclaimed` says where it goes.
-/

namespace PooledTcp.Pool

/-- What the call passes to a close. -/
def FactoryCall.closing? : FactoryCall → Option ConnId
  | .close conn => some conn
  | _ => none

/-- The entry that the acquire is evicting, as far as it has come. -/
def Point.evicting (lookedAt : Nat) : Point → List Skip
  | closing x pingFailure => [⟨x, lookedAt, pingFailure, none⟩]
  | _ => []

/-- The pool is `p` but for the front of its queue: the entries `gone` were evicted and passed to a close. -/
structure Untouched (p : Pool) (gone : List Skip) (q : Pool) : Prop where
  checkedOut : q.checkedOut = p.checkedOut
  idle : ∃ rest, p.idle = some (gone.map (·.entry) ++ rest) ∧ q.idle = some rest
  due : ∀ k ∈ gone, k.Due p.limits
  closes : q.closes = (gone.map (·.entry.conn)).reverse ++ p.closes

/-- How the number of slots taken changes with an event that acts for operation `id`. -/
def slotChanges (id : CallId) (p : Pool) (e : Event) : List Int :=
  (p.step e).elim [] fun q => if id ∈ e.ops then [(q.checkedOut : Int) - p.checkedOut] else []

/-- The slot of a connection that an acquire returned; every other answer leaves none. -/
def Answer.slots : Answer → Nat
  | .acquired (.ok _) => 1
  | _ => 0

/-- The events of the acquire took `n` slots more than they freed: it has them, or what it returned does. -/
inductive Nets (p : Pool) (id : CallId) : Int → Prop where
  | waits {w : Option Patience} {stage : AcquireStage} : p.call? id = some (.acquire w stage) →
    Nets p id (Call.acquire w stage).reserves
  | ended {a : Answer} : p.Ended id a → Nets p id a.slots

/-- Where the entry `x` goes when the acquire that pings it is given up, by whether a task can be started. -/
inductive Reclaimed (s t : Custody) (x : IdleEntry) (task : CallId) : Bool → Prop where
  | restored {canSpawn : Bool} {idle : List IdleEntry} : s.pool.idle = some idle →
    idle.length < s.pool.limits.maxIdle → t.pool.idle = some (x :: idle) → Reclaimed s t x task canSpawn
  /-- A task has it, until it closes it. -/
  | left : s.pool.hasRoom = false → t.pool.idle = s.pool.idle → t.places x.conn = [.abandoned task] →
    (∀ es u, Run Custody.step t es u → u.places x.conn = [.closed task] ∨
      u.places x.conn = [.abandoned task] ∧
        ∃ v, u.step (.tidy task) = some v ∧ v.places x.conn = [.closed task]) →
    Reclaimed s t x task true
  | dropped : s.pool.hasRoom = false → t.pool.idle = s.pool.idle →
    (∀ es u, Run Custody.step t es u → u.places x.conn = [.dropped]) → Reclaimed s t x task false

variable {r : PoolRequest} {p q : Pool} {id task : CallId} {queue rest : List IdleEntry}
  {skips : List Skip} {lookedAt : Nat} {point : Point} {es : List Event} {looks : List Nat} {e : Event}

section Alone

/-- What was passed to a close is told by what was asked. -/
theorem closes_eq (p : Pool) : p.closes = (p.asked.filterMap (·.2.closing?)).reverse := by
  have hone (n : Note) : n.closing? = n.call?.bind (·.2.closing?) := by
    cases n with
    | called id c => cases c <;> rfl
    | _ => rfl
  rw [asked, List.filterMap_filterMap, List.filterMap_reverse, List.reverse_reverse, closes]
  exact congrArg (List.filterMap · p.history) (funext hone)

theorem closing_of_evictionCalls (x : IdleEntry) (pingFailure : Option IoError) :
    (evictionCalls x pingFailure).filterMap (·.closing?) = [x.conn] := by
  cases pingFailure <;> rfl

theorem closing_of_skips (skips : List Skip) :
    (skips.flatMap (·.calls)).filterMap (·.closing?) = skips.map (·.entry.conn) := by
  induction skips with
  | nil => rfl
  | cons k skips ih =>
    rw [List.flatMap_cons, List.filterMap_append, ih, Skip.calls, closing_of_evictionCalls]
    rfl

theorem closing_of_point (point : Point) (lookedAt : Nat) :
    point.calls.filterMap (·.closing?) = (point.evicting lookedAt).map (·.entry.conn) := by
  cases point with
  | closing x pingFailure => exact closing_of_evictionCalls x pingFailure
  | _ => rfl

/-- What an acquire that runs alone passed to a close is what it evicted. -/
theorem Course.closes (h : Course p id queue skips lookedAt point rest es looks q) :
    q.closes = ((skips ++ point.evicting lookedAt).map (·.entry.conn)).reverse ++ p.closes := by
  have hcalls (calls : List FactoryCall) : (calls.map (id, ·)).filterMap (·.2.closing?) =
      calls.filterMap (·.closing?) := by
    rw [List.filterMap_map]
    rfl
  rw [closes_eq, closes_eq, h.asked, List.filterMap_append, hcalls, List.filterMap_append,
    closing_of_skips, closing_of_point, ← List.map_append, List.reverse_append]

theorem Course.due_evicting (h : Course p id queue skips lookedAt point rest es looks q) :
    ∀ k ∈ skips ++ point.evicting lookedAt, k.Due p.limits := by
  intro k hk
  rcases List.mem_append.1 hk with hk | hk
  · exact h.due k hk
  · cases point with
    | closing x pingFailure =>
      obtain rfl := List.mem_singleton.1 hk
      exact h.decided
    | _ => cases hk

/-- One that failed has nothing: neither an entry nor a slot. -/
theorem Course.untouched_of_failed (h : Course p id queue skips lookedAt point rest es looks q)
    (hidle : p.idle = some queue) {err : PoolError} (hend : q.Ended id (.acquired (.error err))) :
    Untouched p skips q := by
  have hcall := h.call
  have hresult := h.result
  have hcloses := h.closes
  have hentries := h.entries
  rw [hend.1] at hcall
  rw [hend.2] at hresult
  cases point with
  | failed _ | exhausted =>
    simp only [Point.evicting, List.append_nil] at hcloses
    exact ⟨h.checkedOut, ⟨rest, hentries ▸ hidle, h.idle⟩, h.due, hcloses⟩
  | reused x | opened conn => cases hresult _ rfl
  | pinging _ | closing _ _ | dialing => cases hcall

/-- One that is given up frees its slot, and an entry that it pings goes back to where it was. -/
theorem Course.untouched_of_cancel (h : Course p id queue skips lookedAt point rest es looks q)
    (hidle : p.idle = some queue) (hmax : queue.length ≤ p.limits.maxIdle) {t : Pool} {canSpawn : Bool}
    (hstep : q.step (.cancel id canSpawn task) = some t) :
    Untouched p (skips ++ point.evicting lookedAt) t := by
  have hcall := h.call
  have hentries := h.entries
  have hslots := h.checkedOut
  cases Move.of_step hstep with
  | @cancel _ _ _ w stage hid htask =>
    have hout := checkedOut_cancel q id task canSpawn w stage
    rw [hid] at hcall
    cases point with
    | pinging x =>
      cases hcall
      have hroom : rest.length < q.limits.maxIdle := by
        have hlen := congrArg List.length hentries
        simp only [Point.taken, List.length_append, List.length_cons] at hlen
        rw [h.limits]
        omega
      have hback : q.cancel id canSpawn task (.pinging x) =
          { (q.finish id .cancelled).freeSlot with idle := some (x :: rest) }.notifyAll := by
        simp [cancel, reclaim, h.idle, hroom]
      refine ⟨hout.trans ?_, ⟨x :: rest, ?_, by rw [hback]; rfl⟩, h.due_evicting, ?_⟩
      · exact Nat.sub_eq_of_eq_add hslots
      · rw [hidle, hentries]
        simp [Point.evicting, Point.taken]
      · rw [hback, ← h.closes]
        rfl
    | closing x pingFailure =>
      cases hcall
      refine ⟨hout.trans (Nat.sub_eq_of_eq_add hslots), ⟨rest, ?_, h.idle⟩, h.due_evicting, h.closes⟩
      rw [hidle, hentries]
      simp [Point.evicting, Point.taken]
    | dialing =>
      cases hcall
      refine ⟨hout.trans (Nat.sub_eq_of_eq_add hslots), ⟨rest, ?_, h.idle⟩, h.due_evicting, h.closes⟩
      rw [hidle, hentries]
      simp [Point.evicting, Point.taken]
    | _ => cases hcall

end Alone

section Slots

variable {n : Int} {w : Option Patience} {stage : AcquireStage}

theorem slotChanges_of_mem (hstep : p.step e = some q) (hmem : id ∈ e.ops) :
    (slotChanges id p e).sum = q.checkedOut - p.checkedOut := by
  simp [slotChanges, hstep, hmem]

theorem slotChanges_of_notMem (hmem : id ∉ e.ops) : (slotChanges id p e).sum = 0 := by
  cases hstep : p.step e <;> simp [slotChanges, hstep, hmem]

theorem Nets.of_eq {m : Int} (h : p.Nets id n) (heq : n = m) : p.Nets id m := heq ▸ h

theorem nets_hold (p : Pool) (id : CallId) (w : Option Patience) (stage : AcquireStage) :
    (p.hold id (.acquire w stage)).Nets id (Call.acquire w stage).reserves :=
  .waits (call?_hold_self p id _)

/-- An acquire that looks takes the slot that it has afterwards. -/
theorem nets_look (p : Pool) (id : CallId) (w : Option Patience) :
    (p.look id w).Nets id ((p.look id w).checkedOut - p.checkedOut) := by
  have hout := checkedOut_look p id w
  rcases turn_of_look p id w with ⟨stage, hid, -⟩ | ⟨err, hend⟩
  · rw [reservedBy_of_call? hid] at hout
    exact (Nets.waits hid).of_eq (by omega)
  · rw [reservedBy_of_none hend.1] at hout
    exact (Nets.ended hend).of_eq (by simp only [Answer.slots]; omega)

theorem nets_afterPing (p : Pool) (id : CallId) (w : Option Patience) (x : IdleEntry)
    (failure : Option IoError) :
    (p.afterPing id w x failure).Nets id 1 ∧ (p.afterPing id w x failure).checkedOut = p.checkedOut := by
  cases failure with
  | none => exact ⟨.ended (ended_finish _ _ (.acquired (.ok x.conn))), rfl⟩
  | some cause => exact ⟨nets_hold _ _ w (.evicting x.conn), rfl⟩

/-- An event that acts for the acquire changes the slots as it changes what the acquire has. -/
theorem nets_of_mem (hid : p.call? id = some (.acquire w stage))
    (hfrees : p.Frees e → 0 < p.checkedOut) (hstep : p.step e = some q) (hmem : id ∈ e.ops) :
    q.Nets id ((Call.acquire w stage).reserves + ((q.checkedOut : Int) - p.checkedOut)) := by
  cases advance_of_step hstep hid hmem with
  | @dialed _ result =>
    cases result with
    | ok conn =>
      have hend := ended_finish ((p.say .opened).note (.acquired .new)) id (.acquired (.ok conn))
      exact (Nets.ended hend).of_eq (by simp [afterDial, Answer.slots, Call.reserves])
    | error cause =>
      have hpos := hfrees trivial
      have hend : ((p.say (.dialFailed cause)).finish id
        (.acquired (.error (.factory cause)))).giveBack.Ended id _ := (ended_finish _ _ _).notifyAll
      have hout : (p.afterDial id (.error cause)).checkedOut = p.checkedOut - 1 := by simp [afterDial]
      exact (Nets.ended hend).of_eq (by simp only [hout, Answer.slots, Call.reserves]; omega)
  | @pinged _ x failure =>
    obtain ⟨hnets, hsame⟩ := nets_afterPing p id w x failure
    exact hnets.of_eq (by simp [hsame, Call.reserves])
  | @evicted _ conn failure =>
    have hpos := hfrees ⟨w, conn, hid⟩
    have hfreed : (p.sayCloseFailed failure).giveBack.checkedOut = p.checkedOut - 1 := by
      simp [sayCloseFailed_eq]
    exact (nets_look _ _ _).of_eq (by simp only [hfreed, afterEviction, Call.reserves]; omega)
  | @retry w =>
    exact (nets_look (p.listen w.deadline).1 id _).of_eq (by simp [Call.reserves])
  | expire =>
    exact (Nets.ended (ended_finish _ _ _)).of_eq (by simp [Answer.slots, Call.reserves])
  | @cancel _ _ canSpawn task hne _ =>
    have hout := checkedOut_cancel p id task canSpawn w stage
    have hpos : (Call.acquire w stage).reserves ≤ p.checkedOut := by
      cases stage with
      | parked => exact Nat.zero_le _
      | _ => exact hfrees ⟨w, _, hid, by simp⟩
    exact (Nets.ended (ended_cancel hne p canSpawn stage)).of_eq (by simp only [Answer.slots]; omega)

/-- So does every event, until the acquire's number is used anew. -/
theorem Nets.step (h : p.Nets id n) (hfrees : p.Frees e → 0 < p.checkedOut)
    (hstep : p.step e = some q) (hnot : id ∉ e.begun) :
    q.Nets id (n + (slotChanges id p e).sum) := by
  by_cases hmem : id ∈ e.ops
  · rw [slotChanges_of_mem hstep hmem]
    cases h with
    | waits hid => exact nets_of_mem hid hfrees hstep hmem
    | ended hend => exact absurd (mem_begun hstep hmem hend.1) hnot
  · rw [slotChanges_of_notMem hmem, Int.add_zero]
    cases h with
    | @waits w stage hid =>
      rcases call?_of_notMem_ops hstep hmem with hcall | hcall
      · exact .waits (hcall.trans hid)
      · rw [hid] at hcall
        cases w with
        | none => exact .waits hcall
        | some w =>
          have hsame := Call.reserves_notify (.acquire (some w) stage)
          exact (Nets.waits hcall).of_eq (congrArg Nat.cast hsame)
    | ended hend => exact .ended (hend.stays hstep hnot)

/-- An acquire that begins has taken the slot that it has. -/
theorem nets_begin {wait : Option Duration} (hstep : p.step (.acquire id wait) = some q) :
    q.Nets id (slotChanges id p (.acquire id wait)).sum := by
  rw [slotChanges_of_mem hstep (List.mem_singleton_self id)]
  cases Move.of_step hstep with
  | acquire _ => exact nets_look p id none
  | acquirePatiently _ => exact nets_look (p.listen _).1 id _

/-- All along the way of an acquire its events have taken the slot that it has, among callers who keep to the
rules. -/
theorem nets_run {s t : Custody} {wait : Option Duration} (h : s.Accounted)
    (hrun : Run Custody.step s (.acquire id wait :: es) t) (hnew : ∀ e ∈ es, id ∉ e.begun) :
    t.pool.Nets id (along step (slotChanges id) s.pool (.acquire id wait :: es)).sum := by
  induction es using List.reverseRecOn generalizing t with
  | nil =>
    have hfirst := (Custody.step_eq_some hrun.single).2.1
    simpa [along, hfirst] using nets_begin hfirst
  | append_singleton es e ih =>
    rw [← List.cons_append] at hrun ⊢
    obtain ⟨u, hu, hstep⟩ := hrun.split_last
    have hnets := ih hu fun f hf => hnew f (List.mem_append_left _ hf)
    rw [(Custody.run_pool hu).along_concat, List.sum_append]
    exact hnets.step ((h.run hu).frees hstep) (Custody.step_eq_some hstep).2.1 (hnew e (by simp))

theorem Nets.eq_slots (h : p.Nets id n) {a : Answer} (hend : p.Ended id a) : n = a.slots := by
  cases h with
  | waits hid => cases hend.1.symm.trans hid
  | ended hother =>
    obtain rfl := Option.some.inj (hother.2.symm.trans hend.2)
    rfl

end Slots

section Reclaim

variable {s t u : Custody} {conn : ConnId} {x : IdleEntry} {w : Option Patience} {canSpawn : Bool}

/-- A connection is nowhere but where it is. -/
theorem Custody.Balanced.places_eq (h : s.Balanced) {place : Place} (hmem : place ∈ s.places conn) :
    s.places conn = [place] := by
  have hpos := List.length_pos_of_mem hmem
  obtain ⟨other, hone⟩ := List.length_eq_one_iff.1 (Nat.le_antisymm (h.length_le_one conn) hpos)
  rw [hone] at hmem ⊢
  rw [List.mem_singleton.1 hmem]

theorem mem_places_of_abandoned (hid : s.pool.call? task = some (.abandoned conn)) :
    .abandoned task ∈ s.places conn := by
  have hmem := mem_of_call? hid
  simp only [Custody.places, List.mem_append, List.mem_flatMap]
  exact .inl (.inr ⟨_, hmem, by simp [Call.place]⟩)

theorem mem_places_of_note {place : Place} {note : Note} (hn : note ∈ s.pool.history)
    (hplace : note.place? conn = some place) : place ∈ s.places conn :=
  List.mem_append_right _ (List.mem_filterMap.2 ⟨note, hn, hplace⟩)

/-- A task that is about to close a connection is until it begins the close. -/
theorem abandoned_step (hstep : p.step e = some q) (hid : p.call? task = some (.abandoned conn)) :
    q.call? task = some (.abandoned conn) ∨ .called task (.close conn) ∈ q.history := by
  by_cases hmem : task ∈ e.ops
  · cases Move.of_step hstep with
    | tidy h =>
      obtain rfl := List.mem_singleton.1 hmem
      cases hid.symm.trans h
      exact .inr List.mem_cons_self
    | cancel h htask =>
      rcases List.mem_cons.1 hmem with rfl | hmem
      · cases hid.symm.trans h
      · obtain rfl := List.mem_singleton.1 hmem
        cases hid.symm.trans htask
    | acquire h | acquirePatiently h | release h | discard h | shutdown h | dialed h | pinged h
    | evicted h | released h | discarded h | drained h | tidied h | tidiedBadly h | retry h _
    | expire h _ _ =>
      obtain rfl := List.mem_singleton.1 hmem
      cases hid.symm.trans h
    | pass => cases hmem
  · exact .inl (call?_step hstep hmem hid rfl)

theorem abandoned_run (hrun : Run step p es q) (hid : p.call? task = some (.abandoned conn)) :
    q.call? task = some (.abandoned conn) ∨ .called task (.close conn) ∈ q.history := by
  refine hrun.keeps (P := fun p => p.call? task = some (.abandoned conn) ∨
    .called task (.close conn) ∈ p.history) ?_ (.inl hid)
  intro p e q h hstep
  rcases h with hid | hn
  · exact abandoned_step hstep hid
  · exact .inr ((history_step hstep).subset hn)

/-- The task can begin the close at any time. -/
theorem tidy_step (hid : s.pool.call? task = some (.abandoned conn)) :
    ∃ v, s.step (.tidy task) = some v ∧ .called task (.close conn) ∈ v.pool.history := by
  have hallow : s.Allows (.tidy task) := ⟨by simp [Event.dialled], by simp [Event.returned]⟩
  refine ⟨⟨(s.pool.request task (.close conn)).hold task (.tidying conn), s.dialled, s.returned⟩, ?_,
    List.mem_cons_self⟩
  simp [Custody.step, hallow, Pool.step, hid, Event.dialled, Event.returned]

theorem cancel_eq {stage : AcquireStage} (hid : p.call? id = some (.acquire w stage))
    (hstep : p.step (.cancel id canSpawn task) = some q) : q = p.cancel id canSpawn task stage := by
  cases Move.of_step hstep with
  | cancel h _ =>
    cases hid.symm.trans h
    rfl

/-- What a task is left with it closes, once. -/
theorem places_of_abandoned (h : s.Balanced) (hid : s.pool.call? task = some (.abandoned conn))
    (hrun : Run Custody.step s es t) : t.places conn = [.closed task] ∨
    t.places conn = [.abandoned task] ∧
      ∃ v, t.step (.tidy task) = some v ∧ v.places conn = [.closed task] := by
  have hlater := h.run hrun
  rcases abandoned_run (Custody.run_pool hrun) hid with hid' | hn
  · obtain ⟨v, hv, hn⟩ := tidy_step hid'
    have hplaces := (hlater.step hv).places_eq (mem_places_of_note hn (if_pos rfl))
    exact .inr ⟨hlater.places_eq (mem_places_of_abandoned hid'), v, hv, hplaces⟩
  · exact .inl (hlater.places_eq (mem_places_of_note hn (if_pos rfl)))

theorem places_of_dropped (h : s.Balanced) (hn : .dropped conn ∈ s.pool.history)
    (hrun : Run Custody.step s es t) : t.places conn = [.dropped] := by
  have hlater : .dropped conn ∈ t.pool.history :=
    (Custody.run_pool hrun).keeps (P := (.dropped conn ∈ ·.history))
      (fun _ _ _ hn hstep => (history_step hstep).subset hn) hn
  exact (h.run hrun).places_eq (mem_places_of_note hlater (if_pos rfl))

/-- The entry of an acquire that is given up during its ping goes to the front of the queue, and where there is
no room for it to a task that closes it once; where no task can be started it is dropped. -/
theorem reclaimed_of_cancel (h : s.Balanced) (hid : s.pool.call? id = some (.acquire w (.pinging x)))
    (hstep : s.step (.cancel id canSpawn task) = some t) : Reclaimed s t x task canSpawn := by
  have hbalanced := h.step hstep
  have hcancel := cancel_eq hid (Custody.step_eq_some hstep).2.1
  rw [cancel, reclaim_eq] at hcancel
  have hsame : (s.pool.finish id .cancelled).hasRoom = s.pool.hasRoom := rfl
  cases hroom : s.pool.hasRoom with
  | true =>
    rw [hsame, hroom, if_pos rfl] at hcancel
    cases hidle : s.pool.idle with
    | none => simp [hasRoom, hidle] at hroom
    | some idle =>
      simp only [hasRoom, hidle, decide_eq_true_eq] at hroom
      exact .restored hidle hroom (by simp [hcancel, hidle])
  | false =>
    rw [hsame, hroom, if_neg Bool.false_ne_true] at hcancel
    have hqueue : t.pool.idle = s.pool.idle := by simp [hcancel]
    cases canSpawn with
    | true =>
      have htask : t.pool.call? task = some (.abandoned x.conn) := by
        rw [hcancel]
        exact call?_hold_self _ _ _
      exact .left hroom hqueue (hbalanced.places_eq (mem_places_of_abandoned htask))
        fun es u hrun => places_of_abandoned hbalanced htask hrun
    | false =>
      have hn : .dropped x.conn ∈ t.pool.history := by
        rw [hcancel]
        exact List.mem_cons_self
      exact .dropped hroom hqueue fun es u hrun => places_of_dropped hbalanced hn hrun

end Reclaim

/-- An acquire that runs alone in a pool that is not shut down and does not return a connection leaves the
slots as they were, and the queue as it was behind the entries that it evicted, also when it is given up at any
point. When others run in between and callers keep to the rules, its own events come to no slot unless it
returned a connection; and given up during a ping, it puts the entry to the front of the queue, or, where there
is no room, leaves it to a task that closes it once, or drops it where no task can be started. -/
theorem failed_acquire_leaves_no_trace :
    (∀ {r : PoolRequest} {p q : Pool} {id : CallId} {queue : List IdleEntry} {es : List Event},
      Reachable r p → p.idle = some queue → Run step p (.acquire id none :: es) q →
      (∀ e ∈ es, e.isReply id) → ∃ skips lookedAt point rest,
      Course p id queue skips lookedAt point rest es
        (along step lookTimes p (.acquire id none :: es)) q ∧
      (∀ err, q.Ended id (.acquired (.error err)) → Untouched p skips q) ∧
      ∀ canSpawn task t, q.step (.cancel id canSpawn task) = some t →
        t.Ended id .cancelled ∧ Untouched p (skips ++ point.evicting lookedAt) t) ∧
    ∀ {r : PoolRequest} {s₀ s : Custody} {es₀ : List Event}, Custody.Begins r s₀ →
      Run Custody.step s₀ es₀ s →
      (∀ {t : Custody} {id : CallId} {wait : Option Duration} {es : List Event} {a : Answer},
        Run Custody.step s (.acquire id wait :: es) t → (∀ e ∈ es, id ∉ e.begun) →
        t.pool.Ended id a → (along step (slotChanges id) s.pool (.acquire id wait :: es)).sum = a.slots) ∧
      ∀ {t : Custody} {id task : CallId} {w : Option Patience} {x : IdleEntry} {canSpawn : Bool},
        s.pool.call? id = some (.acquire w (.pinging x)) →
        s.step (.cancel id canSpawn task) = some t → Reclaimed s t x task canSpawn := by
  constructor
  · intro r p q id queue es hreach hidle hrun halone
    obtain ⟨hlimits, hmax, htotal⟩ := hreach.capacity
    rw [idleCount_eq hidle, ← hlimits] at hmax htotal
    obtain ⟨skips, lookedAt, point, rest, h⟩ := course_of_run htotal hidle hrun halone
    refine ⟨skips, lookedAt, point, rest, h, ?_, ?_⟩
    · intro err hend
      exact h.untouched_of_failed hidle hend
    · intro canSpawn task t hstep
      refine ⟨?_, h.untouched_of_cancel hidle hmax hstep⟩
      cases Move.of_step hstep with
      | cancel hid htask => exact ended_cancel (fun heq => by cases (heq ▸ hid).symm.trans htask) _ _ _
  · intro r s₀ s es₀ hbegin hrun₀
    constructor
    · intro t id wait es a hrun hnew hend
      exact (nets_run (hbegin.accounted.run hrun₀) hrun hnew).eq_slots hend
    · intro t id task w x canSpawn hid hstep
      exact reclaimed_of_cancel (hbegin.accounted.run hrun₀).balanced hid hstep

/-- A pool of two with a timeout of ten: the first entry is too old and closed, and the acquire is given up
while it pings the second one. In another pool, with room for one idle connection, that room is taken while the
acquire pings: a task closes what it had. -/
theorem no_trace_of_cancelled_ping : (∃ p q t, Reachable ⟨2, 2, 2, ⟨10, by decide⟩⟩ p ∧
      p.idle = some [⟨0, 0⟩, ⟨1, 5⟩] ∧ Run step p [.acquire 1 none, .closed 1 none] q ∧
      q.step (.cancel 1 true 2) = some t ∧ t.idle = some [⟨1, 5⟩] ∧ t.Ended 1 .cancelled ∧
      ∃ gone, Untouched p gone t) ∧
    ∃ s t u, Custody.Begins ⟨1, 2, 1, .zero⟩ s ∧
      Run Custody.step s [.acquire 1 none, .acquire 2 none, .dialed 2 (.ok 1), .release 3 1] t ∧
      t.step (.cancel 1 true 4) = some u ∧
      (along step (slotChanges 1) s.pool [.acquire 1 none, .acquire 2 none, .dialed 2 (.ok 1),
        .release 3 1, .cancel 1 true 4]).sum = 0 ∧ Reclaimed t u ⟨0, 0⟩ 4 true := by
  constructor
  · have hopen := Opened.of_foldlM (r := ⟨2, 2, 2, ⟨10, by decide⟩⟩)
      [.dialed (.ok 0), .pass 5, .dialed (.ok 1)] rfl
    have hlater := hopen.start.further [.pass 6] rfl
    have hreach := hopen.reachable hlater
    have hrun := hlater.further [.acquire 1 none, .closed 1 none] rfl
    have hcancel := hrun.further [.cancel 1 true 2] rfl
    obtain ⟨_, _, _, _, -, -, hcancelled⟩ :=
      failed_acquire_leaves_no_trace.1 hreach rfl hrun (by decide)
    obtain ⟨hend, hgone⟩ := hcancelled true 2 _ hcancel.single
    exact ⟨_, _, _, hreach, rfl, hrun, hcancel.single, rfl, hend, _, hgone⟩
  · have hopen := Opened.of_foldlM (r := ⟨1, 2, 1, .zero⟩) [.dialed (.ok 0)] rfl
    have hbegin : Custody.Begins ⟨1, 2, 1, .zero⟩ ⟨_, [0], []⟩ := ⟨hopen, by decide, rfl, rfl⟩
    have hrun := hbegin.start.further
      [.acquire 1 none, .acquire 2 none, .dialed 2 (.ok 1), .release 3 1] rfl
    have hcancel := hrun.further [.cancel 1 true 4] rfl
    have hnets := (failed_acquire_leaves_no_trace.2 hbegin hbegin.start).1 (hrun.append hcancel)
      (by decide) (show Ended _ 1 .cancelled from ⟨rfl, rfl⟩)
    have hleft := (failed_acquire_leaves_no_trace.2 hbegin hrun).2 rfl hcancel.single
    exact ⟨_, _, _, hbegin, hrun, hcancel.single, hnets, hleft⟩

end PooledTcp.Pool
