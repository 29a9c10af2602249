import PooledTcp.Proofs.Pool.Outcome
import PooledTcp.Proofs.Pool.QueueOrder
import PooledTcp.Proofs.Pool.Stock
import PooledTcp.Proofs.Pool.Wakeup

/-!
# A pool that is shut down

A pool without a queue is shut down for ever: no event gives it a queue again, and no dial and no ping
begins (`closed_step`). Whatever is asked of it then has one answer (`absorbed_of_closed`): an acquire that
looks for a connection, for the first time or again, is told that the pool is closed, a release closes its
connection and is told the same, another shutdown finds nothing to do. An acquire that is dialling or
pinging at that time can still bring its connection home.

Nobody is told that the pool is closed before it is (`Candid`).
-/

namespace PooledTcp.Pool

/-- A dial or a ping that begins. -/
def Note.probe? : Note → Option FactoryCall
  | .called _ (.close _) => none
  | .called _ c => some c
  | _ => none

/-- The dials and pings that began, latest first. -/
def probes (p : Pool) : List FactoryCall := p.history.filterMap (·.probe?)

/-- The note tells somebody that the pool is closed. -/
def Note.SaysClosed : Note → Prop
  | .answered _ (.acquired (.error .closed)) | .answered _ (.released (.error .closed)) => True
  | _ => False

/-- Whoever is told, or about to be told, that the pool is closed is told the truth. -/
structure Candid (p : Pool) : Prop where
  notes : ∀ n ∈ p.history, n.SaysClosed → p.idle = none
  promises : ∀ i, p.Promises i .closed → p.idle = none

/-- The event lets operation `id` look for a connection. -/
def Looks (p : Pool) (id : CallId) : Event → Prop
  | .acquire i _ | .retry i => i = id
  | .closed i _ => i = id ∧ ∃ w conn, p.call? id = some (.acquire w (.evicting conn))
  | _ => False

/-- Operation `id` waits for the end of a close, whatever else happens, and then its answer is `a`. -/
def Ends (p : Pool) (id : CallId) (a : Answer) : Prop :=
  ∀ es q, Run step p es q → (∀ failure, Event.closed id failure ∉ es) →
    ∀ failure, ∃ s, q.step (.closed id failure) = some s ∧ s.answer? id = some a

/-- What is asked of a pool that is shut down, and what comes of it. -/
structure Absorbed (p : Pool) : Prop where
  /-- Whoever looks for a connection is told that the pool is closed, and gets none. -/
  looks : ∀ {e q id}, p.step e = some q → p.Looks id e →
    q.answer? id = some (.acquired (.error .closed)) ∧ q.handedOut = p.handedOut
  /-- Whoever is parked can look again. -/
  parked : ∀ {id w}, p.call? id = some (.acquire w .parked) → (p.step (.retry id)).isSome = true
  /-- A release closes its connection, and when the close ends it answers that the pool is closed. -/
  releases : ∀ {id conn q}, p.step (.release id conn) = some q →
    q.closes = conn :: p.closes ∧ q.Ends id (.released (.error .closed))
  /-- Another shutdown ends well and closes nothing. -/
  shutdowns : ∀ {id q}, p.step (.shutdown id) = some q →
    q.answer? id = some .shutDown ∧ q.closes = p.closes
  /-- A dial under way can still bring its connection home. -/
  dialing : ∀ {id w}, p.call? id = some (.acquire w .dialing) → ∀ conn, ∃ q,
    p.step (.dialed id (.ok conn)) = some q ∧ q.answer? id = some (.acquired (.ok conn))
  /-- So can a ping. -/
  pinging : ∀ {id w x}, p.call? id = some (.acquire w (.pinging x)) → ∃ q,
    p.step (.pinged id none) = some q ∧ q.answer? id = some (.acquired (.ok x.conn))

variable {r : PoolRequest} {p q : Pool} {id : CallId} {e : Event} {es : List Event} {c : Call}

section Closed

/-- No dial and no ping begins once the pool is shut down. -/
theorem probes_step (hidle : p.idle = none) (hstep : p.step e = some q) :
    q.probes = p.probes := by
  obtain ⟨news, hhist, hnews⟩ := (within_step hstep).notes
  have hnone : news.filterMap (·.probe?) = [] := by
    refine List.filterMap_eq_nil_iff.2 fun n hn => ?_
    have hfits := (hnews n hn).2
    cases n with
    | called i f =>
      cases f with
      | close conn => rfl
      | _ => exact absurd hidle hfits
    | _ => rfl
  rw [probes, hhist, List.filterMap_append, hnone]
  rfl

/-- A pool that is shut down stays so, and no dial and no ping begins. -/
theorem closed_step (hidle : p.idle = none) (hstep : p.step e = some q) :
    q.idle = none ∧ q.probes = p.probes := by
  refine ⟨?_, probes_step hidle hstep⟩
  have hmove := queueMove_step hstep
  generalize hidle' : q.idle = idle' at hmove
  cases hmove with
  | stays => exact hidle
  | closed => rfl
  | taken h | stored h | restored _ h _ => cases hidle.symm.trans h

theorem closed_run (hidle : p.idle = none) (hrun : Run step p es q) :
    q.idle = none ∧ q.probes = p.probes := by
  refine hrun.keeps (P := fun s => s.idle = none ∧ s.probes = p.probes) ?_ ⟨hidle, rfl⟩
  rintro s e t ⟨hs, hsame⟩ hstep
  obtain ⟨ht, hsame'⟩ := closed_step hs hstep
  exact ⟨ht, hsame'.trans hsame⟩

/-- What is said in an event is so before it and after it. -/
theorem Candid.step (h : Candid p) (hstep : p.step e = some q) : Candid q := by
  have hstays (hidle : p.idle = none) : q.idle = none := (closed_step hidle hstep).1
  refine ⟨fun n hn hsays => ?_, fun i hi => ?_⟩
  · obtain ⟨news, hhist, hnews⟩ := (within_step hstep).notes
    rw [hhist] at hn
    rcases List.mem_append.1 hn with hn | hn
    · have hfits := (hnews n hn).2
      unfold Note.SaysClosed at hsays
      split at hsays
      · exact hstays hfits
      · exact hstays (h.promises _ hfits)
      · exact hsays.elim
    · exact hstays (h.notes n hn hsays)
  · rcases promises_step hstep hi with hp | ⟨conn, -, hgrounds⟩
    · exact hstays (h.promises i hp)
    · exact hstays hgrounds

theorem Fresh.candid {idle : List IdleEntry} (h : Fresh r p idle) : Candid p := by
  refine ⟨fun n hn hsays => ?_, fun i hi => ?_⟩
  · rw [h.history] at hn
    rcases List.mem_cons.1 hn with rfl | hn
    · exact hsays.elim
    rcases List.mem_cons.1 hn with rfl | hn
    · exact hsays.elim
    · rw [(List.mem_replicate.1 hn).2] at hsays
      exact hsays.elim
  · obtain ⟨conn, hcall⟩ := hi
    have hmem := mem_of_call? hcall
    rw [h.calls] at hmem
    cases hmem

theorem Reachable.candid (h : Reachable r q) : Candid q :=
  h.induct (fun _ _ => Fresh.candid) fun _ _ _ hp hstep => hp.step hstep

end Closed

section Waiting

/-- A release that closes its connection answers as it was decided when it began. -/
theorem ends_of_release {conn : ConnId} {answer : Except PoolError Unit}
    (hid : p.call? id = some (.release conn answer)) : p.Ends id (.released answer) := by
  intro es q hrun hnot failure
  have hq : q.call? id = some (.release conn answer) := by
    induction hrun with
    | nil => exact hid
    | cons hstep _ ih =>
      refine ih (call?_of_awaitsClose hid trivial hstep fun f hf => ?_) fun f hmem => ?_
      · exact hnot f (hf ▸ List.mem_cons_self)
      · exact hnot f (List.mem_cons_of_mem _ hmem)
  exact ⟨_, by simp only [step, hq]; rfl, answer?_finish _ _ _⟩

end Waiting

theorem look_of_closed (hidle : p.idle = none) (id : CallId) (w : Option Patience) :
    p.look id w = p.finish id (.acquired (.error .closed)) := by
  simp only [look, hidle]

/-- A pool that is shut down absorbs whatever happens. -/
theorem absorbed_of_closed (hidle : p.idle = none) (hattentive : Attentive p) : Absorbed p where
  looks {e q id} hstep hlooks := by
    have hfin {s : Pool} (hs : s.handedOut = p.handedOut) :
        (s.finish id (.acquired (.error .closed))).answer? id = some (.acquired (.error .closed)) ∧
          (s.finish id (.acquired (.error .closed))).handedOut = p.handedOut :=
      ⟨answer?_finish _ _ _, hs⟩
    cases Move.of_step hstep with
    | acquire _ =>
      obtain rfl := hlooks
      rw [look_of_closed hidle]
      exact hfin rfl
    | acquirePatiently _ | retry _ _ =>
      obtain rfl := hlooks
      rw [look_of_closed (by simpa using hidle)]
      exact hfin rfl
    | @evicted _ failure _ _ _ =>
      obtain ⟨rfl, -⟩ := hlooks
      rw [afterEviction, look_of_closed (by simpa using hidle)]
      exact hfin (by cases failure <;> rfl)
    | released h | discarded h | drained h | tidied h | tidiedBadly h =>
      obtain ⟨rfl, w, conn, hid⟩ := hlooks
      cases hid.symm.trans h
    | _ => exact hlooks.elim
  parked {id w} hid := by
    obtain ⟨v, rfl, htold | hfull⟩ := hattentive _ (mem_of_call? hid)
    · simp [step, hid, htold]
    · cases hidle.symm.trans hfull.1
  releases {id conn q} hstep := by
    cases Move.of_step hstep with
    | release _ =>
      have hq : p.release id conn =
          (p.giveBack.request id (.close conn)).hold id (.release conn (.error .closed)) := by
        simp only [release, hidle]
      rw [hq]
      exact ⟨rfl, ends_of_release (call?_hold_self _ _ _)⟩
  shutdowns {id q} hstep := by
    cases Move.of_step hstep with
    | shutdown _ =>
      have hq : p.shutdown id = p.finish id .shutDown := by simp only [shutdown, hidle]
      rw [hq]
      exact ⟨answer?_finish _ _ _, rfl⟩
  dialing {id w} hid conn :=
    ⟨p.afterDial id (.ok conn), by simp only [step, hid], answer?_finish _ _ _⟩
  pinging {id w x} hid :=
    ⟨p.afterPing id w x none, by simp only [step, hid], answer?_finish _ _ _⟩

end PooledTcp.Pool
