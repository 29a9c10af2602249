import PooledTcp.Proofs.Pool.Absorbed
import PooledTcp.Proofs.Pool.Capacity

/-!
# Room for what a shutdown has yet to close

While a pool has a queue, what is checked out and what is idle are together at most `maxConns` (`Capacity`).
A shutdown takes the queue, and what it took counts no longer as idle; it closes it one entry after the
other. `Room` says that this makes no room for more: what is checked out and what shutdowns have left are
together at most `maxConns` too. Without a queue neither of the two grows.
-/

namespace PooledTcp.Pool

/-- How many entries a shutdown has left to close. -/
def Call.left : Call → Nat
  | .shutdown _ rest => rest.length
  | _ => 0

/-- How many entries shutdowns have left to close. -/
def left (p : Pool) : Nat := tally Call.left p.calls

/-- How many entries operation `id` has left to close. -/
def leftBy (p : Pool) (id : CallId) : Nat := measureOf Call.left p id

/-- There is room for what is checked out and what shutdowns have left, and as long as there is a queue they
have nothing left. -/
structure Room (r : PoolRequest) (p : Pool) : Prop where
  closed : p.idle = none → p.checkedOut + p.left ≤ r.limits.maxConns
  opened : p.idle ≠ none → p.left = 0

variable {r : PoolRequest} {p q : Pool} {id : CallId} {e : Event} {c : Call}

@[simp] theorem Call.left_notify (c : Call) : c.notify.left = c.left := by
  cases c with
  | acquire w stage => cases w <;> rfl
  | _ => rfl

theorem leftBy_of_call? (h : p.call? id = some c) : p.leftBy id = c.left := measureOf_of_call? h

theorem leftBy_of_none (h : p.call? id = none) : p.leftBy id = 0 := measureOf_of_none h

theorem Call.left_of_kind (h : c.kind ≠ .shutdown) : c.left = 0 := by
  cases c with
  | shutdown conn rest => exact absurd rfl h
  | _ => rfl

theorem leftBy_drain (p : Pool) (id : CallId) (rest : List IdleEntry) :
    (p.drain id rest).leftBy id ≤ rest.length := by
  cases rest with
  | nil => exact Nat.le_of_eq (leftBy_of_none (call?_finish_self _ _ _))
  | cons x rest =>
    have hself : (p.drain id (x :: rest)).leftBy id = rest.length :=
      leftBy_of_call? (call?_hold_self _ id (.shutdown x.conn rest))
    rw [hself]
    exact Nat.le_succ _

/-- Only the shutdown that takes the queue gets entries to close. -/
theorem leftBy_step (hstep : p.step e = some q) (h : p.idle = none ∨ q.idle ≠ none) (id : CallId) :
    q.leftBy id ≤ p.leftBy id := by
  cases hid : q.call? id with
  | none => simp [leftBy_of_none hid]
  | some c =>
    by_cases hshutdown : c.kind = .shutdown
    · cases hcall : p.call? id with
      | some d =>
        have hkind := ((serves_step hstep hcall).kind_eq hid).symm.trans hshutdown
        cases d with
        | shutdown conn rest =>
          by_cases he : ∃ failure, e = .closed id failure
          · obtain ⟨failure, rfl⟩ := he
            have hq : (p.sayCloseFailed failure).drain id rest = q := by
              simpa only [step, hcall, Option.some.injEq] using hstep
            rw [← hq, leftBy_of_call? hcall]
            exact leftBy_drain _ id rest
          · have hne : ∀ failure, e ≠ .closed id failure := fun failure heq => he ⟨failure, heq⟩
            have hsame := call?_of_awaitsClose hcall trivial hstep hne
            exact Nat.le_of_eq ((leftBy_of_call? hsame).trans (leftBy_of_call? hcall).symm)
        | _ => cases hkind
      | none =>
        have hbegins := begins_step hstep hcall hid
        rw [hshutdown] at hbegins
        cases e with
        | shutdown i =>
          obtain ⟨rfl, -⟩ := hbegins
          cases Move.of_step hstep with
          | shutdown _ =>
            have hidle := h.resolve_right fun hsome => hsome idle_shutdown
            simp only [shutdown, hidle, call?_finish_self] at hid
            cases hid
        | _ => first | exact hbegins.elim | cases hbegins.2
    · simp [leftBy_of_call? hid, Call.left_of_kind hshutdown]

/-- What each of them has no more of, all of them have no more of. -/
theorem left_step (hd : p.Distinct) (hstep : p.step e = some q)
    (h : p.idle = none ∨ q.idle ≠ none) : q.left ≤ p.left := by
  have htally : q.left + (e.ops.map p.leftBy).sum = p.left + (e.ops.map q.leftBy).sum :=
    tally_step Call.left_notify hd hstep
  have hsum (ops : List CallId) : (ops.map q.leftBy).sum ≤ (ops.map p.leftBy).sum := by
    induction ops with
    | nil => exact Nat.le_refl _
    | cons id ops ih =>
      have hle := leftBy_step hstep h id
      simp only [List.map_cons, List.sum_cons]
      omega
  have hle := hsum e.ops
  omega

/-- Without a queue nothing is checked out. -/
theorem checkedOut_closed (n : Nat) : Kept fun p => p.idle = none ∧ p.checkedOut ≤ n where
  note _ h := h
  listen _ h := h
  finish _ _ h := h
  notifyAll h := h
  giveBack h := ⟨h.1, Nat.le_trans (Nat.sub_le _ _) h.2⟩
  pass _ h := h
  hold _ h _ := h
  park _ _ h _ _ := h
  dial _ _ h hidle _ := by cases h.1.symm.trans hidle
  take _ _ h hidle _ := by cases h.1.symm.trans hidle
  store _ h hidle _ _ := by cases h.1.symm.trans hidle
  restore h _ hidle _ := by cases h.1.symm.trans hidle
  close h := ⟨rfl, h.2⟩

/-- The shutdown that takes the queue gets what was in it. -/
theorem left_shutdown (hd : p.Distinct) (hstep : p.step (.shutdown id) = some q)
    {idle : List IdleEntry} (hidle : p.idle = some idle) :
    q.checkedOut = p.checkedOut ∧ q.left ≤ p.left + idle.length := by
  have htally : q.left + (p.leftBy id + 0) = p.left + (q.leftBy id + 0) :=
    tally_step Call.left_notify hd hstep
  cases Move.of_step hstep with
  | shutdown hid =>
    have hq : p.shutdown id =
        (({ p with idle := none }.say (.shuttingDown idle.length)).notifyAll).drain id idle := by
      simp only [shutdown, hidle]
    have hle := leftBy_drain
      (({ p with idle := none }.say (.shuttingDown idle.length)).notifyAll) id idle
    rw [← hq] at hle
    refine ⟨?_, by omega⟩
    rw [hq]
    cases idle <;> simp [drain]

theorem Room.step (h : Room r p) (hd : p.Distinct) (hp : Capacity r p)
    (hstep : p.step e = some q) : Room r q := by
  cases hidle : p.idle with
  | none =>
    have hclosed := h.closed hidle
    obtain ⟨hnone, hout⟩ := (checkedOut_closed p.checkedOut).step ⟨hidle, Nat.le_refl _⟩ hstep
    have hleft := left_step hd hstep (.inl hidle)
    exact ⟨fun _ => by omega, fun hsome => absurd hnone hsome⟩
  | some idle =>
    have hnothing := h.opened (by simp [hidle])
    refine ⟨fun hnone => ?_, fun hsome => ?_⟩
    · have hmove := queueMove_step hstep
      generalize hnow : q.idle = now at hmove
      cases hmove with
      | stays => cases hidle.symm.trans (hnow.symm.trans hnone)
      | closed =>
        obtain ⟨hout, hleft⟩ := left_shutdown hd hstep hidle
        have htotal := hp.total
        rw [idleCount_eq hidle] at htotal
        omega
      | _ => cases hnow.symm.trans hnone
    · have hleft := left_step hd hstep (.inr hsome)
      omega

theorem Fresh.room {idle : List IdleEntry} (h : Fresh r p idle) : Room r p := by
  refine ⟨fun hnone => ?_, fun _ => ?_⟩
  · cases h.idle.symm.trans hnone
  · simp [left, h.calls]

theorem Reachable.room (h : Reachable r q) : Room r q := by
  have hall := h.induct (P := fun s => s.Distinct ∧ Capacity r s ∧ Room r s)
    (fun _ _ hp => ⟨hp.distinct, hp.capacity, hp.room⟩)
    fun _ _ _ ⟨hd, hcap, hroom⟩ hstep =>
      ⟨Distinct.kept.step hd hstep, (Capacity.kept r).step hcap hstep, hroom.step hd hcap hstep⟩
  exact hall.2.2

/-- What is checked out, idle or left to a shutdown is at most what a pool may have. -/
theorem Reachable.total (h : Reachable r q) :
    q.checkedOut + q.idleCount + q.left ≤ r.limits.maxConns := by
  have hroom := h.room
  have htotal := h.capacity.total
  cases hidle : q.idle with
  | none =>
    have hclosed := hroom.closed hidle
    have hnone : q.idleCount = 0 := by simp [idleCount, hidle]
    omega
  | some idle =>
    have hnothing := hroom.opened (by simp [hidle])
    omega

end PooledTcp.Pool
