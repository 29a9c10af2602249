import PooledTcp.Proofs.Pool.Capacity

/-!
# No wakeup is lost

A patient acquire parks when it finds the pool full: the queue empty and `maxConns` checked out. Nobody looks
after it then; it has to be told. `Attentive` is the invariant: whoever is parked has been told of something
given back since it began to listen, or the pool is still full.

It is kept because an acquire begins to listen before it looks, so that the state it parks in is the one it
looked at, and because every operation that frees a slot, parks a connection or takes the queue away tells
everybody afterwards. An event that tells nobody leaves a full pool as it is: nothing can be taken from it.
-/

namespace PooledTcp.Pool

/-- Nothing is idle and every slot is taken. -/
def Full (p : Pool) : Prop := p.idle = some [] ∧ p.limits.maxConns ≤ p.checkedOut

/-- The operation is not parked, or it is patient and was told of something given back; where `full`
holds it need not have been told. -/
def Call.Served (full : Prop) : Call → Prop
  | .acquire w .parked => ∃ v, w = some v ∧ (v.notified = true ∨ full)
  | _ => True

/-- Every operation is served. -/
def AllServed (full : Prop) (p : Pool) : Prop := ∀ x ∈ p.calls, x.2.Served full

/-- Whoever is parked has been told of something given back, or the pool is full. -/
def Attentive (p : Pool) : Prop := p.AllServed p.Full

variable {r : PoolRequest} {p q : Pool} {id : CallId} {full full' : Prop} {c : Call}

theorem Call.Served.mono (h : c.Served full) (himp : full → full') : c.Served full' := by
  unfold Served at *
  split at h
  · obtain ⟨v, rfl, hv⟩ := h
    exact ⟨v, rfl, hv.imp_right himp⟩
  · trivial

/-- Whoever is told is served, however full the pool. -/
theorem Call.Served.notify (h : c.Served full) : c.notify.Served full' := by
  cases c with
  | acquire w stage =>
    cases stage with
    | parked =>
      obtain ⟨v, rfl, -⟩ := h
      exact ⟨_, rfl, .inl rfl⟩
    | _ => cases w <;> trivial
  | _ => trivial

namespace AllServed

theorem mono (h : AllServed full p) (himp : full → full') : AllServed full' p :=
  fun x hx => (h x hx).mono himp

theorem notifyAll (h : AllServed full p) : AllServed full' p.notifyAll := by
  intro x hx
  obtain ⟨y, hy, rfl⟩ := List.mem_map.1 hx
  exact (h y hy).notify

theorem of_calls (h : AllServed full p) (hcalls : q.calls = p.calls) : AllServed full q := by
  unfold AllServed
  rw [hcalls]
  exact h

theorem hold (h : AllServed full p) (hc : c.Served full) : AllServed full (p.hold id c) := by
  intro x hx
  rcases List.mem_cons.1 hx with rfl | hx
  · exact hc
  · exact h x (List.mem_filter.1 hx).1

theorem finish (h : AllServed full p) (a : Answer) : AllServed full (p.finish id a) :=
  fun x hx => h x (List.mem_filter.1 hx).1

end AllServed

namespace Attentive

/-- An update that tells nobody keeps the queue and the count. -/
theorem of_eq (h : AllServed p.Full q) (hlim : q.limits = p.limits) (hidle : q.idle = p.idle)
    (hcount : q.checkedOut = p.checkedOut) : Attentive q :=
  h.mono fun hfull => by rwa [Full, hlim, hidle, hcount]

/-- In a pool that is not full nobody is parked untold, and what is done next matters to nobody. -/
theorem of_not_full (h : Attentive p) (hfull : ¬p.Full) (hcalls : q.calls = p.calls)
    (hc : c.Served False) : Attentive (q.hold id c) := by
  have htold : AllServed False p := h.mono hfull
  exact ((htold.of_calls hcalls).hold hc).mono False.elim

/-- Everybody is told, whatever was done before. -/
theorem tell (h : AllServed full q) : Attentive q.notifyAll := h.notifyAll

end Attentive

theorem Call.Closing.served (h : c.Closing) : c.Served full := by
  cases c with
  | acquire w stage => cases stage <;> trivial
  | _ => trivial

/-- Every update leaves whoever is parked told, or the pool full. -/
theorem Attentive.kept : Kept Attentive where
  note _ h := of_eq (h.of_calls rfl) rfl rfl rfl
  listen _ h := h
  finish _ a h := of_eq (AllServed.finish h a) rfl rfl rfl
  notifyAll h := tell h
  giveBack h := tell (AllServed.of_calls h rfl)
  pass _ h := h
  hold _ h hc := of_eq (AllServed.hold h hc.served) rfl rfl rfl
  park _ w h hidle hmax := by
    -- the acquire parks in the very state that it looked at
    refine of_eq (AllServed.hold h ?_) rfl rfl rfl
    exact ⟨w, rfl, .inr ⟨hidle, hmax⟩⟩
  dial _ _ h _ hfree := h.of_not_full (fun hfull => Nat.not_le_of_lt hfree hfull.2) rfl trivial
  take _ _ h hidle hstage := by
    refine h.of_not_full (fun hfull => ?_) rfl ?_
    · simp [Full, hidle] at hfull
    · rcases hstage with rfl | rfl <;> trivial
  store _ h _ _ _ := tell (AllServed.of_calls h rfl)
  restore h _ _ _ := tell (AllServed.of_calls (AllServed.finish h .cancelled) rfl)
  close h := tell (AllServed.of_calls h rfl)

theorem Reachable.attentive (h : Reachable r q) : Attentive q :=
  Attentive.kept.reachable h fun p _ hp => by simp [Attentive, AllServed, hp.calls]

/-- Somebody parked has been told of something given back and can look again, or the pool is open,
nothing in it is idle and every slot is taken. -/
theorem parked_told_or_full (h : Reachable r q) {w : Option Patience}
    (hpark : q.call? id = some (.acquire w .parked)) :
    ∃ v, w = some v ∧ (v.notified = true ∧ (q.step (.retry id)).isSome = true ∨
      q.idle = some [] ∧ q.checkedOut = r.limits.maxConns) := by
  obtain ⟨v, rfl, htold | ⟨hidle, hmax⟩⟩ := h.attentive _ (mem_of_call? hpark)
  · exact ⟨v, rfl, .inl ⟨htold, by simp [Pool.step, hpark, htold]⟩⟩
  · have hcap := h.capacity
    have htotal := hcap.total
    rw [hcap.limits] at hmax
    exact ⟨v, rfl, .inr ⟨hidle, by omega⟩⟩

/-- A pool of one connection: the second acquire parks while the first one pings, and is told when the
first one is given up. -/
theorem parked_told_after_cancel : ∃ q v, Reachable ⟨1, 1, 1, .zero⟩ q ∧
    q.call? 2 = some (.acquire (some v) .parked) ∧ q.idleCount = 1 ∧
    (v.notified = true ∧ (q.step (.retry 2)).isSome = true ∨
      q.idle = some [] ∧ q.checkedOut = 1) := by
  have hopen := Opened.of_foldlM (r := ⟨1, 1, 1, .zero⟩) [.dialed (.ok 0)] rfl
  have hreach := hopen.reachable
    (hopen.start.further [.acquire 1 none, .acquire 2 (some Duration.longest), .cancel 1 true 3] rfl)
  obtain ⟨v, hv, htold⟩ := parked_told_or_full hreach
    (show call? _ 2 = some (.acquire (some ⟨_, true, 0⟩) .parked) from rfl)
  cases hv
  exact ⟨_, _, hreach, rfl, rfl, htold⟩

end PooledTcp.Pool
