import PooledTcp.Proofs.Pool.Opened
import PooledTcp.Proofs.Pool.Slots
import PooledTcp.Proofs.Proxy.Ledger

/-!
# What a proxy took is given back when its connections are gone

The slots of the pool are those of what handlers took and have not discarded, of what others hold, and of
the acquires in flight (`Even`). A handler that is not dropped while it copies has discarded what it took by
the time its connection is counted no longer. So when no connection is counted, the slots taken are those of
the others (`Settled`).

A handler that is dropped while it copies discards nothing: its backend connection is gone, and the slot
stays taken for good. The books are settled throughout a run exactly when this does not happen
(`backends_returned_iff`).
-/

namespace PooledTcp.Ledger

/-- The pool has just been opened, and nothing was done with the server. -/
inductive Begins (r : PoolRequest) : Ledger → Prop where
  | intro {pool : Pool} {addr : String} {timeouts : Timeouts} : Pool.Opened r pool →
    Begins r { proxy := { server := { addr, timeouts }, pool } }

/-- Whatever was taken for a connection that is not counted was discarded for it. When none is counted the
handlers have no slot of the pool: the slots taken are those of the connections that others hold and of the
acquires that others make. -/
structure Settled (s : Ledger) : Prop where
  discarded : ∀ conn, s.proxy.server.conns.lookup conn = none → s.takenFor conn = s.givenFor conn
  slots : s.proxy.server.active = 0 →
    (∀ call conn, s.calls.lookup call = some conn → s.proxy.pool.call? call = none) ∧
    s.proxy.pool.checkedOut = s.held.length + s.proxy.pool.reservations

/-- The slots taken are those that are owed. -/
structure Even (s : Ledger) : Prop where
  slots : s.proxy.pool.checkedOut + (s.returned.length + s.given.length) =
    s.got.length + s.taken.length + s.proxy.pool.reservations
  handed : s.proxy.pool.handedOut.length = s.got.length + s.taken.length
  returned : ∀ backend, s.returned.count backend ≤ s.got.count backend

/-- What holds of every ledger. -/
structure Sound (dropped : GuardId → Prop) (s : Ledger) : Prop where
  seated : s.proxy.Seated
  distinct : s.proxy.pool.Distinct
  called : s.Called
  lives : s.Lives dropped
  even : s.Even

/-- The run in which nothing has happened yet. -/
theorem Begins.start {r : PoolRequest} {s : Ledger} (_ : Begins r s) : Run Ledger.step s [] s :=
  .nil s

variable {r : PoolRequest} {dropped : GuardId → Prop} {s t : Ledger} {q : ProxyServer}
  {e : ProxyServer.Event} {es : List ProxyServer.Event} {conn : GuardId}

section Even

theorem Lives.length_given (h : s.Lives dropped) : s.given.length ≤ s.taken.length :=
  length_le_of_valuesOf fun conn => (h conn).sublist

theorem Even.length_returned (h : s.Even) : s.returned.length ≤ s.got.length :=
  length_le_of_count h.returned

/-- The slots taken follow what the pool hands out and what comes back. -/
theorem Even.onPool {e : Pool.Event} (h : s.Even) (hd : s.proxy.pool.Distinct)
    (hpool : s.proxy.pool.step e = some t.proxy.pool)
    (hout : t.got.length + t.taken.length =
      (s.proxy.pool.hands? e).toList.length + (s.got.length + s.taken.length))
    (hback : t.returned.length + t.given.length =
      e.returned.length + (s.returned.length + s.given.length))
    (hlimit : t.returned.length + t.given.length ≤ s.got.length + s.taken.length)
    (hreturned : ∀ backend, t.returned.count backend ≤ t.got.count backend) : t.Even := by
  have hslots := h.slots
  have hhanded := h.handed
  -- the subtraction does not stop at zero: what comes back was out, or an acquire has a slot
  have hfrees (hfrees : s.proxy.pool.Frees e) : 0 < s.proxy.pool.checkedOut := by
    have hsource := hfrees.source hd hpool
    omega
  have hstep := Pool.slots_step hd hfrees hpool
  have hhanded' := congrArg List.length (Pool.handedOut_step hpool)
  rw [List.length_append, List.length_map] at hhanded'
  unfold Pool.owed at hstep
  exact ⟨by omega, by omega, hreturned⟩

/-- The pool hands out nothing, and gets nothing back. -/
theorem Even.quiet {e : Pool.Event} {proxy : ProxyServer} {calls : List (CallId × GuardId)}
    (h : s.Even) (hd : s.proxy.pool.Distinct) (hlives : s.Lives dropped)
    (hpool : s.proxy.pool.step e = some proxy.pool)
    (hnone : s.proxy.pool.hands? e = none) (hback : e.returned = []) :
    Even { s with calls, proxy } := by
  have hgiven := hlives.length_given
  have hreturned := h.length_returned
  refine h.onPool hd hpool ?_ ?_ (by simp only; omega) h.returned
  · simp [hnone]
  · simp [hback]

/-- What others give back they have. -/
theorem Even.count_returned {e : Pool.Event} (h : s.Even) (hallow : s.Allows (.pool e))
    (backend : ConnId) : (e.returned ++ s.returned).count backend ≤ s.got.count backend := by
  have hbefore := h.returned backend
  rw [List.count_append]
  by_cases hmem : backend ∈ e.returned
  · have hone := Nat.le_trans (List.count_le_length (a := backend)) e.length_returned
    have hmore := hallow.2 backend hmem
    omega
  · rw [List.count_eq_zero.2 hmem]
    omega

theorem count_got_hand (s : Ledger) (x : Option (CallId × ConnId)) (backend : ConnId) :
    s.got.count backend ≤ (s.hand x).got.count backend := by
  rcases x with _ | ⟨call, b⟩
  · exact Nat.le_refl _
  · simp only [hand]
    split
    · exact Nat.le_refl _
    · exact List.count_le_count_cons

theorem Even.step (h : s.Even) (hd : s.proxy.pool.Distinct) (hlives : s.Lives dropped)
    (hlives' : Lives dropped { s.record e with proxy := q }) (hallow : s.Allows e)
    (hmove : ProxyServer.Move s.proxy e q) : Even { s.record e with proxy := q } := by
  have hgiven := hlives.length_given
  cases hmove with
  | @pool e pool hpool =>
    have hreturned := h.count_returned hallow
    have hlen := length_le_of_count hreturned
    have hsame : (s.record (.pool e)).given = s.given := given_hand s _
    have hback : (s.record (.pool e)).returned = e.returned ++ s.returned := rfl
    refine h.onPool hd hpool (length_hand s _) ?_ ?_ fun backend => ?_
    · simp only [hsame, hback, List.length_append]
      omega
    · simp only [hsame, hback]
      omega
    · exact Nat.le_trans (hreturned backend) (count_got_hand s _ backend)
  | begins _ _ hpool => exact h.quiet hd hlives hpool rfl rfl
  | givenUp _ _ _ hpool => exact h.quiet hd hlives hpool rfl rfl
  | @copied conn call backend pool hsession _ hpool =>
    rw [record_copied hsession] at hlives' ⊢
    have hgiven' := hlives'.length_given
    have hreturned := h.length_returned
    refine h.onPool hd hpool ?_ ?_ ?_ h.returned
    · simp [Pool.hands?]
    · simp [Pool.Event.returned]
      omega
    · simp only at hgiven' ⊢
      omega
  | _ => exact ⟨h.slots, h.handed, h.returned⟩

end Even

section Sound

theorem distinct_step (h : s.proxy.pool.Distinct) (hmove : ProxyServer.Move s.proxy e q) :
    q.pool.Distinct := by
  cases hmove with
  | pool hpool => exact Pool.Distinct.kept.step h hpool
  | begins _ _ hpool | copied _ _ hpool | givenUp _ _ _ hpool =>
    exact Pool.Distinct.kept.step h hpool
  | _ => exact h

/-- Every step leaves the books sound, and none but those that drop a handler with its backend connection
lose any. -/
theorem Sound.step (h : s.Sound dropped) (hdrops : ∀ conn, s.proxy.Drops conn e → dropped conn)
    (hstep : s.step e = some t) : t.Sound dropped := by
  obtain ⟨hallow, q, hmove, rfl⟩ := step_eq_some hstep
  have hlives := h.lives.step h.seated h.called hallow hmove hdrops
  exact ⟨h.seated.step hmove, distinct_step h.distinct hmove,
    h.called.step h.seated h.lives hallow hmove, hlives,
    h.even.step h.distinct h.lives hlives hallow hmove⟩

theorem Begins.sound (h : Begins r s) : s.Sound dropped := by
  obtain ⟨hopen⟩ := h
  obtain ⟨idle, hfresh⟩ := hopen.fresh
  refine ⟨⟨⟨rfl, List.nodup_nil, nofun⟩, nofun⟩, hfresh.distinct, ⟨nofun, nofun, nofun⟩,
    fun _ => .empty, ⟨?_, ?_, fun _ => Nat.le_refl _⟩⟩
  · simp [Pool.reservations, hfresh.checkedOut, hfresh.calls]
  · simp [Pool.handedOut, hfresh.history, Pool.Note.handed?]

/-- Where no connection is counted, no handler runs. -/
theorem Sound.no_session (h : s.Sound dropped)
    (hnone : s.proxy.server.conns.lookup conn = none) :
    s.proxy.sessions.lookup conn = none := by
  refine Option.eq_none_iff_forall_ne_some.2 fun session hsession => ?_
  obtain ⟨c, hfound, -⟩ := h.seated.running conn session hsession
  cases hnone.symm.trans hfound

/-- Books in which nothing is lost are settled. -/
theorem Sound.settled (h : s.Sound fun _ => False) : s.Settled := by
  have hover (conn : GuardId) (hnone : s.proxy.server.conns.lookup conn = none) :
      s.takenFor conn = s.givenFor conn := by
    have hlife := h.lives conn
    rw [h.no_session hnone] at hlife
    exact hlife.eq_of_none
  refine ⟨hover, fun hzero => ?_⟩
  have hnone (conn : GuardId) : s.proxy.server.conns.lookup conn = none :=
    h.seated.tracked.lookup_eq_none hzero conn
  refine ⟨fun call conn hcall => ?_, ?_⟩
  · refine Decidable.byContradiction fun hflight => ?_
    cases (h.no_session (hnone conn)).symm.trans (h.called.waiting call conn hcall hflight)
  · -- nothing is taken that is not given back, so the handlers' part of the equation cancels
    have hle := h.lives.length_given
    have hge : s.taken.length ≤ s.given.length := by
      refine length_le_of_valuesOf fun conn => ?_
      have hsame : valuesOf conn s.taken = valuesOf conn s.given := hover conn (hnone conn)
      exact hsame ▸ List.Sublist.refl _
    have hslots := h.even.slots
    have hheld : s.held.length + s.returned.length = s.got.length := length_diff h.even.returned
    omega

/-- In settled books nothing is lost. -/
theorem Sound.of_settled (h : s.Sound dropped) (hs : s.Settled) : s.Sound fun _ => False :=
  ⟨h.seated, h.distinct, h.called,
    fun conn => (h.lives conn).of_eq fun hgone => hs.discarded conn hgone.2, h.even⟩

/-- A handler that is dropped with its backend connection leaves books that are not settled. -/
theorem Sound.unsettled (h : s.Sound dropped) (hdrops : s.proxy.Drops conn e)
    (hstep : s.step e = some t) : ¬t.Settled := by
  intro hsettled
  obtain ⟨-, q, hmove, rfl⟩ := step_eq_some hstep
  cases e with
  | forced c canSpawn task failure =>
    obtain ⟨rfl, backend, hsession⟩ := hdrops
    have hlife := h.lives c
    rw [hsession] at hlife
    obtain ⟨htaken, hgiven⟩ := hlife.of_copying
    cases hmove with
    | dropped _ hserver =>
      have hgone := Server.gone_of_finish h.seated.tracked hserver
      have hsame : s.takenFor c = s.givenFor c := hsettled.discarded c hgone.2
      rw [htaken, hgiven] at hsame
      cases hsame
    | givenUp hother _ _ _ => cases hsession.symm.trans hother
    | unheard hother _ => cases hsession.symm.trans hother
    | neverBegun hother _ _ => cases hsession.symm.trans hother
  | _ => exact hdrops

end Sound

/-- At every point of a run whatever was taken for a connection that is not counted was discarded for it,
and the handlers have no slot when no connection is counted, exactly when no handler is dropped while it
copies. -/
theorem backends_returned_iff (hbegin : Begins r s) (hrun : Run Ledger.step s es t) :
    (∀ es₁ u, es₁ <+: es → Run Ledger.step s es₁ u → u.Settled) ↔
    ∀ es₁ e u, es₁ ++ [e] <+: es → Run Ledger.step s es₁ u → ¬∃ conn, u.proxy.Drops conn e := by
  have hsound : s.Sound fun _ => False := hbegin.sound
  refine hrun.throughout_iff (I := Sound fun _ => True) ?_ ?_ hbegin.sound hsound.settled
  · exact fun s e t h hstep => h.step (fun _ _ => trivial) hstep
  · intro s e t h hsettled hstep
    constructor
    · rintro ht ⟨conn, hdrops⟩
      exact h.unsettled hdrops hstep ht
    · intro hnone
      have hnext := (h.of_settled hsettled).step (fun conn hdrops => hnone ⟨conn, hdrops⟩) hstep
      exact hnext.settled

/-- A shutdown cancels the copying; the handler discards within the grace while another caller holds a
connection. -/
theorem backends_returned_after_shutdown : ∃ s t, Begins ⟨1, 2, 1, .zero⟩ s ∧
    Run Ledger.step s [.server (.serve 1 (.ok "front")), .server (.accept 1 "client"), .begin 1 2,
      .pool (.pinged 2 none), .acquired 1 none, .pool (.acquire 3 none), .pool (.dialed 3 (.ok 1)),
      .server (.shutdown 4 .zero), .server (.resume 1), .server (.proceed 4), .copied 1 5,
      .pool (.closed 5 none), .discarded 1 none] t ∧
    t.proxy.server.active = 0 ∧ t.takenFor 1 = [0] ∧ t.givenFor 1 = [0] ∧ t.held = [1] ∧
    t.proxy.pool.checkedOut = 1 ∧ t.Settled := by
  have hopen := Pool.Opened.of_foldlM (r := ⟨1, 2, 1, .zero⟩) [.dialed (.ok 0)] rfl
  have hbegin : Begins ⟨1, 2, 1, .zero⟩ { proxy := { server := { addr := "" }, pool := _ } } :=
    .intro hopen
  have hrun := hbegin.start.further [.server (.serve 1 (.ok "front")),
    .server (.accept 1 "client"), .begin 1 2, .pool (.pinged 2 none), .acquired 1 none,
    .pool (.acquire 3 none), .pool (.dialed 3 (.ok 1)), .server (.shutdown 4 .zero),
    .server (.resume 1), .server (.proceed 4), .copied 1 5, .pool (.closed 5 none),
    .discarded 1 none] rfl
  refine ⟨_, _, hbegin, hrun, rfl, rfl, rfl, rfl, rfl, ?_⟩
  refine (backends_returned_iff hbegin hrun).2 (fun es₁ e u hpre _ => ?_) _ _ List.prefix_rfl hrun
  have he := hpre.subset (List.mem_append_right es₁ (List.mem_singleton_self e))
  clear hpre
  revert e
  simp [ProxyServer.Drops]

/-- The grace is over before the handler hears of the close, and it is dropped while it copies. No
connection is counted any more, nobody holds a connection of the pool, and its only slot is taken. -/
theorem slot_kept_after_force : ∃ s t, Begins ⟨1, 1, 1, .zero⟩ s ∧
    Run Ledger.step s [.server (.serve 1 (.ok "front")), .server (.accept 1 "client"), .begin 1 2,
      .pool (.pinged 2 none), .acquired 1 none, .server (.shutdown 3 .zero), .server (.resume 1),
      .server (.proceed 3), .server (.pass 1000000), .server (.proceed 3),
      .forced 1 true 4 none] t ∧
    t.proxy.server.active = 0 ∧ t.takenFor 1 = [0] ∧ t.givenFor 1 = [] ∧ t.held = [] ∧
    t.proxy.pool.reservations = 0 ∧ t.proxy.pool.checkedOut = 1 ∧ ¬t.Settled := by
  have hopen := Pool.Opened.of_foldlM (r := ⟨1, 1, 1, .zero⟩) [.dialed (.ok 0)] rfl
  have hbegin : Begins ⟨1, 1, 1, .zero⟩ { proxy := { server := { addr := "" }, pool := _ } } :=
    .intro hopen
  have hrun := hbegin.start.further [.server (.serve 1 (.ok "front")),
    .server (.accept 1 "client"), .begin 1 2, .pool (.pinged 2 none), .acquired 1 none,
    .server (.shutdown 3 .zero), .server (.resume 1), .server (.proceed 3),
    .server (.pass 1000000), .server (.proceed 3), .forced 1 true 4 none] rfl
  refine ⟨_, _, hbegin, hrun, rfl, rfl, rfl, rfl, rfl, rfl, fun hsettled => ?_⟩
  cases hsettled.discarded 1 rfl

end PooledTcp.Ledger
