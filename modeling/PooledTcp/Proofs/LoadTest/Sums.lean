import Mathlib.Data.List.Basic
import Mathlib.Data.List.Induction
import PooledTcp.LoadTest.Summary
import PooledTcp.Proofs.LoadTest.Callers
import PooledTcp.Proofs.Pool.Capacity
import PooledTcp.Proofs.Pool.Slots

/-!
# The summary of a load test adds up

Each request is counted once, when it ends: what is counted and what the clients have left are together all
requests (`Census`). And each request gives away what it acquired. The clients of a load test are the only
callers of its pool, so what the pool handed out is what was given back to it and what clients hold, and an
acquire that is in flight is that of a client that waits for it (`Called`). When every request is counted no
client holds or waits for anything, and no slot is taken.

`performed` is what the pool sees of a load test; it makes a run of the test a run of its pool.
-/

namespace PooledTcp.LoadTest

/-- What the pool is made to do by an event of the load test. -/
def performed (t : LoadTest) : Event → List Pool.Event
  | .pool e => [e]
  | .begin _ call => [.acquire call t.plan.patience]
  | .exchanged i call reply =>
    match (t.clients.lookup i).map Client.stage, reply with
    | some (.exchanging conn), .error _ => [.discard call conn]
    | some (.exchanging conn), .ok _ => [.release call conn]
    | _, _ => []
  | .acquired _ | .gaveAway _ => []

/-- The connection that a client holds, or that is there for it. -/
def Stage.held (p : Pool) : Stage → List ConnId
  | acquiring call => p.delivered call
  | exchanging conn => [conn]
  | _ => []

/-- The connections that clients hold. -/
def holdings (t : LoadTest) : List ConnId := t.clients.flatMap (·.2.stage.held t.pool)

/-- How many requests are not counted yet. -/
def due (t : LoadTest) : Nat := (t.clients.map (·.2.left)).sum

/-- Every request is counted or due, and a client in a request has one due. -/
structure Census (t : LoadTest) : Prop where
  keys : (t.clients.map Prod.fst).Nodup
  busy : ∀ i c, t.clients.lookup i = some c → c.stage ≠ .ready → 0 < c.left
  total : t.tally.total + t.due = t.plan.clients * t.plan.requests

/-- What the pool handed out was given back or is held, and the slots taken are accounted for. -/
structure Even (t : LoadTest) (given : List ConnId) : Prop where
  handed : t.pool.handedOut.Perm (given ++ t.holdings)
  slots : t.pool.checkedOut + given.length = t.pool.owed

variable {r : PoolRequest} {t u : LoadTest} {i j : ClientId} {c d : Client} {e : Event}
  {f : Pool.Event} {pool : Pool} {given : List ConnId} {call : CallId}

section Clients

/-- Clients with one replaced: what they have left changes by what that one has. -/
theorem due_put (h : (t.clients.map Prod.fst).Nodup) (hi : t.clients.lookup i = some c) (d : Client) :
    ((put i d t.clients).map (·.2.left)).sum + c.left = t.due + d.left := by
  have hsum := ((perm_cons_filter_of_lookup h hi).map (·.2.left)).sum_nat
  simp only [due, put, List.map_cons, List.sum_cons] at hsum ⊢
  omega

/-- So does what they hold. -/
theorem holdings_put (h : (t.clients.map Prod.fst).Nodup) (hi : t.clients.lookup i = some c)
    (d : Client) : (((put i d t.clients).flatMap (·.2.stage.held t.pool)) ++ c.stage.held t.pool).Perm
      (d.stage.held t.pool ++ t.holdings) := by
  have hperm := (perm_cons_filter_of_lookup h hi).flatMap_right (·.2.stage.held t.pool)
  rw [List.flatMap_cons] at hperm
  rw [put, List.flatMap_cons, List.append_assoc]
  exact (List.perm_append_comm.trans hperm.symm).append_left _

/-- A client goes on, or ends a request that is counted. -/
theorem Census.put (h : t.Census) (hi : t.clients.lookup i = some c) (hplan : u.plan = t.plan)
    (hclients : u.clients = put i d t.clients) (hbusy : d.stage ≠ .ready → 0 < d.left) {n : Nat}
    (hleft : d.left + n = c.left) (htally : u.tally.total = t.tally.total + n) : u.Census := by
  refine ⟨?_, ?_, ?_⟩
  · rw [hclients]
    exact nodup_keys_put h.keys i d
  · intro j c' hj hstage
    rw [hclients] at hj
    rcases lookup_put_eq_some.1 hj with ⟨-, rfl⟩ | ⟨-, hj⟩
    · exact hbusy hstage
    · exact h.busy j c' hj hstage
  · have hsum := due_put h.keys hi d
    have htotal := h.total
    rw [due, hclients, htally, hplan]
    omega

theorem total_count (tally : Tally) (nanos : Nat) (result : Result) :
    (tally.count nanos result).total = tally.total + 1 := by
  cases result <;> simp only [Tally.count, Tally.total] <;> omega

/-- Every event keeps the census: a request that ends is counted and due no longer. -/
theorem Census.step (h : t.Census) (hmove : Move t e u) : u.Census := by
  have hfinish {i : ClientId} {c : Client} (hi : t.clients.lookup i = some c) (hstage : c.stage ≠ .ready)
      (result : Result) : Census (t.finish i c result) := by
    have hpos := h.busy i c hi hstage
    exact h.put hi rfl rfl (fun hready => absurd rfl hready) (Nat.sub_add_cancel hpos)
      (total_count _ _ _)
  cases hmove with
  | pool _ _ => exact ⟨h.keys, h.busy, h.total⟩
  | begins hi _ hleft _ _ => exact h.put hi rfl rfl (fun _ => hleft) (n := 0) rfl rfl
  | got hi hstage _ | discards hi hstage _ _ | releases hi hstage _ _ _ =>
    have hpos := h.busy _ _ hi (by rw [hstage]; nofun)
    exact h.put hi rfl rfl (fun _ => hpos) (n := 0) rfl rfl
  | refused hi hstage _ | released hi hstage _ | releaseFailed hi hstage _ | discarded hi hstage _ =>
    exact hfinish hi (by rw [hstage]; nofun) _

end Clients

section Even

/-- A client to which nothing is handed out holds what it held. -/
theorem Called.held_eq (h : t.Called) (hpool : t.pool.step f = some pool) (hspares : t.Spares f)
    (hi : t.clients.lookup i = some c)
    (hother : ∀ call conn, t.pool.hands? f = some (call, conn) → c.stage ≠ .acquiring call) :
    c.stage.held pool = c.stage.held t.pool := by
  cases hstage : c.stage with
  | acquiring call =>
    have hgets := ((h.attended i c call hi hstage).step hpool (hspares i c call hi hstage)).2
    cases hhands : t.pool.hands? f with
    | none => simpa [Stage.held, hhands] using hgets
    | some x =>
      have hne : x.1 ≠ call := fun heq => hother x.1 x.2 hhands (heq ▸ hstage)
      simpa [Stage.held, hhands, hne] using hgets
  | _ => rfl

/-- What clients hold once something happened to the pool is what they held, and what was handed out. -/
theorem holdings_step (h : t.Called) (hkeys : (t.clients.map Prod.fst).Nodup)
    (hpool : t.pool.step f = some pool) (hspares : t.Spares f) :
    (holdings { t with pool }).Perm ((t.pool.hands? f).toList.map (·.2) ++ t.holdings) := by
  cases hhands : t.pool.hands? f with
  | none =>
    have hsame : holdings { t with pool } = t.holdings := by
      refine List.flatMap_congr ?_
      intro x hx
      refine h.held_eq hpool hspares (lookup_of_mem hkeys hx) ?_
      intro call conn hcall
      cases hhands.symm.trans hcall
    rw [hsame]
    exact .refl _
  | some x =>
    -- one client waits for what is handed out, and no other one for the same
    obtain ⟨call, conn⟩ := x
    obtain ⟨w, stage, hid⟩ := Pool.acquire_of_hands hpool hhands
    obtain ⟨i, c, hi, hstage⟩ := h.waiting call w stage hid
    have hgets := ((h.attended i c call hi hstage).step hpool (hspares i c call hi hstage)).2
    have hmine : c.stage.held pool = conn :: c.stage.held t.pool := by
      rw [hstage]
      simpa [Stage.held, hhands] using hgets
    have hrest : (t.clients.filter (·.1 != i)).flatMap (·.2.stage.held pool) =
        (t.clients.filter (·.1 != i)).flatMap (·.2.stage.held t.pool) := by
      refine List.flatMap_congr ?_
      intro x hx
      obtain ⟨hx, hne⟩ := List.mem_filter.1 hx
      have hj := lookup_of_mem hkeys hx
      refine h.held_eq hpool hspares hj ?_
      intro call' conn' hcall hstage'
      refine bne_iff_ne.1 hne ?_
      cases hhands.symm.trans hcall
      exact h.own x.1 i x.2 c call hj hi hstage' hstage
    have hperm := perm_cons_filter_of_lookup hkeys hi
    have hafter := hperm.flatMap_right (·.2.stage.held pool)
    have hbefore := hperm.flatMap_right (·.2.stage.held t.pool)
    rw [List.flatMap_cons, hmine, hrest] at hafter
    exact hafter.trans (hbefore.symm.cons conn)

/-- A client that goes on gives `back` what it holds no longer. -/
theorem holdings_replaced (hkeys : (t.clients.map Prod.fst).Nodup) (hi : t.clients.lookup i = some c)
    {back : List ConnId} (hheld : c.stage.held t.pool = d.stage.held t.pool ++ back) :
    t.holdings.Perm (back ++ (put i d t.clients).flatMap (·.2.stage.held t.pool)) := by
  have hput := holdings_put hkeys hi d
  rw [hheld] at hput
  refine (List.perm_append_left_iff (d.stage.held t.pool)).1 (hput.symm.trans ?_)
  exact List.perm_append_comm.trans (.of_eq (List.append_assoc _ _ _))

/-- Something happens to the pool, and a client gives back what the event returns. -/
theorem Even.onPool (h : t.Even given) (hcalled : t.Called) (hkeys : (t.clients.map Prod.fst).Nodup)
    (hdistinct : t.pool.Distinct) (hpool : t.pool.step f = some u.pool) (hspares : t.Spares f)
    (hreturned : f.returned ⊆ t.holdings)
    (hback : (holdings { t with pool := u.pool }).Perm (f.returned ++ u.holdings)) :
    u.Even (given ++ f.returned) := by
  have hhanded := Pool.handedOut_step hpool
  have hheld := holdings_step hcalled hkeys hpool hspares
  have hlength := h.handed.length_eq
  have hslots := h.slots
  rw [List.length_append] at hlength
  have hone : f.returned.length ≤ t.holdings.length := by
    rcases Nat.eq_zero_or_pos f.returned.length with hnone | hsome
    · omega
    · obtain ⟨conn, hconn⟩ := List.exists_mem_of_length_pos hsome
      exact Nat.le_trans f.length_returned (List.length_pos_of_mem (hreturned hconn))
  -- what frees a slot is a connection that a client holds, or an acquire in flight
  have hfrees (hfree : t.pool.Frees f) : 0 < t.pool.checkedOut := by
    have hsource := hfree.source hdistinct hpool
    unfold Pool.owed at hslots
    omega
  refine ⟨?_, ?_⟩
  · rw [hhanded, List.append_assoc]
    refine (h.handed.append_left _).trans ?_
    refine List.perm_append_comm_assoc _ given t.holdings |>.trans (.append_left given ?_)
    exact hheld.symm.trans hback
  · have hstep := Pool.slots_step hdistinct hfrees hpool
    rw [List.length_append]
    omega

/-- The pool is as it was, and so is what clients hold. -/
theorem Even.quiet (h : t.Even given) (hpool : u.pool = t.pool)
    (hheld : t.holdings.Perm ([] ++ u.holdings)) : u.Even (given ++ []) := by
  refine ⟨?_, ?_⟩
  · rw [hpool, List.append_nil]
    exact h.handed.trans (hheld.append_left given)
  · rw [hpool, List.append_nil]
    exact h.slots

/-- A client ends its exchange and gives away its connection. -/
theorem Even.gives (h : t.Even given) (hcalled : t.Called) (hkeys : (t.clients.map Prod.fst).Nodup)
    (hdistinct : t.pool.Distinct) {conn : ConnId} (hi : t.clients.lookup i = some c)
    (hstage : c.stage = .exchanging conn) (hpool : t.pool.step f = some pool) (hspares : t.Spares f)
    (hreturned : f.returned = [conn]) (hd : d.stage.held pool = []) :
    Even { t with pool, clients := put i d t.clients } (given ++ f.returned) := by
  refine h.onPool hcalled hkeys hdistinct hpool hspares ?_ ?_
  · rw [hreturned]
    intro back hback
    obtain rfl := List.mem_singleton.1 hback
    refine List.mem_flatMap.2 ⟨_, mem_of_lookup hi, ?_⟩
    rw [hstage]
    exact List.mem_singleton_self back
  · refine holdings_replaced (t := { t with pool }) hkeys hi ?_
    rw [hd, hreturned, hstage]
    rfl

theorem returned_eq_nil (hnone : f.mentions = []) : f.returned = [] := by
  cases f with
  | release _ _ | discard _ _ => cases hnone
  | _ => rfl

theorem performed_discards {conn : ConnId} (hi : t.clients.lookup i = some c)
    (hstage : c.stage = .exchanging conn) (call : CallId) (cause : IoError) :
    t.performed (.exchanged i call (.error cause)) = [.discard call conn] := by
  simp [performed, hi, hstage]

theorem performed_releases {conn : ConnId} (hi : t.clients.lookup i = some c)
    (hstage : c.stage = .exchanging conn) (call : CallId) (bytes : Bytes) :
    t.performed (.exchanged i call (.ok bytes)) = [.release call conn] := by
  simp [performed, hi, hstage]

/-- Every event gives back what leaves the clients, and keeps the rest with them. -/
theorem Even.step (h : t.Even given) (hcalled : t.Called) (hkeys : (t.clients.map Prod.fst).Nodup)
    (hdistinct : t.pool.Distinct) (hmove : Move t e u) :
    u.Even (given ++ (t.performed e).flatMap (·.returned)) := by
  cases hmove with
  | @pool f _ hnone hpool =>
    have hreturned := returned_eq_nil hnone
    have heven := h.onPool (u := { t with pool := _ }) hcalled hkeys hdistinct hpool
      (spares_of_mentions_nil hnone) (by simp [hreturned]) (by simp [hreturned])
    simpa [performed] using heven
  | @begins i c call pool hi hready hleft hfresh hpool =>
    have hdelivered := (Pool.attended_acquire hfresh hpool).2
    refine h.onPool (f := .acquire call t.plan.patience) hcalled hkeys hdistinct hpool
      (hcalled.spares hfresh rfl) (List.nil_subset _) ?_
    refine holdings_replaced (t := { t with pool }) hkeys hi ?_
    rw [hready]
    exact congrArg (· ++ []) hdelivered.symm
  | got hi hstage hanswer | refused hi hstage hanswer =>
    refine h.quiet rfl (holdings_replaced hkeys hi ?_)
    rw [hstage]
    simp [Stage.held, Pool.delivered, hanswer]
  | discards hi hstage hfresh hpool =>
    rw [performed_discards hi hstage]
    exact h.gives hcalled hkeys hdistinct hi hstage hpool (hcalled.spares hfresh rfl) rfl rfl
  | releases hi hstage hfresh _ hpool =>
    rw [performed_releases hi hstage]
    exact h.gives hcalled hkeys hdistinct hi hstage hpool (hcalled.spares hfresh rfl) rfl rfl
  | released hi hstage _ | releaseFailed hi hstage _ | discarded hi hstage _ =>
    refine h.quiet rfl (holdings_replaced hkeys hi ?_)
    rw [hstage]
    rfl

end Even

/-- What holds of a load test of `plan` all along, in which clients gave `given` back. -/
structure Sound (r : PoolRequest) (plan : LoadPlan) (t : LoadTest) (given : List ConnId) : Prop where
  plan : t.plan = plan
  pool : Pool.Reachable r t.pool
  census : t.Census
  called : t.Called
  even : t.Even given

section Sound

variable {plan : LoadPlan}

/-- The run in which nothing has happened yet. -/
theorem run_start (plan : LoadPlan) (_ : Pool.Opened r pool) :
    Run LoadTest.step (start plan pool) [] (start plan pool) :=
  .nil _

/-- The pool is where what it was made to do leads. -/
theorem run_performed (hmove : Move t e u) : Run Pool.step t.pool (t.performed e) u.pool := by
  cases hmove with
  | pool _ hpool => exact .cons hpool (.nil _)
  | begins _ _ _ _ hpool => exact .cons hpool (.nil _)
  | discards hi hstage _ hpool =>
    rw [performed_discards hi hstage]
    exact .cons hpool (.nil _)
  | releases hi hstage _ _ hpool =>
    rw [performed_releases hi hstage]
    exact .cons hpool (.nil _)
  | _ => exact .nil _

theorem plan_step (hmove : Move t e u) : u.plan = t.plan := by
  cases hmove <;> rfl

theorem Sound.step (h : t.Sound r plan given) (hstep : LoadTest.step t e = some u) :
    u.Sound r plan (given ++ (t.performed e).flatMap (·.returned)) := by
  have hmove := Move.of_step hstep
  have hdistinct := Pool.Distinct.kept.reachable h.pool fun _ _ => Pool.Fresh.distinct
  exact ⟨(plan_step hmove).trans h.plan, h.pool.run (run_performed hmove), h.census.step hmove,
    h.called.step hmove, h.even.step h.called h.census.keys hdistinct hmove⟩

/-- At first everybody is ready and has everything left. -/
theorem client_start (hi : (start plan pool).clients.lookup i = some c) :
    c = { left := plan.requests } := by
  obtain ⟨n, -, hn⟩ := List.mem_map.1 (mem_of_lookup hi)
  exact (congrArg Prod.snd hn).symm

theorem census_start (plan : LoadPlan) (pool : Pool) : (start plan pool).Census := by
  refine ⟨?_, ?_, ?_⟩
  · simpa [start, Function.comp_def] using List.nodup_range (n := plan.clients)
  · intro i c hi hstage
    exact absurd (congrArg Client.stage (client_start hi)) hstage
  · simp [start, due, Tally.total, Function.comp_def]

theorem sound_start (hopen : Pool.Opened r pool) : (start plan pool).Sound r plan [] := by
  obtain ⟨entries, hfresh⟩ := hopen.fresh
  have hnone (call : CallId) : pool.call? call = none := by simp [Pool.call?, hfresh.calls]
  have hnothing : pool.handedOut = [] := by
    simp [Pool.handedOut, hfresh.history, Pool.Note.handed?]
  have hready {i : ClientId} {c : Client} (hi : (start plan pool).clients.lookup i = some c) :
      c.stage = .ready := congrArg Client.stage (client_start hi)
  refine ⟨rfl, hopen.reachable hopen.start, census_start plan pool, ?_, ?_⟩
  · refine ⟨?_, ?_, ?_⟩
    · intro i c call hi hstage
      cases (hready hi).symm.trans hstage
    · intro i j c d call hi hj hstage
      cases (hready hi).symm.trans hstage
    · intro call w stage hid
      cases (hnone call).symm.trans hid
  · have hheld : (start plan pool).holdings = [] := by
      simp [holdings, start, Stage.held]
    refine ⟨?_, ?_⟩
    · rw [hheld]
      exact .of_eq hnothing
    · simp [start, Pool.owed, hnothing, Pool.reservations, hfresh.calls, hfresh.checkedOut]

/-- A load test is sound, with what its clients gave back on the way. -/
theorem sound_run {es : List Event} (hopen : Pool.Opened r pool)
    (hrun : Run LoadTest.step (start plan pool) es t) :
    t.Sound r plan ((along LoadTest.step performed (start plan pool) es).flatMap (·.returned)) := by
  -- from the last event: what is given back grows at the end
  induction es using List.reverseRecOn generalizing t with
  | nil =>
    cases hrun
    exact sound_start hopen
  | append_singleton es e ih =>
    obtain ⟨u, hu, hstep⟩ := hrun.split_last
    rw [hu.along_concat, List.flatMap_append]
    exact (ih hu).step hstep

/-- A load test that is over holds nothing, and has no acquire in flight. -/
theorem Sound.ended (h : t.Sound r plan given) (hover : t.isOver = true) :
    t.due = 0 ∧ t.holdings = [] ∧ t.pool.reservations = 0 := by
  have hleft (i : ClientId) (c : Client) (hmem : (i, c) ∈ t.clients) : c.left = 0 :=
    beq_iff_eq.1 (List.all_eq_true.1 hover (i, c) hmem)
  have hready (i : ClientId) (c : Client) (hmem : (i, c) ∈ t.clients) : c.stage = .ready := by
    by_contra hbusy
    have hpos := h.census.busy i c (lookup_of_mem h.census.keys hmem) hbusy
    exact Nat.ne_of_gt hpos (hleft i c hmem)
  refine ⟨?_, ?_, ?_⟩
  · refine List.sum_eq_zero_iff_forall_eq_nat.2 ?_
    intro n hn
    obtain ⟨⟨i, c⟩, hmem, rfl⟩ := List.mem_map.1 hn
    exact hleft i c hmem
  · refine List.flatMap_eq_nil_iff.2 ?_
    intro x hx
    rw [hready x.1 x.2 hx]
    rfl
  · refine Pool.tally_eq_zero_iff.2 ?_
    intro x hx
    have hdistinct := Pool.Distinct.kept.reachable h.pool fun _ _ => Pool.Fresh.distinct
    obtain ⟨call, c⟩ := x
    cases c with
    | acquire w stage =>
      obtain ⟨i, c, hi, hwaits⟩ := h.called.waiting call w stage (lookup_of_mem hdistinct hx)
      cases (hready i c (mem_of_lookup hi)).symm.trans hwaits
    | _ => rfl

end Sound

/-- Let a load test be over, whatever the plan, the limits of the pool, what the server did and how the
clients took turns. Then its summary counts each request under one of four results, no slot is taken, no more
is idle than may be, and each connection that the pool handed out was released or discarded once. -/
theorem summary_adds_up {plan : LoadPlan} {es : List Event} (hopen : Pool.Opened r pool)
    (hrun : Run LoadTest.step (start plan pool) es t) (hover : t.isOver = true) :
    t.summary.succeeded + t.summary.failed + t.summary.exhausted + t.summary.mismatched =
        plan.clients * plan.requests ∧
      t.summary.clients = plan.clients ∧ t.summary.requests = plan.requests ∧
      t.summary.poolOpen = 0 ∧ t.summary.poolIdle ≤ r.limits.maxIdle ∧
      t.pool.handedOut.Perm ((along LoadTest.step performed (start plan pool) es).flatMap (·.returned)) := by
  have hsound := sound_run hopen hrun
  obtain ⟨hdue, hheld, hfree⟩ := hsound.ended hover
  have hhanded := hsound.even.handed
  rw [hheld, List.append_nil] at hhanded
  have hslots := hsound.even.slots
  have htotal := hsound.census.total
  rw [Pool.owed, hhanded.length_eq, hfree] at hslots
  rw [hdue, hsound.plan, Tally.total] at htotal
  refine ⟨?_, congrArg LoadPlan.clients hsound.plan, congrArg LoadPlan.requests hsound.plan, ?_, ?_,
    hhanded⟩
  · simp only [summary]
    omega
  · simp only [summary]
    omega
  · exact hsound.pool.capacity.idle

/-- Two clients with one request each: one gets back what it sent, and the exchange of the other fails. -/
theorem summary_of_two_clients : ∃ pool t, Pool.Opened ⟨1, 2, 1, .zero⟩ pool ∧
    Run LoadTest.step (start ⟨"mem", 2, 1, [7], none⟩ pool) [.begin 0 1, .begin 1 2,
      .pool (.pinged 1 none), .acquired 0, .pool (.dialed 2 (.ok 1)), .acquired 1,
      .exchanged 1 3 (.error (.standard .unexpectedEof "early eof")), .exchanged 0 4 (.ok [7]),
      .gaveAway 0, .pool (.closed 3 none), .gaveAway 1] t ∧ t.isOver = true ∧
    t.summary.succeeded = 1 ∧ t.summary.failed = 1 ∧
    t.summary.succeeded + t.summary.failed + t.summary.exhausted + t.summary.mismatched = 2 * 1 ∧
    t.summary.poolOpen = 0 ∧ t.summary.poolIdle ≤ 1 ∧ t.pool.handedOut.Perm [1, 0] := by
  have hopen := Pool.Opened.of_foldlM (r := ⟨1, 2, 1, .zero⟩) [.dialed (.ok 0)] rfl
  have hrun := (run_start ⟨"mem", 2, 1, [7], none⟩ hopen).further [.begin 0 1, .begin 1 2,
    .pool (.pinged 1 none), .acquired 0, .pool (.dialed 2 (.ok 1)), .acquired 1,
    .exchanged 1 3 (.error (.standard .unexpectedEof "early eof")), .exchanged 0 4 (.ok [7]),
    .gaveAway 0, .pool (.closed 3 none), .gaveAway 1] rfl
  obtain ⟨hsum, -, -, hout, hidle, hback⟩ := summary_adds_up hopen hrun rfl
  exact ⟨_, _, hopen, hrun, rfl, rfl, rfl, hsum, hout, hidle, hback⟩

end PooledTcp.LoadTest
