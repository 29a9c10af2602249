import PooledTcp.Proofs.LoadTest.Moves
import PooledTcp.Proofs.Pool.Handing

/-!
# The callers of a load test

The clients of a load test are the only callers of its pool. An acquire that is in flight is that of a
client which waits for it, and no two clients wait for the same one (`Called`). What a client waits for is in
flight and not answered, or over (`Attended`); so what an event hands out goes to one client, and stays there
for it until it looks (`Attended.step`).
-/

namespace PooledTcp

namespace Pool

/-- The acquire that a client waits for is in flight and not answered yet, or over. -/
inductive Attended (p : Pool) (call : CallId) : Prop where
  | waits {w : Option Patience} {stage : AcquireStage} : p.call? call = some (.acquire w stage) →
    p.answer? call = none → Attended p call
  | ended {result : Except PoolError ConnId} : p.Ended call (.acquired result) → Attended p call

/-- The connection that the acquire was answered with. -/
def delivered (p : Pool) (call : CallId) : List ConnId :=
  match p.answer? call with
  | some (.acquired (.ok conn)) => [conn]
  | _ => []

variable {p q : Pool} {e : Event} {call : CallId}

theorem Attended.not_fresh (h : p.Attended call) : p.isFresh call = false := by
  cases h with
  | waits hid _ => simp [isFresh, hid]
  | ended hend => simp [isFresh, hend.2]

/-- A client that begins waits, or is answered at once. -/
theorem attended_acquire {patience : Option Duration} (hfresh : p.isFresh call = true)
    (hstep : p.step (.acquire call patience) = some q) : q.Attended call ∧ q.delivered call = [] := by
  have hlook (s : Pool) (w : Option Patience) (hs : s.answer? call = none) :
      (s.look call w).Attended call ∧ (s.look call w).delivered call = [] := by
    rcases turn_of_look s call w with ⟨stage, hid, hanswer⟩ | ⟨err, hend⟩
    · exact ⟨.waits hid (hanswer.trans hs), by simp [delivered, hanswer, hs]⟩
    · exact ⟨.ended hend, by simp [delivered, hend.2]⟩
  cases Move.of_step hstep with
  | acquire _ => exact hlook p none (of_isFresh hfresh).2
  | acquirePatiently _ => exact hlook (p.listen _).1 _ (of_isFresh hfresh).2

/-- An acquire that a client waits for is answered with what the event hands to it, if it does. -/
theorem Attended.step (h : p.Attended call) (hstep : p.step e = some q) (hnot : call ∉ e.mentions) :
    q.Attended call ∧
      q.delivered call = ((p.hands? e).toList.filter (·.1 = call)).map (·.2) ++ p.delivered call := by
  have hnone (hother : ∀ conn, p.hands? e ≠ some (call, conn)) :
      ((p.hands? e).toList.filter (·.1 = call)).map (·.2) = [] := by
    cases hhands : p.hands? e with
    | none => rfl
    | some x =>
      have hne : x.1 ≠ call := by
        rintro rfl
        exact hother x.2 hhands
      simp [hne]
  cases h with
  | waits hid hanswer =>
    have hbefore : p.delivered call = [] := by simp [delivered, hanswer]
    cases turn_of_acquire hstep hid hnot with
    | waits hid' hsame hother =>
      rw [hnone hother]
      exact ⟨.waits hid' (hsame.trans hanswer), by simp [delivered, hsame]⟩
    | fails hend hother =>
      rw [hnone hother, hbefore]
      exact ⟨.ended hend, by simp [delivered, hend.2]⟩
    | gets hend hhands =>
      rw [hbefore, hhands]
      exact ⟨.ended hend, by simp [delivered, hend.2]⟩
  | ended hend =>
    have hother (conn : ConnId) : p.hands? e ≠ some (call, conn) := fun hhands =>
      hnot (mem_mentions hstep (mem_ops_of_hands hhands) hend.1)
    have hend' := hend.step hstep hnot
    rw [hnone hother]
    exact ⟨.ended hend', by simp [delivered, hend'.2, hend.2]⟩

/-- What is handed out goes to an acquire in flight. -/
theorem acquire_of_hands {conn : ConnId} (hstep : p.step e = some q)
    (hhands : p.hands? e = some (call, conn)) : ∃ w stage, p.call? call = some (.acquire w stage) := by
  cases e with
  | dialed i result =>
    cases result with
    | ok c =>
      cases hhands
      cases Move.of_step hstep with
      | dialed hid => exact ⟨_, _, hid⟩
    | error cause => cases hhands
  | pinged i failure =>
    cases failure with
    | none =>
      simp only [hands?] at hhands
      split at hhands
      · rename_i hid
        cases hhands
        exact ⟨_, _, hid⟩
      · cases hhands
    | some cause => cases hhands
  | _ => cases hhands

/-- An acquire that is in flight was before, unless the event begins it. -/
theorem acquire_of_step {w : Option Patience} {stage : AcquireStage} (hstep : p.step e = some q)
    (hid : q.call? call = some (.acquire w stage)) :
    (∃ w stage, p.call? call = some (.acquire w stage)) ∨ e.Begins call .acquire := by
  cases hbefore : p.call? call with
  | none => exact .inr (begins_step hstep hbefore hid)
  | some c =>
    have hkind := (serves_step hstep hbefore).kind_eq hid
    cases c with
    | acquire w stage => exact .inl ⟨w, stage, rfl⟩
    | _ => cases hkind

end Pool

namespace LoadTest

/-- A client waits for its own call, and an acquire in flight has its client waiting. -/
structure Called (t : LoadTest) : Prop where
  attended : ∀ i c call, t.clients.lookup i = some c → c.stage = .acquiring call →
    t.pool.Attended call
  own : ∀ i j c d call, t.clients.lookup i = some c → t.clients.lookup j = some d →
    c.stage = .acquiring call → d.stage = .acquiring call → i = j
  waiting : ∀ call w stage, t.pool.call? call = some (.acquire w stage) →
    ∃ i c, t.clients.lookup i = some c ∧ c.stage = .acquiring call

/-- The event neither begins nor gives up a call for which a client waits. -/
def Spares (t : LoadTest) (f : Pool.Event) : Prop :=
  ∀ i c call, t.clients.lookup i = some c → c.stage = .acquiring call → call ∉ f.mentions

variable {t u : LoadTest} {i : ClientId} {c d : Client} {e : Event} {f : Pool.Event} {pool : Pool}
  {call : CallId}

theorem spares_of_mentions_nil (hnone : f.mentions = []) : t.Spares f := by
  intro i c call _ _
  rw [hnone]
  exact List.not_mem_nil

/-- A fresh number is that of no call for which a client waits. -/
theorem Called.spares (h : t.Called) (hfresh : t.pool.isFresh call = true) (hf : f.mentions = [call]) :
    t.Spares f := by
  intro i c other hi hstage hmem
  rw [hf] at hmem
  obtain rfl := List.mem_singleton.1 hmem
  rw [(h.attended i c other hi hstage).not_fresh] at hfresh
  cases hfresh

/-- What happens to the pool and begins no acquire leaves the clients waiting for their own. -/
theorem Called.onPool (h : t.Called) (hpool : t.pool.step f = some pool) (hspares : t.Spares f)
    (hnew : ∀ call, ¬f.Begins call .acquire) : Called { t with pool } := by
  refine ⟨?_, h.own, ?_⟩
  · intro i c call hi hstage
    exact ((h.attended i c call hi hstage).step hpool (hspares i c call hi hstage)).1
  · intro call w stage hid
    rcases Pool.acquire_of_step hpool hid with ⟨w', stage', hbefore⟩ | hbegins
    · exact h.waiting call w' stage' hbefore
    · exact absurd hbegins (hnew call)

/-- A client that begins waits for an acquire of its own. -/
theorem Called.begins (h : t.Called) (hi : t.clients.lookup i = some c) (hready : c.stage = .ready)
    (hfresh : t.pool.isFresh call = true) {patience : Option Duration}
    (hpool : t.pool.step (.acquire call patience) = some pool) (hpool' : u.pool = pool)
    (hclients : u.clients = put i d t.clients) (hstage : d.stage = .acquiring call) : u.Called := by
  subst hpool'
  have hspares : t.Spares (.acquire call patience) := h.spares hfresh rfl
  have hother {j : ClientId} {c' : Client} (hj : t.clients.lookup j = some c') :
      c'.stage ≠ .acquiring call := fun hwaits => hspares j c' call hj hwaits List.mem_cons_self
  refine ⟨?_, ?_, ?_⟩
  · intro j c' call' hj hwaits
    rw [hclients] at hj
    rcases lookup_put_eq_some.1 hj with ⟨-, rfl⟩ | ⟨-, hj⟩
    · cases hstage.symm.trans hwaits
      exact (Pool.attended_acquire hfresh hpool).1
    · exact ((h.attended j c' call' hj hwaits).step hpool (hspares j c' call' hj hwaits)).1
  · intro j k c' d' call' hj hk hwaits hwaits'
    rw [hclients] at hj hk
    rcases lookup_put_eq_some.1 hj with ⟨hji, rfl⟩ | ⟨-, hj'⟩
    · rcases lookup_put_eq_some.1 hk with ⟨hki, -⟩ | ⟨-, hk'⟩
      · exact hji.trans hki.symm
      · cases hstage.symm.trans hwaits
        exact absurd hwaits' (hother hk')
    · rcases lookup_put_eq_some.1 hk with ⟨-, rfl⟩ | ⟨-, hk'⟩
      · cases hstage.symm.trans hwaits'
        exact absurd hwaits (hother hj')
      · exact h.own j k c' d' call' hj' hk' hwaits hwaits'
  · intro call' w stage hid
    rw [hclients]
    rcases Pool.acquire_of_step hpool hid with ⟨w', stage', hbefore⟩ | ⟨hcall, -⟩
    · obtain ⟨j, c', hj, hwaits⟩ := h.waiting call' w' stage' hbefore
      refine ⟨j, c', lookup_put_eq_some.2 (.inr ⟨?_, hj⟩), hwaits⟩
      rintro rfl
      cases hi.symm.trans hj
      cases hready.symm.trans hwaits
    · subst hcall
      exact ⟨i, d, lookup_put_self i d t.clients, hstage⟩

/-- A client that waits for no acquire, or whose acquire is over, goes on to another point. -/
theorem Called.leave (h : t.Called) (hi : t.clients.lookup i = some c)
    (hover : ∀ call, c.stage = .acquiring call → t.pool.call? call = none) (hpool : u.pool = t.pool)
    (hclients : u.clients = put i d t.clients) (hstage : ∀ call, d.stage ≠ .acquiring call) :
    u.Called := by
  have hsame {j : ClientId} {c' : Client} {call' : CallId} (hj : u.clients.lookup j = some c')
      (hwaits : c'.stage = .acquiring call') : t.clients.lookup j = some c' := by
    rw [hclients] at hj
    rcases lookup_put_eq_some.1 hj with ⟨-, rfl⟩ | ⟨-, hj⟩
    · exact absurd hwaits (hstage call')
    · exact hj
  refine ⟨?_, ?_, ?_⟩
  · intro j c' call' hj hwaits
    rw [hpool]
    exact h.attended j c' call' (hsame hj hwaits) hwaits
  · intro j k c' d' call' hj hk hwaits hwaits'
    exact h.own j k c' d' call' (hsame hj hwaits) (hsame hk hwaits') hwaits hwaits'
  · intro call' w stage hid
    rw [hpool] at hid
    obtain ⟨j, c', hj, hwaits⟩ := h.waiting call' w stage hid
    rw [hclients]
    refine ⟨j, c', lookup_put_eq_some.2 (.inr ⟨?_, hj⟩), hwaits⟩
    rintro rfl
    cases hi.symm.trans hj
    cases (hover call' hwaits).symm.trans hid

/-- An acquire that a client hears the answer of is over. -/
theorem Called.ended (h : t.Called) {result : Except PoolError ConnId}
    (hi : t.clients.lookup i = some c) (hstage : c.stage = .acquiring call)
    (hanswer : t.pool.answer? call = some (.acquired result)) :
    ∀ other, c.stage = .acquiring other → t.pool.call? other = none := by
  intro other hother
  cases hstage.symm.trans hother
  cases h.attended i c call hi hstage with
  | waits _ hnone => cases hnone.symm.trans hanswer
  | ended hend => exact hend.1

/-- Every event keeps clients and acquires in flight together. -/
theorem Called.step (h : t.Called) (hmove : Move t e u) : u.Called := by
  have hgives {i : ClientId} {c d : Client} {conn : ConnId} {pool : Pool} (hpool : Called { t with pool })
      (hi : t.clients.lookup i = some c) (hstage : c.stage = .exchanging conn)
      (hd : ∀ call, d.stage ≠ .acquiring call) : Called { t with pool, clients := put i d t.clients } :=
    hpool.leave hi (fun call hcall => by cases hstage.symm.trans hcall) rfl rfl hd
  cases hmove with
  | @pool f _ hnone hpool =>
    refine h.onPool hpool (spares_of_mentions_nil hnone) ?_
    intro call hbegins
    have hmem := f.begun_subset hbegins.mem_begun
    rw [hnone] at hmem
    cases hmem
  | begins hi hready _ hfresh hpool => exact h.begins hi hready hfresh hpool rfl rfl rfl
  | got hi hstage hanswer | refused hi hstage hanswer =>
    exact h.leave hi (h.ended hi hstage hanswer) rfl rfl nofun
  | discards hi hstage hfresh hpool =>
    have hafter := h.onPool hpool (h.spares hfresh rfl) (by simp [Pool.Event.Begins])
    exact hgives hafter hi hstage nofun
  | releases hi hstage hfresh _ hpool =>
    have hafter := h.onPool hpool (h.spares hfresh rfl) (by simp [Pool.Event.Begins])
    exact hgives hafter hi hstage nofun
  | released hi hstage _ | releaseFailed hi hstage _ | discarded hi hstage _ =>
    exact h.leave hi (fun call hcall => by cases hstage.symm.trans hcall) rfl rfl nofun

end LoadTest
end PooledTcp
