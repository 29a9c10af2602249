import PooledTcp.Proofs.Counting
import PooledTcp.Proofs.Proxy.Sessions

/-!
# What a proxy takes from its pool and gives back

A pool cannot tell for which connection an acquire is made. `Ledger` is a proxy together with that
knowledge: which calls its handlers made and for which connection, what those were handed and what the
handlers discarded, and what others got from the same pool and gave back. The others give back only what
they hold, and use no number of a handler's call.

A handler waits for the call that it made, and for no other one (`Called`). So what its call is handed and
what it discards follow the life of its connection (`Lives`).
-/

namespace PooledTcp

/-- A proxy, and what passed between its pool and whoever uses it. -/
structure Ledger where
  proxy : ProxyServer
  /-- The acquires of the handlers, and for which connection each was made. -/
  calls : List (CallId × GuardId) := []
  /-- What the acquires of the handlers were handed, once for each time. -/
  taken : List (GuardId × ConnId) := []
  /-- What the handlers discarded, once for each time. -/
  given : List (GuardId × ConnId) := []
  /-- What others were handed. -/
  got : List ConnId := []
  /-- What others gave back. -/
  returned : List ConnId := []

namespace Ledger

/-- What the acquires for the connection were handed. -/
def takenFor (s : Ledger) (conn : GuardId) : List ConnId := valuesOf conn s.taken

/-- What the handler of the connection discarded. -/
def givenFor (s : Ledger) (conn : GuardId) : List ConnId := valuesOf conn s.given

/-- The connections of the pool that others hold. -/
def held (s : Ledger) : List ConnId := s.got.diff s.returned

/-- What others give back they hold, and the numbers that they use are not those of handlers' calls. -/
def Allows (s : Ledger) : ProxyServer.Event → Prop
  | .pool e => (∀ call ∈ e.mentions, s.calls.lookup call = none) ∧
    ∀ backend ∈ e.returned, s.returned.count backend < s.got.count backend
  | _ => True

instance (s : Ledger) : (e : ProxyServer.Event) → Decidable (s.Allows e)
  | .pool _ => inferInstanceAs (Decidable (_ ∧ _))
  | .server _ | .begin _ _ | .acquired _ _ | .copied _ _ | .discarded _ _ | .forced _ _ _ _ =>
    isTrue trivial

/-- A call is handed a connection. -/
def hand (s : Ledger) : Option (CallId × ConnId) → Ledger
  | none => s
  | some (call, backend) =>
    match s.calls.lookup call with
    | some conn => { s with taken := (conn, backend) :: s.taken }
    | none => { s with got := backend :: s.got }

/-- What is known after an event. -/
def record (s : Ledger) : ProxyServer.Event → Ledger
  | .pool e => { s.hand (s.proxy.pool.hands? e) with returned := e.returned ++ s.returned }
  | .begin conn call => { s with calls := (call, conn) :: s.calls }
  | .copied conn _ =>
    match s.proxy.sessions.lookup conn with
    | some (.copying backend) => { s with given := (conn, backend) :: s.given }
    | _ => s
  | _ => s

/-- Perform an event, if the rules allow it and it can happen. -/
def step (s : Ledger) (e : ProxyServer.Event) : Option Ledger :=
  if s.Allows e then (s.proxy.step e).map fun proxy => { s.record e with proxy } else none

/-- Every connection has a life; those for which `dropped` holds may have lost what was taken for them. -/
def Lives (dropped : GuardId → Prop) (s : Ledger) : Prop :=
  ∀ conn, Life s.proxy.pool (s.proxy.server.table.Gone conn) (dropped conn)
    (s.proxy.sessions.lookup conn) (s.takenFor conn) (s.givenFor conn)

/-- A handler waits for the call that it made, and a call in flight has its handler waiting. -/
structure Called (s : Ledger) : Prop where
  own : ∀ conn call, s.proxy.sessions.lookup conn = some (.acquiring call) →
    s.calls.lookup call = some conn
  used : ∀ call conn, s.calls.lookup call = some conn → s.proxy.pool.isFresh call = false
  waiting : ∀ call conn, s.calls.lookup call = some conn → s.proxy.pool.call? call ≠ none →
    s.proxy.sessions.lookup conn = some (.acquiring call)

variable {dropped : GuardId → Prop} {s t : Ledger} {q : ProxyServer} {e : ProxyServer.Event}
  {conn : GuardId} {call : CallId} {backend : ConnId}

section Steps

theorem step_eq_some (h : s.step e = some t) : s.Allows e ∧
    ∃ q, ProxyServer.Move s.proxy e q ∧ { s.record e with proxy := q } = t := by
  simp only [step, Option.ite_none_right_eq_some, Option.map_eq_some_iff] at h
  obtain ⟨hallow, q, hproxy, ht⟩ := h
  exact ⟨hallow, q, .of_step hproxy, ht⟩

theorem record_copied (hsession : s.proxy.sessions.lookup conn = some (.copying backend))
    (call : CallId) :
    s.record (.copied conn call) = { s with given := (conn, backend) :: s.given } := by
  simp only [record, hsession]

@[simp] theorem calls_hand (s : Ledger) (x : Option (CallId × ConnId)) :
    (s.hand x).calls = s.calls := by
  rcases x with _ | ⟨call, backend⟩
  · rfl
  · simp only [hand]
    split
    · rfl
    · rfl

@[simp] theorem given_hand (s : Ledger) (x : Option (CallId × ConnId)) :
    (s.hand x).given = s.given := by
  rcases x with _ | ⟨call, backend⟩
  · rfl
  · simp only [hand]
    split
    · rfl
    · rfl

/-- A connection that is handed out is one more that handlers took or others got. -/
theorem length_hand (s : Ledger) (x : Option (CallId × ConnId)) :
    (s.hand x).got.length + (s.hand x).taken.length =
      x.toList.length + (s.got.length + s.taken.length) := by
  rcases x with _ | ⟨call, backend⟩
  · simp [hand]
  · simp only [hand]
    split
    · simp
      omega
    · simp
      omega

end Steps

section Called

variable {e : Pool.Event} {pool : Pool} {server : Server} {session : ProxySession}

/-- A handler's call has no fresh number. -/
theorem Called.ne_of_fresh {fresh : CallId} (h : s.Called) (hcall : s.calls.lookup call = some conn)
    (hfresh : s.proxy.pool.isFresh fresh = true) : call ≠ fresh := by
  rintro rfl
  rw [h.used _ _ hcall] at hfresh
  cases hfresh

/-- What happens to the pool starts no call of a handler. -/
theorem Called.onPool (h : s.Called) (hpool : s.proxy.pool.step e = some pool)
    (hnot : ∀ call conn, s.calls.lookup call = some conn → call ∈ e.mentions →
      pool.call? call = none) : Called { s with proxy := { s.proxy with pool } } := by
  refine ⟨h.own, fun call conn hcall => Pool.not_fresh_step hpool (h.used call conn hcall), ?_⟩
  intro call conn hcall hflight
  refine h.waiting call conn hcall fun hnone => hflight ?_
  by_cases hmem : call ∈ e.mentions
  · exact hnot call conn hcall hmem
  · exact Pool.call?_of_notMem_mentions hpool hmem hnone

/-- A handler that begins makes a call of its own. -/
theorem Called.begins (h : s.Called) (hnone : s.proxy.sessions.lookup conn = none)
    (hnew : s.calls.lookup call = none) (hused : s.proxy.pool.isFresh call = false) :
    Called { s with calls := (call, conn) :: s.calls
                    proxy := s.proxy.hold conn (.acquiring call) } := by
  have hlookup {other : CallId} (hne : other ≠ call) :
      List.lookup other ((call, conn) :: s.calls) = s.calls.lookup other := by
    rw [List.lookup_cons, beq_false_of_ne hne]
  refine ⟨?_, ?_, ?_⟩
  · intro c other hsession
    by_cases hc : c = conn
    · subst hc
      cases (ProxyServer.lookup_hold_self _ c _).symm.trans hsession
      exact List.lookup_cons_self
    · have hother := h.own c other ((ProxyServer.lookup_hold_of_ne hc _).symm.trans hsession)
      refine (hlookup ?_).trans hother
      rintro rfl
      cases hnew.symm.trans hother
  · intro other c hother
    by_cases hcall : other = call
    · exact hcall ▸ hused
    · exact h.used other c ((hlookup hcall).symm.trans hother)
  · intro other c hother hflight
    by_cases hcall : other = call
    · subst hcall
      cases List.lookup_cons_self.symm.trans hother
      exact ProxyServer.lookup_hold_self _ _ _
    · have hsession := h.waiting other c ((hlookup hcall).symm.trans hother) hflight
      refine (ProxyServer.lookup_hold_of_ne ?_ _).trans hsession
      rintro rfl
      cases hnone.symm.trans hsession

/-- A handler whose call is over moves to another point, or ends. -/
theorem Called.leave {proxy : ProxyServer} (h : s.Called) (hpool : proxy.pool = s.proxy.pool)
    (hothers : ∀ c ≠ conn, proxy.sessions.lookup c = s.proxy.sessions.lookup c)
    (hnot : ∀ call, proxy.sessions.lookup conn ≠ some (.acquiring call))
    (hover : ∀ call, s.proxy.sessions.lookup conn = some (.acquiring call) →
      s.proxy.pool.call? call = none) : Called { s with proxy } := by
  refine ⟨?_, ?_, ?_⟩
  · intro c call hsession
    by_cases hc : c = conn
    · subst hc
      exact absurd hsession (hnot call)
    · exact h.own c call ((hothers c hc).symm.trans hsession)
  · simp only [hpool]
    exact h.used
  · simp only [hpool]
    intro call c hcall hflight
    have hsession := h.waiting call c hcall hflight
    refine (hothers c ?_).trans hsession
    rintro rfl
    exact hflight (hover call hsession)

theorem Called.hold (h : s.Called) (hnot : ∀ call, session ≠ .acquiring call)
    (hover : ∀ call, s.proxy.sessions.lookup conn = some (.acquiring call) →
      s.proxy.pool.call? call = none) :
    Called { s with proxy := s.proxy.hold conn session } := by
  refine h.leave rfl (fun c hc => ProxyServer.lookup_hold_of_ne hc session) (fun call heq => ?_) hover
  rw [ProxyServer.lookup_hold_self] at heq
  exact hnot call (Option.some.inj heq)

theorem Called.without (h : s.Called)
    (hover : ∀ call, s.proxy.sessions.lookup conn = some (.acquiring call) →
      s.proxy.pool.call? call = none) :
    Called { s with proxy := s.proxy.without conn server } := by
  refine h.leave rfl (fun c hc => ProxyServer.lookup_without_of_ne hc server) (fun call heq => ?_)
    hover
  rw [ProxyServer.lookup_without_self] at heq
  cases heq

/-- The server, and what was taken and given, are nothing to the calls. -/
theorem Called.congr (h : s.Called) (hsessions : t.proxy.sessions = s.proxy.sessions)
    (hpool : t.proxy.pool = s.proxy.pool) (hcalls : t.calls = s.calls) : t.Called := by
  refine ⟨?_, ?_, ?_⟩
  · rw [hsessions, hcalls]
    exact h.own
  · rw [hpool, hcalls]
    exact h.used
  · rw [hsessions, hpool, hcalls]
    exact h.waiting

end Called

section Lives

variable {e : Pool.Event} {pool : Pool} {server : Server} {session : ProxySession}

/-- What happens to the pool and hands out nothing leaves the handlers at their points. -/
theorem Lives.quiet (h : s.Lives dropped) (hpool : s.proxy.pool.step e = some pool)
    (hnone : s.proxy.pool.hands? e = none)
    (hnot : ∀ conn call, s.proxy.sessions.lookup conn = some (.acquiring call) →
      call ∉ e.mentions) : Lives dropped { s with proxy := { s.proxy with pool } } := by
  intro conn
  refine (h conn).step hpool fun call hsession => ⟨hnot conn call hsession, fun backend hhands => ?_⟩
  cases hnone.symm.trans hhands

/-- What is handed out for a handler is what it called for. -/
theorem Lives.hand (h : s.Lives dropped) (hcalled : s.Called)
    (hpool : s.proxy.pool.step e = some pool)
    (hnot : ∀ call conn, s.calls.lookup call = some conn → call ∉ e.mentions)
    (returned : List ConnId) :
    Lives dropped { s.hand (s.proxy.pool.hands? e) with
      returned, proxy := { s.proxy with pool } } := by
  have hsessions (conn : GuardId) (call : CallId)
      (hsession : s.proxy.sessions.lookup conn = some (.acquiring call)) : call ∉ e.mentions :=
    hnot call conn (hcalled.own conn call hsession)
  intro conn
  cases hhands : s.proxy.pool.hands? e with
  | none => exact h.quiet hpool hhands hsessions conn
  | some x =>
    obtain ⟨call, backend⟩ := x
    have hother (hne : ∀ other, s.proxy.sessions.lookup conn = some (.acquiring other) →
        other ≠ call) : Life pool (s.proxy.server.table.Gone conn) (dropped conn)
          (s.proxy.sessions.lookup conn) (s.takenFor conn) (s.givenFor conn) := by
      refine (h conn).step hpool fun other hsession => ⟨hsessions conn other hsession, ?_⟩
      intro b hb
      cases hhands.symm.trans hb
      exact hne _ hsession rfl
    simp only [Ledger.hand]
    split
    · rename_i taker htaker
      by_cases hconn : conn = taker
      · subst hconn
        -- what is handed out goes to a call in flight, so its handler waits for it
        have hflight : s.proxy.pool.call? call ≠ none := fun hnone =>
          hnot call conn htaker
            (Pool.mem_mentions hpool (Pool.mem_ops_of_hands hhands) hnone)
        have hsession := hcalled.waiting call conn htaker hflight
        have hlife := h conn
        rw [hsession] at hlife
        obtain ⟨htaken, hgiven, hend⟩ := hlife.handed_step hpool (hnot call conn htaker) hhands
        have htaken' : valuesOf conn ((conn, backend) :: s.taken) = [backend] :=
          (valuesOf_cons_self _ _ _).trans (congrArg (backend :: ·) htaken)
        simp only [takenFor, givenFor] at hgiven ⊢
        rw [hsession, htaken', hgiven]
        exact .handed hend
      · simp only [takenFor, valuesOf_cons_of_ne hconn]
        refine hother fun other hsession heq => hconn ?_
        subst heq
        exact Option.some.inj ((hcalled.own conn other hsession).symm.trans htaker)
    · rename_i hnone
      refine hother fun other hsession heq => ?_
      subst heq
      cases (hcalled.own conn other hsession).symm.trans hnone

/-- A handler that moves on leaves the others where they are. -/
theorem Lives.hold (h : ∀ c ≠ conn, Life s.proxy.pool (s.proxy.server.table.Gone c) (dropped c)
      (s.proxy.sessions.lookup c) (s.takenFor c) (s.givenFor c))
    (hlife : Life s.proxy.pool (s.proxy.server.table.Gone conn) (dropped conn) (some session)
      (s.takenFor conn) (s.givenFor conn)) :
    Lives dropped { s with proxy := s.proxy.hold conn session } := by
  intro c
  by_cases hc : c = conn
  · subst hc
    show Life _ _ _ ((s.proxy.hold c session).sessions.lookup c) _ _
    rw [ProxyServer.lookup_hold_self]
    exact hlife
  · show Life _ _ _ ((s.proxy.hold conn session).sessions.lookup c) _ _
    rw [ProxyServer.lookup_hold_of_ne hc]
    exact h c hc

/-- A handler that ends leaves the others where they are. -/
theorem Lives.without (h : s.Lives dropped)
    (hgone : ∀ c, s.proxy.server.table.Gone c → server.table.Gone c)
    (hlife : Life s.proxy.pool (server.table.Gone conn) (dropped conn) none (s.takenFor conn)
      (s.givenFor conn)) :
    Lives dropped { s with proxy := s.proxy.without conn server } := by
  intro c
  by_cases hc : c = conn
  · subst hc
    show Life _ _ _ ((s.proxy.without c server).sessions.lookup c) _ _
    rw [ProxyServer.lookup_without_self]
    exact hlife
  · show Life _ _ _ ((s.proxy.without conn server).sessions.lookup c) _ _
    rw [ProxyServer.lookup_without_of_ne hc]
    exact (h c).mono (hgone c) id

end Lives

section Step

/-- A handler whose connection was not begun has no session. -/
theorem lookup_of_begin {server : Server} (h : s.proxy.Seated)
    (hserver : s.proxy.server.step (.begin conn) = some server) :
    s.proxy.sessions.lookup conn = none := by
  refine Option.eq_none_iff_forall_ne_some.2 fun session hsession => ?_
  exact (Server.running_of_begin hserver).2.1 (h.running _ _ hsession)

theorem Called.step (h : s.Called) (hseated : s.proxy.Seated) (hlives : s.Lives dropped)
    (hallow : s.Allows e) (hmove : ProxyServer.Move s.proxy e q) :
    Called { s.record e with proxy := q } := by
  have hnew {call : CallId} (hfresh : s.proxy.pool.isFresh call = true) :
      s.calls.lookup call = none := by
    refine Option.eq_none_iff_forall_ne_some.2 fun conn hcall => ?_
    exact h.ne_of_fresh hcall hfresh rfl
  cases hmove with
  | server _ _ => exact h.congr rfl rfl rfl
  | pool hpool =>
    have hpooled := h.onPool hpool fun call conn hcall hmem => by
      cases hcall.symm.trans (hallow.1 call hmem)
    exact hpooled.congr rfl rfl (calls_hand s _)
  | @begins conn call server pool hfresh hserver hpool =>
    have hpooled := h.onPool hpool fun other c hother hmem => by
      obtain rfl := List.mem_singleton.1 hmem
      cases (hnew hfresh).symm.trans hother
    -- the pool moves before the call is entered, so that the new number counts as used
    have hserved : Called { s with proxy := { s.proxy with server, pool } } :=
      hpooled.congr rfl rfl rfl
    have hnone := lookup_of_begin hseated hserver
    refine hserved.begins hnone (hnew hfresh) ?_
    cases Pool.Move.of_step hpool with
    | acquire _ => exact (Pool.serves_look _ _ _).not_fresh
  | @served conn _ call backend hsession hanswer =>
    refine h.hold nofun fun other hother => ?_
    cases hsession.symm.trans hother
    exact (hsession ▸ hlives conn).call?_eq_none hanswer
  | @refused conn _ call _ _ hsession hanswer _ =>
    refine h.without fun other hother => ?_
    cases hsession.symm.trans hother
    exact (hsession ▸ hlives conn).call?_eq_none hanswer
  | @copied conn call backend pool hsession hfresh hpool =>
    have hpooled := h.onPool hpool fun other c hother hmem => by
      obtain rfl := List.mem_singleton.1 hmem
      cases (hnew hfresh).symm.trans hother
    have hheld : Called { s with
        proxy := { s.proxy with pool }.hold conn (.discarding call) } :=
      hpooled.hold nofun fun other hother => by cases hsession.symm.trans hother
    rw [record_copied hsession]
    exact hheld.congr rfl rfl rfl
  | discarded hsession _ | dropped hsession _ | unheard hsession _ =>
    refine h.without fun other hother => ?_
    cases hsession.symm.trans hother
  | @givenUp conn canSpawn task _ call server pool hsession hfresh _ hpool =>
    have hcancel : pool.call? call = none := by
      cases Pool.Move.of_step hpool with
      | cancel hid htask =>
        refine (Pool.ended_cancel ?_ _ _ _).1
        rintro rfl
        cases hid.symm.trans htask
    have hpooled := h.onPool hpool fun other c hother hmem => by
      rcases List.mem_cons.1 hmem with rfl | hmem
      · exact hcancel
      · obtain rfl := List.mem_singleton.1 hmem
        cases (hnew hfresh).symm.trans hother
    refine Called.without (s := { s with proxy := { s.proxy with pool } }) hpooled ?_
    intro other hother
    cases hsession.symm.trans hother
    exact hcancel
  | neverBegun hsession _ _ =>
    refine h.without fun other hother => ?_
    cases hsession.symm.trans hother

theorem Lives.step (h : s.Lives dropped) (hseated : s.proxy.Seated) (hcalled : s.Called)
    (hallow : s.Allows e) (hmove : ProxyServer.Move s.proxy e q)
    (hdrops : ∀ c, s.proxy.Drops c e → dropped c) :
    Lives dropped { s.record e with proxy := q } := by
  have hgone (c : GuardId) (hc : s.proxy.server.table.Gone c) : q.server.table.Gone c :=
    ProxyServer.gone_step hc hmove
  have hfreshCall {conn : GuardId} {call fresh : CallId}
      (hsession : s.proxy.sessions.lookup conn = some (.acquiring call))
      (hfresh : s.proxy.pool.isFresh fresh = true) : call ≠ fresh :=
    hcalled.ne_of_fresh (hcalled.own conn call hsession) hfresh
  cases hmove with
  | server _ _ => exact fun c => (h c).mono (hgone c) id
  | pool hpool =>
    refine h.hand hcalled hpool (fun call conn hcall hmem => ?_) _
    cases hcall.symm.trans (hallow.1 call hmem)
  | @begins conn call server pool hfresh hserver hpool =>
    obtain ⟨hfound, -, -⟩ := Server.running_of_begin hserver
    have hlife := h conn
    rw [lookup_of_begin hseated hserver] at hlife
    obtain ⟨htaken, hgiven⟩ := hlife.of_not_gone fun hg => by
      have hnone : s.proxy.server.conns.lookup conn = none := hg.2
      rw [hnone] at hfound
      cases hfound
    have hpooled := h.quiet hpool rfl fun c other hother hmem =>
      hfreshCall hother hfresh (List.mem_singleton.1 hmem)
    refine Lives.hold (s := { s with calls := _, proxy := { s.proxy with server, pool } })
      (fun c _ => (hpooled c).mono (hgone c) id) ?_
    show Life _ _ _ _ (s.takenFor conn) (s.givenFor conn)
    rw [htaken, hgiven]
    exact .of_acquire hfresh hpool
  | @served conn failure call backend hsession hanswer =>
    have hlife := h conn
    rw [hsession] at hlife
    obtain ⟨htaken, hgiven⟩ := hlife.of_handed hanswer
    refine Lives.hold (fun c _ => h c) ?_
    rw [htaken, hgiven]
    exact .copying
  | @refused conn _ call _ server hsession hanswer _ =>
    have hlife := h conn
    rw [hsession] at hlife
    obtain ⟨htaken, hgiven⟩ := hlife.of_refused hanswer
    refine h.without hgone ?_
    rw [htaken, hgiven]
    exact .empty
  | @copied conn call backend pool hsession hfresh hpool =>
    have hlife := h conn
    rw [hsession] at hlife
    obtain ⟨htaken, hgiven⟩ := hlife.of_copying
    have hpooled := h.quiet hpool rfl fun c other hother hmem =>
      hfreshCall hother hfresh (List.mem_singleton.1 hmem)
    rw [record_copied hsession]
    refine Lives.hold (s := { s with given := _, proxy := { s.proxy with pool } }) ?_ ?_
    · intro c hc
      simp only [givenFor, valuesOf_cons_of_ne hc]
      exact hpooled c
    · have hback : valuesOf conn ((conn, backend) :: s.given) = [backend] :=
        (valuesOf_cons_self _ _ _).trans (congrArg (backend :: ·) hgiven)
      show Life _ _ _ _ (s.takenFor conn) (valuesOf conn _)
      rw [htaken, hback]
      exact .discarding
  | @discarded conn _ call server hsession hserver | @unheard conn _ _ _ call server hsession hserver =>
    have hlife := h conn
    rw [hsession] at hlife
    obtain ⟨backend, htaken, hgiven⟩ := hlife.of_discarding
    refine h.without hgone ?_
    rw [htaken, hgiven]
    exact .finished (Server.gone_of_finish hseated.tracked hserver)
  | @dropped conn _ _ _ backend server hsession hserver =>
    have hlife := h conn
    rw [hsession] at hlife
    obtain ⟨htaken, hgiven⟩ := hlife.of_copying
    refine h.without hgone ?_
    rw [htaken, hgiven]
    exact .lost (Server.gone_of_finish hseated.tracked hserver) (hdrops conn ⟨rfl, backend, hsession⟩)
  | @givenUp conn canSpawn task _ call server pool hsession hfresh _ hpool =>
    have hlife := h conn
    rw [hsession] at hlife
    have hflight : s.proxy.pool.call? call ≠ none := by
      cases Pool.Move.of_step hpool with
      | cancel hid _ => exact fun hnone => by cases hid.symm.trans hnone
    obtain ⟨htaken, hgiven⟩ := hlife.of_calling hflight
    -- the handler goes first: afterwards no session waits for the call that the pool gives up
    have hended : Lives dropped { s with proxy := s.proxy.without conn server } := by
      refine h.without hgone ?_
      rw [htaken, hgiven]
      exact .empty
    refine hended.quiet hpool rfl fun c other hother hmem => ?_
    have hc : c ≠ conn := by
      rintro rfl
      cases (ProxyServer.lookup_without_self _ c server).symm.trans hother
    have hother : s.proxy.sessions.lookup c = some (.acquiring other) :=
      (ProxyServer.lookup_without_of_ne hc server).symm.trans hother
    rcases List.mem_cons.1 hmem with rfl | hmem
    · have hown := (hcalled.own c other hother).symm.trans (hcalled.own conn other hsession)
      exact hc (Option.some.inj hown)
    · exact hfreshCall hother hfresh (List.mem_singleton.1 hmem)
  | @neverBegun conn _ _ _ begun server hsession hbegun hserver =>
    have hlife := h conn
    rw [hsession] at hlife
    exact h.without hgone (hlife.mono (hgone conn) id)

end Step

end Ledger
end PooledTcp
