import PooledTcp.Proofs.Server.Moves

/-!
# The connections of a server

A connection is in a server's table from when it is accepted until its handler is over and its socket is
gone, and so long it is counted (`Tracked`). An event accepts one connection, lets the handler of one begin,
ends one, or leaves the table alone (`TableMove`).
-/

namespace PooledTcp.Server

/-- The connections that are counted, and the number of the next one. -/
structure Table where
  active : Nat
  conns : List (GuardId × Connection)
  nextConn : GuardId

def table (s : Server) : Table := ⟨s.active, s.conns, s.nextConn⟩

/-- One connection is counted no longer. -/
def Table.without (tb : Table) (conn : GuardId) : Table :=
  { tb with active := tb.active - 1, conns := tb.conns.filter (·.1 != conn) }

/-- The count is that of the table, and every connection in it has a number of its own that was given
before. -/
structure Tracked (tb : Table) : Prop where
  active : tb.active = tb.conns.length
  nodup : (tb.conns.map Prod.fst).Nodup
  known : ∀ x ∈ tb.conns, x.1 < tb.nextConn

/-- The handler of the connection runs. -/
def Table.Running (tb : Table) (conn : GuardId) : Prop :=
  ∃ c, tb.conns.lookup conn = some c ∧ c.begun = true

/-- The connection was accepted and is counted no longer. -/
def Table.Gone (tb : Table) (conn : GuardId) : Prop :=
  conn < tb.nextConn ∧ tb.conns.lookup conn = none

/-- The note tells of a connection that is served. -/
def Note.Serves : Note → Prop
  | .accepted | .tracked _ _ | .dispatched _ _ => True
  | _ => False

/-- What an event does to the table of connections. -/
inductive TableMove (s : Server) : Event → Table → Prop where
  | stays {e : Event} : TableMove s e s.table
  | accepted {id : CallId} {peer : String} {c : Connection} : c.begun = false →
    TableMove s (.accept id peer)
      ⟨s.active + 1, (s.nextConn, c) :: s.conns, s.nextConn + 1⟩
  | begun {conn : GuardId} {c : Connection} : s.conns.lookup conn = some c → c.begun = false →
    TableMove s (.begin conn) ⟨s.active, put conn { c with begun := true } s.conns, s.nextConn⟩
  | finished {conn : GuardId} {c : Connection} {ending : Ending} {failure : Option IoError} :
    s.conns.lookup conn = some c → c.begun = true → (ending = .forced → s.force = true) →
    TableMove s (.finish conn ending failure) (s.table.without conn)

variable {s t : Server} {e : Event} {id : CallId} {conn : GuardId}

/-- Every event moves the table in one of the ways. -/
theorem tableMove_step (h : s.step e = some t) : TableMove s e t.table := by
  cases Move.of_step h with
  | accepted _ _ hbegun _ _ => exact .accepted hbegun
  | begins hconn hbegun => exact .begun hconn hbegun
  | finished hconn hbegun hforce => exact .finished hconn hbegun hforce
  | _ => exact .stays

/-- Only an accept brings a connection. -/
theorem unserved_of_ne_accept (hstep : s.step e = some t) (hnot : ∀ id peer, e ≠ .accept id peer) :
    t.nextConn = s.nextConn ∧ t.active ≤ s.active ∧ Grows (fun n => ¬n.Serves) s t := by
  have htable : t.table.nextConn = s.nextConn ∧ t.table.active ≤ s.active := by
    have hmove := tableMove_step hstep
    generalize t.table = tb at hmove
    cases hmove with
    | stays => exact ⟨rfl, Nat.le_refl _⟩
    | accepted _ => exact absurd rfl (hnot _ _)
    | begun _ _ => exact ⟨rfl, Nat.le_refl _⟩
    | finished _ _ _ => exact ⟨rfl, Nat.sub_le _ _⟩
  obtain ⟨news, hhist, hnews⟩ := history_step hstep
  refine ⟨htable.1, htable.2, news, hhist, fun n hn hserves => ?_⟩
  have hfits := hnews n hn
  cases n with
  | accepted | tracked _ _ | dispatched _ _ =>
    obtain ⟨id, peer, rfl⟩ := hfits
    exact hnot id peer rfl
  | _ => exact hserves

/-- Every event keeps the count that of the table. -/
theorem Tracked.step (h : Tracked s.table) (hstep : s.step e = some t) : Tracked t.table := by
  have hmove := tableMove_step hstep
  generalize t.table = tb at hmove
  cases hmove with
  | stays => exact h
  | accepted _ =>
    refine ⟨congrArg (· + 1) h.active, List.nodup_cons.2 ⟨fun hmem => ?_, h.nodup⟩, ?_⟩
    · obtain ⟨x, hx, hkey⟩ := List.mem_map.1 hmem
      exact Nat.ne_of_lt (h.known x hx) hkey
    · intro x hx
      rcases List.mem_cons.1 hx with rfl | hx
      · exact Nat.lt_succ_self _
      · exact Nat.lt_succ_of_lt (h.known x hx)
  | begun hconn _ =>
    have hlt := h.known _ (mem_of_lookup hconn)
    refine ⟨?_, nodup_keys_put h.nodup _ _, fun x hx => ?_⟩
    · exact h.active.trans (length_filter_of_lookup h.nodup hconn).symm
    · rcases List.mem_cons.1 hx with rfl | hx
      · exact hlt
      · exact h.known x (List.mem_filter.1 hx).1
  | finished hconn _ _ =>
    have hlen := length_filter_of_lookup h.nodup hconn
    refine ⟨?_, nodup_keys_filter h.nodup _, fun x hx => h.known x (List.mem_filter.1 hx).1⟩
    have hactive := h.active
    simp only [Table.without]
    simp only [table] at hactive hlen ⊢
    omega

/-- The number of a new connection is not in the table. -/
theorem Tracked.lookup_next {tb : Table} (h : Tracked tb) : tb.conns.lookup tb.nextConn = none := by
  refine Option.eq_none_iff_forall_ne_some.2 fun c hc => ?_
  exact Nat.lt_irrefl _ (h.known _ (mem_of_lookup hc))

/-- A connection that is gone does not come back. -/
theorem Table.Gone.step (h : s.table.Gone conn) (hstep : s.step e = some t) : t.table.Gone conn := by
  obtain ⟨hlt, hnone⟩ := h
  have hmove := tableMove_step hstep
  generalize t.table = tb at hmove
  cases hmove with
  | stays => exact ⟨hlt, hnone⟩
  | accepted _ =>
    refine ⟨Nat.lt_succ_of_lt hlt, ?_⟩
    have hne : (conn == s.nextConn) = false := beq_false_of_ne (Nat.ne_of_lt hlt)
    rw [List.lookup_cons, hne]
    exact hnone
  | begun hconn _ =>
    refine ⟨hlt, (lookup_put_of_ne ?_ _ _).trans hnone⟩
    rintro rfl
    cases hnone.symm.trans hconn
  | finished hconn _ _ =>
    refine ⟨hlt, (lookup_filter_of_ne ?_ _).trans hnone⟩
    rintro rfl
    cases hnone.symm.trans hconn

/-- A handler runs until it ends. -/
theorem Table.Running.step (h : s.table.Running conn) (htracked : Tracked s.table)
    (hstep : s.step e = some t) (hnot : ∀ ending failure, e ≠ .finish conn ending failure) :
    t.table.Running conn := by
  obtain ⟨c, hfound, hbegun⟩ := h
  have hmove := tableMove_step hstep
  generalize t.table = tb at hmove
  cases hmove with
  | stays => exact ⟨c, hfound, hbegun⟩
  | accepted _ =>
    have hne : (conn == s.nextConn) = false := beq_false_of_ne <| by
      rintro rfl
      cases hfound.symm.trans htracked.lookup_next
    refine ⟨c, ?_, hbegun⟩
    rw [List.lookup_cons, hne]
    exact hfound
  | @begun other d hother hnew =>
    have hne : conn ≠ other := by
      rintro rfl
      cases hfound.symm.trans hother
      rw [hbegun] at hnew
      cases hnew
    exact ⟨c, (lookup_put_of_ne hne _ _).trans hfound, hbegun⟩
  | @finished other _ ending failure _ _ _ =>
    have hne : conn ≠ other := by
      rintro rfl
      exact hnot _ _ rfl
    exact ⟨c, (lookup_filter_of_ne hne _).trans hfound, hbegun⟩

/-- A handler that begins did not run, and runs. -/
theorem running_of_begin (hstep : s.step (.begin conn) = some t) :
    (s.conns.lookup conn).isSome ∧ ¬s.table.Running conn ∧ t.table.Running conn := by
  cases Move.of_step hstep with
  | begins hconn hbegun =>
    refine ⟨by rw [hconn]; rfl, ?_, _, lookup_put_self _ _ _, rfl⟩
    rintro ⟨d, hd, hrun⟩
    cases hconn.symm.trans hd
    cases hbegun.symm.trans hrun

/-- A connection whose handler ends is gone. -/
theorem gone_of_finish {ending : Ending} {failure : Option IoError} (h : Tracked s.table)
    (hstep : s.step (.finish conn ending failure) = some t) : t.table.Gone conn := by
  cases Move.of_step hstep with
  | finished hconn _ _ => exact ⟨h.known _ (mem_of_lookup hconn), lookup_filter_self _ _⟩

/-- When no connection is counted, none is in the table. -/
theorem Tracked.lookup_eq_none {tb : Table} (h : Tracked tb) (hzero : tb.active = 0)
    (conn : GuardId) : tb.conns.lookup conn = none := by
  have hnil : tb.conns = [] := List.length_eq_zero_iff.1 (h.active.symm.trans hzero)
  rw [hnil]
  rfl

end PooledTcp.Server
