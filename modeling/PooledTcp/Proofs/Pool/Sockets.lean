import PooledTcp.Net.TcpFactory
import PooledTcp.Proofs.Pool.Handing
import PooledTcp.Proofs.Pool.Opened

/-!
# Whether a pool hands out sockets that are closed

`Sockets` is a pool of sockets with what each of them received and nobody has read yet. A peer sends and closes
its side at any time, whoever holds a socket reads from it, and the health check of an acquire is the look of the
factory at the front of what was received.

That look shows the end of the stream only where nothing stands in front of it. A socket whose peer has closed
its side is not handed out again once everything that was sent has been read (`Closed.kept_out`), and is handed
out by each check that meets something unread (`Closed.reused`). So it is kept out exactly when no check meets
anything (`closed_kept_out_iff`), and one byte in front of the end is enough (`closed_handed_out`).
-/

namespace PooledTcp.Pool

/-- A pool of sockets. -/
structure Sockets where
  pool : Pool
  /-- What each socket received. -/
  inboxes : List (ConnId × Inbox)

namespace Sockets

/-- What can happen. -/
inductive Event where
  /-- A piece of work of the pool, but for the end of a health check. -/
  | pool (e : Pool.Event)
  /-- The health check of an acquire. -/
  | probe (id : CallId)
  /-- A caller opens a socket of its own. -/
  | connect (conn : ConnId)
  /-- The peer sends bytes. -/
  | receive (conn : ConnId) (bytes : Bytes)
  /-- The peer closes its side. -/
  | finish (conn : ConnId)
  /-- Whoever holds the socket reads at most `n` bytes. -/
  | read (conn : ConnId) (n : Nat)

/-- The connection that acquire `id` is going to check. -/
def checks? (s : Sockets) (id : CallId) : Option ConnId :=
  match s.pool.call? id with
  | some (.acquire _ (.pinging x)) => some x.conn
  | _ => none

/-- What is wrong with a socket, by a look at what it received. -/
def fault? (b : Inbox) : Option IoError :=
  match TcpFactory.ping b.peek with
  | .ok () => none
  | .error cause => some cause

/-- A dial brings a new socket, and a health check is a look at one. -/
def Allows (s : Sockets) : Pool.Event → Bool
  | .dialed _ (.ok conn) => (s.inboxes.lookup conn).isNone
  | .pinged _ _ => false
  | _ => true

/-- Something happens to what a socket received. -/
def change (s : Sockets) (conn : ConnId) (f : Inbox → Inbox) : Option Sockets :=
  (s.inboxes.lookup conn).map fun b => { s with inboxes := put conn (f b) s.inboxes }

/-- Perform an event, if it can happen. -/
def step (s : Sockets) : Event → Option Sockets
  | .pool e =>
    if s.Allows e then
      (s.pool.step e).map fun p => { pool := p, inboxes := e.dialled.map (·, {}) ++ s.inboxes }
    else none
  | .probe id =>
    ((s.checks? id).bind (s.inboxes.lookup ·)).bind fun b =>
      (s.pool.step (.pinged id (fault? b))).map fun p => { s with pool := p }
  | .connect conn =>
    if (s.inboxes.lookup conn).isNone then some { s with inboxes := (conn, {}) :: s.inboxes } else none
  | .receive conn bytes => s.change conn (·.receive bytes)
  | .finish conn => s.change conn Inbox.finish
  | .read conn n => s.change conn fun b => (b.read n).2

/-- The pool has just been opened, and nothing has been received. -/
structure Begins (r : PoolRequest) (s : Sockets) : Prop where
  opened : Opened r s.pool
  inboxes : s.inboxes = s.pool.idleConns.map (·, {})

/-- The run in which nothing has happened yet. -/
theorem Begins.start {r : PoolRequest} {s : Sockets} (_ : Begins r s) : Run step s [] s := .nil s

/-- How often a connection was handed out. -/
def handed (s : Sockets) (conn : ConnId) : Nat := s.pool.handedOut.count conn

/-- What becomes of a socket that received `b`, of which the end is the last. -/
structure Judged (s : Sockets) (conn : ConnId) (b : Inbox) : Prop where
  verdict : TcpFactory.ping b.peek = if b.unread = [] then .error TcpFactory.closedByPeer else .ok ()
  evicted : b.unread = [] → ∀ id, s.checks? id = some conn → ∃ t w, s.step (.probe id) = some t ∧
    t.pool.call? id = some (.acquire w (.evicting conn))
  reused : b.unread ≠ [] → ∀ id, s.checks? id = some conn → ∃ t, s.step (.probe id) = some t ∧
    t.pool.answer? id = some (.acquired (.ok conn)) ∧ t.handed conn = s.handed conn + 1
  kept_out : b.unread = [] → ∀ es t, Run step s es t → t.handed conn = s.handed conn
  kept_out_iff : (∀ es t, Run step s es t → t.handed conn = s.handed conn) ↔
    ∀ es t id c, Run step s es t → t.checks? id = some conn → t.inboxes.lookup conn = some c → c.unread = []

/-- What an inbox becomes: it is not broken off, and what is closed and read out stays so. -/
structure Later (b c : Inbox) : Prop where
  failure : c.failure = b.failure
  finished : b.finished = true → c.finished = true
  unread : b.finished = true → b.unread = [] → c.unread = []

/-- The peer has closed its side, and the connection is not broken off. -/
structure Closed (s : Sockets) (conn : ConnId) (b : Inbox) : Prop where
  inbox : s.inboxes.lookup conn = some b
  failure : b.failure = none
  finished : b.finished = true

variable {r : PoolRequest} {s t : Sockets} {e : Event} {es : List Event} {conn : ConnId} {id : CallId}
  {b c : Inbox}

section Inboxes

theorem Later.receive (b : Inbox) (bytes : Bytes) : Later b (b.receive bytes) := by
  unfold Inbox.receive
  split
  · exact ⟨rfl, id, fun _ => id⟩
  · rename_i hopen
    exact ⟨rfl, id, fun h => absurd h hopen⟩

theorem Later.finish (b : Inbox) : Later b b.finish := ⟨rfl, fun _ => rfl, fun _ => id⟩

theorem Later.read (b : Inbox) (n : Nat) : Later b (b.read n).2 := by
  refine ⟨rfl, id, fun _ h => ?_⟩
  rw [Inbox.read, h]
  exact List.drop_nil

/-- What an event does to the inbox of one connection. -/
inductive Fate (s t : Sockets) (conn : ConnId) : Prop where
  | same : t.inboxes.lookup conn = s.inboxes.lookup conn → Fate s t conn
  | fresh : s.inboxes.lookup conn = none → t.inboxes.lookup conn = some {} → Fate s t conn
  | later {b c : Inbox} : s.inboxes.lookup conn = some b → t.inboxes.lookup conn = some c → Later b c →
    Fate s t conn

theorem fate_opened {p : Pool} {d : ConnId} (h : (s.inboxes.lookup d).isNone = true) :
    Fate s { pool := p, inboxes := (d, {}) :: s.inboxes } conn := by
  by_cases hd : conn = d
  · subst hd
    exact .fresh (Option.isNone_iff_eq_none.1 h) List.lookup_cons_self
  · refine .same ?_
    rw [List.lookup_cons, beq_false_of_ne hd]

theorem fate_change {d : ConnId} {f : Inbox → Inbox} (hf : ∀ b, Later b (f b))
    (h : s.change d f = some t) : Fate s t conn := by
  obtain ⟨b, hb, rfl⟩ := Option.map_eq_some_iff.1 h
  by_cases hd : conn = d
  · subst hd
    exact .later hb (lookup_put_self _ _ _) (hf b)
  · exact .same (lookup_put_of_ne hd _ _)

theorem fate_step (hstep : s.step e = some t) (conn : ConnId) : Fate s t conn := by
  cases e with
  | pool e =>
    simp only [step, Option.ite_none_right_eq_some, Option.map_eq_some_iff] at hstep
    obtain ⟨hallows, p, -, rfl⟩ := hstep
    cases e with
    | dialed id result =>
      cases result with
      | ok d => exact fate_opened hallows
      | error cause => exact .same rfl
    | _ => exact .same rfl
  | probe id =>
    simp only [step, Option.bind_eq_some_iff, Option.map_eq_some_iff] at hstep
    obtain ⟨-, -, p, -, rfl⟩ := hstep
    exact .same rfl
  | connect d =>
    simp only [step, Option.ite_none_right_eq_some, Option.some.injEq] at hstep
    obtain ⟨hnone, rfl⟩ := hstep
    exact fate_opened hnone
  | receive d bytes => exact fate_change (.receive · bytes) hstep
  | finish d => exact fate_change .finish hstep
  | read d n => exact fate_change (.read · n) hstep

end Inboxes

/-- The inbox of a connection that is closed stays closed, and read out if it was. -/
theorem Closed.step (h : Closed s conn b) (hstep : s.step e = some t) :
    ∃ c, Closed t conn c ∧ (b.unread = [] → c.unread = []) := by
  cases fate_step hstep conn with
  | same hsame => exact ⟨b, ⟨hsame.trans h.inbox, h.failure, h.finished⟩, id⟩
  | fresh hnone _ => cases hnone.symm.trans h.inbox
  | later hb hc hlater =>
    obtain rfl := Option.some.inj (hb.symm.trans h.inbox)
    exact ⟨_, ⟨hc, hlater.failure.trans h.failure, hlater.finished h.finished⟩, hlater.unread h.finished⟩

/-- No connection is broken off. -/
theorem Begins.unbroken (hs : Begins r s) (hrun : Run step s es t) (h : t.inboxes.lookup conn = some b) :
    b.failure = none := by
  have hstart : ∀ conn b, s.inboxes.lookup conn = some b → b.failure = none := by
    intro conn b hb
    rw [hs.inboxes] at hb
    obtain ⟨d, -, heq⟩ := List.mem_map.1 (mem_of_lookup hb)
    cases heq
    rfl
  refine hrun.keeps (P := fun u => ∀ conn b, u.inboxes.lookup conn = some b → b.failure = none) ?_ hstart
    conn b h
  intro u e v hu hstep conn c hc
  cases fate_step hstep conn with
  | same hsame => exact hu conn c (hsame ▸ hc)
  | fresh _ hfresh =>
    cases hfresh.symm.trans hc
    rfl
  | later hb hlaterc hlater =>
    obtain rfl := Option.some.inj (hlaterc.symm.trans hc)
    exact hlater.failure.trans (hu conn _ hb)

section Checks

/-- What a check finds of a connection that is closed. -/
theorem Closed.ping (h : Closed s conn b) :
    TcpFactory.ping b.peek = if b.unread = [] then .error TcpFactory.closedByPeer else .ok () := by
  rw [Inbox.peek, h.failure]
  cases b.unread with
  | nil =>
    rw [if_pos h.finished]
    rfl
  | cons x rest => rfl

theorem Closed.fault (h : Closed s conn b) :
    fault? b = if b.unread = [] then some TcpFactory.closedByPeer else none := by
  rw [fault?, h.ping]
  by_cases hunread : b.unread = []
  · rw [if_pos hunread, if_pos hunread]
  · rw [if_neg hunread, if_neg hunread]

theorem checks?_eq_some (h : s.checks? id = some conn) :
    ∃ w x, s.pool.call? id = some (.acquire w (.pinging x)) ∧ x.conn = conn := by
  simp only [checks?] at h
  split at h
  · rename_i w x hid
    exact ⟨w, x, hid, Option.some.inj h⟩
  · cases h

/-- A check of a socket ends with what the factory says about it. -/
theorem step_probe (hchecks : s.checks? id = some conn) (hb : s.inboxes.lookup conn = some b) :
    ∃ w x, x.conn = conn ∧ s.step (.probe id) = some { s with pool := s.pool.afterPing id w x (fault? b) } := by
  obtain ⟨w, x, hid, hx⟩ := checks?_eq_some hchecks
  refine ⟨w, x, hx, ?_⟩
  rw [step, hchecks, Option.bind_some, hb, Option.bind_some, Pool.step, hid]
  rfl

/-- A socket that was there before is handed out only by a check that finds nothing wrong with it. -/
theorem handed_step (hstep : s.step e = some t) (hb : s.inboxes.lookup conn = some b) :
    t.handed conn = s.handed conn ∨ ∃ id, e = .probe id ∧ s.checks? id = some conn ∧ fault? b = none := by
  cases e with
  | pool e =>
    simp only [step, Option.ite_none_right_eq_some, Option.map_eq_some_iff] at hstep
    obtain ⟨hallows, p, hpool, rfl⟩ := hstep
    left
    rw [handed, handed, handedOut_step hpool]
    cases e with
    | dialed id result =>
      cases result with
      | ok d =>
        have hd : d ≠ conn := by
          rintro rfl
          cases (Option.isNone_iff_eq_none.1 hallows).symm.trans hb
        exact List.count_cons_of_ne hd
      | error cause => rfl
    | pinged id failure => cases hallows
    | _ => rfl
  | probe id =>
    simp only [step, Option.bind_eq_some_iff, Option.map_eq_some_iff] at hstep
    obtain ⟨b', ⟨d, hchecks, hb'⟩, p, hpool, rfl⟩ := hstep
    rw [handed, handed, handedOut_step hpool]
    cases hfault : fault? b' with
    | some cause => exact .inl rfl
    | none =>
      by_cases hd : d = conn
      · subst hd
        obtain rfl := Option.some.inj (hb'.symm.trans hb)
        exact .inr ⟨id, rfl, hchecks, hfault⟩
      · obtain ⟨w, x, hid, rfl⟩ := checks?_eq_some hchecks
        left
        rw [hands?, hid]
        exact List.count_cons_of_ne hd
  | connect d =>
    simp only [step, Option.ite_none_right_eq_some, Option.some.injEq] at hstep
    obtain ⟨-, rfl⟩ := hstep
    exact .inl rfl
  | receive _ _ | finish _ | read _ _ =>
    obtain ⟨b', -, rfl⟩ := Option.map_eq_some_iff.1 hstep
    exact .inl rfl

end Checks

/-- A socket that is closed and read out is not handed out again. -/
theorem Closed.kept_out (h : Closed s conn b) (hunread : b.unread = []) (hrun : Run Sockets.step s es t) :
    t.handed conn = s.handed conn := by
  have hkeeps := hrun.keeps
    (P := fun u => (∃ c, Closed u conn c ∧ c.unread = []) ∧ u.handed conn = s.handed conn) ?_
    ⟨⟨b, h, hunread⟩, rfl⟩
  · exact hkeeps.2
  · rintro u e v ⟨⟨c, hc, hread⟩, hhanded⟩ hstep
    obtain ⟨c', hc', hstays⟩ := hc.step hstep
    refine ⟨⟨c', hc', hstays hread⟩, ?_⟩
    rcases handed_step hstep hc.inbox with hsame | ⟨id, -, -, hfault⟩
    · rw [hsame, hhanded]
    · rw [hc.fault, if_pos hread] at hfault
      cases hfault

/-- A check that finds nothing but the end of the stream evicts the socket. -/
theorem Closed.evicted (h : Closed s conn b) (hunread : b.unread = []) (hchecks : s.checks? id = some conn) :
    ∃ t w, s.step (.probe id) = some t ∧ t.pool.call? id = some (.acquire w (.evicting conn)) := by
  obtain ⟨w, x, rfl, hstep⟩ := step_probe hchecks h.inbox
  rw [h.fault, if_pos hunread] at hstep
  exact ⟨_, w, hstep, call?_hold_self _ _ _⟩

/-- A check that meets something unread hands the socket out, closed as it is. -/
theorem Closed.reused (h : Closed s conn b) (hunread : b.unread ≠ []) (hchecks : s.checks? id = some conn) :
    ∃ t, s.step (.probe id) = some t ∧ t.pool.answer? id = some (.acquired (.ok conn)) ∧
      t.handed conn = s.handed conn + 1 := by
  obtain ⟨w, x, rfl, hstep⟩ := step_probe hchecks h.inbox
  rw [h.fault, if_neg hunread] at hstep
  exact ⟨_, hstep, answer?_finish _ _ _, List.count_cons_self⟩

theorem Closed.run (h : Closed s conn b) (hrun : Run Sockets.step s es t) : ∃ c, Closed t conn c :=
  hrun.keeps (P := fun u => ∃ c, Closed u conn c)
    (fun _ _ _ hu hstep => by
      obtain ⟨c, hc⟩ := hu
      obtain ⟨c', hc', -⟩ := hc.step hstep
      exact ⟨c', hc'⟩) ⟨b, h⟩

/-- A socket that is closed is kept out exactly when no check meets anything unread. -/
theorem Closed.kept_out_iff (h : Closed s conn b) :
    (∀ es t, Run Sockets.step s es t → t.handed conn = s.handed conn) ↔
      ∀ es t id c, Run Sockets.step s es t → t.checks? id = some conn → t.inboxes.lookup conn = some c →
        c.unread = [] := by
  constructor
  · intro hkept es t id c hrun hchecks hc
    obtain ⟨c', hclosed⟩ := h.run hrun
    obtain rfl := Option.some.inj (hclosed.inbox.symm.trans hc)
    refine Decidable.byContradiction fun hunread => ?_
    obtain ⟨u, hstep, -, hmore⟩ := hclosed.reused hunread hchecks
    have hlater := hkept _ u (hrun.append (.cons hstep (.nil u)))
    rw [hmore, hkept es t hrun] at hlater
    omega
  · intro hread es t hrun
    have hall := hrun.induction_last (P := fun fs u => Run Sockets.step s fs u ∧ u.handed conn = s.handed conn)
      ⟨.nil s, rfl⟩ ?_
    · exact hall.2
    · rintro fs e u v ⟨hu, hhanded⟩ hstep
      refine ⟨hu.append (.cons hstep (.nil v)), ?_⟩
      obtain ⟨c, hclosed⟩ := h.run hu
      rcases handed_step hstep hclosed.inbox with hsame | ⟨id, rfl, hchecks, hfault⟩
      · rw [hsame, hhanded]
      · rw [hclosed.fault, if_pos (hread fs u id c hu hchecks hclosed.inbox)] at hfault
        cases hfault

/-- Whether a socket whose peer has closed its side is handed out again is decided by what is left unread. -/
theorem closed_kept_out_iff (hs : Begins r s) (hrun : Run step s es t) (hb : t.inboxes.lookup conn = some b)
    (hfinished : b.finished = true) : Judged t conn b := by
  have h : Closed t conn b := ⟨hb, hs.unbroken hrun hb, hfinished⟩
  exact ⟨h.ping, fun hunread _ => h.evicted hunread, fun hunread _ => h.reused hunread,
    fun hunread _ _ => h.kept_out hunread, h.kept_out_iff⟩

/-- A holder reads what its peer sent and gives the socket back, and then the peer closes its side. -/
theorem closed_kept_out_when_read : ∃ s t, Begins ⟨1, 1, 1, .zero⟩ s ∧
    Run step s [.receive 0 [1, 2], .pool (.acquire 1 none), .probe 1, .read 0 4, .pool (.release 2 0),
      .finish 0, .pool (.acquire 3 none)] t ∧
    t.checks? 3 = some 0 ∧ Judged t 0 { finished := true } ∧
    ∀ es u, Run step t es u → u.handed 0 = 1 := by
  have hopen := Opened.of_foldlM (r := ⟨1, 1, 1, .zero⟩) [.dialed (.ok 0)] rfl
  have hbegin : Begins ⟨1, 1, 1, .zero⟩ ⟨_, [(0, {})]⟩ := ⟨hopen, rfl⟩
  have hrun := hbegin.start.further [.receive 0 [1, 2], .pool (.acquire 1 none), .probe 1, .read 0 4,
    .pool (.release 2 0), .finish 0, .pool (.acquire 3 none)] rfl
  have hjudged : Judged _ 0 { finished := true } := closed_kept_out_iff hbegin hrun rfl rfl
  exact ⟨_, _, hbegin, hrun, rfl, hjudged, hjudged.kept_out rfl⟩

/-- The peer of an idle socket sends a byte and closes its side, and the next acquire gets the socket. -/
theorem closed_handed_out : ∃ s t u, Begins ⟨1, 1, 1, .zero⟩ s ∧
    Run step s [.receive 0 [7], .finish 0, .pool (.acquire 1 none)] t ∧
    t.inboxes.lookup 0 = some { unread := [7], finished := true } ∧ t.checks? 1 = some 0 ∧
    t.step (.probe 1) = some u ∧ u.pool.answer? 1 = some (.acquired (.ok 0)) := by
  have hopen := Opened.of_foldlM (r := ⟨1, 1, 1, .zero⟩) [.dialed (.ok 0)] rfl
  have hbegin : Begins ⟨1, 1, 1, .zero⟩ ⟨_, [(0, {})]⟩ := ⟨hopen, rfl⟩
  have hrun := hbegin.start.further [.receive 0 [7], .finish 0, .pool (.acquire 1 none)] rfl
  exact ⟨_, _, _, hbegin, hrun, rfl, rfl, rfl, rfl⟩

end Sockets
end PooledTcp.Pool
