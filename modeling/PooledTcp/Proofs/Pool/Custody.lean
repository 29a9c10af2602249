import PooledTcp.Proofs.Pool.Stock
import PooledTcp.Proofs.Pool.Opened

/-!
# A pool whose callers keep to the rules

A pool cannot tell whose a connection is. `Custody` is a pool together with what is known outside it: the
connections that were dialled and those that came back. Its steps are the events of the pool, less two
kinds: a caller gives back only what it was handed and has not given back yet, and no dial brings a
connection that was there before.

`places` lists where a connection is: in the queue, with a caller, with an operation in flight that carries
it, passed to a close, or dropped. Under these rules the stock of a connection is what was dialled and what
came back (`Balanced`), so each dialled connection has one place and any other one has none
(`Balanced.length_places`).
-/

namespace PooledTcp.Pool

/-- A pool and what its callers did with its connections. -/
structure Custody where
  pool : Pool
  /-- The connections whose dial ended well. -/
  dialled : List ConnId
  /-- The connections that were given back, once for each time. -/
  returned : List ConnId

/-- Where a connection is. -/
inductive Place where
  | idle
  /-- With a caller. -/
  | held
  /-- With an acquire in flight that pings it. -/
  | pinged (id : CallId)
  /-- With a shutdown in flight that has yet to close it. -/
  | drained (id : CallId)
  /-- With a task that is about to close it. -/
  | abandoned (id : CallId)
  /-- Passed to a close by that operation. -/
  | closed (id : CallId)
  | dropped
  deriving DecidableEq, Repr

/-- The place of what the operation carries. -/
def Call.place (id : CallId) : Call → Place
  | .acquire _ _ => .pinged id
  | .shutdown _ _ => .drained id
  | _ => .abandoned id

/-- The place to which `conn` goes with the note, if it leaves the pool for good. -/
def Note.place? (conn : ConnId) : Note → Option Place
  | .called id (.close c) => if c = conn then some (.closed id) else none
  | .dropped c => if c = conn then some .dropped else none
  | _ => none

namespace Custody

/-- How many callers hold `conn`. -/
def holders (s : Custody) (conn : ConnId) : Nat :=
  s.pool.handedOut.count conn - s.returned.count conn

/-- Where `conn` is, with repetitions. -/
def places (s : Custody) (conn : ConnId) : List Place :=
  List.replicate (s.pool.idleConns.count conn) .idle ++ List.replicate (s.holders conn) .held ++
    s.pool.calls.flatMap (fun x => List.replicate (x.2.carries conn) (x.2.place x.1)) ++
    s.pool.history.filterMap (·.place? conn)

/-- What a dial brings is new, and what a caller gives back it holds. -/
def Allows (s : Custody) (e : Event) : Prop :=
  (∀ conn ∈ e.dialled, conn ∉ s.dialled) ∧ ∀ conn ∈ e.returned, 0 < s.holders conn

instance (s : Custody) (e : Event) : Decidable (s.Allows e) := inferInstanceAs (Decidable (_ ∧ _))

/-- Perform an event, if the rules allow it and it can happen. -/
def step (s : Custody) (e : Event) : Option Custody :=
  if s.Allows e then
    (s.pool.step e).map fun q => ⟨q, e.dialled ++ s.dialled, e.returned ++ s.returned⟩
  else none

/-- The pool has just been opened, each of its connections by a dial of its own. -/
structure Begins (r : PoolRequest) (s : Custody) : Prop where
  opened : Opened r s.pool
  nodup : s.pool.idleConns.Nodup
  dialled : s.dialled = s.pool.idleConns
  returned : s.returned = []

/-- The stock of a connection is what was dialled and what came back, and nothing came back that was not
handed out. -/
structure Balanced (s : Custody) : Prop where
  distinct : s.pool.Distinct
  nodup : s.dialled.Nodup
  returned : ∀ conn, s.returned.count conn ≤ s.pool.handedOut.count conn
  stock : ∀ conn, s.pool.stock conn = s.dialled.count conn + s.returned.count conn

variable {r : PoolRequest} {s t : Custody} {e : Event} {es : List Event} {conn : ConnId}

/-- The run in which nothing has happened yet. -/
theorem Begins.start (_ : Begins r s) : Run step s [] s := .nil s

theorem step_eq_some (h : s.step e = some t) : s.Allows e ∧ s.pool.step e = some t.pool ∧
    t.dialled = e.dialled ++ s.dialled ∧ t.returned = e.returned ++ s.returned := by
  simp only [step, Option.ite_none_right_eq_some, Option.map_eq_some_iff] at h
  obtain ⟨hallow, q, hq, rfl⟩ := h
  exact ⟨hallow, hq, rfl, rfl⟩

/-- Nothing has left a fresh pool. -/
theorem stock_fresh {p : Pool} {idle : List IdleEntry} (h : Fresh r p idle) (conn : ConnId) :
    p.stock conn = p.idleConns.count conn := by
  have hdials (n : Nat) (f : Note → Option ConnId) (hf : f (.called Opening.callId .dial) = none) :
      (List.replicate n (.called Opening.callId .dial)).filterMap f = [] := by
    simp [hf]
  simp [stock, handedOut, closes, drops, h.calls, h.history, hdials, Note.handed?, Note.closing?,
    Note.dropped?]

theorem Begins.balanced (h : Begins r s) : Balanced s := by
  obtain ⟨idle, hfresh⟩ := h.opened.fresh
  refine ⟨hfresh.distinct, ?_, ?_, ?_⟩
  · rw [h.dialled]
    exact h.nodup
  · simp [h.returned]
  · intro conn
    rw [stock_fresh hfresh, h.dialled, h.returned]
    rfl

/-- What a caller gives back is not more than it holds. -/
theorem Allows.count_le (h : s.Allows e) (conn : ConnId) :
    e.returned.count conn ≤ s.holders conn := by
  by_cases hmem : conn ∈ e.returned
  · exact Nat.le_trans List.count_le_length (Nat.le_trans e.length_returned (h.2 conn hmem))
  · rw [List.count_eq_zero.2 hmem]
    exact Nat.zero_le _

/-- Every step keeps the balance. -/
theorem Balanced.step (h : Balanced s) (hstep : s.step e = some t) : Balanced t := by
  obtain ⟨hallow, hpool, hdialled, hreturned⟩ := step_eq_some hstep
  refine ⟨Distinct.kept.step h.distinct hpool, ?_, ?_, ?_⟩
  · rw [hdialled]
    cases e with
    | dialed id result =>
      cases result with
      | ok c => exact List.nodup_cons.2 ⟨hallow.1 c List.mem_cons_self, h.nodup⟩
      | error cause => exact h.nodup
    | _ => exact h.nodup
  · intro conn
    have hgrown : s.pool.handedOut.count conn ≤ t.pool.handedOut.count conn :=
      ((history_step hpool).filterMap _).sublist.count_le conn
    have hheld := hallow.count_le conn
    have hbefore := h.returned conn
    rw [hreturned, List.count_append]
    unfold holders at hheld
    omega
  · intro conn
    have hstock := stock_step h.distinct hpool conn
    have hbefore := h.stock conn
    rw [hdialled, hreturned, List.count_append, List.count_append]
    omega

theorem Balanced.run (h : Balanced s) (hrun : Run Custody.step s es t) : Balanced t :=
  hrun.keeps (fun _ _ _ hs hstep => hs.step hstep) h

/-- A connection is gone as often as it was passed to a close or dropped. -/
theorem length_gone (p : Pool) (conn : ConnId) :
    (p.history.filterMap (·.place? conn)).length = p.closes.count conn + p.drops.count conn := by
  rw [closes, drops, List.count_filterMap, List.count_filterMap, List.length_filterMap_eq_countP]
  induction p.history with
  | nil => rfl
  | cons n history ih =>
    have hone : (if (n.place? conn).isSome then 1 else 0) =
        (if n.closing? == some conn then 1 else 0) + (if n.dropped? == some conn then 1 else 0) := by
      cases n with
      | called id c =>
        cases c with
        | close d => by_cases hd : d = conn <;> simp [Note.place?, Note.closing?, Note.dropped?, hd]
        | _ => rfl
      | dropped d =>
        by_cases hd : d = conn <;> simp [Note.place?, Note.closing?, Note.dropped?, hd]
      | _ => rfl
    rw [List.countP_cons, List.countP_cons, List.countP_cons, hone, ih]
    omega

theorem length_carried (calls : List (CallId × Call)) (conn : ConnId) :
    (calls.flatMap fun x => List.replicate (x.2.carries conn) (x.2.place x.1)).length =
      tally (·.carries conn) calls := by
  induction calls with
  | nil => rfl
  | cons x calls ih =>
    rw [List.flatMap_cons, List.length_append, List.length_replicate, ih, tally_cons]

theorem length_places (s : Custody) (conn : ConnId) : (s.places conn).length =
    s.pool.idleConns.count conn + s.holders conn + tally (·.carries conn) s.pool.calls +
      (s.pool.closes.count conn + s.pool.drops.count conn) := by
  simp only [places, List.length_append, List.length_replicate, length_carried, length_gone]

/-- A dialled connection has one place, and any other one has none. -/
theorem Balanced.length_places (h : Balanced s) (conn : ConnId) :
    (s.places conn).length = s.dialled.count conn := by
  have hstock := h.stock conn
  have hreturned := h.returned conn
  rw [Custody.length_places, holders]
  rw [Pool.stock] at hstock
  omega

theorem Balanced.length_le_one (h : Balanced s) (conn : ConnId) : (s.places conn).length ≤ 1 := by
  rw [h.length_places]
  exact List.nodup_iff_count.1 h.nodup conn

theorem Balanced.eq_singleton (h : Balanced s) (hdialled : conn ∈ s.dialled) :
    ∃ place, s.places conn = [place] := by
  refine List.length_eq_one_iff.1 ?_
  rw [h.length_places, h.nodup.count, if_pos hdialled]

theorem Balanced.eq_nil (h : Balanced s) (hdialled : conn ∉ s.dialled) : s.places conn = [] := by
  refine List.length_eq_zero_iff.1 ?_
  rw [h.length_places, List.count_eq_zero.2 hdialled]

/-- A connection whose close began is with nobody. -/
theorem Balanced.holders_of_closed (h : Balanced s) (hclosed : conn ∈ s.pool.closes) :
    s.holders conn = 0 := by
  have hle := h.length_le_one conn
  have hpos := List.count_pos_iff.2 hclosed
  rw [Custody.length_places] at hle
  omega

/-- What a place of a connection says about it. -/
theorem of_mem_places {place : Place} (h : place ∈ s.places conn) :
    (place = .idle ∧ conn ∈ s.pool.idleConns) ∨ (place = .held ∧ 0 < s.holders conn) ∨
    (∃ x ∈ s.pool.calls, place = x.2.place x.1 ∧ conn ∈ x.2.carried) ∨
    (∃ id, place = .closed id) ∨ (place = .dropped ∧ conn ∈ s.pool.drops) := by
  simp only [places, List.mem_append, List.mem_replicate, List.mem_flatMap, List.mem_filterMap] at h
  rcases h with ((⟨hidle, rfl⟩ | ⟨hheld, rfl⟩) | ⟨x, hx, hcarried, rfl⟩) | ⟨n, hn, hplace⟩
  · exact .inl ⟨rfl, List.count_pos_iff.1 (Nat.pos_of_ne_zero hidle)⟩
  · exact .inr (.inl ⟨rfl, Nat.pos_of_ne_zero hheld⟩)
  · exact .inr (.inr (.inl ⟨x, hx, rfl, List.count_pos_iff.1 (Nat.pos_of_ne_zero hcarried)⟩))
  · right; right; right
    unfold Note.place? at hplace
    split at hplace
    · split at hplace
      · cases hplace
        exact .inl ⟨_, rfl⟩
      · cases hplace
    · rename_i c
      split at hplace
      · rename_i hc
        cases hplace
        exact .inr ⟨rfl, List.mem_filterMap.2 ⟨_, hn, congrArg some hc⟩⟩
      · cases hplace
    · cases hplace

theorem mem_drops_of_place (h : Place.dropped ∈ s.places conn) : conn ∈ s.pool.drops := by
  rcases of_mem_places h with ⟨h', -⟩ | ⟨h', -⟩ | ⟨⟨id, c⟩, -, h', -⟩ | ⟨id, h'⟩ | ⟨-, hdrops⟩
  · cases h'
  · cases h'
  · cases c <;> cases h'
  · cases h'
  · exact hdrops

end Custody
end PooledTcp.Pool
