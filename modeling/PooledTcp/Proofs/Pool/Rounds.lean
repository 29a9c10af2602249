import Mathlib.Data.List.Rotate
import PooledTcp.Proofs.Pool.Alone

/-!
# One caller, round after round

In a round a caller acquires a connection, uses it and releases it, and nobody else does anything. Whatever the
factory answers on the way, a release finds room for what the acquire returned: either the acquire took an entry
from the queue, which is then shorter than it was, or it found the queue empty, and there is room for one entry
at least. So the round parks its connection behind what the acquire left of the queue (`Course.parks`).

Where all idle connections are healthy and none gets too old, a round takes the front of the queue and puts it
to the back (`round_of_young`), and rounds one after the other go through the queue again and again
(`round_robin`). The entries change on the way, since each one carries the time at which it came back; their
connections are rotated.
-/

namespace PooledTcp

/-- There is room for one idle connection at least. -/
theorem PoolRequest.maxIdle_pos (r : PoolRequest) : 0 < r.limits.maxIdle := by
  simp only [limits, orDefault, defaultMaxConns, defaultInitConns]
  repeat' split
  all_goals omega

namespace Pool

/-- One round of a caller: how long it waits before it acquires, how long the health check takes, and how long
it keeps the connection. -/
structure Round where
  /-- The number of its acquire. -/
  acquire : CallId
  /-- The number of its release. -/
  release : CallId
  before : Nat
  checking : Nat
  keeping : Nat

/-- What happens in a round before the release, with a connection that is healthy. -/
def Round.taking (w : Round) : List Event :=
  [.pass w.before, .acquire w.acquire none, .pass w.checking, .pinged w.acquire none, .pass w.keeping]

/-- One round: the connection that the caller acquired and released, and the pool after it. -/
def round (p : Pool) (w : Round) : Option (ConnId × Pool) :=
  (w.taking.foldlM step p).bind fun u =>
    match u.answer? w.acquire with
    | some (.acquired (.ok conn)) => (u.step (.release w.release conn)).map (conn, ·)
    | _ => none

/-- Rounds one after the other: the connections, first round first. -/
def rounds (p : Pool) : List Round → Option (List ConnId × Pool)
  | [] => some ([], p)
  | w :: turns => (p.round w).bind fun (conn, v) => (v.rounds turns).map fun (conns, q) => (conn :: conns, q)

/-- Whenever one of the rounds looks for a connection, no idle one is too old. -/
def staysYoung (p : Pool) : List Round → Bool
  | [] => true
  | w :: turns =>
    (p.idle.getD []).all (fun x => !{ p with now := p.now + w.before }.isStale x) &&
      (p.round w).all fun (_, v) => v.staysYoung turns

/-- The release `id` of `conn` leads from `u` to `v` and parks it behind the entries `rest`. -/
structure Parked (u : Pool) (id : CallId) (conn : ConnId) (rest : List IdleEntry) (v : Pool) : Prop where
  step : u.step (.release id conn) = some v
  ended : v.Ended id (.released (.ok ()))
  idle : v.idle = some (rest ++ [⟨conn, u.now⟩])
  checkedOut : v.checkedOut + 1 = u.checkedOut
  /-- Nothing is asked of the factory, least of all to close it. -/
  asked : v.asked = u.asked
  limits : v.limits = u.limits

/-- What `turns` came to in a pool with the idle connections `queue`. -/
structure Rotated (p : Pool) (queue : List ConnId) (turns : List Round) (conns : List ConnId) (q : Pool) :
    Prop where
  length : conns.length = turns.length
  returned : ∀ i < turns.length, conns[i]? = queue[i % queue.length]?
  idle : q.idle.map (·.map (·.conn)) = some (queue.rotate turns.length)
  /-- Each round pinged its connection, and nothing else was asked of the factory. -/
  asked : q.asked = p.asked ++ turns.zipWith (fun w conn => (w.acquire, .ping conn)) conns
  checkedOut : q.checkedOut = p.checkedOut
  calls : q.calls = []

variable {r : PoolRequest} {p q u v : Pool} {id : CallId} {conn : ConnId} {w : Round} {turns : List Round}
  {x : IdleEntry} {queue rest : List IdleEntry}

section Release

/-- A release parks its connection where something is checked out and the queue has room. -/
theorem parked_of_room (hfree : u.call? id = none) (hidle : u.idle = some rest)
    (hout : 0 < u.checkedOut) (hroom : rest.length < u.limits.maxIdle) (conn : ConnId) :
    ∃ v, Parked u id conn rest v ∧ v.calls = (u.calls.map fun y => (y.1, y.2.notify)).filter (·.1 != id) := by
  have hrelease : u.release id conn =
      (({ u.freeSlot with idle := some (rest ++ [IdleEntry.mk conn u.now]) }.note
        (.idleLength (rest ++ [IdleEntry.mk conn u.now]).length)).notifyAll).finish id (.released (.ok ())) := by
    rw [release, hidle]
    simp only [Nat.ne_of_gt hout, hroom, if_false, if_true]
  refine ⟨u.release id conn, ⟨by simp [Pool.step, hfree], ?_, ?_, ?_, ?_, ?_⟩, ?_⟩
  · rw [hrelease]
    exact ended_finish _ _ _
  · simp [hrelease]
  · simp only [hrelease, finish, note_frame, notifyAll_frame, freeSlot]
    omega
  · rw [hrelease]
    exact (asked_of_history [.answered id (.released (.ok ())),
      .idleLength (rest ++ [IdleEntry.mk conn u.now]).length] rfl).trans (List.append_nil _)
  · simp [hrelease]
  · simp [hrelease]

variable {skips : List Skip} {lookedAt : Nat} {point : Point} {es : List Event} {looks : List Nat}
  {rid : CallId}

/-- Where the connection came from that an acquire returned, in a queue of which it left `rest`. -/
theorem Course.source (h : Course p id queue skips lookedAt point rest es looks u)
    (hend : u.Ended id (.acquired (.ok conn))) :
    (∃ x, x.conn = conn ∧ queue = skips.map (·.entry) ++ x :: rest) ∨
      queue = skips.map (·.entry) ∧ rest = [] := by
  have hcall := h.call
  have hresult := h.result
  have hdecided := h.decided
  have hentries := h.entries
  cases point with
  | reused x =>
    cases hend.2.symm.trans (hresult _ rfl)
    exact .inl ⟨x, rfl, hentries⟩
  | opened new =>
    cases hend.2.symm.trans (hresult _ rfl)
    obtain ⟨rfl, -⟩ := hdecided
    exact .inr ⟨by simpa [Point.taken] using hentries, rfl⟩
  | failed cause => cases hend.2.symm.trans (hresult _ rfl)
  | exhausted => cases hend.2.symm.trans (hresult _ rfl)
  | pinging _ | closing _ _ | dialing => cases hend.1.symm.trans hcall

/-- What an acquire returned, whatever the factory did meanwhile, the release parks. -/
theorem Course.parks (h : Course p id queue skips lookedAt point rest es looks u)
    (hend : u.Ended id (.acquired (.ok conn))) (hmax : queue.length ≤ p.limits.maxIdle)
    (hpos : 0 < p.limits.maxIdle) (hfree : u.call? rid = none) :
    ∃ v, Parked u rid conn rest v ∧ v.checkedOut = p.checkedOut := by
  have hslots : point.slots = 1 := by
    have hcall := h.call
    have hresult := h.result
    cases point with
    | failed cause => cases hend.2.symm.trans (hresult _ rfl)
    | exhausted => cases hend.2.symm.trans (hresult _ rfl)
    | _ => rfl
  have hout := h.checkedOut
  rw [hslots] at hout
  have hroom : rest.length < u.limits.maxIdle := by
    rw [h.limits]
    rcases h.source hend with ⟨x, -, hqueue⟩ | ⟨-, rfl⟩
    · have hlength := congrArg List.length hqueue
      simp only [List.length_append, List.length_cons] at hlength
      omega
    · exact hpos
  obtain ⟨v, hparked, -⟩ := parked_of_room hfree h.idle (by omega) hroom conn
  refine ⟨v, hparked, ?_⟩
  have hfreed := hparked.checkedOut
  omega

end Release

section Rounds

/-- An acquire that looks pings the front of the queue, if that is not too old. -/
theorem look_of_young (hidle : p.idle = some (x :: rest)) (hyoung : p.isStale x = false) (id : CallId) :
    p.look id none =
      ((p.took rest).request id (.ping x.conn)).hold id (.acquire none (.pinging x)) := by
  have hlooked := p.looked id none
  generalize p.look id none = q at hlooked ⊢
  cases hlooked with
  | refused h => cases hidle.symm.trans h
  | rejected h _ => cases hidle.symm.trans h
  | dials h _ => cases hidle.symm.trans h
  | evicts h hold =>
    cases hidle.symm.trans h
    cases hyoung.symm.trans hold
  | pings h _ =>
    cases hidle.symm.trans h
    rfl

/-- An acquire finds a healthy connection that is not too old at the front of the queue, and returns it. -/
theorem taking_of_young (hidle : p.idle = some (x :: rest)) (hquiet : p.calls = [])
    (hyoung : { p with now := p.now + w.before }.isStale x = false) :
    ∃ u, w.taking.foldlM step p = some u ∧ u.Ended w.acquire (.acquired (.ok x.conn)) ∧
      u.idle = some rest ∧ u.checkedOut = p.checkedOut + 1 ∧ u.limits = p.limits ∧ u.calls = [] ∧
      u.asked = p.asked ++ [(w.acquire, .ping x.conn)] := by
  obtain ⟨s, hs⟩ : ∃ s, { p with now := p.now + w.before } = s := ⟨_, rfl⟩
  have hpass : p.step (.pass w.before) = some s := congrArg some hs
  rw [hs] at hyoung
  obtain ⟨hfront, hout, hlimits, hcalls, hhistory⟩ : s.idle = some (x :: rest) ∧
      s.checkedOut = p.checkedOut ∧ s.limits = p.limits ∧ s.calls = [] ∧ s.history = p.history := by
    rw [← hs]
    exact ⟨hidle, rfl, rfl, hquiet, rfl⟩
  have hlook := look_of_young hfront hyoung w.acquire
  have hacquire : s.step (.acquire w.acquire none) = some (s.look w.acquire none) := by
    simp [Pool.step, call?, hcalls]
  rw [hlook] at hacquire
  generalize hq : ((s.took rest).request w.acquire (.ping x.conn)).hold w.acquire
    (.acquire none (.pinging x)) = q at hacquire
  have hid : { q with now := q.now + w.checking }.call? w.acquire = some (.acquire none (.pinging x)) := by
    rw [← hq]
    exact call?_hold_self _ _ _
  have hping : { q with now := q.now + w.checking }.step (.pinged w.acquire none) =
      some ({ q with now := q.now + w.checking }.afterPing w.acquire none x none) := by
    simp only [Pool.step, hid]
  refine ⟨{ { q with now := q.now + w.checking }.afterPing w.acquire none x none with
    now := q.now + w.checking + w.keeping }, ?_, ended_finish _ _ _, ?_, ?_, ?_, ?_, ?_⟩
  · simp only [Round.taking, List.foldlM_cons, List.foldlM_nil, Option.bind_eq_bind, hpass, hacquire,
      Option.bind_some]
    rw [show q.step (.pass w.checking) = some { q with now := q.now + w.checking } from rfl,
      Option.bind_some, hping]
    rfl
  · simp [afterPing, ← hq, took]
  · simp [afterPing, ← hq, took, hout]
  · simp [afterPing, ← hq, took, hlimits]
  · simp [afterPing, ← hq, took, hcalls]
  · exact asked_of_history [.answered w.acquire (.acquired (.ok x.conn)), .acquired .idle, .logged .reusing,
      .called w.acquire (.ping x.conn), .idleLength rest.length] (by rw [← hhistory, ← hq]; rfl)

/-- A round takes a healthy connection that is not too old from the front of the queue and puts it to the
back. -/
theorem round_of_young (hidle : p.idle = some (x :: rest)) (hquiet : p.calls = [])
    (hroom : rest.length < p.limits.maxIdle)
    (hyoung : { p with now := p.now + w.before }.isStale x = false) :
    ∃ v back, p.round w = some (x.conn, v) ∧ v.idle = some (rest ++ [⟨x.conn, back⟩]) ∧
      v.checkedOut = p.checkedOut ∧ v.limits = p.limits ∧ v.calls = [] ∧
      v.asked = p.asked ++ [(w.acquire, .ping x.conn)] := by
  obtain ⟨u, hu, hend, hqueue, hout, hlimits, hcalls, hasked⟩ := taking_of_young hidle hquiet hyoung
  have hfree : u.call? w.release = none := by simp [call?, hcalls]
  obtain ⟨v, hparked, hleft⟩ :=
    parked_of_room hfree hqueue (hout ▸ Nat.succ_pos _) (hlimits ▸ hroom) x.conn
  have hfreed := hparked.checkedOut
  refine ⟨v, u.now, ?_, hparked.idle, by omega, hparked.limits.trans hlimits, ?_, hparked.asked.trans hasked⟩
  · simp [round, hu, hend.2, hparked.step]
  · simp [hleft, hcalls]

/-- The queue with its front at the back is the rotated queue. -/
theorem getElem?_back {α : Type} (a : α) (l : List α) (i : Nat) :
    (l ++ [a])[i % (l ++ [a]).length]? = (a :: l)[(i + 1) % (a :: l).length]? := by
  have hlength : (l ++ [a]).length = (a :: l).length := by simp
  have hlt : i % (a :: l).length < (a :: l).length := Nat.mod_lt _ (Nat.succ_pos _)
  have hback : l ++ [a] = (a :: l).rotate 1 := by rw [List.rotate_cons_succ, List.rotate_zero]
  rw [hlength, hback, List.getElem?_rotate hlt, Nat.mod_add_mod]

/-- The first round takes the front of the queue to the back; the rounds after it find the rest in front of it. -/
theorem Rotated.cons {conns : List ConnId} {queue : List ConnId}
    (h : Rotated v (queue ++ [conn]) turns conns q)
    (hasked : v.asked = p.asked ++ [(w.acquire, .ping conn)]) (hout : v.checkedOut = p.checkedOut) :
    Rotated p (conn :: queue) (w :: turns) (conn :: conns) q where
  length := congrArg (· + 1) h.length
  returned i hi := by
    cases i with
    | zero => simp
    | succ i =>
      rw [List.getElem?_cons_succ, h.returned i (Nat.lt_of_succ_lt_succ hi)]
      exact getElem?_back conn queue i
  idle := by rw [h.idle, List.length_cons, List.rotate_cons_succ]
  asked := by rw [h.asked, hasked, List.append_assoc]; rfl
  checkedOut := h.checkedOut.trans hout
  calls := h.calls

/-- By induction on the rounds: each of them leaves the queue as long as it was, and its front at the back. -/
theorem rotated_of_young (hidle : p.idle = some queue) (hsome : queue ≠ []) (hquiet : p.calls = [])
    (hroom : queue.length ≤ p.limits.maxIdle) (hyoung : p.staysYoung turns = true) :
    ∃ conns q, p.rounds turns = some (conns, q) ∧ Rotated p (queue.map (·.conn)) turns conns q := by
  induction turns generalizing p queue with
  | nil =>
    exact ⟨[], p, rfl, rfl, fun i hi => absurd hi (Nat.not_lt_zero i), by simp [hidle],
      (List.append_nil _).symm, rfl, hquiet⟩
  | cons w turns ih =>
    cases queue with
    | nil => exact absurd rfl hsome
    | cons x rest =>
      simp only [staysYoung, Bool.and_eq_true, hidle, Option.getD_some, List.all_eq_true] at hyoung
      obtain ⟨hnow, hlater⟩ := hyoung
      have hfront := hnow x List.mem_cons_self
      rw [Bool.not_eq_true'] at hfront
      obtain ⟨v, back, hround, hqueue, hout, hlimits, hcalls, hasked⟩ :=
        round_of_young hidle hquiet hroom hfront
      rw [hround] at hlater
      have hroom' : (rest ++ [(⟨x.conn, back⟩ : IdleEntry)]).length ≤ v.limits.maxIdle := by
        rw [hlimits, List.length_append]
        exact hroom
      obtain ⟨conns, q, hrounds, hrotated⟩ := ih hqueue (by simp) hcalls hroom' hlater
      rw [List.map_append] at hrotated
      exact ⟨x.conn :: conns, q, by simp [rounds, hround, hrounds], hrotated.cons hasked hout⟩

end Rounds

/-- Where nothing is in flight and the idle connections are healthy and do not get too old, rounds of one caller
return one connection of the queue after the other, over and over; they only ping, the slots are as before, and the
queue is rotated once for each round. And whatever the factory does during one round, however many entries the
acquire evicts: what it returns is the first entry that it did not evict, or a new connection if it evicted them
all, and the release parks it behind the entries that are left, with the slots as before. -/
theorem round_robin :
    (∀ {r : PoolRequest} {p : Pool} {queue : List IdleEntry} {turns : List Round}, Reachable r p →
      p.calls = [] → p.idle = some queue → queue ≠ [] → p.staysYoung turns = true →
      ∃ conns q, p.rounds turns = some (conns, q) ∧ Rotated p (queue.map (·.conn)) turns conns q) ∧
    ∀ {r : PoolRequest} {p u : Pool} {id rid : CallId} {queue : List IdleEntry} {es : List Event}
      {conn : ConnId}, Reachable r p → p.idle = some queue → Run step p (.acquire id none :: es) u →
      (∀ e ∈ es, e.isReply id) → u.Ended id (.acquired (.ok conn)) → u.call? rid = none →
      ∃ skips lookedAt point rest v,
        Course p id queue skips lookedAt point rest es
          (along step lookTimes p (.acquire id none :: es)) u ∧
        ((∃ x, x.conn = conn ∧ queue = skips.map (·.entry) ++ x :: rest) ∨
          queue = skips.map (·.entry) ∧ rest = []) ∧
        Parked u rid conn rest v ∧ v.checkedOut = p.checkedOut := by
  constructor
  · intro r p queue turns hreach hquiet hidle hsome hyoung
    obtain ⟨hlimits, hmax, -⟩ := hreach.capacity
    rw [idleCount_eq hidle, ← hlimits] at hmax
    exact rotated_of_young hidle hsome hquiet hmax hyoung
  · intro r p u id rid queue es conn hreach hidle hrun halone hend hfree
    obtain ⟨hlimits, hmax, htotal⟩ := hreach.capacity
    rw [idleCount_eq hidle, ← hlimits] at hmax htotal
    obtain ⟨skips, lookedAt, point, rest, h⟩ := course_of_run htotal hidle hrun halone
    obtain ⟨v, hparked, hout⟩ := h.parks hend hmax (hlimits ▸ r.maxIdle_pos) hfree
    exact ⟨skips, lookedAt, point, rest, v, h, h.source hend, hparked, hout⟩

/-- Five rounds over three connections with a timeout of twenty, which is longer than any of them is idle. And in
the same pool a round whose pings fail twice: the third connection is returned and parked, and the queue is
shorter than before. -/
theorem round_robin_of_three : ∃ p u conns q v,
    Reachable ⟨3, 4, 3, ⟨20, by decide⟩⟩ p ∧ p.idle = some [⟨0, 0⟩, ⟨1, 0⟩, ⟨2, 0⟩] ∧
    p.rounds (List.replicate 5 ⟨1, 2, 1, 2, 1⟩) = some (conns, q) ∧ conns = [0, 1, 2, 0, 1] ∧
    q.idle = some [⟨2, 12⟩, ⟨0, 16⟩, ⟨1, 20⟩] ∧
    Rotated p [0, 1, 2] (List.replicate 5 ⟨1, 2, 1, 2, 1⟩) conns q ∧
    Run step p [.acquire 1 none, .pinged 1 (some (.raised .other "gone")), .closed 1 none,
      .pinged 1 (some (.raised .other "gone")), .closed 1 none, .pinged 1 none] u ∧
    Parked u 2 2 [] v ∧ v.idle = some [⟨2, 0⟩] ∧ v.checkedOut = p.checkedOut := by
  have hopen := Opened.of_foldlM (r := ⟨3, 4, 3, ⟨20, by decide⟩⟩)
    [.dialed (.ok 0), .dialed (.ok 1), .dialed (.ok 2)] rfl
  have hreach := hopen.reachable hopen.start
  have hrun := hopen.start.further [.acquire 1 none, .pinged 1 (some (.raised .other "gone")),
    .closed 1 none, .pinged 1 (some (.raised .other "gone")), .closed 1 none, .pinged 1 none] rfl
  obtain ⟨conns, q, hrounds, hrotated⟩ := round_robin.1 hreach rfl rfl (by decide)
    (show Pool.staysYoung _ (List.replicate 5 ⟨1, 2, 1, 2, 1⟩) = true from rfl)
  obtain ⟨_, _, _, rest, v, -, hsource, hparked, hout⟩ :=
    round_robin.2 hreach rfl hrun (by decide) ⟨rfl, rfl⟩ (show Pool.call? _ 2 = none from rfl)
  cases hrounds
  obtain rfl := Option.some.inj hparked.step
  have hback : some [(⟨2, 0⟩ : IdleEntry)] = some (rest ++ [⟨2, 0⟩]) := hparked.idle
  obtain rfl : rest = [] := by simpa using hback
  exact ⟨_, _, _, _, _, hreach, rfl, rfl, rfl, rfl, hrotated, hrun, hparked, hparked.idle, hout⟩

end Pool
end PooledTcp
