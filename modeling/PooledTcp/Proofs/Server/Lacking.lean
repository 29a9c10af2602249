import PooledTcp.Proofs.Server.Lifecycle

/-!
# A server that lacks some of its loops

A server without some of its loops, and without the listeners that they count, is followed next to the server
that has them (`Lacks`). Every operation keeps the two together, and so does every event that is not about a
missing loop: it can happen to one where it can happen to the other, and both note the same (`Lacks.step`). All that a
missing loop can hold up is a close, for as long as its listener is counted. Where no listener is missing, one
server has the runs of the other (`Midway.Lacks.run`, `Midway.Lacks.run_back`).

Nothing that a server does depends on what it has noted before, which is the case of a server that lacks nothing
(`run_withHistory_iff`).
-/

namespace PooledTcp.Server

/-- The call that an event is about. -/
def Event.call? : Event → Option CallId
  | .listenAndServe id | .bound id _ | .serve id _ | .accept id _ | .acceptFails id _ _ | .resume id
  | .dropLoop id | .close id | .shutdown id _ | .proceed id => some id
  | .begin _ | .finish _ _ _ | .triggerBase | .pass _ => none

def Midway.Event.call? : Midway.Event → Option CallId
  | .whole e => e.call?
  | .count id _ | .enter id | .record id | .mark id _ | .signal id => some id

/-- What is noted where `k` listeners fewer are counted. -/
def Note.fewer (k : Nat) : Note → Note
  | .listeners n => .listeners (n - k)
  | n => n

/-- Since their histories were `h` and `g`, `u` has noted what `s` has, and it is `s` without the loops that are not in
`K` and without the `k` listeners that these count. -/
def Lacks (K : CallId → Bool) (k : Nat) (h g : List Note) (s u : Server) : Prop :=
  ∃ news, s.history = news ++ h ∧ u = { s with
    loops := s.loops.filter (K ·.1)
    listeners := s.listeners - k
    history := news.map (.fewer k) ++ g }

/-- The server with another past. -/
def Midway.withHistory (m : Midway) (h : List Note) : Midway :=
  { m with server := { m.server with history := h } }

/-- And the loops that are missing are within their first steps, if at all, in `m` only. -/
structure Midway.Lacks (K : CallId → Bool) (k : Nat) (h g : List Note) (m n : Midway) : Prop where
  server : Server.Lacks K k h g m.server n.server
  entering : n.entering = m.entering.filter (K ·.1)
  marking : n.marking = m.marking

variable {K : CallId → Bool} {k : Nat} {h g : List Note} {s t u : Server} {id : CallId}

section Entries

variable {β : Type}

/-- A key that is kept finds what it found. -/
theorem lookup_filter_of_kept (hid : K id = true) (entries : List (CallId × β)) :
    (entries.filter (K ·.1)).lookup id = entries.lookup id := by
  induction entries with
  | nil => rfl
  | cons e es ih =>
    obtain ⟨key, value⟩ := e
    by_cases hkey : K key = true
    · rw [List.filter_cons_of_pos (by exact hkey), List.lookup_cons, List.lookup_cons, ih]
    · have hne : (id == key) = false := by
        rw [beq_eq_false_iff_ne]
        rintro rfl
        exact hkey hid
      rw [List.filter_cons_of_neg (by exact hkey), List.lookup_cons, hne, ih]

theorem filter_dropped (entries : List (CallId × β)) :
    (entries.filter (·.1 != id)).filter (K ·.1) = (entries.filter (K ·.1)).filter (·.1 != id) := by
  simp only [List.filter_filter, Bool.and_comm]

theorem filter_put_of_kept (hid : K id = true) (value : β) (entries : List (CallId × β)) :
    (put id value entries).filter (K ·.1) = put id value (entries.filter (K ·.1)) := by
  rw [put, List.filter_cons_of_pos (by exact hid), filter_dropped, put]

end Entries

namespace Lacks

/-- Only the missing loops, their listeners and the past tell the two apart. -/
theorem fields (hs : Lacks K k h g s u) : u = { s with
    loops := s.loops.filter (K ·.1), listeners := s.listeners - k, history := u.history } := by
  obtain ⟨news, hhist, rfl⟩ := hs
  rfl

theorem isClosed (hs : Lacks K k h g s u) : u.isClosed = s.isClosed := by
  rw [hs.fields]
  rfl

theorem active (hs : Lacks K k h g s u) : u.active = s.active := by rw [hs.fields]

theorem now (hs : Lacks K k h g s u) : u.now = s.now := by rw [hs.fields]

theorem done (hs : Lacks K k h g s u) : u.done = s.done := by rw [hs.fields]

theorem force (hs : Lacks K k h g s u) : u.force = s.force := by rw [hs.fields]

theorem addr (hs : Lacks K k h g s u) : u.addr = s.addr := by rw [hs.fields]

theorem stops (hs : Lacks K k h g s u) : u.stops = s.stops := by rw [hs.fields]

theorem conns (hs : Lacks K k h g s u) : u.conns = s.conns := by rw [hs.fields]

theorem listeners (hs : Lacks K k h g s u) : u.listeners = s.listeners - k := by rw [hs.fields]

theorem lookup (hs : Lacks K k h g s u) (hid : K id = true) : u.loops.lookup id = s.loops.lookup id := by
  rw [hs.fields]
  exact lookup_filter_of_kept hid _

theorem isBusy (hs : Lacks K k h g s u) (hid : K id = true) : u.isBusy id = s.isBusy id := by
  rw [Server.isBusy, hs.lookup hid, hs.stops, Server.isBusy]

/-- Both note the same, but for how many listeners there are. -/
theorem note (hs : Lacks K k h g s u) (n : Note) : Lacks K k h g (s.note n) (u.note (n.fewer k)) := by
  obtain ⟨news, hhist, rfl⟩ := hs
  exact ⟨n :: news, congrArg (n :: ·) hhist, rfl⟩

theorem answer (hs : Lacks K k h g s u) (id : CallId) (a : Except ServerError Unit) :
    Lacks K k h g (s.answer id a) (u.answer id a) :=
  hs.note (.answered id a)

theorem holdLoop (hs : Lacks K k h g s u) (hid : K id = true) (stage : ServeStage) :
    Lacks K k h g (s.holdLoop id stage) (u.holdLoop id stage) := by
  obtain ⟨news, hhist, rfl⟩ := hs
  refine ⟨news, hhist, ?_⟩
  simp only [Server.holdLoop, filter_put_of_kept hid]

theorem dropLoop (hs : Lacks K k h g s u) (id : CallId) : Lacks K k h g (s.dropLoop id) (u.dropLoop id) := by
  obtain ⟨news, hhist, rfl⟩ := hs
  refine ⟨news, hhist, ?_⟩
  simp only [Server.dropLoop, filter_dropped]

theorem holdStop (hs : Lacks K k h g s u) (id : CallId) (stage : StopStage) :
    Lacks K k h g (s.holdStop id stage) (u.holdStop id stage) := by
  obtain ⟨news, hhist, rfl⟩ := hs
  exact ⟨news, hhist, rfl⟩

theorem endStop (hs : Lacks K k h g s u) (id : CallId) (a : Except ServerError Unit) :
    Lacks K k h g (s.endStop id a) (u.endStop id a) := by
  obtain ⟨news, hhist, rfl⟩ := hs
  exact ⟨.answered id a :: news, congrArg (_ :: ·) hhist, rfl⟩

/-- One listener more is one more also without the missing ones. -/
theorem countListener (hs : Lacks K k h g s u) (hk : k ≤ s.listeners) :
    Lacks K k h g s.countListener u.countListener := by
  obtain ⟨news, hhist, rfl⟩ := hs
  have hcount : s.listeners + 1 - k = s.listeners - k + 1 := Nat.sub_add_comm hk
  refine ⟨.listeners (s.listeners + 1) :: news, congrArg (_ :: ·) hhist, ?_⟩
  simp only [Server.countListener, Server.note, List.map_cons, Note.fewer, hcount, List.cons_append]

theorem releaseListener (hs : Lacks K k h g s u) (id : CallId) :
    Lacks K k h g (s.releaseListener id) (u.releaseListener id) := by
  obtain ⟨news, hhist, rfl⟩ := hs
  have hcount : s.listeners - 1 - k = s.listeners - k - 1 := Nat.sub_right_comm _ _ _
  rw [releaseListener_eq, releaseListener_eq]
  refine ⟨.listeners (s.listeners - 1) :: .released id :: news, by rw [hhist]; rfl, ?_⟩
  simp only [List.map_cons, Note.fewer, hcount, List.cons_append]

theorem beginLoop (hs : Lacks K k h g s u) (hid : K id = true) (hk : k ≤ s.listeners) (address : String) :
    Lacks K k h g (s.beginLoop id address) (u.beginLoop id address) := by
  have hcounted := hs.countListener hk
  simp only [Server.beginLoop, hcounted.isClosed]
  split
  · exact ((hcounted.releaseListener id).dropLoop id).answer id _
  · have hlistens : Lacks K k h g { s.countListener with state := .listening, localAddr := some address }
        { u.countListener with state := .listening, localAddr := some address } := by
      obtain ⟨news, hhist, heq⟩ := hcounted
      exact ⟨news, hhist, by rw [heq]⟩
    exact (hlistens.note (.listening address)).holdLoop hid _

theorem endLoop (hs : Lacks K k h g s u) (id : CallId) (address : String) :
    Lacks K k h g (s.endLoop id address) (u.endLoop id address) :=
  (((hs.releaseListener id).note (.stopped address)).dropLoop id).answer id _

theorem dispatch (hs : Lacks K k h g s u) (address peer : String) :
    Lacks K k h g (s.dispatch address peer) (u.dispatch address peer) := by
  obtain ⟨news, hhist, rfl⟩ := hs
  unfold Server.dispatch
  dsimp only [Server.note]
  split
  · exact ⟨_ :: _ :: news, congrArg (_ :: _ :: ·) hhist, rfl⟩
  · split
    · exact ⟨_ :: _ :: news, congrArg (_ :: _ :: ·) hhist, rfl⟩
    · exact ⟨_ :: _ :: _ :: news, congrArg (_ :: _ :: _ :: ·) hhist, rfl⟩

theorem report (hs : Lacks K k h g s u) (conn : GuardId) (c : Connection) (ending : Ending) :
    Lacks K k h g (s.report conn c ending) (u.report conn c ending) := by
  cases ending with
  | returned => exact hs
  | panicked p =>
    unfold Server.report
    dsimp only
    split
    · exact hs.note _
    · exact hs
  | forced => exact hs.note _

theorem untrack (hs : Lacks K k h g s u) (conn : GuardId) :
    Lacks K k h g (s.untrack conn) (u.untrack conn) := by
  obtain ⟨news, hhist, rfl⟩ := hs
  rw [untrack_eq, untrack_eq]
  exact ⟨_ :: news, congrArg (_ :: ·) hhist, rfl⟩

theorem markClosed (hs : Lacks K k h g s u) : Lacks K k h g s.markClosed u.markClosed := by
  obtain ⟨news, hhist, rfl⟩ := hs
  unfold Server.markClosed
  dsimp only
  split
  · exact ⟨news, hhist, rfl⟩
  · exact ⟨_ :: news, congrArg (_ :: ·) hhist, rfl⟩

theorem beginDrain (hs : Lacks K k h g s u) (id : CallId) (grace : Duration) :
    Lacks K k h g (s.beginDrain id grace) (u.beginDrain id grace) := by
  rw [Server.beginDrain, Server.beginDrain, hs.active, hs.now]
  split
  · exact (hs.note .drained).endStop id _
  · exact hs.holdStop id _

theorem forceAll (hs : Lacks K k h g s u) (id : CallId) (grace : Duration) :
    Lacks K k h g (s.forceAll id grace) (u.forceAll id grace) := by
  obtain ⟨news, hhist, rfl⟩ := hs
  unfold Server.forceAll
  dsimp only
  split
  · exact endStop ⟨news, hhist, rfl⟩ id _
  · exact ⟨.graceOver s.active grace :: news, congrArg (_ :: ·) hhist, rfl⟩

theorem bound (hs : Lacks K k h g s u) (hid : K id = true) (hk : k ≤ s.listeners)
    (result : Except BindFailure String) :
    Option.Rel (Lacks K k h g) (s.step (.bound id result)) (u.step (.bound id result)) := by
  simp only [Server.step, hs.lookup hid]
  cases hstage : s.loops.lookup id with
  | none => exact .none
  | some stage =>
    cases stage with
    | binding =>
      cases result with
      | ok address => exact .some (((hs.note (.opened id)).note (.bound address)).beginLoop hid hk address)
      | error failure =>
        cases failure with
        | refused cause =>
          dsimp only
          rw [hs.addr]
          exact .some ((hs.dropLoop id).answer id _)
        | untold cause =>
          exact .some ((((hs.note (.opened id)).note (.released id)).dropLoop id).answer id _)
    | _ => exact .none

theorem resume (hs : Lacks K k h g s u) (hid : K id = true) :
    Option.Rel (Lacks K k h g) (s.step (.resume id)) (u.step (.resume id)) := by
  simp only [Server.step, hs.lookup hid, hs.done, hs.now]
  cases hstage : s.loops.lookup id with
  | none => exact .none
  | some stage =>
    cases stage with
    | binding => exact .none
    | accepting address backoff =>
      dsimp only
      split
      · exact .some (hs.endLoop id address)
      · exact .none
    | retrying address backoff until_ =>
      dsimp only
      split
      · exact .some (hs.endLoop id address)
      split
      · exact .some (hs.holdLoop hid _)
      · exact .none

/-- A close goes on where no listener is counted, and so without the missing ones, for which it may have to wait. -/
theorem proceed (hs : Lacks K k h g s u) (hwaits : k ≠ 0 → s.step (.proceed id) ≠ none) :
    Option.Rel (Lacks K k h g) (s.step (.proceed id)) (u.step (.proceed id)) := by
  simp only [Server.step, hs.stops, hs.active, hs.now, hs.listeners] at hwaits ⊢
  cases hstage : s.stops.lookup id with
  | none => exact .none
  | some stage =>
    cases stage with
    | closing grace =>
      simp only [hstage] at hwaits ⊢
      by_cases hzero : s.listeners = 0
      · rw [if_pos hzero, if_pos (by omega)]
        cases grace with
        | none => exact .some ((hs.note (.closed id)).endStop id _)
        | some grace => exact .some ((hs.note (.closed id)).beginDrain id grace)
      · have hnone : k = 0 := Decidable.of_not_not fun hne => hwaits hne (if_neg hzero)
        rw [if_neg hzero, if_neg (by omega)]
        exact .none
    | draining grace deadline told =>
      dsimp only
      split
      · exact .some ((hs.note .drained).endStop id _)
      split
      · exact .some (hs.forceAll id grace)
      split
      · exact .some (hs.holdStop id _)
      · exact .none
    | forcing remaining deadline told =>
      dsimp only
      split
      · exact .some (hs.endStop id _)
      split
      · exact .some ((hs.note (.stillOpen _)).endStop id _)
      split
      · exact .some (hs.holdStop id _)
      · exact .none

/-- What is not about a missing loop can happen to one where it can happen to the other, but that a close waits for
the missing listeners. -/
theorem step {e : Event} (hs : Lacks K k h g s u) (hcall : ∀ id, e.call? = some id → K id = true)
    (hk : k ≤ s.listeners) (hwaits : k ≠ 0 → s.step e ≠ none) :
    Option.Rel (Lacks K k h g) (s.step e) (u.step e) := by
  cases e with
  | listenAndServe id =>
    have hid := hcall id rfl
    simp only [Server.step, hs.isBusy hid, hs.isClosed, hs.addr]
    split
    · exact .none
    split
    · exact .some (hs.answer id _)
    split
    · exact .some (hs.answer id _)
    · exact .some (hs.holdLoop hid _)
  | bound id result => exact hs.bound (hcall id rfl) hk result
  | serve id address =>
    have hid := hcall id rfl
    simp only [Server.step, hs.isBusy hid]
    split
    · exact .none
    cases address with
    | error cause => exact .some (hs.answer id _)
    | ok address => exact .some ((hs.note (.given id)).beginLoop hid hk address)
  | accept id peer =>
    have hid := hcall id rfl
    simp only [Server.step, hs.lookup hid, hs.done]
    cases hstage : s.loops.lookup id with
    | none => exact .none
    | some stage =>
      cases stage with
      | accepting address backoff =>
        dsimp only
        split
        · exact .none
        · exact .some (((hs.note .accepted).dispatch address peer).holdLoop hid _)
      | _ => exact .none
  | acceptFails id cause draw =>
    have hid := hcall id rfl
    simp only [Server.step, hs.lookup hid, hs.done, hs.now]
    cases hstage : s.loops.lookup id with
    | none => exact .none
    | some stage =>
      cases stage with
      | accepting address backoff =>
        dsimp only
        split
        · exact .none
        · exact .some ((hs.note (.acceptFailed _ _ _)).holdLoop hid _)
      | _ => exact .none
  | resume id => exact hs.resume (hcall id rfl)
  | dropLoop id =>
    have hid := hcall id rfl
    simp only [Server.step, hs.lookup hid]
    cases hstage : s.loops.lookup id with
    | none => exact .none
    | some stage =>
      cases stage with
      | binding => exact .some (hs.dropLoop id)
      | _ => exact .some ((hs.releaseListener id).dropLoop id)
  | close id =>
    simp only [Server.step, hs.isBusy (hcall id rfl)]
    split
    · exact .none
    · exact .some (hs.markClosed.holdStop id _)
  | shutdown id grace =>
    simp only [Server.step, hs.isBusy (hcall id rfl)]
    split
    · exact .none
    · exact .some (hs.markClosed.holdStop id _)
  | proceed id => exact hs.proceed hwaits
  | begin conn =>
    simp only [Server.step, hs.conns]
    cases hconn : s.conns.lookup conn with
    | none => exact .none
    | some c =>
      dsimp only
      split
      · exact .none
      · obtain ⟨news, hhist, rfl⟩ := hs
        exact .some ⟨_ :: news, congrArg (_ :: ·) hhist, rfl⟩
  | finish conn ending failure =>
    simp only [Server.step, hs.conns, hs.force]
    cases hconn : s.conns.lookup conn with
    | none => exact .none
    | some c =>
      dsimp only
      split
      · exact .some ((((hs.report conn c ending).note (.shutSocket conn failure)).note
          (.droppedSocket conn)).untrack conn)
      · exact .none
  | triggerBase =>
    obtain ⟨news, hhist, rfl⟩ := hs
    exact .some ⟨news, hhist, rfl⟩
  | pass nanos =>
    obtain ⟨news, hhist, rfl⟩ := hs
    exact .some ⟨news, hhist, rfl⟩

end Lacks

theorem Note.map_fewer_zero (news : List Note) : news.map (.fewer 0) = news := by
  refine List.map_id'' (fun n => ?_) news
  cases n <;> rfl

theorem Event.call?_of_loop? {e : Event} (h : e.loop? = some id) : e.call? = some id := by
  cases e <;> first | exact h | cases h

theorem Midway.Event.call?_of_loop? {e : Midway.Event} (h : e.loop? = some id) : e.call? = some id := by
  cases e with
  | whole e => exact Server.Event.call?_of_loop? h
  | count _ _ | enter _ | record _ => exact h
  | mark _ _ | signal _ => cases h

namespace Midway

variable {m n : Midway} {es : List Midway.Event}

namespace Lacks

theorem lookup (hs : m.Lacks K k h g n) (hid : K id = true) : n.entering.lookup id = m.entering.lookup id := by
  rw [hs.entering, lookup_filter_of_kept hid]

theorem holds {e : Server.Event} (hs : m.Lacks K k h g n) (hcall : ∀ id, e.call? = some id → K id = true) :
    n.Holds e = m.Holds e := by
  have hloop : e.loop?.bind (n.entering.lookup ·) = e.loop?.bind (m.entering.lookup ·) := by
    cases hid : e.loop? with
    | none => rfl
    | some id => exact hs.lookup (hcall id (Server.Event.call?_of_loop? hid))
  rw [Holds, hloop, hs.marking, Holds]

theorem step {e : Midway.Event} (hs : m.Lacks K k h g n) (hcall : ∀ id, e.call? = some id → K id = true)
    (hk : k ≤ m.server.listeners) (hwaits : k ≠ 0 → m.step e ≠ none) :
    Option.Rel (Midway.Lacks K k h g) (m.step e) (n.step e) := by
  cases e with
  | whole e =>
    simp only [Midway.step, hs.holds hcall] at hwaits ⊢
    cases hholds : m.Holds e with
    | true => exact .none
    | false =>
      have hrel := hs.server.step hcall hk fun hne hnone => hwaits hne (by simp [hnone])
      generalize m.server.step e = a at hrel
      generalize n.server.step e = b at hrel
      cases hrel with
      | none => exact .none
      | some hboth => exact .some ⟨hboth, hs.entering, hs.marking⟩
  | count id address =>
    have hid := hcall id rfl
    have hput (x : Entry) : put id x n.entering = (put id x m.entering).filter (K ·.1) := by
      rw [hs.entering, filter_put_of_kept hid]
    simp only [Midway.step, hs.server.lookup hid, hs.server.isBusy hid]
    split
    · exact .some ⟨(((hs.server.note (.opened id)).note (.bound address)).countListener hk).holdLoop hid _,
        hput _, hs.marking⟩
    split
    · exact .none
    · exact .some ⟨((hs.server.note (.given id)).countListener hk).holdLoop hid _, hput _, hs.marking⟩
  | enter id =>
    have hid := hcall id rfl
    simp only [Midway.step, hs.lookup hid, hs.server.isClosed]
    cases hentry : m.entering.lookup id with
    | none => exact .none
    | some entry =>
      cases entry with
      | counted address =>
        dsimp only
        split
        · refine .some ⟨((hs.server.releaseListener id).dropLoop id).answer id _, ?_, hs.marking⟩
          show n.entering.filter (·.1 != id) = _
          rw [hs.entering, filter_dropped]
        · refine .some ⟨?_, ?_, hs.marking⟩
          · obtain ⟨news, hhist, heq⟩ := hs.server
            exact ⟨news, hhist, by rw [heq]⟩
          · show put id _ n.entering = _
            rw [hs.entering, filter_put_of_kept hid]
      | marked address => exact .none
  | record id =>
    have hid := hcall id rfl
    simp only [Midway.step, hs.lookup hid]
    cases hentry : m.entering.lookup id with
    | none => exact .none
    | some entry =>
      cases entry with
      | counted address => exact .none
      | marked address =>
        refine .some ⟨?_, ?_, hs.marking⟩
        · obtain ⟨news, hhist, heq⟩ := hs.server
          refine ⟨.listening address :: news, congrArg (_ :: ·) hhist, ?_⟩
          rw [heq]
          rfl
        · show n.entering.filter (·.1 != id) = _
          rw [hs.entering, filter_dropped]
  | mark id grace =>
    simp only [Midway.step, hs.server.isBusy (hcall id rfl)]
    split
    · exact .none
    · refine .some ⟨?_, hs.entering, ?_⟩
      · obtain ⟨news, hhist, heq⟩ := hs.server
        refine ⟨news, hhist, ?_⟩
        rw [heq]
        rfl
      · show (id, n.server.state) :: n.marking = (id, m.server.state) :: m.marking
        rw [hs.marking, hs.server.fields]
  | signal id =>
    simp only [Midway.step, hs.marking]
    cases hid : m.marking.lookup id with
    | none => exact .none
    | some previous =>
      refine .some ⟨?_, hs.entering, rfl⟩
      obtain ⟨news, hhist, heq⟩ := hs.server
      rw [heq]
      show Server.Lacks K k h g (m.server.signal previous) _
      unfold Server.signal
      dsimp only
      split
      · exact ⟨news, hhist, rfl⟩
      · exact ⟨_ :: news, congrArg (_ :: ·) hhist, rfl⟩

/-- What can happen to the server with all its loops can happen to the other. -/
theorem step_some {e : Midway.Event} {m' : Midway} (hs : m.Lacks K k h g n)
    (hcall : ∀ id, e.call? = some id → K id = true) (hk : k ≤ m.server.listeners) (hstep : m.step e = some m') :
    ∃ n', n.step e = some n' ∧ m'.Lacks K k h g n' := by
  have hrel := hs.step hcall hk fun _ hnone => by cases hnone.symm.trans hstep
  rw [hstep] at hrel
  generalize n.step e = b at hrel
  cases hrel with
  | some hboth => exact ⟨_, rfl, hboth⟩

/-- Where no listener is missing, what can happen to the other can happen to it. -/
theorem step_back {e : Midway.Event} {n' : Midway} (hs : m.Lacks K 0 h g n)
    (hcall : ∀ id, e.call? = some id → K id = true) (hstep : n.step e = some n') :
    ∃ m', m.step e = some m' ∧ m'.Lacks K 0 h g n' := by
  have hrel := hs.step hcall (Nat.zero_le _) fun hne => absurd rfl hne
  rw [hstep] at hrel
  generalize m.step e = a at hrel
  cases hrel with
  | some hboth => exact ⟨_, rfl, hboth⟩

theorem run {m' : Midway} (hs : m.Lacks K 0 h g n)
    (hes : ∀ e ∈ es, ∀ id, Midway.Event.call? e = some id → K id = true) (hrun : Run Midway.step m es m') :
    ∃ n', Run Midway.step n es n' ∧ m'.Lacks K 0 h g n' :=
  hrun.follow (fun _ _ _ _ hboth hcall hstep => hboth.step_some hcall (Nat.zero_le _) hstep) hes hs

theorem run_back {n' : Midway} (hs : m.Lacks K 0 h g n)
    (hes : ∀ e ∈ es, ∀ id, Midway.Event.call? e = some id → K id = true) (hrun : Run Midway.step n es n') :
    ∃ m', Run Midway.step m es m' ∧ m'.Lacks K 0 h g n' :=
  hrun.follow (R := fun (n m : Midway) => m.Lacks K 0 h g n)
    (fun _ _ e _ hboth hcall hstep => hboth.step_back (e := e) hcall hstep) hes hs

end Lacks

/-- A server that lacks nothing is the same server with another past. -/
theorem lacks_nothing_iff : m.Lacks (fun _ => true) 0 h g n ↔
    ∃ news, m.server.history = news ++ h ∧ n = m.withHistory (news ++ g) := by
  have hall {β : Type} (entries : List (CallId × β)) : entries.filter (fun _ => true) = entries :=
    List.filter_eq_self.2 fun _ _ => rfl
  constructor
  · rintro ⟨⟨news, hhist, heq⟩, hentering, hmarking⟩
    refine ⟨news, hhist, ?_⟩
    obtain ⟨server, entering, marking⟩ := n
    dsimp only at heq hentering hmarking
    rw [heq, hentering, hmarking, Note.map_fewer_zero, hall, hall]
    rfl
  · rintro ⟨news, hhist, rfl⟩
    refine ⟨⟨news, hhist, ?_⟩, (hall _).symm, rfl⟩
    rw [Note.map_fewer_zero, hall]
    rfl

/-- Whatever a server has noted, the same can happen to it, and then it notes the same. -/
theorem run_withHistory_iff {m' : Midway} : Run Midway.step (m.withHistory h) es m' ↔
    ∃ n news, Run Midway.step m es n ∧ n.server.history = news ++ m.server.history ∧
      m' = n.withHistory (news ++ h) := by
  have hs : m.Lacks (fun _ => true) 0 m.server.history h (m.withHistory h) := lacks_nothing_iff.2 ⟨[], rfl, rfl⟩
  constructor
  · intro hrun
    obtain ⟨n, hn, hboth⟩ := hs.run_back (fun _ _ _ _ => rfl) hrun
    obtain ⟨news, hhist, heq⟩ := lacks_nothing_iff.1 hboth
    exact ⟨n, news, hn, hhist, heq⟩
  · rintro ⟨n, news, hn, hhist, rfl⟩
    obtain ⟨m', hm', hboth⟩ := hs.run (fun _ _ _ _ => rfl) hn
    obtain ⟨news', hhist', rfl⟩ := lacks_nothing_iff.1 hboth
    rwa [List.append_cancel_right (hhist.symm.trans hhist')]

end Midway

end PooledTcp.Server
