import PooledTcp.Proofs.Server.Listeners

/-!
# Loops and closes that take their steps one by one

A server's events run without a break, but the operations that begin a loop or a close change several parts of
it one after the other. A loop counts its listener, then marks the server, then records the address; a close
marks the server and then gives the signal; and what other tasks do can come between any two of these steps.
`Midway` is a server whose loops and closes take the steps one by one. In a row they are the operations of
`Server.step` (`step_record_of_count`, `step_signal_of_mark`), and `Midway.Move` lists what each of them does.
-/

namespace PooledTcp.Server

/-- The loop that an event is about. -/
def Event.loop? : Event → Option CallId
  | .listenAndServe id | .bound id _ | .serve id _ | .accept id _ | .acceptFails id _ _ | .resume id
  | .dropLoop id => some id
  | _ => none

/-- The stop that an event moves on. -/
def Event.stop? : Event → Option CallId
  | .proceed id => some id
  | _ => none

/-- A loop has a listener, and counts it. -/
def countLoop (s : Server) (id : CallId) (address : String) : Server :=
  s.countListener.holdLoop id (.accepting address (Backoff.ofBounds acceptBase acceptMax))

/-- A loop that has counted its listener finds the server closed. -/
def turnAway (s : Server) (id : CallId) : Server :=
  ((s.releaseListener id).dropLoop id).answer id (.error .closed)

/-- A loop that has marked the server records its address. -/
def record (s : Server) (address : String) : Server :=
  { s with localAddr := some address }.note (.listening address)

/-- A close marks the server, and is going to wait for the listeners. -/
def mark (s : Server) (id : CallId) (grace : Option Duration) : Server :=
  { s with state := .closed }.holdStop id (.closing grace)

/-- A close gives the signal to the loops. Only the first time is anything said. -/
def signal (s : Server) (previous : ServerState) : Server :=
  if s.done then s else { s with done := true }.note (.closing s.addr previous)

/-- How far a loop is that has not recorded its address yet. -/
inductive Entry where
  /-- Its listener is counted. -/
  | counted (address : String)
  /-- And the server is marked. -/
  | marked (address : String)

/-- A server with the loops and closes that are within their first steps. -/
structure Midway where
  server : Server
  entering : List (CallId × Entry) := []
  /-- The closes that have marked the server and not given the signal yet, each with the state that it found. -/
  marking : List (CallId × ServerState) := []

namespace Midway

/-- What can happen. -/
inductive Event where
  /-- An uninterrupted piece of work. -/
  | whole (e : Server.Event)
  /-- The first step of a loop, on a listener that it has bound or was handed. -/
  | count (id : CallId) (address : String)
  /-- Its second step. -/
  | enter (id : CallId)
  /-- Its third step. -/
  | record (id : CallId)
  /-- The first step of a close, or of a shutdown with a grace. -/
  | mark (id : CallId) (grace : Option Duration)
  /-- Its second step. -/
  | signal (id : CallId)

/-- The loop that the event is about. -/
def Event.loop? : Event → Option CallId
  | .whole e => e.loop?
  | .count id _ | .enter id | .record id => some id
  | .mark _ _ | .signal _ => none

/-- The operation that an event is about has another step to take before. -/
def Holds (m : Midway) (e : Server.Event) : Bool :=
  (e.loop?.bind (m.entering.lookup ·)).isSome || (e.stop?.bind (m.marking.lookup ·)).isSome

/-- Perform an event, if it can happen. -/
def step (m : Midway) : Event → Option Midway
  | .whole e => if m.Holds e then none else (m.server.step e).map fun s => { m with server := s }
  | .count id address =>
    let entering := put id (.counted address) m.entering
    if m.server.loops.lookup id = some .binding then
      some { m with
        server := ((m.server.note (.opened id)).note (.bound address)).countLoop id address
        entering }
    else if m.server.isBusy id then none
    else some { m with server := (m.server.note (.given id)).countLoop id address, entering }
  | .enter id =>
    match m.entering.lookup id with
    | some (.counted address) =>
      if m.server.isClosed then
        some { m with server := m.server.turnAway id, entering := m.entering.filter (·.1 != id) }
      else
        some { m with
          server := { m.server with state := .listening }
          entering := put id (.marked address) m.entering }
    | _ => none
  | .record id =>
    match m.entering.lookup id with
    | some (.marked address) =>
      some { m with server := m.server.record address, entering := m.entering.filter (·.1 != id) }
    | _ => none
  | .mark id grace =>
    if m.server.isBusy id then none
    else some { m with server := m.server.mark id grace, marking := (id, m.server.state) :: m.marking }
  | .signal id =>
    (m.marking.lookup id).map fun previous =>
      { m with server := m.server.signal previous, marking := m.marking.filter (·.1 != id) }

/-- Loop `id` has taken its first steps, and the server listens for it. -/
def Reaches (m : Midway) (id : CallId) : Prop := Listening m.server.loops id ∧ m.entering.lookup id = none

/-- An address is recorded, or a loop is going to record one. -/
def Addressed (m : Midway) : Prop :=
  m.server.localAddr.isSome ∨ ∃ id address, m.entering.lookup id = some (.marked address)

end Midway

variable {s t : Server} {m n : Midway} {e : Event} {id : CallId}

theorem countLoop_eq (s : Server) (id : CallId) (address : String) : s.countLoop id address = { s with
    listeners := s.listeners + 1
    loops := put id (.accepting address (Backoff.ofBounds acceptBase acceptMax)) s.loops
    history := .listeners (s.listeners + 1) :: s.history } := by
  simp only [countLoop, countListener, holdLoop, note]

/-- The first steps of a loop in a row are how it begins. -/
theorem beginLoop_eq (s : Server) (id : CallId) (address : String) :
    s.beginLoop id address =
      if s.isClosed then (s.countLoop id address).turnAway id
      else { s.countLoop id address with state := .listening }.record address := by
  have hfilter : (put id (.accepting address (Backoff.ofBounds acceptBase acceptMax)) s.loops).filter
      (·.1 != id) = s.loops.filter (·.1 != id) := by
    simp [put, List.filter_filter]
  by_cases hclosed : s.state = .closed
  · rw [beginLoop_of_closed hclosed, if_pos (by simp [isClosed, hclosed]), turnAway, releaseListener_eq]
    simp [countLoop, countListener, note, holdLoop, dropLoop, answer, hfilter]
  · rw [beginLoop_of_open hclosed, if_neg (by simp [isClosed, hclosed])]
    rfl

/-- The first steps of a loop in a row are the loop. -/
theorem step_record_of_count (s : Server) (id : CallId) (address : String) :
    (.count id address :: .enter id :: if s.isClosed then [] else [.record id] : List Midway.Event).foldlM
        Midway.step { server := s } =
      Midway.step { server := s } (.whole
        (if s.loops.lookup id = some .binding then .bound id (.ok address) else .serve id (.ok address))) := by
  have hsteps (u : Server) : (.enter id :: if u.isClosed then [] else [.record id] : List Midway.Event).foldlM
      Midway.step { server := u.countLoop id address, entering := put id (.counted address) [] } =
        some { server := u.beginLoop id address } := by
    have hkeeps : (u.countLoop id address).isClosed = u.isClosed := rfl
    rw [beginLoop_eq]
    cases hclosed : u.isClosed with
    | true => simp [Midway.step, hkeeps, hclosed, put]
    | false => simp [Midway.step, hkeeps, hclosed, put]
  by_cases hid : s.loops.lookup id = some .binding
  · have hcount : Midway.step { server := s } (.count id address) = some
        { server := ((s.note (.opened id)).note (.bound address)).countLoop id address
          entering := put id (.counted address) [] } := by
      rw [Midway.step, if_pos hid]
    have hwhole : Midway.step { server := s } (.whole (.bound id (.ok address))) = some
        { server := ((s.note (.opened id)).note (.bound address)).beginLoop id address } := by
      simp [Midway.step, Midway.Holds, Event.loop?, Event.stop?, Server.step, hid]
    rw [if_pos hid, hwhole, List.foldlM_cons, hcount]
    exact hsteps ((s.note (.opened id)).note (.bound address))
  · cases hbusy : s.isBusy id with
    | true => simp [Midway.step, Midway.Holds, Event.loop?, Event.stop?, Server.step, hid, hbusy]
    | false =>
      have hcount : Midway.step { server := s } (.count id address) = some
          { server := (s.note (.given id)).countLoop id address
            entering := put id (.counted address) [] } := by
        simp [Midway.step, hid, hbusy]
      have hwhole : Midway.step { server := s } (.whole (.serve id (.ok address))) = some
          { server := (s.note (.given id)).beginLoop id address } := by
        simp [Midway.step, Midway.Holds, Event.loop?, Event.stop?, Server.step, hbusy]
      rw [if_neg hid, hwhole, List.foldlM_cons, hcount]
      exact hsteps (s.note (.given id))

/-- The two steps of a close in a row are the close. -/
theorem step_signal_of_mark (s : Server) (id : CallId) (grace : Option Duration) :
    (Midway.step { server := s } (.mark id grace)).bind (·.step (.signal id)) =
      Midway.step { server := s }
        (.whole (match grace with | none => .close id | some g => .shutdown id g)) := by
  have hwhole : (s.mark id grace).signal s.state = s.markClosed.holdStop id (.closing grace) := by
    cases hdone : s.done <;> simp [signal, mark, markClosed, holdStop, note, hdone]
  cases hbusy : s.isBusy id with
  | true => cases grace <;> simp [Midway.step, Midway.Holds, Event.loop?, Event.stop?, Server.step, hbusy]
  | false =>
    cases grace <;> simp [Midway.step, Midway.Holds, Event.loop?, Event.stop?, Server.step, hbusy, hwhole]

/-- The signal changes nothing but itself, and may be told of. -/
theorem signal_frame (s : Server) (previous : ServerState) :
    ∃ news, (∀ n ∈ news, ∃ addr, n = .closing addr previous) ∧
      s.signal previous = { s with done := true, history := news ++ s.history } := by
  cases hdone : s.done with
  | true =>
    refine ⟨[], List.forall_mem_nil _, ?_⟩
    rw [signal, if_pos hdone, ← hdone]
    rfl
  | false => exact ⟨[.closing s.addr previous], by simp, by simp [signal, note, hdone]⟩

/-- What an event can do to a server whose loops and closes take their steps one by one. -/
inductive Midway.Move (m : Midway) : Midway.Event → Midway → Prop where
  | whole {e : Server.Event} {t : Server} : m.Holds e = false → m.server.step e = some t →
    Move m (.whole e) { m with server := t }
  | count {id : CallId} {address : String} {news : List Note} : ¬Listening m.server.loops id →
    news = [.given id] ∨ news = [.bound address, .opened id] → Move m (.count id address) { m with
      server := { m.server with
        listeners := m.server.listeners + 1
        loops := put id (.accepting address (Backoff.ofBounds acceptBase acceptMax)) m.server.loops
        history := .listeners (m.server.listeners + 1) :: (news ++ m.server.history) }
      entering := put id (.counted address) m.entering }
  | turnAway {id : CallId} {address : String} : m.entering.lookup id = some (.counted address) →
    m.server.state = .closed → Move m (.enter id) { m with
      server := { m.server with
        listeners := m.server.listeners - 1
        loops := m.server.loops.filter (·.1 != id)
        history := .answered id (.error .closed) :: .listeners (m.server.listeners - 1) :: .released id ::
          m.server.history }
      entering := m.entering.filter (·.1 != id) }
  | enter {id : CallId} {address : String} : m.entering.lookup id = some (.counted address) →
    m.server.state ≠ .closed → Move m (.enter id) { m with
      server := { m.server with state := .listening }
      entering := put id (.marked address) m.entering }
  | record {id : CallId} {address : String} : m.entering.lookup id = some (.marked address) →
    Move m (.record id) { m with
      server := m.server.record address
      entering := m.entering.filter (·.1 != id) }
  | mark {id : CallId} {grace : Option Duration} : m.server.isBusy id = false →
    Move m (.mark id grace) { m with
      server := m.server.mark id grace
      marking := (id, m.server.state) :: m.marking }
  | signal {id : CallId} {previous : ServerState} {news : List Note} : m.marking ≠ [] →
    (∀ n ∈ news, ∃ addr, n = .closing addr previous) → Move m (.signal id) { m with
      server := { m.server with done := true, history := news ++ m.server.history }
      marking := m.marking.filter (·.1 != id) }

/-- Nothing but a move happens. -/
theorem Midway.Move.of_step {e : Midway.Event} (hstep : m.step e = some n) : Midway.Move m e n := by
  cases e with
  | whole e =>
    simp only [step, Option.ite_none_left_eq_some, Bool.not_eq_true, Option.map_eq_some_iff] at hstep
    obtain ⟨hholds, t, ht, rfl⟩ := hstep
    exact .whole hholds ht
  | count id address =>
    simp only [step] at hstep
    split at hstep
    · rename_i hid
      cases hstep
      rw [countLoop_eq]
      exact @Move.count m id address [.bound address, .opened id] (not_listening_of_binding hid) (.inr rfl)
    · simp only [Option.ite_none_left_eq_some, Bool.not_eq_true] at hstep
      obtain ⟨hfree, hstep⟩ := hstep
      cases hstep
      rw [countLoop_eq]
      exact @Move.count m id address [.given id] (not_listening_of_isBusy hfree) (.inl rfl)
  | enter id =>
    simp only [step] at hstep
    split at hstep
    · rename_i address hid
      split at hstep
      · rename_i hclosed
        cases hstep
        rw [Server.turnAway, releaseListener_eq]
        exact .turnAway hid (beq_iff_eq.1 hclosed)
      · rename_i hopen
        cases hstep
        exact .enter hid fun hclosed => hopen (beq_iff_eq.2 hclosed)
    · cases hstep
  | record id =>
    simp only [step] at hstep
    split at hstep
    · rename_i address hid
      cases hstep
      exact .record hid
    · cases hstep
  | mark id grace =>
    simp only [step, Option.ite_none_left_eq_some, Bool.not_eq_true, Option.some.injEq] at hstep
    obtain ⟨hfree, rfl⟩ := hstep
    exact .mark hfree
  | signal id =>
    simp only [step, Option.map_eq_some_iff] at hstep
    obtain ⟨previous, hid, rfl⟩ := hstep
    obtain ⟨news, hnews, heq⟩ := signal_frame m.server previous
    rw [heq]
    exact .signal (ne_nil_of_lookup hid) hnews

/-- Where an event is possible its loop has no step to take before. -/
theorem lookup_entering (hholds : m.Holds e = false) (hid : e.loop? = some id) :
    m.entering.lookup id = none := by
  rw [Midway.Holds, Bool.or_eq_false_iff, hid, Option.bind_some] at hholds
  exact Option.not_isSome_iff_eq_none.1 (Bool.eq_false_iff.1 hholds.1)

end PooledTcp.Server
