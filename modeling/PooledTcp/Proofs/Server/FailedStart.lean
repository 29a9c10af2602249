import PooledTcp.Proofs.Server.Lacking

/-!
# A start that fails changes nothing

A call for a server to serve can fail at once, when its address is bound, or when it has counted its listener and finds
the server closed. In between others go on, and the server may be closed. However they come together, the others do
what they would have done without the call, and afterwards the server is the one that they leave, but for what
the call has noted (`failed_start_changes_nothing`).

While the call waits for its address, it is a loop without a listener, and the server is followed next to the one that
lacks it. While its listener is counted, one listener is missing there too (`run_counted`).
-/

namespace PooledTcp.Server

/-- What a call notes whose address is not bound. -/
def BindFailure.notes (id : CallId) (addr : String) : BindFailure → List Note
  | .refused cause => [.answered id (.error (.bind addr cause))]
  | .untold cause => [.answered id (.error (.io cause)), .released id, .opened id]

/-- What a call notes that finds the server closed: first its listener goes, then the count is that of the others. -/
def turnedAwayNotes (id : CallId) (others : Nat) : List Note :=
  [.answered id (.error .closed), .listeners others, .released id]

/-- The events are about other calls. -/
def Midway.Spare (id : CallId) (es : List Midway.Event) : Prop := ∀ e ∈ es, Midway.Event.call? e ≠ some id

/-- What becomes of a call on the server `m` that does not come to serve. -/
structure FailsCleanly (m : Midway) (id : CallId) : Prop where
  /-- A call that is answered at once leaves its answer. Of a closed server it does not matter what address it has. -/
  atOnce : ∀ a n, m.step (.whole (.listenAndServe id)) = some n ∧
      n.server.history = .answered id a :: m.server.history ↔
    m.server.isBusy id = false ∧ n = m.withHistory (.answered id a :: m.server.history) ∧
      (m.server.state = .closed ∧ a = .error .closed ∨
        m.server.state ≠ .closed ∧ m.server.addr = "" ∧ a = .error (.config "empty address"))
  /-- Whatever others do while an address is not bound, they can do without the call, which leaves its answer. -/
  unbound : ∀ mid failure n, Midway.Spare id mid →
    (Run Midway.step m (.whole (.listenAndServe id) :: mid ++ [.whole (.bound id (.error failure))]) n ↔
      m.server.isBusy id = false ∧ m.server.state ≠ .closed ∧ m.server.addr ≠ "" ∧
        ∃ u, Run Midway.step m mid u ∧
          n = u.withHistory (failure.notes id u.server.addr ++ u.server.history))
  /-- Whatever others do while a listener is counted that was handed to the call, they can do without it. -/
  turnedAway : ∀ address mid n, Midway.Spare id mid → m.server.isBusy id = false →
    Run Midway.step m (.count id address :: mid ++ [.enter id]) n → n.server.state = .closed →
      ∃ u news, Run Midway.step m mid u ∧
        u.server.history = news.map (.fewer 1) ++ m.server.history ∧
        n = u.withHistory (turnedAwayNotes id u.server.listeners ++ news ++
          [.listeners (m.server.listeners + 1), .given id] ++ m.server.history)
  /-- And so it is where the call has bound its address before. -/
  boundLate : ∀ before address mid n, Midway.Spare id before → Midway.Spare id mid →
    m.server.state ≠ .closed → m.server.addr ≠ "" →
    Run Midway.step m (.whole (.listenAndServe id) :: before ++ .count id address :: mid ++ [.enter id]) n →
    n.server.state = .closed →
      ∃ v u news, Run Midway.step m before v ∧ Run Midway.step v mid u ∧
        u.server.history = news.map (.fewer 1) ++ v.server.history ∧
        n = u.withHistory (turnedAwayNotes id u.server.listeners ++ news ++
          [.listeners (v.server.listeners + 1), .bound address, .opened id] ++ v.server.history)
  /-- A call that finds the server closed without a break is one with nothing in between. -/
  unbroken : ∀ e address n, e = .serve id (.ok address) ∨ e = .bound id (.ok address) →
    m.server.state = .closed → m.step (.whole e) = some n →
      Run Midway.step m [.count id address, .enter id] n

variable {s t : Server} {m n u : Midway} {id : CallId} {h g : List Note} {es mid : List Midway.Event}

/-- An event that is not about a call leaves its loop where it is. -/
theorem Midway.lookup_step {e : Midway.Event} (hstep : m.step e = some n) (hid : e.call? ≠ some id) :
    n.server.loops.lookup id = m.server.loops.lookup id ∧ n.entering.lookup id = m.entering.lookup id :=
  (Midway.Move.of_step hstep).lookup fun hloop => hid (Midway.Event.call?_of_loop? hloop)

theorem Midway.lookup_run (hmid : Midway.Spare id mid) (hrun : Run Midway.step m mid n) :
    n.server.loops.lookup id = m.server.loops.lookup id ∧ n.entering.lookup id = m.entering.lookup id := by
  induction hrun with
  | nil => exact ⟨rfl, rfl⟩
  | cons hstep _ ih =>
    obtain ⟨hfirst, hrest⟩ := List.forall_mem_cons.1 hmid
    obtain ⟨hloops, hentering⟩ := Midway.lookup_step hstep hfirst
    exact ⟨(ih hrest).1.trans hloops, (ih hrest).2.trans hentering⟩

theorem Midway.Spare.kept (hmid : Midway.Spare id mid) : ∀ e ∈ mid, ∀ other, Midway.Event.call? e = some other →
    (other != id) = true := by
  intro e he other hother
  rw [bne_iff_ne]
  rintro rfl
  exact hmid e he hother

theorem Sound.run (hs : Sound m) (hrun : Run Midway.step m es n) : Sound n :=
  hrun.keeps (fun _ _ _ hu hstep => hu.move (.of_step hstep)) hs

/-- A loop within its first steps has a listener that is counted. -/
theorem Sound.one_le_listeners {x : Entry} (hs : Sound m) (hid : m.entering.lookup id = some x) :
    1 ≤ m.server.listeners := by
  rw [hs.held.counted]
  exact List.length_pos_of_mem ((hs.held.held id).2 (hs.entering id x hid))

theorem Sound.entering_none (hs : Sound m) (hnot : ¬Listening m.server.loops id) : m.entering.lookup id = none := by
  cases hid : m.entering.lookup id with
  | none => rfl
  | some x => exact absurd (hs.entering id x hid) hnot

/-- Leaving out a key that is not found leaves out nothing. -/
theorem filter_of_lookup_none {β : Type} {entries : List (CallId × β)} (hnone : entries.lookup id = none) :
    entries.filter (·.1 != id) = entries :=
  filter_of_notMem_keys fun hmem => by rw [mem_keys_iff, hnone] at hmem; cases hmem

theorem lookup_loops_of_isBusy (hfree : s.isBusy id = false) : s.loops.lookup id = none := by
  rw [isBusy, Bool.or_eq_false_iff] at hfree
  exact Option.not_isSome_iff_eq_none.1 (Bool.eq_false_iff.1 hfree.1)

theorem not_binding_of_isBusy (hfree : s.isBusy id = false) : s.loops.lookup id ≠ some .binding := by
  rw [lookup_loops_of_isBusy hfree]
  nofun

/-- What comes of a call, and of a server that does not run it yet. -/
theorem Sound.step_listenAndServe_iff (hs : Sound m) : m.step (.whole (.listenAndServe id)) = some n ↔
    m.server.isBusy id = false ∧ n = { m with server :=
      (if m.server.state = .closed then m.server.answer id (.error .closed)
      else if m.server.addr = "" then m.server.answer id (.error (.config "empty address"))
      else m.server.holdLoop id .binding) } := by
  cases hbusy : m.server.isBusy id with
  | true => simp [Midway.step, Server.step, hbusy]
  | false =>
    have hholds : m.Holds (.listenAndServe id) = false := by
      simp [Midway.Holds, Event.loop?, Event.stop?, hs.entering_none (not_listening_of_isBusy hbusy)]
    simp only [Midway.step, hholds, Server.step, hbusy, Bool.false_eq_true, if_false, true_and, isClosed,
      beq_iff_eq, String.isEmpty_iff]
    split
    · simp [eq_comm]
    split
    · simp [eq_comm]
    · simp [eq_comm]

/-- A server that does not run a call lacks nothing without it. -/
theorem Sound.lacks_self (hs : Sound m) (hfree : m.server.isBusy id = false) :
    m.Lacks (· != id) 0 m.server.history m.server.history m := by
  have hloops := lookup_loops_of_isBusy hfree
  have hentering := hs.entering_none (not_listening_of_isBusy hfree)
  refine ⟨⟨[], rfl, ?_⟩, (filter_of_lookup_none hentering).symm, rfl⟩
  rw [filter_of_lookup_none hloops]
  rfl

theorem filter_put_self {β : Type} (value : β) (entries : List (CallId × β)) :
    (put id value entries).filter (·.1 != id) = entries.filter (·.1 != id) := by
  rw [put, List.filter_cons_of_neg (by simp), List.filter_filter]
  simp only [Bool.and_self]

/-- Without the call that waits for its address, the server is the one on which it was not made. -/
theorem Sound.lacks_binding (hs : Sound m) (hfree : m.server.isBusy id = false) :
    Midway.Lacks (· != id) 0 m.server.history m.server.history
      { m with server := m.server.holdLoop id .binding } m := by
  obtain ⟨⟨news, hhist, heq⟩, hentering, -⟩ := hs.lacks_self hfree
  refine ⟨⟨news, hhist, ?_⟩, hentering, rfl⟩
  rw [Server.holdLoop, filter_put_self]
  exact heq

/-- What a call notes when it counts its listener, on the address that it has bound or on the listener handed to it. -/
def openingNotes (s : Server) (id : CallId) (address : String) : List Note :=
  .listeners (s.listeners + 1) ::
    if s.loops.lookup id = some .binding then [.bound address, .opened id] else [.given id]

theorem Midway.step_count {address : String} (hstep : m.step (.count id address) = some n) :
    n = { m with
      server := { m.server with
        listeners := m.server.listeners + 1
        loops := put id (.accepting address (Backoff.ofBounds acceptBase acceptMax)) m.server.loops
        history := m.server.openingNotes id address ++ m.server.history }
      entering := put id (.counted address) m.entering } := by
  simp only [Midway.step] at hstep
  split at hstep
  · rename_i hid
    cases hstep
    rw [countLoop_eq, openingNotes, if_pos hid]
    rfl
  · rename_i hid
    simp only [Option.ite_none_left_eq_some] at hstep
    obtain ⟨-, hstep⟩ := hstep
    cases hstep
    rw [countLoop_eq, openingNotes, if_neg hid]
    rfl

/-- A call that counts its listener is missing with the listener. -/
theorem Midway.Lacks.count {address : String} (hs : m.Lacks (· != id) 0 h g u)
    (hstep : m.step (.count id address) = some n) :
    n.Lacks (· != id) 1 n.server.history u.server.history u ∧ n.entering.lookup id = some (.counted address) := by
  obtain rfl := Midway.step_count hstep
  refine ⟨⟨⟨[], rfl, ?_⟩, ?_, hs.marking⟩, lookup_put_self _ _ _⟩
  · dsimp only
    rw [filter_put_self, Nat.add_sub_cancel]
    exact hs.server.fields
  · dsimp only
    rw [filter_put_self, hs.entering]

/-- While a call has a listener that is counted, the server goes on as the one without both. -/
theorem Midway.Lacks.run_counted {address : String} (hs : m.Lacks (· != id) 1 h g u) (hsound : Sound m)
    (hid : m.entering.lookup id = some (.counted address)) (hmid : Midway.Spare id mid)
    (hrun : Run Midway.step m mid n) : ∃ w, Run Midway.step u mid w ∧ n.Lacks (· != id) 1 h g w := by
  suffices hboth : ∃ w, Run Midway.step u mid w ∧ n.Lacks (· != id) 1 h g w ∧ Sound n ∧
      n.entering.lookup id = some (.counted address) by
    obtain ⟨w, hw, hlacks, -⟩ := hboth
    exact ⟨w, hw, hlacks⟩
  refine hrun.follow (P := fun e => Midway.Event.call? e ≠ some id) (R := fun (m u : Midway) =>
    m.Lacks (· != id) 1 h g u ∧ Sound m ∧ m.entering.lookup id = some (.counted address)) ?_ hmid
      ⟨hs, hsound, hid⟩
  · rintro m u e n ⟨hs, hsound, hid⟩ hother hstep
    have hkept (other : CallId) (heq : e.call? = some other) : (other != id) = true := by
      rw [bne_iff_ne]
      rintro rfl
      exact hother heq
    obtain ⟨v, hv, hlacks⟩ := hs.step_some hkept (hsound.one_le_listeners hid) hstep
    exact ⟨v, hv, hlacks, hsound.move (.of_step hstep), (Midway.lookup_step hstep hother).2.trans hid⟩

/-- A call that finds the server closed leaves it as it is without the call. -/
theorem Midway.Lacks.turnAway {address : String} (hs : m.Lacks (· != id) 1 h g u)
    (hid : m.entering.lookup id = some (.counted address)) (hstep : m.step (.enter id) = some n)
    (hclosed : n.server.state = .closed) : ∃ news, u.server.history = news.map (.fewer 1) ++ g ∧
      n = u.withHistory (turnedAwayNotes id u.server.listeners ++ news ++ h) := by
  obtain ⟨⟨news, hhist, heq⟩, hentering, hmarking⟩ := hs
  simp only [Midway.step, hid] at hstep
  split at hstep
  · cases hstep
    refine ⟨news, by rw [heq], ?_⟩
    rw [Midway.withHistory, Server.turnAway, releaseListener_eq, heq, ← hentering, ← hmarking]
    simp [dropLoop, answer, note, turnedAwayNotes, hhist]
  · cases hstep
    cases hclosed

/-- A call that counts its listener and is turned away leaves the server as it is without the call. -/
theorem Midway.Lacks.turned_away {address : String} (hs : m.Lacks (· != id) 0 h g u) (hsound : Sound m)
    (hmid : Midway.Spare id mid) (hrun : Run Midway.step m (.count id address :: mid ++ [.enter id]) n)
    (hclosed : n.server.state = .closed) : ∃ w news, Run Midway.step u mid w ∧
      w.server.history = news.map (.fewer 1) ++ u.server.history ∧
      n = w.withHistory (turnedAwayNotes id w.server.listeners ++ news ++ m.server.openingNotes id address ++
        m.server.history) := by
  obtain ⟨v, hmost, henter⟩ := hrun.split_last
  cases hmost with
  | @cons _ t _ _ _ hcount hbetween =>
    obtain ⟨hlacks, hid⟩ := hs.count hcount
    obtain ⟨w, hw, hend⟩ := hlacks.run_counted (hsound.move (.of_step hcount)) hid hmid hbetween
    have hcounted := (Midway.lookup_run hmid hbetween).2.trans hid
    obtain ⟨news, hnews, heq⟩ := hend.turnAway hcounted henter hclosed
    refine ⟨w, news, hw, hnews, heq.trans ?_⟩
    rw [Midway.step_count hcount]
    simp only [List.append_assoc]

/-- A call of which the address is not bound leaves the server as it is without the call. -/
theorem Midway.Lacks.unbound (hs : m.Lacks (· != id) 0 g g u) (hsound : Sound m)
    (hid : m.server.loops.lookup id = some .binding) (failure : BindFailure) :
    m.step (.whole (.bound id (.error failure))) =
      some (u.withHistory (failure.notes id u.server.addr ++ u.server.history)) := by
  have hnone := hsound.entering_none (not_listening_of_binding hid)
  have hholds : m.Holds (.bound id (.error failure)) = false := by
    simp [Midway.Holds, Server.Event.loop?, Event.stop?, hnone]
  obtain ⟨⟨news, hhist, heq⟩, hentering, hmarking⟩ := hs
  rw [filter_of_lookup_none hnone] at hentering
  rw [Note.map_fewer_zero, ← hhist] at heq
  rw [Midway.withHistory, heq, hentering, hmarking]
  cases failure with
  | refused cause => simp [Midway.step, hholds, Server.step, hid, dropLoop, answer, note, BindFailure.notes]
  | untold cause => simp [Midway.step, hholds, Server.step, hid, dropLoop, answer, note, BindFailure.notes]

/-- A call that finds the server open and named waits for its address. -/
theorem Sound.binds_iff (hs : Sound m) (hid : n.server.loops.lookup id = some .binding) :
    m.step (.whole (.listenAndServe id)) = some n ↔ m.server.isBusy id = false ∧ m.server.state ≠ .closed ∧
      m.server.addr ≠ "" ∧ n = { m with server := m.server.holdLoop id .binding } := by
  rw [hs.step_listenAndServe_iff]
  refine and_congr_right fun hfree => ?_
  have hnot := not_binding_of_isBusy hfree
  split
  · rename_i hclosed
    refine ⟨?_, fun h => absurd hclosed h.1⟩
    rintro rfl
    exact absurd hid hnot
  · rename_i hopen
    split
    · rename_i hempty
      refine ⟨?_, fun h => absurd hempty h.2.1⟩
      rintro rfl
      exact absurd hid hnot
    · rename_i hnamed
      exact ⟨fun h => ⟨hopen, hnamed, h⟩, fun h => h.2.2⟩

theorem Midway.binding_of_bound {result : Except BindFailure String}
    (hstep : m.step (.whole (.bound id result)) = some n) : m.server.loops.lookup id = some .binding := by
  simp only [Midway.step, Option.ite_none_left_eq_some, Option.map_eq_some_iff] at hstep
  obtain ⟨-, t, ht, -⟩ := hstep
  cases Server.Move.of_step ht with
  | refused hid | untold hid | boundLate hid _ | bound hid _ => exact hid

/-- While an address is not bound, others can do what they can do without the call. -/
theorem Sound.unbound_iff (hs : Sound m) (hmid : Midway.Spare id mid) (failure : BindFailure) :
    Run Midway.step m (.whole (.listenAndServe id) :: mid ++ [.whole (.bound id (.error failure))]) n ↔
      m.server.isBusy id = false ∧ m.server.state ≠ .closed ∧ m.server.addr ≠ "" ∧
        ∃ u, Run Midway.step m mid u ∧
          n = u.withHistory (failure.notes id u.server.addr ++ u.server.history) := by
  have hwaits : ({ m with server := m.server.holdLoop id .binding } : Midway).server.loops.lookup id =
      some .binding := lookup_put_self _ _ _
  constructor
  · intro hrun
    obtain ⟨t, hmost, hbound⟩ := hrun.split_last
    cases hmost with
    | @cons _ v _ _ _ hcall hbetween =>
      have hbinding := Midway.binding_of_bound hbound
      obtain ⟨hfree, hopen, hnamed, rfl⟩ :=
        (hs.binds_iff ((Midway.lookup_run hmid hbetween).1.symm.trans hbinding)).1 hcall
      obtain ⟨u, hu, hlacks⟩ := (hs.lacks_binding hfree).run hmid.kept hbetween
      have hsound := (hs.move (.of_step hcall)).run hbetween
      exact ⟨hfree, hopen, hnamed, u, hu,
        Option.some.inj (hbound.symm.trans (hlacks.unbound hsound hbinding failure))⟩
  · rintro ⟨hfree, hopen, hnamed, u, hu, rfl⟩
    have hcall := (hs.binds_iff hwaits).2 ⟨hfree, hopen, hnamed, rfl⟩
    obtain ⟨t, ht, hlacks⟩ := (hs.lacks_binding hfree).run_back hmid.kept hu
    have hsound := (hs.move (.of_step hcall)).run ht
    have hbinding := (Midway.lookup_run hmid ht).1.trans hwaits
    exact (Run.cons hcall ht).append (.cons (hlacks.unbound hsound hbinding failure) (.nil _))

/-- A call is answered at once by a closed server, and by one without an address. -/
theorem Sound.answered_at_once_iff (hs : Sound m) {a : Except ServerError Unit} :
    m.step (.whole (.listenAndServe id)) = some n ∧ n.server.history = .answered id a :: m.server.history ↔
      m.server.isBusy id = false ∧ n = m.withHistory (.answered id a :: m.server.history) ∧
        (m.server.state = .closed ∧ a = .error .closed ∨
          m.server.state ≠ .closed ∧ m.server.addr = "" ∧ a = .error (.config "empty address")) := by
  rw [hs.step_listenAndServe_iff, and_assoc]
  refine and_congr_right fun _ => ?_
  by_cases hclosed : m.server.state = .closed
  · rw [if_pos hclosed]
    constructor
    · rintro ⟨rfl, hnote⟩
      cases hnote
      exact ⟨rfl, .inl ⟨hclosed, rfl⟩⟩
    · rintro ⟨rfl, ⟨-, rfl⟩ | ⟨hopen, -⟩⟩
      · exact ⟨rfl, rfl⟩
      · exact absurd hclosed hopen
  · rw [if_neg hclosed]
    by_cases hempty : m.server.addr = ""
    · rw [if_pos hempty]
      constructor
      · rintro ⟨rfl, hnote⟩
        cases hnote
        exact ⟨rfl, .inr ⟨hclosed, hempty, rfl⟩⟩
      · rintro ⟨rfl, ⟨hnow, -⟩ | ⟨-, -, rfl⟩⟩
        · exact absurd hnow hclosed
        · exact ⟨rfl, rfl⟩
    · rw [if_neg hempty]
      constructor
      · rintro ⟨rfl, hnote⟩
        exact absurd hnote.symm (List.cons_ne_self _ _)
      · rintro ⟨-, ⟨hnow, -⟩ | ⟨-, hnow, -⟩⟩
        · exact absurd hnow hclosed
        · exact absurd hnow hempty

/-- On a closed server the first steps of a call in a row are the call. -/
theorem Midway.unbroken {e : Server.Event} {address : String}
    (he : e = .serve id (.ok address) ∨ e = .bound id (.ok address)) (hclosed : m.server.state = .closed)
    (hstep : m.step (.whole e) = some n) : Run Midway.step m [.count id address, .enter id] n := by
  have hloop : e.loop? = some id := by
    rcases he with rfl | rfl
    · rfl
    · rfl
  simp only [Midway.step, Option.ite_none_left_eq_some, Option.map_eq_some_iff, Bool.not_eq_true] at hstep
  obtain ⟨hholds, t, ht, rfl⟩ := hstep
  have hentering : (put id (.counted address) m.entering).filter (·.1 != id) = m.entering := by
    rw [filter_put_self, filter_of_lookup_none (lookup_entering hholds hloop)]
  have henter (u : Server) (hu : u.isClosed = true) :
      Midway.step { m with server := u.countLoop id address, entering := put id (.counted address) m.entering }
        (.enter id) = some { m with server := u.beginLoop id address } := by
    have hkeeps : (u.countLoop id address).isClosed = true := hu
    simp only [Midway.step, lookup_put_self, hkeeps, if_true, hentering, beginLoop_eq, hu]
  have hnow : m.server.isClosed = true := beq_iff_eq.2 hclosed
  rcases he with rfl | rfl
  · simp only [Server.step, Option.ite_none_left_eq_some, Bool.not_eq_true, Option.some.injEq] at ht
    obtain ⟨hfree, rfl⟩ := ht
    have hcount : m.step (.count id address) = some { m with
        server := (m.server.note (.given id)).countLoop id address
        entering := put id (.counted address) m.entering } := by
      rw [Midway.step, if_neg (not_binding_of_isBusy hfree), if_neg (Bool.eq_false_iff.1 hfree)]
    exact .cons hcount (.cons (henter (m.server.note (.given id)) hnow) (.nil _))
  · have hbinding : m.server.loops.lookup id = some .binding := by
      cases Server.Move.of_step ht with
      | boundLate hid _ | bound hid _ => exact hid
    simp only [Server.step, hbinding, Option.some.injEq] at ht
    obtain rfl := ht
    have hcount : m.step (.count id address) = some { m with
        server := ((m.server.note (.opened id)).note (.bound address)).countLoop id address
        entering := put id (.counted address) m.entering } := by
      rw [Midway.step, if_pos hbinding]
    exact .cons hcount (.cons (henter ((m.server.note (.opened id)).note (.bound address)) hnow) (.nil _))

theorem Sound.failsCleanly (hs : Sound m) (id : CallId) : FailsCleanly m id := by
  refine ⟨fun a n => ?_, fun mid failure n hmid => hs.unbound_iff hmid failure,
    fun address mid n hmid hfree hrun hclosed => ?_,
    fun before address mid n hbefore hmid hopen hnamed hrun hclosed => ?_,
    fun e address n => Midway.unbroken⟩
  · exact hs.answered_at_once_iff
  · obtain ⟨w, news, hw, hnews, heq⟩ := (hs.lacks_self hfree).turned_away hs hmid hrun hclosed
    rw [openingNotes, if_neg (not_binding_of_isBusy hfree)] at heq
    exact ⟨w, news, hw, hnews, heq⟩
  · rw [List.append_assoc, List.cons_append] at hrun
    cases hrun with
    | @cons _ v _ _ _ hcall hrest =>
      obtain ⟨hfree, hv⟩ := hs.step_listenAndServe_iff.1 hcall
      rw [if_neg hopen, if_neg hnamed] at hv
      subst hv
      obtain ⟨t, ht, hlater⟩ := hrest.split
      obtain ⟨w, hw, hlacks⟩ := (hs.lacks_binding hfree).run hbefore.kept ht
      have hbinding := (Midway.lookup_run hbefore ht).1.trans (lookup_put_self _ _ _)
      obtain ⟨u, news, hu, hnews, heq⟩ :=
        hlacks.turned_away ((hs.move (.of_step hcall)).run ht) hmid hlater hclosed
      obtain ⟨earlier, hhist, heqw⟩ := hlacks.server
      rw [Note.map_fewer_zero, ← hhist] at heqw
      rw [openingNotes, if_pos hbinding] at heq
      refine ⟨w, u, news, hw, hu, hnews, ?_⟩
      rw [heq, heqw]
      rfl

/-- A call that does not come to serve leaves the server as the others leave it, and to what comes after it makes no
difference what the call has noted. -/
theorem failed_start_changes_nothing (hs : Built s) (hrun : Run Midway.step { server := s } es m) :
    (∀ id, FailsCleanly m id) ∧
      ∀ u h fs v, Run Midway.step (Midway.withHistory u h) fs v ↔
        ∃ w news, Run Midway.step u fs w ∧ w.server.history = news ++ u.server.history ∧
          v = w.withHistory (news ++ h) :=
  ⟨(Sound.of_run hs hrun).failsCleanly, fun _ _ _ _ => Midway.run_withHistory_iff⟩

/-- A listener that was handed to a call is counted when a server that listens is closed. The close waits for it as long
as the call has it, and no longer: afterwards the server is as if there had been the close alone, and so it is
where the call has an address that is in use. -/
theorem failed_starts_during_close : ∃ m v n w,
    Run Midway.step { server := { addr := "front" } }
      [.whole (.listenAndServe 1), .count 1 "front", .enter 1, .record 1] m ∧
    Run Midway.step m [.count 2 "side", .mark 3 none, .signal 3, .whole (.resume 1)] v ∧
    v.server.listeners = 1 ∧ v.step (.whole (.proceed 3)) = none ∧
    Run Midway.step m [.count 2 "side", .mark 3 none, .signal 3, .whole (.resume 1), .enter 2] n ∧
    (n.step (.whole (.proceed 3))).isSome ∧ n.server.answer? 2 = some (.error .closed) ∧
    Run Midway.step m [.whole (.listenAndServe 2), .mark 3 none, .signal 3, .whole (.resume 1),
      .whole (.bound 2 (.error (.refused (.system .addressInUse))))] w ∧
    w.server.answer? 2 = some (.error (.bind "front" (.system .addressInUse))) ∧
    ∃ u, Run Midway.step m [.mark 3 none, .signal 3, .whole (.resume 1)] u ∧ u.server.listeners = 0 ∧
      u.server.localAddr = some "front" ∧ (∃ h, n = u.withHistory h) ∧ ∃ h, w = u.withHistory h := by
  have hrun : Run Midway.step { server := { addr := "front" } } [] _ := .nil _
  have hbefore := hrun.further [.whole (.listenAndServe 1), .count 1 "front", .enter 1, .record 1] rfl
  have hheld := hbefore.further [.count 2 "side", .mark 3 none, .signal 3, .whole (.resume 1)] rfl
  have hturned := hbefore.further [.count 2 "side", .mark 3 none, .signal 3, .whole (.resume 1), .enter 2] rfl
  have hrefused := hbefore.further [.whole (.listenAndServe 2), .mark 3 none, .signal 3, .whole (.resume 1),
    .whole (.bound 2 (.error (.refused (.system .addressInUse))))] rfl
  have hspare : Midway.Spare 2 [.mark 3 none, .signal 3, .whole (.resume 1)] := by
    simp [Midway.Spare, Midway.Event.call?, Event.call?]
  have hclean := (failed_start_changes_nothing (Built.of_addr "front" {}) hbefore).1 2
  obtain ⟨u, news, hu, -, hn⟩ := hclean.turnedAway _ _ _ hspare rfl hturned rfl
  obtain ⟨-, -, -, u', hu', hw⟩ := (hclean.unbound _ _ _ hspare).1 hrefused
  obtain rfl := hu.unique hu'
  have hlone := hbefore.further [.mark 3 none, .signal 3, .whole (.resume 1)] rfl
  obtain rfl := hu.unique hlone
  exact ⟨_, _, _, _, hbefore, hheld, rfl, rfl, hturned, rfl, rfl, hrefused, rfl, _, hlone, rfl, rfl, ⟨_, hn⟩,
    ⟨_, hw⟩⟩

end PooledTcp.Server
