import PooledTcp.Proofs.Server.Midway

/-!
# The life of a server

What a server knows of its life stands in five places: its state, the signal that stops the loops, the signal
from outside, the address at which it listens, and the count of its listeners. Loops and closes change them one
after the other (`Midway`), and how they agree is kept by every single step.

An event leaves state, signal and address as they are, lets a server listen that is not closed, or closes it
(`Turn`). So a closed server stays closed, the signal is given only to a closed server, and in every closed
server it is given, but between the two steps of a close. The count is that of the loops with a listener, also
at each moment of an event at which it changes (`Tallied`). An address is known exactly where some loop has
taken its first steps (`localAddr_isSome_iff`), and so where the server has been listening, but while a loop that has
marked the server is about to record it (`localAddr_isSome_iff_listening`).
-/

namespace PooledTcp.Server

/-- A count that is noted is that of the listeners that are open then, and only an open listener is closed. -/
def Tallied : List Note → Prop
  | [] => True
  | .listeners n :: h => n = (openListeners h).length ∧ Tallied h
  | .released id :: h => id ∈ openListeners h ∧ Tallied h
  | _ :: h => Tallied h

/-- The listeners of a server are counted, and its address is known where a loop has taken its first steps. -/
structure Sound (m : Midway) : Prop where
  held : Held m.server.loops m.server.listeners (openListeners m.server.history)
  distinct : (m.server.loops.map Prod.fst).Nodup
  tallied : Tallied m.server.history
  entering : ∀ id x, m.entering.lookup id = some x → Listening m.server.loops id
  reached : ∀ id, m.Reaches id → m.server.localAddr.isSome
  addressed : m.server.state = .listening → m.Addressed

/-- Every closed server has the signal, or a close is about to give it; nothing else gives it. -/
structure Signalled (m : Midway) : Prop where
  done : m.server.done = true → m.server.state = .closed
  marking : m.marking ≠ [] → m.server.state = .closed
  closed : m.server.state = .closed → m.server.done = true ∨ m.marking ≠ []

/-- What a server never takes back on its way from `s` to `t`. -/
structure Onward (s t : Server) : Prop where
  closed : s.state = .closed → t.state = .closed
  started : s.state ≠ .notStarted → t.state ≠ .notStarted
  localAddr : s.localAddr.isSome → t.localAddr.isSome
  cancelled : s.isCancelled = true → t.isCancelled = true
  resolves : s.cancelledResolves = true → t.cancelledResolves = true

/-- What holds of a server after the events, of which the first found it as `s₀`. -/
structure Coherent (s₀ : Server) (es : List Midway.Event) (m : Midway) : Prop where
  distinct : (m.server.loops.map Prod.fst).Nodup
  counted : m.server.listeners = (m.server.loops.filter (·.2.listens)).length
  tallied : Tallied m.server.history
  localAddr : m.server.localAddr.isSome ↔
    ∃ es₁ u id, es₁ <+: es ∧ Run Midway.step { server := s₀ } es₁ u ∧ u.Reaches id
  listened : (∀ id address, m.entering.lookup id ≠ some (.marked address)) →
    (m.server.localAddr.isSome ↔
      ∃ es₁ u, es₁ <+: es ∧ Run Midway.step { server := s₀ } es₁ u ∧ u.server.state = .listening)
  done : m.server.done = true → m.server.state = .closed
  closed : m.marking = [] → (m.server.done = true ↔ m.server.state = .closed)
  cancelled : m.marking = [] → m.server.isCancelled = m.server.cancelledResolves

variable {s t : Server} {m n : Midway} {e : Event} {f : Midway.Event} {id : CallId} {h news : List Note}
  {es fs : List Midway.Event}

section Listeners

/-- What is noted of no listener leaves the tally as it is. -/
theorem tallied_append (hnews : ∀ n ∈ news, (∀ k, n ≠ .listeners k) ∧ ∀ id, n ≠ .released id) :
    Tallied (news ++ h) ↔ Tallied h := by
  induction news with
  | nil => exact Iff.rfl
  | cons n news ih =>
    obtain ⟨⟨hcount, hkept⟩, hrest⟩ := List.forall_mem_cons.1 hnews
    rw [List.cons_append, Tallied, ih hrest]
    · exact hcount
    · exact hkept

theorem Tallied.step (hs : Tallied s.history) (hheld : Held s.loops s.listeners (openListeners s.history))
    (hstep : s.step e = some t) : Tallied t.history := by
  have hcounted := hheld.counted
  cases Move.of_step hstep with
  | untold _ => exact ⟨List.mem_cons_self, hs⟩
  | boundLate _ _ | servedLate _ _ =>
    refine ⟨?_, List.mem_cons_self, congrArg (· + 1) hcounted, hs⟩
    show s.listeners = ((_ :: openListeners s.history).erase _).length
    rw [List.erase_cons_head, hcounted]
  | bound _ _ | served _ _ => exact ⟨congrArg (· + 1) hcounted, hs⟩
  | heard hid hlistens _ | dropped hid hlistens =>
    have hmem := (hheld.held _).2 ⟨_, hid, hlistens⟩
    refine ⟨?_, hmem, hs⟩
    show s.listeners - 1 = ((openListeners s.history).erase _).length
    rw [List.length_erase_of_mem hmem, hcounted]
  | accepted _ _ _ _ hwarn =>
    refine (tallied_append fun n hn => ?_).2 hs
    obtain ⟨cause, rfl⟩ := hwarn n hn
    exact ⟨nofun, nofun⟩
  | finished _ _ _ =>
    refine (tallied_append fun n hn => ?_).2 hs
    rcases panicked_or_forced_of_said hn with ⟨text, rfl⟩ | rfl
    · exact ⟨nofun, nofun⟩
    · exact ⟨nofun, nofun⟩
  | close _ | shutdown _ =>
    refine (tallied_append fun n hn => ?_).2 hs
    split at hn
    · cases hn
    · obtain rfl := List.mem_singleton.1 hn
      exact ⟨nofun, nofun⟩
  | _ => exact hs

/-- Every event keeps the loops distinct. -/
theorem distinct_step (hs : (s.loops.map Prod.fst).Nodup) (hstep : s.step e = some t) :
    (t.loops.map Prod.fst).Nodup := by
  cases Move.of_step hstep with
  | binds _ _ | bound _ _ | served _ _ | accepted _ _ _ _ _ | failed _ _ | retried _ _ =>
    exact nodup_keys_put hs _ _
  | refused _ | untold _ | boundLate _ _ | servedLate _ _ | heard _ _ _ | unbound _ | dropped _ _ =>
    exact nodup_keys_filter hs _
  | _ => exact hs

/-- As many loops have a listener as listeners are open. -/
theorem Sound.counted (hs : Sound m) :
    m.server.listeners = (m.server.loops.filter (·.2.listens)).length := by
  have hperm : (openListeners m.server.history).Perm ((m.server.loops.filter (·.2.listens)).map Prod.fst) := by
    refine (List.perm_ext_iff_of_nodup hs.held.nodup (nodup_keys_filter hs.distinct _)).2 fun id => ?_
    rw [hs.held.held, List.mem_map]
    constructor
    · rintro ⟨stage, hid, hlistens⟩
      exact ⟨(id, stage), List.mem_filter.2 ⟨mem_of_lookup hid, hlistens⟩, rfl⟩
    · rintro ⟨⟨_, stage⟩, hmem, rfl⟩
      obtain ⟨hid, hlistens⟩ := List.mem_filter.1 hmem
      exact ⟨stage, lookup_of_mem hs.distinct hid, hlistens⟩
  rw [hs.held.counted, hperm.length_eq, List.length_map]

/-- An event is about one loop, and leaves the others where they are. -/
theorem lookup_step (hstep : s.step e = some t) (hid : e.loop? ≠ some id) :
    t.loops.lookup id = s.loops.lookup id := by
  have hne {other : CallId} (hother : e.loop? = some other) : id ≠ other := by
    rintro rfl
    exact hid hother
  cases Move.of_step hstep with
  | binds _ _ | bound _ _ | served _ _ | accepted _ _ _ _ _ | failed _ _ | retried _ _ =>
    exact lookup_put_of_ne (hne rfl) _ _
  | refused _ | untold _ | boundLate _ _ | servedLate _ _ | heard _ _ _ | unbound _ | dropped _ _ =>
    exact lookup_filter_of_ne (hne rfl) _
  | _ => rfl

/-- And so it is where loops take their first steps one by one. -/
theorem Midway.Move.lookup (hmove : Midway.Move m f n) (hid : f.loop? ≠ some id) :
    n.server.loops.lookup id = m.server.loops.lookup id ∧ n.entering.lookup id = m.entering.lookup id := by
  have hne {other : CallId} (hother : f.loop? = some other) : id ≠ other := by
    rintro rfl
    exact hid hother
  cases hmove with
  | whole _ hstep => exact ⟨lookup_step hstep hid, rfl⟩
  | count _ _ => exact ⟨lookup_put_of_ne (hne rfl) _ _, lookup_put_of_ne (hne rfl) _ _⟩
  | turnAway _ _ => exact ⟨lookup_filter_of_ne (hne rfl) _, lookup_filter_of_ne (hne rfl) _⟩
  | enter _ _ => exact ⟨rfl, lookup_put_of_ne (hne rfl) _ _⟩
  | record _ => exact ⟨rfl, lookup_filter_of_ne (hne rfl) _⟩
  | mark _ | signal _ _ => exact ⟨rfl, rfl⟩

/-- A loop that goes on at some point was listening, if it goes on listening. -/
theorem listening_of_put {loops : List (CallId × ServeStage)} {other : CallId} {stage : ServeStage}
    (hid : stage.listens = true → Listening loops id) (h : Listening (put id stage loops) other) :
    Listening loops other := by
  by_cases hother : other = id
  · subst hother
    exact hid (listening_put_self.1 h)
  · exact (listening_put_of_ne hother).1 h

theorem listening_filter {loops : List (CallId × ServeStage)} {other : CallId} :
    Listening (loops.filter (·.1 != id)) other ↔ other ≠ id ∧ Listening loops other := by
  simp [Listening, lookup_filter_eq_some, and_assoc]

/-- A loop comes to listen only on a server that is not closed, and where the address is recorded. -/
theorem listening_of_step {other : CallId} (hstep : s.step e = some t) (h : Listening t.loops other) :
    Listening s.loops other ∨ s.state ≠ .closed ∧ t.localAddr.isSome := by
  cases Move.of_step hstep with
  | binds _ _ => exact .inl (listening_of_put (fun hlistens => by cases hlistens) h)
  | bound _ hopen | served _ hopen => exact .inr ⟨hopen, rfl⟩
  | accepted hid _ _ _ _ | failed hid _ | retried hid _ =>
    exact .inl (listening_of_put (fun _ => ⟨_, hid, rfl⟩) h)
  | refused _ | untold _ | boundLate _ _ | servedLate _ _ | heard _ _ _ | unbound _ | dropped _ _ =>
    exact .inl (listening_filter.1 h).2
  | _ => exact .inl h

end Listeners

section State

/-- What an event can do to state, signal and address. -/
inductive Turn (s : Server) (e : Event) (t : Server) : Prop where
  | same : t.state = s.state → t.done = s.done → t.localAddr = s.localAddr → Turn s e t
  | listens {id : CallId} : s.state ≠ .closed → t.state = .listening → t.done = s.done → t.localAddr.isSome →
    e.loop? = some id → Listening t.loops id → Turn s e t
  | closes : t.state = .closed → t.done = true → t.localAddr = s.localAddr → Turn s e t

theorem Turn.of_step (hstep : s.step e = some t) : Turn s e t := by
  cases Move.of_step hstep with
  | bound _ hopen | served _ hopen =>
    exact .listens hopen rfl rfl rfl rfl (listening_put_self.2 rfl)
  | close _ | shutdown _ => exact .closes rfl rfl rfl
  | _ => exact .same rfl rfl rfl

/-- Where every close runs without a break, the signal is given together with the mark. -/
theorem Reachable.done_iff (hs : Reachable s) : s.done = true ↔ s.state = .closed := by
  refine hs.keeps (I := fun s => s.done = true ↔ s.state = .closed) (fun s hbuilt => ?_) fun s e t h hstep => ?_
  · rw [hbuilt.eq]
    exact iff_of_false nofun nofun
  · cases Turn.of_step hstep with
    | same hstate hdone _ =>
      rw [hstate, hdone]
      exact h
    | listens hopen hstate hdone _ _ _ =>
      rw [hstate, hdone]
      exact ⟨fun h' => absurd (h.1 h') hopen, nofun⟩
    | closes hstate hdone _ => exact iff_of_true hdone hstate

/-- The signal from outside is not taken back. -/
theorem base_step (hstep : s.step e = some t) (hbase : s.base = true) : t.base = true := by
  cases Move.of_step hstep with
  | triggered => rfl
  | _ => exact hbase

theorem isCancelled_iff (s : Server) : s.isCancelled = true ↔ s.state = .closed ∨ s.base = true := by
  simp [isCancelled, isClosed]

theorem cancelledResolves_iff (s : Server) :
    s.cancelledResolves = true ↔ s.done = true ∨ s.base = true := by
  simp [cancelledResolves]

end State

namespace Onward

theorem refl (s : Server) : Onward s s := ⟨id, id, id, id, id⟩

theorem trans {u : Server} (h : Onward s t) (k : Onward t u) : Onward s u :=
  ⟨k.closed ∘ h.closed, k.started ∘ h.started, k.localAddr ∘ h.localAddr, k.cancelled ∘ h.cancelled,
    k.resolves ∘ h.resolves⟩

/-- What is closed, started, signalled and at an address stays so. -/
theorem of_fields (hclosed : s.state = .closed → t.state = .closed)
    (hstarted : s.state ≠ .notStarted → t.state ≠ .notStarted)
    (haddr : s.localAddr.isSome → t.localAddr.isSome) (hdone : s.done = true → t.done = true)
    (hbase : s.base = true → t.base = true) : Onward s t := by
  refine ⟨hclosed, hstarted, haddr, fun h => ?_, fun h => ?_⟩
  · rw [isCancelled_iff] at h ⊢
    exact h.imp hclosed hbase
  · rw [cancelledResolves_iff] at h ⊢
    exact h.imp hdone hbase

theorem of_step (hstep : s.step e = some t) : Onward s t := by
  have hbase := base_step hstep
  cases Turn.of_step hstep with
  | same hstate hdone haddr => exact of_fields (hstate ▸ id) (hstate ▸ id) (haddr ▸ id) (hdone ▸ id) hbase
  | listens hopen hstate hdone haddr _ _ =>
    refine of_fields (fun hclosed => absurd hclosed hopen) (fun _ => ?_) (fun _ => haddr) (hdone ▸ id) hbase
    rw [hstate]
    nofun
  | closes hstate hdone haddr =>
    refine of_fields (fun _ => hstate) (fun _ => ?_) (haddr ▸ id) (fun _ => hdone) hbase
    rw [hstate]
    nofun

theorem of_move (hmove : Midway.Move m f n) : Onward m.server n.server := by
  cases hmove with
  | whole _ hstep => exact .of_step hstep
  | count _ _ | turnAway _ _ => exact .of_fields id id id id id
  | enter _ hopen => exact .of_fields (fun hclosed => absurd hclosed hopen) (fun _ => nofun) id id id
  | record _ => exact .of_fields id id (fun _ => rfl) id id
  | mark _ => exact .of_fields (fun _ => rfl) (fun _ => nofun) id id id
  | signal _ _ => exact .of_fields id id id (fun _ => rfl) id

theorem of_run (hrun : Run Midway.step m es n) : Onward m.server n.server :=
  hrun.keeps (P := fun u => Onward m.server u.server)
    (fun _ _ _ hu hstep => hu.trans (.of_move (.of_step hstep))) (.refl m.server)

end Onward


/-- What leads to a server that is listening leads to one of which the address is about to be recorded. -/
theorem Midway.Move.addressed (hmove : Midway.Move m f n) (h : n.server.state = .listening) :
    m.server.state = .listening ∨ n.Addressed := by
  cases hmove with
  | whole _ hstep =>
    cases Turn.of_step hstep with
    | same hstate _ _ => exact .inl (hstate.symm.trans h)
    | listens _ _ _ haddr _ _ => exact .inr (.inl haddr)
    | closes hstate _ _ => cases hstate.symm.trans h
  | enter hid _ => exact .inr (.inr ⟨_, _, lookup_put_self _ _ _⟩)
  | count _ _ | turnAway _ _ | record _ | signal _ _ => exact .inl h
  | mark _ => cases h

/-- Where an address is recorded, or going to be, it stays so. -/
theorem Midway.Addressed.move (h : m.Addressed) (hs : Sound m) (hmove : Midway.Move m f n) : n.Addressed := by
  rcases h with haddr | ⟨id, address, hid⟩
  · exact .inl ((Onward.of_move hmove).localAddr haddr)
  · have hne {other : CallId} {x : Entry} (hother : m.entering.lookup other = some x)
        (hx : x ≠ .marked address) : id ≠ other := by
      rintro rfl
      exact hx (Option.some.inj (hother.symm.trans hid))
    cases hmove with
    | whole _ _ | mark _ | signal _ _ => exact .inr ⟨id, address, hid⟩
    | @count other _ _ hnot _ =>
      have hother : id ≠ other := by
        rintro rfl
        exact hnot (hs.entering id _ hid)
      exact .inr ⟨id, address, (lookup_put_of_ne hother _ _).trans hid⟩
    | turnAway hcounted _ =>
      exact .inr ⟨id, address, (lookup_filter_of_ne (hne hcounted nofun) _).trans hid⟩
    | enter hcounted _ => exact .inr ⟨id, address, (lookup_put_of_ne (hne hcounted nofun) _ _).trans hid⟩
    | record _ => exact .inl rfl

theorem Sound.move (hs : Sound m) (hmove : Midway.Move m f n) : Sound n := by
  have haddressed (h : n.server.state = .listening) : n.Addressed :=
    (hmove.addressed h).elim (fun hbefore => (hs.addressed hbefore).move hs hmove) id
  cases hmove with
  | whole hholds hstep =>
    refine ⟨hs.held.step hstep, distinct_step hs.distinct hstep, hs.tallied.step hs.held hstep,
      fun id x hid => ?_, fun id hid => ?_, haddressed⟩
    · have hother : _ ≠ some id := fun heq => by cases (lookup_entering hholds heq).symm.trans hid
      obtain ⟨stage, hstage, hlistens⟩ := hs.entering id x hid
      exact ⟨stage, (lookup_step hstep hother).trans hstage, hlistens⟩
    · rcases listening_of_step hstep hid.1 with hbefore | ⟨-, haddr⟩
      · exact (Onward.of_step hstep).localAddr (hs.reached id ⟨hbefore, hid.2⟩)
      · exact haddr
  | @count id address news hnot hnews =>
    have hopen : openListeners (news ++ m.server.history) = id :: openListeners m.server.history := by
      rcases hnews with rfl | rfl <;> rfl
    have htallied : Tallied (news ++ m.server.history) := by
      rcases hnews with rfl | rfl <;> exact hs.tallied
    refine ⟨?_, nodup_keys_put hs.distinct _ _, ⟨?_, htallied⟩, fun other x hother => ?_,
      fun other hother => ?_, haddressed⟩
    · show Held _ _ (openListeners (news ++ m.server.history))
      rw [hopen]
      exact hs.held.take hnot rfl
    · rw [hopen, hs.held.counted]
      rfl
    · by_cases hne : other = id
      · rw [hne]
        exact listening_put_self.2 rfl
      · exact (listening_put_of_ne hne).2 (hs.entering other x ((lookup_put_of_ne hne _ _).symm.trans hother))
    · obtain ⟨hne, hnone⟩ := lookup_put_eq_none.1 hother.2
      exact hs.reached other ⟨(listening_put_of_ne hne).1 hother.1, hnone⟩
  | @turnAway id address hid hclosed =>
    have hlistening := hs.entering id _ hid
    have hmem := (hs.held.held id).2 hlistening
    refine ⟨hs.held.release hlistening, nodup_keys_filter hs.distinct _, ⟨?_, hmem, hs.tallied⟩,
      fun other x hother => ?_, fun other hother => ?_, haddressed⟩
    · show m.server.listeners - 1 = ((openListeners m.server.history).erase id).length
      rw [List.length_erase_of_mem hmem, hs.held.counted]
    · obtain ⟨hne, hbefore⟩ := lookup_filter_eq_some.1 hother
      exact listening_filter.2 ⟨hne, hs.entering other x hbefore⟩
    · obtain ⟨hne, hbefore⟩ := listening_filter.1 hother.1
      exact hs.reached other ⟨hbefore, (lookup_filter_of_ne hne _).symm.trans hother.2⟩
  | @enter id address hid hopen =>
    refine ⟨hs.held, hs.distinct, hs.tallied, fun other x hother => ?_, fun other hother => ?_, haddressed⟩
    · by_cases hne : other = id
      · rw [hne]
        exact hs.entering id _ hid
      · exact hs.entering other x ((lookup_put_of_ne hne _ _).symm.trans hother)
    · exact hs.reached other ⟨hother.1, (lookup_put_eq_none.1 hother.2).2⟩
  | record hid =>
    exact ⟨hs.held, hs.distinct, hs.tallied,
      fun other x hother => hs.entering other x (lookup_filter_eq_some.1 hother).2, fun _ _ => rfl, haddressed⟩
  | mark _ => exact ⟨hs.held, hs.distinct, hs.tallied, hs.entering, hs.reached, haddressed⟩
  | @signal id previous news hsome hnews =>
    have hopen : openListeners (news ++ m.server.history) = openListeners m.server.history := by
      refine listenersOf_append fun n hn => ?_
      obtain ⟨addr, rfl⟩ := hnews n hn
      exact ⟨rfl, nofun⟩
    have htallied : Tallied (news ++ m.server.history) := by
      refine (tallied_append fun n hn => ?_).2 hs.tallied
      obtain ⟨addr, rfl⟩ := hnews n hn
      exact ⟨nofun, nofun⟩
    exact ⟨hopen ▸ hs.held, hs.distinct, htallied, hs.entering, hs.reached, haddressed⟩

theorem Signalled.move (hs : Signalled m) (hmove : Midway.Move m f n) : Signalled n := by
  cases hmove with
  | whole _ hstep =>
    cases Turn.of_step hstep with
    | same hstate hdone _ =>
      exact ⟨fun h => hstate.trans (hs.done (hdone ▸ h)), fun h => hstate.trans (hs.marking h),
        fun h => (hs.closed (hstate ▸ h)).imp hdone.trans id⟩
    | listens hopen hstate hdone _ _ _ =>
      refine ⟨fun h => ?_, fun h => ?_, fun h => ?_⟩
      · exact absurd (hs.done (hdone ▸ h)) hopen
      · exact absurd (hs.marking h) hopen
      · cases hstate.symm.trans h
    | closes hstate hdone _ => exact ⟨fun _ => hstate, fun _ => hstate, fun _ => .inl hdone⟩
  | count _ _ | turnAway _ _ | record _ => exact ⟨hs.done, hs.marking, hs.closed⟩
  | enter _ hopen =>
    exact ⟨fun h => absurd (hs.done h) hopen, fun h => absurd (hs.marking h) hopen, nofun⟩
  | mark _ => exact ⟨fun _ => rfl, fun _ => rfl, fun _ => .inr nofun⟩
  | signal hsome _ => exact ⟨fun _ => hs.marking hsome, fun _ => hs.marking hsome, fun _ => .inl rfl⟩

theorem Built.sound (hs : Built s) : Sound { server := s } := by
  have hheld := hs.held
  rw [hs.eq] at hheld ⊢
  refine ⟨hheld, .nil, trivial, nofun, fun id hid => ?_, nofun⟩
  obtain ⟨stage, hstage, -⟩ := hid.1
  cases hstage

theorem Built.signalled (hs : Built s) : Signalled { server := s } := by
  rw [hs.eq]
  exact ⟨nofun, fun hne => absurd rfl hne, nofun⟩

theorem Sound.of_run (hs : Built s) (hrun : Run Midway.step { server := s } es m) : Sound m :=
  hrun.keeps (fun _ _ _ hu hstep => hu.move (.of_step hstep)) hs.sound

theorem Signalled.of_run (hs : Built s) (hrun : Run Midway.step { server := s } es m) : Signalled m :=
  hrun.keeps (fun _ _ _ hu hstep => hu.move (.of_step hstep)) hs.signalled

/-- Where a server was listening an address is recorded, or a loop is going to record one. -/
theorem Sound.addressed_of_run (hs : Sound m) (hlistening : m.server.state = .listening)
    (hrun : Run Midway.step m es n) : n.Addressed := by
  have hboth := hrun.keeps (P := fun u => Sound u ∧ u.Addressed) ?_ ⟨hs, hs.addressed hlistening⟩
  · exact hboth.2
  · rintro u e v ⟨hu, haddressed⟩ hstep
    exact ⟨hu.move (.of_step hstep), haddressed.move hu (.of_step hstep)⟩

/-- Where an event brings about that an address is known, a loop has taken its first steps. -/
theorem Midway.Move.reaches (hs : Sound m) (hmove : Midway.Move m f n) (hnone : ¬m.server.localAddr.isSome)
    (hsome : n.server.localAddr.isSome) : ∃ id, n.Reaches id := by
  cases hmove with
  | whole hholds hstep =>
    cases Turn.of_step hstep with
    | listens _ _ _ _ hid hlistening => exact ⟨_, hlistening, lookup_entering hholds hid⟩
    | same _ _ haddr | closes _ _ haddr => exact absurd (haddr ▸ hsome) hnone
  | record hid => exact ⟨_, hs.entering _ _ hid, lookup_filter_self _ _⟩
  | count _ _ | turnAway _ _ | enter _ _ | mark _ | signal _ _ => exact absurd hsome hnone

/-- Where an event brings about that an address is recorded, or going to be, the server is listening. -/
theorem Midway.Move.listening (hmove : Midway.Move m f n) (hnone : ¬m.Addressed) (hsome : n.Addressed) :
    n.server.state = .listening := by
  cases hmove with
  | whole _ hstep =>
    cases Turn.of_step hstep with
    | listens _ hstate _ _ _ _ => exact hstate
    | same _ _ haddr | closes _ _ haddr => exact absurd (hsome.imp (haddr ▸ id) id) hnone
  | @count id _ _ _ _ =>
    rcases hsome with haddr | ⟨other, address, hother⟩
    · exact absurd (.inl haddr) hnone
    · have hne : other ≠ id := by
        rintro rfl
        cases (lookup_put_self _ _ _).symm.trans hother
      exact absurd (.inr ⟨other, address, (lookup_put_of_ne hne _ _).symm.trans hother⟩) hnone
  | turnAway _ _ =>
    rcases hsome with haddr | ⟨other, address, hother⟩
    · exact absurd (.inl haddr) hnone
    · exact absurd (.inr ⟨other, address, (lookup_filter_eq_some.1 hother).2⟩) hnone
  | enter _ _ => rfl
  | record hid => exact absurd (.inr ⟨_, _, hid⟩) hnone
  | mark _ | signal _ _ => exact absurd hsome hnone

/-- An address is known exactly where some loop has taken its first steps. -/
theorem localAddr_isSome_iff (hs : Built s) (hrun : Run Midway.step { server := s } es m) :
    m.server.localAddr.isSome ↔
      ∃ es₁ u id, es₁ <+: es ∧ Run Midway.step { server := s } es₁ u ∧ u.Reaches id := by
  constructor
  · intro hsome
    have hnone : ¬s.localAddr.isSome := by
      rw [hs.eq]
      nofun
    obtain ⟨es₁, e, es₂, u, v, rfl, hu, hstep, hnot, hv⟩ :=
      hrun.turn (P := fun u => u.server.localAddr.isSome) hnone hsome
    obtain ⟨id, hid⟩ := (Midway.Move.of_step hstep).reaches (.of_run hs hu) hnot hv
    exact ⟨es₁ ++ [e], v, id, ⟨es₂, by simp⟩, hu.append (.cons hstep (.nil v)), hid⟩
  · rintro ⟨es₁, u, id, ⟨es₂, rfl⟩, hu, hid⟩
    obtain ⟨u', hu', hlater⟩ := hrun.split
    obtain rfl := hu.unique hu'
    exact (Onward.of_run hlater).localAddr ((Sound.of_run hs hu).reached id hid)

/-- Where no loop is about to record one, an address is known exactly where the server has been listening. -/
theorem localAddr_isSome_iff_listening (hs : Built s) (hrun : Run Midway.step { server := s } es m)
    (hnone : ∀ id address, m.entering.lookup id ≠ some (.marked address)) :
    m.server.localAddr.isSome ↔
      ∃ es₁ u, es₁ <+: es ∧ Run Midway.step { server := s } es₁ u ∧ u.server.state = .listening := by
  constructor
  · intro hsome
    have hbuilt : ¬({ server := s } : Midway).Addressed := by
      rw [hs.eq]
      rintro (haddr | ⟨id, address, hid⟩)
      · cases haddr
      · cases hid
    obtain ⟨es₁, e, es₂, u, v, rfl, hu, hstep, hnot, hv⟩ :=
      hrun.turn (P := Midway.Addressed) hbuilt (.inl hsome)
    refine ⟨es₁ ++ [e], v, ⟨es₂, by simp⟩, hu.append (.cons hstep (.nil v)), ?_⟩
    exact (Midway.Move.of_step hstep).listening hnot hv
  · rintro ⟨es₁, u, ⟨es₂, rfl⟩, hu, hlistening⟩
    obtain ⟨u', hu', hlater⟩ := hrun.split
    obtain rfl := hu.unique hu'
    refine ((Sound.of_run hs hu).addressed_of_run hlistening hlater).resolve_right ?_
    rintro ⟨id, address, hid⟩
    exact hnone id address hid

/-- However starts, closes and dropped loops come together, the parts of a server agree, and nothing of its life
is taken back. -/
theorem life_coherent (hs : Built s) (hrun : Run Midway.step { server := s } es m) :
    Coherent s es m ∧ ∀ fs n, Run Midway.step m fs n → Onward m.server n.server := by
  have hsound := Sound.of_run hs hrun
  have hsignalled := Signalled.of_run hs hrun
  have hclosed (hwhole : m.marking = []) : m.server.done = true ↔ m.server.state = .closed := by
    refine ⟨hsignalled.done, fun h => (hsignalled.closed h).resolve_right ?_⟩
    exact fun hne => hne hwhole
  refine ⟨⟨hsound.distinct, hsound.counted, hsound.tallied, localAddr_isSome_iff hs hrun,
    localAddr_isSome_iff_listening hs hrun, hsignalled.done, hclosed, fun hwhole => ?_⟩, fun fs n => .of_run⟩
  rw [Bool.eq_iff_iff, isCancelled_iff, cancelledResolves_iff, hclosed hwhole]

/-- A loop has marked the server when a close does, and another one has counted its listener, on one that was
handed to it. The close gives its signal last of all: until then a connection is cancelled whose wait for the
cancellation is not over. -/
theorem life_coherent_during_close : ∃ es fs m n,
    es = [.whole (.listenAndServe 1), .count 1 "front", .enter 1, .count 2 "side", .mark 3 (some .zero)] ∧
    fs = [.record 1, .enter 2, .whole (.accept 1 "peer"), .signal 3, .whole (.resume 1)] ∧
    Run Midway.step { server := { addr := "front" } } es m ∧
    m.server.listeners = 2 ∧ m.server.localAddr = none ∧
    m.server.isCancelled = true ∧ m.server.cancelledResolves = false ∧
    Run Midway.step m fs n ∧ n.server.listeners = 0 ∧ n.server.localAddr = some "front" ∧
    n.server.answer? 2 = some (.error .closed) ∧ n.server.active = 1 ∧
    Coherent { addr := "front" } (es ++ fs) n ∧ Onward m.server n.server := by
  have hbuilt := Built.of_addr "front" {}
  have hnil : Run Midway.step { server := { addr := "front" } } [] _ := .nil _
  have hbefore := hnil.further
    [.whole (.listenAndServe 1), .count 1 "front", .enter 1, .count 2 "side", .mark 3 (some .zero)] rfl
  have hafter := hbefore.further
    [.record 1, .enter 2, .whole (.accept 1 "peer"), .signal 3, .whole (.resume 1)] rfl
  exact ⟨_, _, _, _, rfl, rfl, hbefore, rfl, rfl, rfl, rfl, hafter, rfl, rfl, rfl, rfl,
    (life_coherent hbuilt (hbefore.append hafter)).1, (life_coherent hbuilt hbefore).2 _ _ hafter⟩

end PooledTcp.Server
