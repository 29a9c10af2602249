import PooledTcp.Proofs.Server.Parallel

/-!
# A server after a close

A close is over when it finds no listener counted, and then none is open. From then on a loop may still come to
have a listener: one that is handed over, or on an address that was being bound. It counts the listener before it
looks at the state, and as what is closed stays closed, it does nothing more than to close the listener again
(`Sealed`). So no connection comes any more, whatever else happens to the server and however the steps of its
operations come together (`Unserved`), and a call that would serve is turned away (`TurnsAway`).

All of this is kept by every step of a `Midway` (`Rested.move`), and says nothing of the signal; so by every step of
a `Parallel`, in which a loop can be given a connection when the signal is given already.
-/

namespace PooledTcp.Server

/-- What a close that is over has left: no loop has a listener, but to close it again. -/
structure Sealed (m : Midway) : Prop where
  state : m.server.state = .closed
  counted : ∀ id, Listening m.server.loops id → ∃ address, m.entering.lookup id = some (.counted address)

/-- Only a closed server has a stop in flight, and no listener was open when one found none counted. -/
structure Rested (m : Midway) : Prop where
  sound : Sound m
  stops : m.server.stops ≠ [] → m.server.state = .closed
  released : ∀ id h, .closed id :: h <:+ m.server.history → openListeners h = []
  finished : ClosedIn m.server.history → Sealed m

/-- No connection comes to the server on its way from `s` to `t`, and it listens nowhere else. -/
structure Unserved (s t : Server) : Prop where
  localAddr : t.localAddr = s.localAddr
  nextConn : t.nextConn = s.nextConn
  active : t.active ≤ s.active
  news : Grows (fun n => ¬n.Serves) s t

/-- Call `id`, which has counted its listener, is turned away in its next step, whatever happens before, and
then it has changed nothing. -/
def TurnedAway (id : CallId) (p : Parallel) : Prop := ∀ es q, Run Parallel.step p es q →
  (.first (.enter id) : Parallel.Event) ∉ es → ∃ r, q.step (.first (.enter id)) = some r ∧
    r.server.answer? id = some (.error .closed) ∧ r.server.loops.lookup id = none ∧
    r.server.listeners + 1 = q.server.listeners ∧ r.server.state = .closed ∧
    r.server.localAddr = p.server.localAddr ∧ r.server.nextConn = p.server.nextConn

variable {s t u : Server} {m n : Midway} {p q : Parallel} {e : Event} {f : Midway.Event} {id : CallId}

/-! ### What a finished close leaves -/

/-- What is noted of no close leaves the closes as they are. -/
theorem suffix_of_grows {P : Note → Prop} {x : Note} {h : List Note} (hgrows : Grows P s t) (hnot : ¬P x)
    (hsub : x :: h <:+ t.history) : x :: h <:+ s.history := by
  obtain ⟨news, hhist, hnews⟩ := hgrows
  rw [hhist] at hsub
  clear hhist
  induction news with
  | nil => exact hsub
  | cons n news ih =>
    obtain ⟨hn, hrest⟩ := List.forall_mem_cons.1 hnews
    rcases List.suffix_cons_iff.1 hsub with heq | hsub
    · cases heq
      exact absurd hn hnot
    · exact ih hsub hrest

/-- Only a stop that finds no listener counted notes that a close is over. -/
theorem closed_step (hstep : s.step e = some t) : Grows (fun x => ∀ id, x ≠ .closed id) s t ∨
    (∃ id, e = .proceed id) ∧ s.listeners = 0 ∧ s.stops ≠ [] := by
  obtain ⟨news, hhist, hnews⟩ := history_step hstep
  by_cases hclosed : ∃ id, .closed id ∈ news
  · obtain ⟨id, hid⟩ := hclosed
    obtain ⟨rfl, hzero, grace, hstop⟩ := hnews _ hid
    exact .inr ⟨⟨id, rfl⟩, hzero, ne_nil_of_lookup hstop⟩
  · refine .inl ⟨news, hhist, fun x hx id hclose => hclosed ⟨id, ?_⟩⟩
    rwa [← hclose]

/-- Only a closed server has a stop in flight. -/
theorem stops_step (hs : s.stops ≠ [] → s.state = .closed) (hstep : s.step e = some t) :
    t.stops ≠ [] → t.state = .closed := by
  intro hne
  cases Move.of_step hstep with
  | bound _ hopen | served _ hopen => exact absurd (hs hne) hopen
  | close _ | shutdown _ => rfl
  | closed hid _ | idle hid _ _ | drains hid _ _ | drained hid _ | spent hid _ _ | graceOver hid _ _
  | stillDraining hid _ | forced hid _ | forceOver hid | stillForcing hid _ => exact hs (ne_nil_of_lookup hid)
  | finished _ _ _ =>
    refine hs fun hnil => hne ?_
    simp [hnil]
  | _ => exact hs hne

/-- The first steps of loops and closes note nothing of closes that are over, and of connections. -/
theorem Midway.Move.quiet (hmove : Midway.Move m f n) : (∃ e, f = .whole e ∧ m.server.step e = some n.server) ∨
    Grows (fun x => (∀ id, x ≠ .closed id) ∧ ¬x.Serves) m.server n.server := by
  cases hmove with
  | whole _ hstep => exact .inl ⟨_, rfl, hstep⟩
  | @count _ _ news _ hnews =>
    refine .inr ⟨.listeners (m.server.listeners + 1) :: news, rfl, ?_⟩
    rcases hnews with rfl | rfl <;> simp [Note.Serves]
  | turnAway _ _ => exact .inr ⟨[_, _, _], rfl, by simp [Note.Serves]⟩
  | enter _ _ | mark _ => exact .inr (.refl _)
  | record _ => exact .inr ⟨[_], rfl, by simp [Note.Serves]⟩
  | signal _ hnews =>
    refine .inr ⟨_, rfl, fun x hx => ?_⟩
    obtain ⟨addr, rfl⟩ := hnews x hx
    exact ⟨nofun, not_false⟩

theorem Midway.Move.stops (hs : m.server.stops ≠ [] → m.server.state = .closed) (hmove : Midway.Move m f n) :
    n.server.stops ≠ [] → n.server.state = .closed := by
  cases hmove with
  | whole _ hstep => exact stops_step hs hstep
  | enter _ hopen => exact fun hne => absurd (hs hne) hopen
  | mark _ => exact fun _ => rfl
  | count _ _ | turnAway _ _ | record _ | signal _ _ => exact hs

namespace Sealed

/-- What a finished close has left stays. -/
theorem move (hs : Sealed m) (hsound : Sound m) (hmove : Midway.Move m f n) : Sealed n := by
  refine ⟨(Onward.of_move hmove).closed hs.state, fun id hid => ?_⟩
  cases hmove with
  | whole _ hstep =>
    exact hs.counted id ((listening_of_step hstep hid).resolve_right fun hopen => hopen.1 hs.state)
  | @count other address _ _ _ =>
    by_cases hother : id = other
    · exact ⟨address, by rw [hother, lookup_put_self]⟩
    · obtain ⟨address, hcounted⟩ := hs.counted id ((listening_put_of_ne hother).1 hid)
      exact ⟨address, (lookup_put_of_ne hother _ _).trans hcounted⟩
  | turnAway _ _ =>
    obtain ⟨hother, hid⟩ := listening_filter.1 hid
    obtain ⟨address, hcounted⟩ := hs.counted id hid
    exact ⟨address, (lookup_filter_of_ne hother _).trans hcounted⟩
  | enter _ hopen => exact absurd hs.state hopen
  | @record other _ hmarked =>
    obtain ⟨address, hcounted⟩ := hs.counted other (hsound.entering other _ hmarked)
    cases hmarked.symm.trans hcounted
  | mark _ | signal _ _ => exact hs.counted id hid

/-- No step brings a connection, or another address. -/
theorem unserved (hs : Sealed m) (hsound : Sound m) (hmove : Midway.Move m f n) : Unserved m.server n.server := by
  have hquiet := hmove.quiet
  cases hmove with
  | @whole e _ hholds hstep =>
    have hnot : ∀ id peer, e ≠ .accept id peer := by
      rintro id peer rfl
      cases Move.of_step hstep with
      | accepted hid _ _ _ _ =>
        obtain ⟨address, hcounted⟩ := hs.counted id ⟨_, hid, rfl⟩
        cases (lookup_entering hholds rfl).symm.trans hcounted
    obtain ⟨hnext, hactive, hnews⟩ := unserved_of_ne_accept hstep hnot
    refine ⟨?_, hnext, hactive, hnews⟩
    cases Turn.of_step hstep with
    | same _ _ haddr | closes _ _ haddr => exact haddr
    | listens hopen _ _ _ _ _ => exact absurd hs.state hopen
  | enter _ hopen => exact absurd hs.state hopen
  | @record other _ hmarked =>
    obtain ⟨address, hcounted⟩ := hs.counted other (hsound.entering other _ hmarked)
    cases hmarked.symm.trans hcounted
  | count _ _ | turnAway _ _ | mark _ | signal _ _ =>
    rcases hquiet with ⟨_, hwhole, -⟩ | ⟨news, hhist, hnews⟩
    · cases hwhole
    · exact ⟨rfl, rfl, Nat.le_refl _, news, hhist, fun x hx => (hnews x hx).2⟩

end Sealed

namespace Unserved

theorem refl (s : Server) : Unserved s s := ⟨rfl, rfl, Nat.le_refl _, .refl s⟩

theorem trans (h : Unserved s t) (k : Unserved t u) : Unserved s u :=
  ⟨k.localAddr.trans h.localAddr, k.nextConn.trans h.nextConn, Nat.le_trans k.active h.active,
    h.news.trans k.news⟩

end Unserved

theorem Built.rested (hs : Built s) : Rested { server := s } := by
  have hsound := hs.sound
  rw [hs.eq] at hsound ⊢
  refine ⟨hsound, fun hne => absurd rfl hne, fun id h hsub => ?_, ?_⟩
  · cases List.suffix_nil.1 hsub
  · rintro ⟨id, hid⟩
    cases hid

/-- A stop that finds no listener counted finds no loop with a listener. -/
theorem Rested.proceed (hs : Rested m) (hzero : m.server.listeners = 0) (hne : m.server.stops ≠ [])
    (hmove : Midway.Move m (.whole (.proceed id)) n) (hstep : m.server.step (.proceed id) = some n.server) :
    Rested n := by
  have hnone : openListeners m.server.history = [] := (hzero ▸ hs.sound.held).eq_nil
  have hclosed := hs.stops hne
  refine ⟨hs.sound.move hmove, hmove.stops hs.stops, fun i h hsub => ?_, fun _ => ⟨?_, fun i hi => ?_⟩⟩
  · obtain ⟨news, hhist, hnews⟩ := history_step hstep
    rw [hhist] at hsub
    rcases List.suffix_or_suffix_of_suffix hsub (List.suffix_append _ _) with hold | ⟨late, hlate⟩
    · exact hs.released i h hold
    · cases late with
      | nil => exact hs.released i h (hlate ▸ List.suffix_rfl)
      | cons x late =>
        rw [List.cons_append] at hlate
        obtain ⟨rfl, rfl⟩ := List.cons.inj hlate
        have hlater : late <:+ news := (List.suffix_cons _ late).trans (List.suffix_append_self_iff.1 hsub)
        rw [openListeners_append (e := .proceed id) not_false fun x hx => hnews x (hlater.subset hx)]
        exact hnone
  · exact (Onward.of_move hmove).closed hclosed
  · have hbefore := (listening_of_step hstep hi).resolve_right fun hopen => hopen.1 hclosed
    have hopen := (hs.sound.held.held i).2 hbefore
    rw [hnone] at hopen
    cases hopen

theorem Rested.move (hs : Rested m) (hmove : Midway.Move m f n) : Rested n := by
  have hkept (hgrows : Grows (fun x => ∀ id, x ≠ .closed id) m.server n.server) : Rested n := by
    have hback {id : CallId} {h : List Note} (hsub : .closed id :: h <:+ n.server.history) :
        .closed id :: h <:+ m.server.history := suffix_of_grows hgrows (fun hnot => hnot id rfl) hsub
    refine ⟨hs.sound.move hmove, hmove.stops hs.stops, fun id h hsub => hs.released id h (hback hsub), ?_⟩
    rintro ⟨id, hid⟩
    obtain ⟨h₁, h₂, heq⟩ := List.append_of_mem hid
    have hbefore := hback ⟨h₁, heq.symm⟩
    exact (hs.finished ⟨id, hbefore.subset List.mem_cons_self⟩).move hs.sound hmove
  rcases hmove.quiet with ⟨e, rfl, hstep⟩ | ⟨news, hhist, hnews⟩
  · rcases closed_step hstep with hgrows | ⟨⟨id, rfl⟩, hzero, hne⟩
    · exact hkept hgrows
    · exact hs.proceed hzero hne hmove hstep
  · exact hkept ⟨news, hhist, fun x hx => (hnews x hx).1⟩

/-- Of the signal nothing is said, and of the stops only whether there are any. -/
theorem Rested.same {done : Bool} {stops : List (CallId × StopStage)} (hs : Rested m)
    (hiff : stops = [] ↔ m.server.stops = []) : Rested { m with server := { m.server with done, stops } } := by
  have hsound := hs.sound
  refine ⟨?_, fun hne => hs.stops fun hnil => hne (hiff.2 hnil), hs.released, fun hover => ?_⟩
  · exact ⟨hsound.held, hsound.distinct, hsound.tallied, hsound.entering, hsound.reached, hsound.addressed⟩
  · exact ⟨(hs.finished hover).state, (hs.finished hover).counted⟩

namespace Parallel

theorem Reachable.rested (hs : Reachable p) : Rested p.toMidway :=
  hs.lift (fun _ => Built.rested) (fun _ _ _ hiff hm => hm.same hiff) fun _ _ _ hm => hm.move

/-- Where a close is over, no step brings a connection. -/
theorem Move.unserved {e : Event} (hmove : Move p e q) (hs : Rested p.toMidway)
    (hover : ClosedIn p.server.history) :
    Rested q.toMidway ∧ ClosedIn q.server.history ∧ Unserved p.server q.server := by
  refine hmove.lift (I := fun m => Rested m ∧ ClosedIn m.server.history ∧ Unserved p.server m.server) ?_ ?_
    ⟨hs, hover, .refl _⟩
  · rintro m done stops hiff ⟨hm, hclosed, hunserved⟩
    exact ⟨hm.same hiff, hclosed, hunserved.localAddr, hunserved.nextConn, hunserved.active, hunserved.news⟩
  · rintro m f n ⟨hm, hclosed, hunserved⟩ hmn
    have hstep := (hm.finished hclosed).unserved hm.sound hmn
    exact ⟨hm.move hmn, hclosed.mono hstep.news.suffix, hunserved.trans hstep⟩

end Parallel

theorem unserved_run {es : List Parallel.Event} (hs : Rested p.toMidway) (hover : ClosedIn p.server.history)
    (hrun : Run Parallel.step p es q) :
    Rested q.toMidway ∧ ClosedIn q.server.history ∧ Unserved p.server q.server := by
  refine hrun.keeps (P := fun u => Rested u.toMidway ∧ ClosedIn u.server.history ∧ Unserved p.server u.server) ?_
    ⟨hs, hover, .refl _⟩
  rintro u e v ⟨hu, hclosed, hunserved⟩ hstep
  obtain ⟨hv, hlater, hnext⟩ := (Parallel.Move.of_step hstep).unserved hu hclosed
  exact ⟨hv, hlater, hunserved.trans hnext⟩

/-! ### Calls that come after the close -/

/-- Call `id` came to serve on a listener when a close was over, and has counted it. -/
structure Late (id : CallId) (p : Parallel) : Prop where
  watching : Watching p
  rested : Rested p.toMidway
  closed : ClosedIn p.server.history
  counted : ∃ address, p.entering.lookup id = some (.counted address)

namespace Late

variable {f : Parallel.Event} {es : List Parallel.Event}

/-- The next step of the call is the one in which it looks at the state. -/
theorem eq_enter (hs : Late id p) (hstep : p.step f = some q) (hloop : f.loop? = some id) :
    f = .first (.enter id) := by
  obtain ⟨address, hcounted⟩ := hs.counted
  cases Parallel.Move.of_step hstep with
  | first _ hm =>
    cases hm with
    | whole hholds _ => cases (lookup_entering hholds hloop).symm.trans hcounted
    | count hnot _ =>
      cases hloop
      exact absurd (hs.rested.sound.entering id _ hcounted) hnot
    | turnAway _ _ | enter _ _ =>
      cases hloop
      rfl
    | record hmarked =>
      cases hloop
      cases hmarked.symm.trans hcounted
    | mark _ | signal _ _ => cases hloop
  | turn hturn hentering _ =>
    cases hturn.symm.trans hloop
    cases hentering.symm.trans hcounted
  | leave _ _ _ | tell _ => cases hloop

theorem step (hs : Late id p) (hstep : p.step f = some q) (hnot : f ≠ .first (.enter id)) :
    Late id q ∧ Unserved p.server q.server := by
  have hmove := Parallel.Move.of_step hstep
  obtain ⟨hrested, hover, hunserved⟩ := hmove.unserved hs.rested hs.closed
  obtain ⟨address, hcounted⟩ := hs.counted
  have hother := (hmove.lookup fun hloop => hnot (hs.eq_enter hstep hloop)).2
  exact ⟨⟨hs.watching.step hstep, hrested, hover, address, hother.trans hcounted⟩, hunserved⟩

theorem run (hs : Late id p) (hrun : Run Parallel.step p es q) (hnot : .first (.enter id) ∉ es) :
    Late id q ∧ Unserved p.server q.server := by
  induction hrun with
  | nil p => exact ⟨hs, .refl _⟩
  | cons hstep _ ih =>
    obtain ⟨hnext, hunserved⟩ := hs.step hstep fun heq => hnot (heq ▸ List.mem_cons_self)
    obtain ⟨hlast, hlater⟩ := ih hnext fun hmem => hnot (List.mem_cons_of_mem _ hmem)
    exact ⟨hlast, hunserved.trans hlater⟩

/-- In that step the listener is closed again, and the call answered. -/
theorem enter (hs : Late id p) : ∃ q, p.step (.first (.enter id)) = some q ∧
    q.server.answer? id = some (.error .closed) ∧ q.server.loops.lookup id = none ∧
    q.server.listeners + 1 = p.server.listeners := by
  obtain ⟨address, hcounted⟩ := hs.counted
  have hnot : id ∉ p.looked := fun hlooked => by
    cases (hs.watching.entering id hlooked).symm.trans hcounted
  have hclosed : p.server.isClosed = true := beq_iff_eq.2 (hs.rested.finished hs.closed).state
  have hpos : 0 < p.server.listeners := by
    rw [hs.rested.sound.held.counted]
    exact List.length_pos_of_mem ((hs.rested.sound.held.held id).2 (hs.rested.sound.entering id _ hcounted))
  refine ⟨{ p with server := p.server.turnAway id, entering := p.entering.filter (·.1 != id) }, ?_,
    answer?_answer _ _ _, lookup_filter_self _ _, ?_⟩
  · simp [Parallel.step, Midway.Event.loop?, hnot, Midway.step, hcounted, hclosed]
  · rw [turnAway, releaseListener_eq]
    exact Nat.sub_add_cancel hpos

theorem turnedAway (hs : Late id p) : TurnedAway id p := by
  intro es q hrun hnot
  obtain ⟨hlate, hunserved⟩ := hs.run hrun hnot
  obtain ⟨r, hstep, hanswer, hgone, hcount⟩ := hlate.enter
  obtain ⟨hrested, hover, hlast⟩ := (Parallel.Move.of_step hstep).unserved hlate.rested hlate.closed
  have hwhole := hunserved.trans hlast
  exact ⟨r, hstep, hanswer, hgone, hcount, (hrested.finished hover).state, hwhole.localAddr, hwhole.nextConn⟩

end Late

end PooledTcp.Server
