import PooledTcp.Proofs.Server.Lifecycle

/-!
# Loops that look for the signal and for a connection one after the other

In each of its turns a loop first looks whether the signal to stop is given, and only then asks its listener for a
connection; and a loop that waits after a failure may find its time over when the signal is given too. `Polling` is a
server whose loops do these things one by one, so that a close can come in between. In a row they are the operations
of `Server.step` (`step_take_of_look`, `step_fault_of_look`, `step_wake_eq`). `Move` lists what an event can do, and
`Fate` what it makes of a loop.
-/

namespace PooledTcp.Server

/-- Loop `id` accepts a connection, and begins to count failures anew. -/
def takeConnection (s : Server) (id : CallId) (address : String) (backoff : Backoff) (peer : String) : Server :=
  ((s.note .accepted).dispatch address peer).holdLoop id (.accepting address backoff.reset)

/-- An accept of loop `id` fails, and it begins to wait. -/
def failAccept (s : Server) (id : CallId) (address : String) (backoff : Backoff) (cause : IoError)
    (draw : UInt64) : Server :=
  let (backoff, delay) := backoff.next draw
  (s.note (.acceptFailed cause backoff.attempts.toNat delay.millis)).holdLoop id
    (.retrying address backoff (Clock.sleepEnd s.now delay))

/-- A server, and the loops that have found the signal not given in this turn and are about to ask for a
connection. -/
structure Polling where
  server : Server
  looked : List CallId := []

namespace Polling

/-- What can happen. -/
inductive Event where
  /-- An uninterrupted piece of work. -/
  | whole (e : Server.Event)
  /-- Loop `id` finds the signal not given. -/
  | look (id : CallId)
  /-- It is given a connection. -/
  | take (id : CallId) (peer : String)
  /-- The accept fails. -/
  | fault (id : CallId) (cause : IoError) (draw : UInt64)
  /-- There is no connection yet: it waits for the next turn. -/
  | park (id : CallId)
  /-- Loop `id` has waited long enough, and does not look for the signal yet. -/
  | wake (id : CallId)

/-- Loop `id` looks for a connection no more, in this turn. -/
def settle (p : Polling) (id : CallId) (s : Server) : Polling :=
  { server := s, looked := p.looked.filter (· != id) }

/-- Perform an event, if it can happen. -/
def step (p : Polling) : Event → Option Polling
  | .whole e =>
    if e.loop?.any (· ∈ p.looked) then none else (p.server.step e).map fun s => { p with server := s }
  | .look id =>
    match p.server.loops.lookup id with
    | some (.accepting _ _) =>
      if p.server.done || id ∈ p.looked then none else some { p with looked := id :: p.looked }
    | _ => none
  | .take id peer =>
    match p.server.loops.lookup id with
    | some (.accepting address backoff) =>
      if id ∈ p.looked then some (p.settle id (p.server.takeConnection id address backoff peer)) else none
    | _ => none
  | .fault id cause draw =>
    match p.server.loops.lookup id with
    | some (.accepting address backoff) =>
      if id ∈ p.looked then
        some (p.settle id (if p.server.done then p.server.endLoop id address
          else p.server.failAccept id address backoff cause draw))
      else none
    | _ => none
  | .park id => if id ∈ p.looked then some (p.settle id p.server) else none
  | .wake id =>
    match p.server.loops.lookup id with
    | some (.retrying address backoff until_) =>
      if Clock.fired p.server.now until_ then
        some { p with server := p.server.holdLoop id (.accepting address backoff) }
      else none
    | _ => none

end Polling

variable {s : Server} {p q : Polling} {e : Polling.Event} {id : CallId}

/-- To look and then to be given a connection is to accept one. -/
theorem step_take_of_look (s : Server) (id : CallId) (peer : String) :
    (Polling.step { server := s } (.look id)).bind (·.step (.take id peer)) =
      Polling.step { server := s } (.whole (.accept id peer)) := by
  simp only [Polling.step, Event.loop?, Server.step]
  rcases hid : s.loops.lookup id with _ | stage
  · simp
  · cases stage with
    | binding | retrying _ _ _ => simp
    | accepting address backoff => cases hdone : s.done <;> simp [hid, Polling.settle, takeConnection]

/-- To look and then to fail is a failed accept. -/
theorem step_fault_of_look (s : Server) (id : CallId) (cause : IoError) (draw : UInt64) :
    (Polling.step { server := s } (.look id)).bind (·.step (.fault id cause draw)) =
      Polling.step { server := s } (.whole (.acceptFails id cause draw)) := by
  simp only [Polling.step, Event.loop?, Server.step]
  rcases hid : s.loops.lookup id with _ | stage
  · simp
  · cases stage with
    | binding | retrying _ _ _ => simp
    | accepting address backoff => cases hdone : s.done <;> simp [hid, hdone, Polling.settle, failAccept]

/-- Where the signal is not given, a loop that has waited long enough just goes on. -/
theorem step_wake_eq {address : String} {backoff : Backoff} {until_ : Nat} (hdone : s.done = false)
    (hid : s.loops.lookup id = some (.retrying address backoff until_)) :
    Polling.step { server := s } (.wake id) = Polling.step { server := s } (.whole (.resume id)) := by
  simp [Polling.step, hid, hdone, Server.step, Event.loop?]

/-! ### Loops -/

namespace Polling.Event

/-- Loop `id` accepts a connection in the event. -/
def takes (id : CallId) : Event → Bool
  | .whole (.accept i _) | .take i _ => i == id
  | _ => false

/-- An accept of loop `id` fails in the event. -/
def fails (id : CallId) : Event → Bool
  | .whole (.acceptFails i _ _) | .fault i _ _ => i == id
  | _ => false

/-- Loop `id` is given its listener in the event. -/
def starts (id : CallId) : Event → Bool
  | .whole (.bound i (.ok _)) | .whole (.serve i (.ok _)) => i == id
  | _ => false

/-- How many accepts of loop `id` have failed in a row after the event, if it were `n` before. -/
def streak (id : CallId) (n : Nat) (e : Event) : Nat :=
  if e.takes id || e.starts id then 0 else if e.fails id then n + 1 else n

end Polling.Event

/-- What an event can do, by the point at which the loop that it is about waits. -/
inductive Polling.Move (p : Polling) : Polling.Event → Polling → Prop where
  | whole {e : Server.Event} {t : Server} : (∀ id ∈ p.looked, e.loop? ≠ some id) → p.server.step e = some t →
    Move p (.whole e) { p with server := t }
  | looks {id : CallId} {address : String} {backoff : Backoff} :
    p.server.loops.lookup id = some (.accepting address backoff) → p.server.done = false → id ∉ p.looked →
    Move p (.look id) { p with looked := id :: p.looked }
  /-- All that may come between the count and the task is that keep-alive fails. -/
  | takes {id : CallId} {peer address : String} {backoff : Backoff} {c : Connection} {warnings : List Note} :
    p.server.loops.lookup id = some (.accepting address backoff) → id ∈ p.looked →
    (∀ n ∈ warnings, ∃ cause, n = .keepAliveFailed peer cause) →
    Move p (.take id peer) (p.settle id { p.server with
      active := p.server.active + 1
      nextConn := p.server.nextConn + 1
      conns := (p.server.nextConn, c) :: p.server.conns
      loops := put id (.accepting address backoff.reset) p.server.loops
      history := .dispatched p.server.nextConn peer ::
        (warnings ++ .tracked p.server.nextConn (p.server.active + 1) :: .accepted :: p.server.history) })
  | fails {id : CallId} {cause : IoError} {draw : UInt64} {address : String} {backoff : Backoff} :
    p.server.loops.lookup id = some (.accepting address backoff) → id ∈ p.looked → p.server.done = false →
    Move p (.fault id cause draw) (p.settle id ((p.server.note (.acceptFailed cause
      (backoff.next draw).1.attempts.toNat (backoff.next draw).2.millis)).holdLoop id
        (.retrying address (backoff.next draw).1 (Clock.sleepEnd p.server.now (backoff.next draw).2))))
  /-- The signal was given since the loop looked for it. -/
  | hears {id : CallId} {cause : IoError} {draw : UInt64} {address : String} {backoff : Backoff} :
    p.server.loops.lookup id = some (.accepting address backoff) → id ∈ p.looked → p.server.done = true →
    Move p (.fault id cause draw) (p.settle id { p.server with
      listeners := p.server.listeners - 1
      loops := p.server.loops.filter (·.1 != id)
      history := .answered id (.error .closed) :: .stopped address ::
        .listeners (p.server.listeners - 1) :: .released id :: p.server.history })
  | parks {id : CallId} : id ∈ p.looked → Move p (.park id) (p.settle id p.server)
  | wakes {id : CallId} {address : String} {backoff : Backoff} {until_ : Nat} :
    p.server.loops.lookup id = some (.retrying address backoff until_) →
    Clock.fired p.server.now until_ = true →
    Move p (.wake id) { p with server := p.server.holdLoop id (.accepting address backoff) }

/-- The failures of loop `id` in a row, since it was given its listener or accepted a connection. -/
def Polling.failures (id : CallId) (es : List Polling.Event) : Nat := es.foldl (fun n e => e.streak id n) 0

/-- What an event makes of a loop. -/
inductive Polling.Fate (p : Polling) (e : Polling.Event) (id : CallId) (q : Polling) :
    Option ServeStage → Option ServeStage → Prop where
  | rests {o : Option ServeStage} : (∀ n, e.streak id n = n) → Fate p e id q o o
  /-- It has no listener, neither before nor afterwards. -/
  | outside {o o' : Option ServeStage} : o.any (·.listens) = false → o'.any (·.listens) = false →
    Fate p e id q o o'
  | starts {o : Option ServeStage} {address : String} : o.any (·.listens) = false → e.starts id = true →
    Fate p e id q o (some (.accepting address (Backoff.ofBounds acceptBase acceptMax)))
  | takes {address : String} {backoff : Backoff} : e.takes id = true →
    Fate p e id q (some (.accepting address backoff)) (some (.accepting address backoff.reset))
  | fails {address : String} {backoff : Backoff} {draw : UInt64} : p.server.done = false →
    (∀ n, e.streak id n = n + 1) → Fate p e id q (some (.accepting address backoff))
      (some (.retrying address (backoff.next draw).1
        (Clock.sleepEnd p.server.now (backoff.next draw).2)))
  | wakes {address : String} {backoff : Backoff} {until_ : Nat} :
    Clock.fired p.server.now until_ = true → (∀ n, e.streak id n = n) →
    Fate p e id q (some (.retrying address backoff until_)) (some (.accepting address backoff))
  | ends {stage : ServeStage} : stage.listens = true → p.server.done = true →
    q.server.answer? id = some (.error .closed) → Fate p e id q (some stage) none
  | dropped {stage : ServeStage} : stage.listens = true → e = .whole (.dropLoop id) →
    q.server.answer? id = p.server.answer? id → Fate p e id q (some stage) none

/-- A loop that has looked for the signal is about to ask for a connection. -/
def Looking (p : Polling) : Prop :=
  ∀ id ∈ p.looked, ∃ address backoff, p.server.loops.lookup id = some (.accepting address backoff)

theorem lookup_of_isBusy (h : s.isBusy id = false) : s.loops.lookup id = none := by
  simp only [isBusy, Bool.or_eq_false_iff] at h
  exact Option.not_isSome_iff_eq_none.1 (Bool.eq_false_iff.1 h.1)

/-- A loop that goes on from its wait without the signal has waited long enough. -/
theorem fired_of_resume {t : Server} {address : String} {backoff : Backoff} {until_ : Nat}
    (hid : s.loops.lookup id = some (.retrying address backoff until_)) (hdone : s.done = false)
    (hstep : s.step (.resume id) = some t) : Clock.fired s.now until_ = true := by
  simp only [Server.step, hid, hdone, Bool.false_eq_true, if_false] at hstep
  exact (Option.ite_none_right_eq_some.1 hstep).1

/-- A loop that takes a connection, as one change of the fields of a server. -/
theorem takeConnection_eq (s : Server) (id : CallId) (address : String) (backoff : Backoff) (peer : String) :
    ∃ (c : Connection) (warnings : List Note), (∀ n ∈ warnings, ∃ cause, n = .keepAliveFailed peer cause) ∧
      s.takeConnection id address backoff peer = { s with
        active := s.active + 1
        nextConn := s.nextConn + 1
        conns := (s.nextConn, c) :: s.conns
        loops := put id (.accepting address backoff.reset) s.loops
        history := .dispatched s.nextConn peer ::
          (warnings ++ .tracked s.nextConn (s.active + 1) :: .accepted :: s.history) } := by
  obtain ⟨c, warnings, -, -, hwarn, heq⟩ := dispatch_eq (s.note .accepted) address peer
  refine ⟨c, warnings, hwarn, ?_⟩
  rw [takeConnection, heq]
  rfl

theorem failAccept_eq (s : Server) (id : CallId) (address : String) (backoff : Backoff) (cause : IoError)
    (draw : UInt64) : s.failAccept id address backoff cause draw =
      (s.note (.acceptFailed cause (backoff.next draw).1.attempts.toNat
        (backoff.next draw).2.millis)).holdLoop id (.retrying address (backoff.next draw).1
          (Clock.sleepEnd s.now (backoff.next draw).2)) := rfl

/-- Nothing else happens. -/
theorem Polling.Move.of_step (hstep : p.step e = some q) : Move p e q := by
  cases e with
  | whole e =>
    simp only [Polling.step, Option.ite_none_left_eq_some, Option.map_eq_some_iff] at hstep
    obtain ⟨hnone, t, ht, rfl⟩ := hstep
    refine .whole (fun id hid hloop => hnone ?_) ht
    rw [hloop, Option.any_some]
    exact decide_eq_true hid
  | look i =>
    simp only [Polling.step] at hstep
    split at hstep
    · rename_i hi
      simp only [Option.ite_none_left_eq_some, Option.some.injEq, Bool.or_eq_true, not_or,
        Bool.not_eq_true, decide_eq_true_eq] at hstep
      obtain ⟨⟨hdone, hnot⟩, rfl⟩ := hstep
      exact .looks hi hdone hnot
    · cases hstep
  | take i peer =>
    simp only [Polling.step] at hstep
    split at hstep
    · rename_i address backoff hi
      simp only [Option.ite_none_right_eq_some, Option.some.injEq] at hstep
      obtain ⟨hlooked, rfl⟩ := hstep
      obtain ⟨c, warnings, hwarn, heq⟩ := takeConnection_eq p.server i address backoff peer
      rw [heq]
      exact .takes hi hlooked hwarn
    · cases hstep
  | fault i cause draw =>
    simp only [Polling.step] at hstep
    split at hstep
    · rename_i address backoff hi
      simp only [Option.ite_none_right_eq_some, Option.some.injEq] at hstep
      obtain ⟨hlooked, rfl⟩ := hstep
      cases hdone : p.server.done with
      | true =>
        rw [if_pos rfl, endLoop_eq]
        exact .hears hi hlooked hdone
      | false =>
        rw [if_neg Bool.false_ne_true, failAccept_eq]
        exact .fails hi hlooked hdone
    · cases hstep
  | park i =>
    obtain ⟨hlooked, h⟩ := Option.ite_none_right_eq_some.1 hstep
    cases h
    exact .parks hlooked
  | wake i =>
    simp only [Polling.step] at hstep
    split at hstep
    · rename_i hi
      simp only [Option.ite_none_right_eq_some, Option.some.injEq] at hstep
      obtain ⟨hfired, rfl⟩ := hstep
      exact .wakes hi hfired
    · cases hstep

namespace Polling

theorem streak_of_other {e : Server.Event} (h : e.loop? ≠ some id) (n : Nat) :
    (Event.whole e).streak id n = n := by
  have hne {other : CallId} (hother : e.loop? = some other) : (other == id) = false :=
    beq_false_of_ne fun heq => h (hother.trans (congrArg some heq))
  match e with
  | .accept i _ | .acceptFails i _ _ | .bound i (.ok _) | .serve i (.ok _) =>
    simp [Event.streak, Event.takes, Event.fails, Event.starts, hne rfl]
  | .bound _ (.error _) | .serve _ (.error _) | .listenAndServe _ | .resume _ | .dropLoop _ | .close _
  | .shutdown _ _ | .proceed _ | .begin _ | .finish _ _ _ | .triggerBase | .pass _ => rfl

theorem streak_of_fails (hfails : e.fails id = true) (n : Nat) : e.streak id n = n + 1 := by
  have hcounts (hnot : (e.takes id || e.starts id) = false) : e.streak id n = n + 1 := by
    rw [Event.streak, hnot, hfails]
    rfl
  cases e with
  | whole e =>
    cases e with
    | acceptFails _ _ _ => exact hcounts rfl
    | _ => cases hfails
  | fault _ _ _ => exact hcounts rfl
  | _ => cases hfails

theorem streak_take_of_ne {i : CallId} (h : id ≠ i) (peer : String) (n : Nat) :
    (Event.take i peer).streak id n = n := by
  simp [Event.streak, Event.takes, Event.fails, Event.starts, Ne.symm h]

theorem streak_fault_of_ne {i : CallId} (h : id ≠ i) (cause : IoError) (draw : UInt64) (n : Nat) :
    (Event.fault i cause draw).streak id n = n := by
  simp [Event.streak, Event.takes, Event.fails, Event.starts, Ne.symm h]

/-- What an uninterrupted piece of work makes of a loop. -/
theorem fate_whole {e : Server.Event} {t : Server} (hstep : p.server.step e = some t)
    (hq : q.server = t) : Fate p (.whole e) id q (p.server.loops.lookup id) (t.loops.lookup id) := by
  by_cases hid : e.loop? = some id
  · cases Server.Move.of_step hstep with
    | late hfree _ | nameless hfree _ | unknown hfree =>
      cases hid
      exact .outside (by rw [lookup_of_isBusy hfree]; rfl) (by rw [answer, note, lookup_of_isBusy hfree]; rfl)
    | binds hfree _ =>
      cases hid
      exact .outside (by rw [lookup_of_isBusy hfree]; rfl) (by rw [holdLoop, lookup_put_self]; rfl)
    | refused hbinding | untold hbinding | boundLate hbinding _ | unbound hbinding =>
      cases hid
      exact .outside (by rw [hbinding]; rfl) (by simp [dropLoop, answer, note, lookup_filter_self])
    | servedLate hfree _ =>
      cases hid
      exact .outside (by rw [lookup_of_isBusy hfree]; rfl) (by simp [lookup_filter_self])
    | bound hbinding _ =>
      cases hid
      rw [lookup_put_self]
      exact .starts (by rw [hbinding]; rfl) (beq_self_eq_true id)
    | served hfree _ =>
      cases hid
      rw [lookup_put_self]
      exact .starts (by rw [lookup_of_isBusy hfree]; rfl) (beq_self_eq_true id)
    | accepted haccepting _ _ _ _ =>
      cases hid
      rw [lookup_put_self, haccepting]
      exact .takes (beq_self_eq_true id)
    | failed haccepting hdone =>
      cases hid
      rw [holdLoop, lookup_put_self, haccepting]
      exact .fails hdone (streak_of_fails (beq_self_eq_true id))
    | heard hstage hlistens hdone =>
      cases hid
      rw [lookup_filter_self, hstage]
      exact .ends hlistens hdone (by rw [hq]; simp [answer?, Note.answerTo?])
    | retried hretrying hdone =>
      cases hid
      rw [holdLoop, lookup_put_self, hretrying]
      exact .wakes (fired_of_resume hretrying hdone hstep) fun _ => rfl
    | dropped hstage hlistens =>
      cases hid
      rw [lookup_filter_self, hstage]
      exact .dropped hlistens rfl (by rw [hq]; simp [answer?, Note.answerTo?])
    | _ => cases hid
  · rw [lookup_step hstep hid]
    exact .rests (streak_of_other hid)

/-- What an event makes of a loop. -/
theorem fate_step (hstep : p.step e = some q) (id : CallId) :
    Fate p e id q (p.server.loops.lookup id) (q.server.loops.lookup id) := by
  cases Move.of_step hstep with
  | whole _ ht => exact fate_whole ht rfl
  | looks _ _ _ | parks _ => exact .rests fun _ => rfl
  | @takes i _ _ _ _ _ hi _ _ =>
    rw [settle]
    by_cases hid : id = i
    · subst hid
      rw [lookup_put_self, hi]
      exact .takes (beq_self_eq_true id)
    · rw [lookup_put_of_ne hid]
      exact .rests (streak_take_of_ne hid _)
  | @fails i _ _ _ _ hi _ hdone =>
    rw [settle, holdLoop]
    by_cases hid : id = i
    · subst hid
      rw [lookup_put_self, hi]
      exact .fails hdone (streak_of_fails (beq_self_eq_true id))
    · rw [lookup_put_of_ne hid]
      exact .rests (streak_fault_of_ne hid _ _)
  | @hears i _ _ _ _ hi _ hdone =>
    by_cases hid : id = i
    · subst hid
      rw [settle, lookup_filter_self, hi]
      exact .ends rfl hdone (by simp [answer?, Note.answerTo?])
    · rw [settle, lookup_filter_of_ne hid]
      exact .rests (streak_fault_of_ne hid _ _)
  | @wakes i _ _ _ hi hfired =>
    rw [holdLoop]
    by_cases hid : id = i
    · subst hid
      rw [lookup_put_self, hi]
      exact .wakes hfired fun _ => rfl
    · rw [lookup_put_of_ne hid]
      exact .rests fun _ => rfl

end Polling

theorem Looking.step (hs : Looking p) (hstep : p.step e = some q) : Looking q := by
  have hothers {i : CallId} {s : Server}
      (hkept : ∀ id, id ≠ i → s.loops.lookup id = p.server.loops.lookup id) : Looking (p.settle i s) := by
    intro id hid
    obtain ⟨hlooked, hne⟩ := List.mem_filter.1 hid
    rw [Polling.settle, hkept id (bne_iff_ne.1 hne)]
    exact hs id hlooked
  cases Polling.Move.of_step hstep with
  | whole hnot ht =>
    intro id hid
    obtain ⟨address, backoff, hlookup⟩ := hs id hid
    exact ⟨address, backoff, (lookup_step ht (hnot id hid)).trans hlookup⟩
  | @looks i address backoff hi _ _ =>
    intro id hid
    rcases List.mem_cons.1 hid with rfl | hid
    · exact ⟨address, backoff, hi⟩
    · exact hs id hid
  | takes _ _ _ | fails _ _ _ => exact hothers fun _ hne => lookup_put_of_ne hne ..
  | hears _ _ _ => exact hothers fun _ hne => lookup_filter_of_ne hne _
  | parks _ => exact hothers fun _ _ => rfl
  | @wakes i _ _ _ hi _ =>
    intro id hid
    obtain ⟨address, backoff, hlookup⟩ := hs id hid
    refine ⟨address, backoff, (lookup_put_of_ne ?_ ..).trans hlookup⟩
    rintro rfl
    cases hi.symm.trans hlookup

theorem looking_run {es : List Polling.Event} (hrun : Run Polling.step { server := s } es p) : Looking p :=
  hrun.keeps (fun _ _ _ => Looking.step) (List.forall_mem_nil _)

end PooledTcp.Server
