import PooledTcp.Proofs.Backoff
import PooledTcp.Proofs.Server.Courses
import PooledTcp.Proofs.Server.Polling

/-!
# A loop outlasts failed accepts

A loop that listens ends in two ways: whoever runs it drops it, or it hears of the close, and then says so. Until
then it takes every connection that it is given, and each is counted once and given a task once (`Dispatching`). The
count of failures in a row decides how long it waits after a failure (`Pacing`): never less than five milliseconds
and never more than a second. Where the signal to stop is given while it waits it accepts nothing any more, and can
end at once. All of this holds however its looks for the signal and for a connection, the failures and the close come
together (`accepting_tireless`).
-/

namespace PooledTcp.Server

/-- How many connections were accepted. -/
def acceptedTotal : Metric := ⟨"netpool_server_accepted_total", []⟩

/-- A connection is accepted. -/
def Note.isAccepted : Note → Bool
  | .accepted => true
  | _ => false

/-- The peers of the connections that were given a task, latest first. -/
def peersIn (h : List Note) : List String :=
  h.filterMap fun
    | .dispatched _ peer => some peer
    | _ => none

/-- The connections that were counted, latest first. -/
def countedIn (h : List Note) : List GuardId :=
  h.filterMap fun
    | .tracked conn _ => some conn
    | _ => none

/-- The peer of the connection that is accepted in the event. -/
def Polling.Event.peer? : Polling.Event → Option String
  | .whole (.accept _ peer) | .take _ peer => some peer
  | _ => none

variable {s t : Server} {p q : Polling} {e : Polling.Event} {es : List Polling.Event} {id : CallId}
  {h news : List Note}

/-! ### Connections -/

/-- Each connection that was accepted has been counted, and given a task, under a number of its own. -/
structure Dispatching (es : List Polling.Event) (s : Server) : Prop where
  peers : peersIn s.history = (es.filterMap (·.peer?)).reverse
  counted : countedIn s.history = dispatchedIn s.history
  accepted : s.history.countP (·.isAccepted) = (es.filterMap (·.peer?)).length
  known : ∀ conn ∈ dispatchedIn s.history, conn < s.nextConn
  distinct : (dispatchedIn s.history).Nodup

/-- What does not tell of a connection that is served. -/
theorem silent_append (hnews : ∀ n ∈ news, ¬n.Serves) :
    peersIn (news ++ h) = peersIn h ∧ countedIn (news ++ h) = countedIn h ∧
      dispatchedIn (news ++ h) = dispatchedIn h ∧
      (news ++ h).countP (·.isAccepted) = h.countP (·.isAccepted) := by
  induction news with
  | nil => exact ⟨rfl, rfl, rfl, rfl⟩
  | cons n news ih =>
    obtain ⟨hn, hrest⟩ := List.forall_mem_cons.1 hnews
    obtain ⟨hpeers, hcounted, hdispatched, haccepted⟩ := ih hrest
    cases n with
    | accepted | tracked _ _ | dispatched _ _ => exact absurd trivial hn
    | _ => exact ⟨hpeers, hcounted, hdispatched, haccepted⟩

theorem Dispatching.unserved (hs : Dispatching es s) (hgrows : Grows (fun n => ¬n.Serves) s t)
    (hnext : t.nextConn = s.nextConn) (hpeer : e.peer? = none) : Dispatching (es ++ [e]) t := by
  obtain ⟨news, hhist, hnews⟩ := hgrows
  obtain ⟨hpeers, hcounted, hdispatched, haccepted⟩ := @silent_append s.history news hnews
  have hes : (es ++ [e]).filterMap (·.peer?) = es.filterMap (·.peer?) := by
    rw [List.filterMap_append]
    simp [hpeer]
  exact ⟨by rw [hhist, hpeers, hes, hs.peers], by rw [hhist, hcounted, hdispatched, hs.counted],
    by rw [hhist, haccepted, hes, hs.accepted], by rw [hhist, hdispatched, hnext]; exact hs.known,
    by rw [hhist, hdispatched]; exact hs.distinct⟩

/-- A connection that is accepted comes next, and under the next number. -/
theorem Dispatching.served {peer : String} {warnings : List Note} {active : Nat} (hs : Dispatching es s)
    (hwarn : ∀ n ∈ warnings, ∃ cause, n = .keepAliveFailed peer cause)
    (hhist : t.history = .dispatched s.nextConn peer ::
      (warnings ++ .tracked s.nextConn active :: .accepted :: s.history))
    (hnext : t.nextConn = s.nextConn + 1) (hpeer : e.peer? = some peer) : Dispatching (es ++ [e]) t := by
  have hsilent : ∀ n ∈ warnings, ¬n.Serves := by
    intro n hn
    obtain ⟨cause, rfl⟩ := hwarn n hn
    exact id
  obtain ⟨hpeers, hcounted, hdispatched, haccepted⟩ :=
    @silent_append (.tracked s.nextConn active :: .accepted :: s.history) warnings hsilent
  have hes : (es ++ [e]).filterMap (·.peer?) = es.filterMap (·.peer?) ++ [peer] := by
    rw [List.filterMap_append]
    simp [hpeer]
  have hpeers' : peersIn t.history = peer :: peersIn s.history := by
    rw [hhist]
    exact congrArg (peer :: ·) hpeers
  have hcounted' : countedIn t.history = s.nextConn :: countedIn s.history := by
    rw [hhist]
    exact hcounted
  have hdispatched' : dispatchedIn t.history = s.nextConn :: dispatchedIn s.history := by
    rw [hhist]
    exact congrArg (s.nextConn :: ·) hdispatched
  have haccepted' : t.history.countP (·.isAccepted) = s.history.countP (·.isAccepted) + 1 := by
    rw [hhist, List.countP_cons_of_neg Bool.false_ne_true, haccepted]
    simp [Note.isAccepted]
  refine ⟨?_, ?_, ?_, ?_, ?_⟩
  · rw [hpeers', hes, hs.peers, List.reverse_concat]
  · rw [hcounted', hdispatched', hs.counted]
  · rw [haccepted', hes, hs.accepted, List.length_append, List.length_singleton]
  · rw [hdispatched', hnext]
    intro conn hconn
    rcases List.mem_cons.1 hconn with rfl | hconn
    · exact Nat.lt_succ_self _
    · exact Nat.lt_succ_of_lt (hs.known conn hconn)
  · rw [hdispatched']
    exact List.nodup_cons.2 ⟨fun hin => Nat.lt_irrefl _ (hs.known _ hin), hs.distinct⟩

theorem Built.dispatching (hs : Built s) : Dispatching [] s := by
  rw [hs.eq]
  exact ⟨rfl, rfl, rfl, List.forall_mem_nil _, .nil⟩

theorem Dispatching.step (hs : Dispatching es p.server) (hstep : p.step e = some q) :
    Dispatching (es ++ [e]) q.server := by
  cases Polling.Move.of_step hstep with
  | @whole e t _ ht =>
    have hquiet (hnot : ∀ id peer, e ≠ .accept id peer) (hpeer : (Polling.Event.whole e).peer? = none) :
        Dispatching (es ++ [.whole e]) t := by
      obtain ⟨hnext, -, hnews⟩ := unserved_of_ne_accept ht hnot
      exact hs.unserved hnews hnext hpeer
    cases e with
    | accept id peer =>
      cases Move.of_step ht with
      | accepted _ _ _ _ hwarn => exact hs.served hwarn rfl rfl rfl
    | _ => exact hquiet (fun _ _ => nofun) rfl
  | takes _ _ hwarn => exact hs.served hwarn rfl rfl rfl
  | fails _ _ _ => exact hs.unserved ⟨[_], rfl, by simp [Note.Serves]⟩ rfl rfl
  | hears _ _ _ => exact hs.unserved ⟨[_, _, _, _], rfl, by simp [Note.Serves]⟩ rfl rfl
  | looks _ _ _ | parks _ | wakes _ _ => exact hs.unserved ⟨[], rfl, List.forall_mem_nil _⟩ rfl rfl

theorem get?_acceptedTotal (s : Server) : ((Metrics.ofList s.measurements).get? acceptedTotal).getD 0 =
    s.history.countP (·.isAccepted) := by
  refine get?_measurements s (fun n => ?_) fun n c hn hmetric => ?_
  · cases n <;> simp [Note.measurement?, Note.isAccepted, acceptedTotal]
  · cases n <;> simp [Note.measurement?] at hn <;> subst hn <;>
      simp_all [Measurement.metric, acceptedTotal]

/-! ### Failures -/

/-- A count of failures that is `n`, as far as it can be, with the bounds of a loop. -/
structure Counting (n : Nat) (b : Backoff) : Prop where
  base : b.base = 5
  max : b.max = 1000
  attempts : b.attempts.toNat = min n (UInt32.size - 1)

/-- A loop with a listener has counted `n` failures in a row. -/
def Paced (n : Nat) : Option ServeStage → Prop
  | some (.accepting _ b) | some (.retrying _ b _) => Counting n b
  | some .binding | none => True

/-- The wait of `ms` milliseconds after failure `k` in a row, from `now` until `until_`. -/
structure Pause (k now until_ : Nat) (ms : UInt64) : Prop where
  shaved : Backoff.Shaved (min (5 * 2 ^ (k - 1)) 1000) ms.toNat
  least : 5 ≤ ms.toNat
  most : ms.toNat ≤ 1000
  sleeps : until_ = Clock.sleepEnd now (.ofMillis ms)
  /-- A second from now the clock can still be told. -/
  told : now + nanosPerSec < Clock.horizon → until_ = now + ms.toNat * nanosPerMilli

theorem paced_of_not_listens {n : Nat} {o : Option ServeStage} (h : o.any (·.listens) = false) :
    Paced n o := by
  match o with
  | none | some .binding => trivial
  | some (.accepting _ _) | some (.retrying _ _ _) => cases h

/-- Every event keeps the count. -/
theorem Polling.Fate.paced {n : Nat} {o o' : Option ServeStage} (hfate : Polling.Fate p e id q o o')
    (hs : Paced n o) : Paced (e.streak id n) o' := by
  cases hfate with
  | rests hkept =>
    rw [hkept]
    exact hs
  | outside _ hnot => exact paced_of_not_listens hnot
  | starts _ hstarts =>
    have hzero : e.streak id n = 0 := by simp [Polling.Event.streak, hstarts]
    rw [hzero]
    exact ⟨rfl, rfl, rfl⟩
  | takes htakes =>
    have hzero : e.streak id n = 0 := by simp [Polling.Event.streak, htakes]
    rw [hzero]
    exact ⟨hs.base, hs.max, rfl⟩
  | @fails _ backoff _ _ hmore =>
    rw [hmore]
    refine ⟨hs.base, hs.max, ?_⟩
    show backoff.fail.attempts.toNat = _
    rw [Backoff.toNat_attempts_fail, hs.attempts]
    omega
  | wakes _ hkept =>
    rw [hkept]
    exact hs
  | ends _ _ _ | dropped _ _ _ => trivial

theorem failures_concat (id : CallId) (es : List Polling.Event) (e : Polling.Event) :
    Polling.failures id (es ++ [e]) = e.streak id (Polling.failures id es) := by
  rw [Polling.failures, List.foldl_append]
  rfl

theorem Built.paced_run (hs : Built s) (hrun : Run Polling.step { server := s } es p) (id : CallId) :
    Paced (Polling.failures id es) (p.server.loops.lookup id) := by
  refine hrun.induction_last (P := fun es p => Paced (Polling.failures id es) (p.server.loops.lookup id))
    (by rw [hs.eq]; trivial) fun es e u v hu hstep => ?_
  rw [failures_concat]
  exact (Polling.fate_step hstep id).paced hu

theorem sleepEnd_of_lt {now : Nat} {d : Duration} (h : now + d.nanos < Clock.horizon) :
    Clock.sleepEnd now d = now + d.nanos := by
  rw [Clock.sleepEnd, Clock.after?, if_pos h, Option.getD_some]

/-- After one more failure a loop waits for as long as it should. -/
theorem Counting.pause {n : Nat} {b : Backoff} (hb : Counting n b) (now : Nat) (draw : UInt64) :
    ∃ ms, Pause (n + 1) now (Clock.sleepEnd now (b.next draw).2) ms := by
  have hattempts : b.fail.attempts.toNat = min (n + 1) (UInt32.size - 1) := by
    rw [Backoff.toNat_attempts_fail, hb.attempts]
    omega
  have hshaved := Backoff.shaved_delayMs b.fail.attempts b.base b.max draw
  have hbase : b.base.toNat = 5 := congrArg UInt64.toNat hb.base
  have hmax : b.max.toNat = 1000 := congrArg UInt64.toNat hb.max
  rw [Backoff.toNat_ceiling_of_failures (Nat.succ_pos n) hattempts, hbase, hmax] at hshaved
  have hfirst : 5 ≤ min (5 * 2 ^ n) 1000 :=
    Nat.le_min.2 ⟨Nat.le_mul_of_pos_right 5 (Nat.two_pow_pos n), by decide⟩
  obtain ⟨hleast, hmost⟩ := hshaved.bounds hfirst (by decide)
  have hms : (Backoff.delayMs b.fail.attempts b.base b.max draw).toNat ≤ 1000 :=
    Nat.le_trans hmost (Nat.min_le_right _ _)
  refine ⟨Backoff.delayMs b.fail.attempts b.base b.max draw, hshaved, hleast, hms, rfl, fun hnow => ?_⟩
  refine sleepEnd_of_lt (Nat.lt_of_le_of_lt (Nat.add_le_add_left ?_ now) hnow)
  exact Nat.mul_le_mul_right nanosPerMilli hms

/-! ### Waits -/

/-- What a loop that waits after a failure does. -/
structure Waits (p : Polling) (id : CallId) (address : String) (backoff : Backoff) (until_ : Nat) : Prop where
  /-- It waits until it is told to stop, or its time is over. -/
  patient : ∀ fs q, Run Polling.step p fs q → q.server.done = false → q.server.now < Clock.tick until_ →
    (∀ f ∈ fs, f ≠ .whole (.dropLoop id)) →
    q.server.loops.lookup id = some (.retrying address backoff until_)
  /-- It goes on when its time is over. -/
  goesOn : Clock.fired p.server.now until_ = true → ∃ q, p.step (.wake id) = some q ∧
    q.server.loops.lookup id = some (.accepting address backoff)

/-- A loop that hears of the signal can end at once, and accepts nothing any more. -/
structure Stops (p : Polling) (id : CallId) : Prop where
  ends : ∃ q, p.step (.whole (.resume id)) = some q ∧ q.server.loops.lookup id = none ∧
    q.server.answer? id = some (.error .closed)
  silent : ∀ fs q, Run Polling.step p fs q → ∀ f ∈ fs, f.takes id = false ∧ f.fails id = false

/-- The signal is not taken back, and time not either. -/
theorem Polling.onward_step (hstep : p.step e = some q) :
    (p.server.done = true → q.server.done = true) ∧ p.server.now ≤ q.server.now := by
  cases Polling.Move.of_step hstep with
  | whole _ ht =>
    refine ⟨fun hdone => ?_, (clock_step ht).1⟩
    cases Turn.of_step ht with
    | same _ hsame _ | listens _ _ hsame _ _ _ => exact hsame.trans hdone
    | closes _ hdone' _ => exact hdone'
  | _ => exact ⟨id, Nat.le_refl _⟩

theorem Polling.onward_run (hrun : Run Polling.step p es q) :
    (p.server.done = true → q.server.done = true) ∧ p.server.now ≤ q.server.now := by
  refine hrun.keeps (P := fun u => (p.server.done = true → u.server.done = true) ∧ p.server.now ≤ u.server.now)
    (fun u e v hu hstep => ?_) ⟨id, Nat.le_refl _⟩
  obtain ⟨hdone, hnow⟩ := Polling.onward_step hstep
  exact ⟨hdone ∘ hu.1, Nat.le_trans hu.2 hnow⟩

/-- What can happen to a loop that waits after a failure, in one event. -/
theorem waits_step {address : String} {backoff : Backoff} {until_ : Nat}
    (hid : p.server.loops.lookup id = some (.retrying address backoff until_)) (hstep : p.step e = some q)
    (hdone : p.server.done = false) (hearly : p.server.now < Clock.tick until_)
    (hkept : e ≠ .whole (.dropLoop id)) :
    q.server.loops.lookup id = some (.retrying address backoff until_) := by
  have hfate := Polling.fate_step hstep id
  rw [hid] at hfate
  generalize q.server.loops.lookup id = o at hfate
  cases hfate with
  | rests _ => rfl
  | outside hnot _ | starts hnot _ => cases hnot
  | wakes hfired _ => exact absurd (of_decide_eq_true hfired) (Nat.not_le_of_lt hearly)
  | ends _ hsignal _ => cases hdone.symm.trans hsignal
  | dropped _ hdropped _ => exact absurd hdropped hkept

theorem waits_of_retrying {address : String} {backoff : Backoff} {until_ : Nat}
    (hid : p.server.loops.lookup id = some (.retrying address backoff until_)) :
    Waits p id address backoff until_ := by
  refine ⟨fun fs q hrun hdone hearly hkept => ?_, fun hfired => ?_⟩
  · induction hrun with
    | nil => exact hid
    | @cons p u q e fs hstep hrest ih =>
      obtain ⟨hnot, hrests⟩ := List.forall_mem_cons.1 hkept
      obtain ⟨hsignal, hnow⟩ := Polling.onward_run (.cons hstep hrest)
      have hbefore : p.server.done = false := Bool.eq_false_iff.2 fun h => by
        cases hdone.symm.trans (hsignal h)
      exact ih (waits_step hid hstep hbefore (Nat.lt_of_le_of_lt hnow hearly) hnot) hdone hearly hrests
  · refine ⟨{ p with server := p.server.holdLoop id (.accepting address backoff) }, ?_, lookup_put_self ..⟩
    simp [Polling.step, hid, hfired]

/-- Where the signal is given, a loop that has not looked before asks for no connection. -/
theorem silent_step (hstep : p.step e = some q) (hdone : p.server.done = true) (hnot : id ∉ p.looked) :
    e.takes id = false ∧ e.fails id = false ∧ id ∉ q.looked := by
  have hother {i : CallId} (hi : i ∈ p.looked) : (i == id) = false :=
    beq_false_of_ne fun heq => hnot (heq ▸ hi)
  cases Polling.Move.of_step hstep with
  | @whole e _ _ ht =>
    cases e with
    | accept _ _ =>
      cases Move.of_step ht with
      | accepted _ hopen _ _ _ => cases hopen.symm.trans hdone
    | acceptFails _ _ _ =>
      cases Move.of_step ht with
      | failed _ hopen => cases hopen.symm.trans hdone
    | _ => exact ⟨rfl, rfl, hnot⟩
  | looks _ hopen _ => cases hopen.symm.trans hdone
  | takes _ hi _ => exact ⟨hother hi, rfl, fun hin => hnot (List.mem_filter.1 hin).1⟩
  | fails _ hi _ | hears _ hi _ => exact ⟨rfl, hother hi, fun hin => hnot (List.mem_filter.1 hin).1⟩
  | parks _ => exact ⟨rfl, rfl, fun hin => hnot (List.mem_filter.1 hin).1⟩
  | wakes _ _ => exact ⟨rfl, rfl, hnot⟩

theorem silent_run (hrun : Run Polling.step p es q) (hdone : p.server.done = true) (hnot : id ∉ p.looked) :
    ∀ e ∈ es, e.takes id = false ∧ e.fails id = false := by
  induction hrun with
  | nil => exact List.forall_mem_nil _
  | cons hstep _ ih =>
    obtain ⟨htakes, hfails, hlater⟩ := silent_step hstep hdone hnot
    exact List.forall_mem_cons.2 ⟨⟨htakes, hfails⟩, ih ((Polling.onward_step hstep).1 hdone) hlater⟩

/-- A loop that has a listener hears of the signal. -/
theorem stops_of_done (hdone : p.server.done = true) (hid : Listening p.server.loops id)
    (hnot : id ∉ p.looked) : Stops p id := by
  obtain ⟨stage, hstage, hlistens⟩ := hid
  have hends (address : String) (hstep : p.server.step (.resume id) = some (p.server.endLoop id address)) :
      ∃ q, p.step (.whole (.resume id)) = some q ∧ q.server.loops.lookup id = none ∧
        q.server.answer? id = some (.error .closed) := by
    refine ⟨{ p with server := p.server.endLoop id address }, ?_, ?_, answer?_answer _ _ _⟩
    · simp [Polling.step, Event.loop?, hnot, hstep]
    · rw [endLoop_eq, lookup_filter_self]
  refine ⟨?_, fun fs q hrun => silent_run hrun hdone hnot⟩
  cases stage with
  | binding => cases hlistens
  | accepting address _ => exact hends address (by simp [Server.step, hstage, hdone])
  | retrying address _ _ => exact hends address (by simp [Server.step, hstage, hdone])

/-- What holds of the loops of a server after the events. -/
structure Tireless (es : List Polling.Event) (p : Polling) : Prop where
  dispatched : Dispatching es p.server
  counted : ((Metrics.ofList p.server.measurements).get? acceptedTotal).getD 0 =
    (es.filterMap (·.peer?)).length
  /-- A loop that need not wait looks for the signal, -/
  looks : ∀ id address backoff, p.server.loops.lookup id = some (.accepting address backoff) →
    p.server.done = false → id ∉ p.looked → (p.step (.look id)).isSome
  /-- and then takes whatever connection it is given, and outlasts whatever failure. -/
  takes : ∀ id ∈ p.looked, (∀ peer, (p.step (.take id peer)).isSome) ∧
    ∀ cause draw, (p.step (.fault id cause draw)).isSome
  /-- A loop ends with the close, unless it is dropped. -/
  ends : ∀ id e q, Listening p.server.loops id → p.step e = some q → Listening q.server.loops id ∨
    (p.server.done = true ∧ q.server.answer? id = some (.error .closed)) ∨
    (e = .whole (.dropLoop id) ∧ q.server.answer? id = p.server.answer? id)
  /-- A loop waits after a failure, unless it was told to stop. -/
  fails : ∀ id e q, e.fails id = true → p.step e = some q →
    (p.server.done = true ∧ q.server.answer? id = some (.error .closed)) ∨
    ∃ address backoff until_ ms, q.server.loops.lookup id = some (.retrying address backoff until_) ∧
      Pause (Polling.failures id (es ++ [e])) p.server.now until_ ms
  waits : ∀ id address backoff until_,
    p.server.loops.lookup id = some (.retrying address backoff until_) →
    id ∉ p.looked ∧ Waits p id address backoff until_
  stops : ∀ id, p.server.done = true → Listening p.server.loops id → id ∉ p.looked → Stops p id

/-- A loop that has failed waits, or hears of the signal. -/
theorem fails_step {n : Nat} (hs : Paced n (p.server.loops.lookup id)) (hfails : e.fails id = true)
    (hstep : p.step e = some q) :
    (p.server.done = true ∧ q.server.answer? id = some (.error .closed)) ∨
    ∃ address backoff until_ ms, q.server.loops.lookup id = some (.retrying address backoff until_) ∧
      Pause (n + 1) p.server.now until_ ms := by
  have hpause {address : String} {backoff : Backoff} (draw : UInt64)
      (hid : p.server.loops.lookup id = some (.accepting address backoff)) :
      ∃ ms, Pause (n + 1) p.server.now (Clock.sleepEnd p.server.now (backoff.next draw).2) ms := by
    rw [hid] at hs
    exact hs.pause p.server.now draw
  cases Polling.Move.of_step hstep with
  | @whole e _ _ ht =>
    cases e with
    | acceptFails i cause draw =>
      obtain rfl := eq_of_beq hfails
      cases Move.of_step ht with
      | failed hi _ =>
        obtain ⟨ms, hms⟩ := hpause draw hi
        exact .inr ⟨_, _, _, ms, lookup_put_self .., hms⟩
    | _ => cases hfails
  | @fails i _ draw _ _ hi _ _ =>
    obtain rfl := eq_of_beq hfails
    obtain ⟨ms, hms⟩ := hpause draw hi
    exact .inr ⟨_, _, _, ms, lookup_put_self .., hms⟩
  | hears _ _ hdone =>
    obtain rfl := eq_of_beq hfails
    exact .inl ⟨hdone, by simp [Polling.settle, answer?, Note.answerTo?]⟩
  | _ => cases hfails

/-- A loop goes on until the signal is given, and then says so. -/
theorem ends_step (hid : Listening p.server.loops id) (hstep : p.step e = some q) :
    Listening q.server.loops id ∨
    (p.server.done = true ∧ q.server.answer? id = some (.error .closed)) ∨
    (e = .whole (.dropLoop id) ∧ q.server.answer? id = p.server.answer? id) := by
  obtain ⟨stage, hstage, hlistens⟩ := hid
  have hfate := Polling.fate_step hstep id
  rw [hstage] at hfate
  generalize hlater : q.server.loops.lookup id = o at hfate
  cases hfate with
  | rests _ => exact .inl ⟨stage, hlater, hlistens⟩
  | outside hnot _ | starts hnot _ => cases hlistens.symm.trans hnot
  | takes _ | fails _ _ | wakes _ _ => exact .inl ⟨_, hlater, rfl⟩
  | ends _ hdone hanswer => exact .inr (.inl ⟨hdone, hanswer⟩)
  | dropped _ hdropped hsame => exact .inr (.inr ⟨hdropped, hsame⟩)

/-- However connections and failures come, and whenever the server is closed, a loop goes on until it hears of the
close, and between failures it waits. -/
theorem accepting_tireless (hs : Built s) (hrun : Run Polling.step { server := s } es p) : Tireless es p := by
  have hdispatched : Dispatching es p.server :=
    hrun.induction_last (P := fun es p => Dispatching es p.server) hs.dispatching fun _ _ _ _ => Dispatching.step
  have hlooking := looking_run hrun
  refine ⟨hdispatched, (get?_acceptedTotal p.server).trans hdispatched.accepted,
    fun id address backoff hid hdone hnot => ?_, fun id hlooked => ?_, fun id e q => ends_step,
    fun id e q hfails hstep => ?_, fun id address backoff until_ hid => ?_, fun id => stops_of_done⟩
  · simp [Polling.step, hid, hdone, hnot]
  · obtain ⟨address, backoff, hid⟩ := hlooking id hlooked
    exact ⟨fun peer => by simp [Polling.step, hid, hlooked], fun cause draw => by simp [Polling.step, hid, hlooked]⟩
  · rw [failures_concat, Polling.streak_of_fails hfails]
    exact fails_step (hs.paced_run hrun id) hfails hstep
  · refine ⟨fun hlooked => ?_, waits_of_retrying hid⟩
    obtain ⟨_, _, haccepting⟩ := hlooking id hlooked
    cases hid.symm.trans haccepting

/-- A loop accepts a connection between its failures, and so the third one is its second in a row. The close comes
while it waits, and is heard only when the time is over too. -/
theorem accepting_tireless_after_failures : ∃ es fs p q backoff,
    es = [.whole (.listenAndServe 1), .whole (.bound 1 (.ok "front")), .look 1,
      .fault 1 (.system .tooManyOpenFiles) 0, .whole (.pass 5000000), .wake 1, .look 1, .take 1 "peer", .look 1,
      .fault 1 (.system .tooManyOpenFiles) 0, .whole (.pass 5000000), .wake 1, .look 1,
      .fault 1 (.system .tooManyOpenFiles) 0] ∧
    fs = [.whole (.close 2), .whole (.pass 10000000), .wake 1] ∧
    Run Polling.step { server := { addr := "front" } } es p ∧ Polling.failures 1 es = 2 ∧
    p.server.loops.lookup 1 = some (.retrying "front" backoff (p.server.now + 10000000)) ∧
    Tireless es p ∧ peersIn p.server.history = ["peer"] ∧ dispatchedIn p.server.history = [1] ∧
    Run Polling.step p fs q ∧ Tireless (es ++ fs) q ∧ Stops q 1 := by
  have hbuilt := Built.of_addr "front" {}
  have hnil : Run Polling.step { server := { addr := "front" } } [] _ := .nil _
  have hbefore := hnil.further
    [.whole (.listenAndServe 1), .whole (.bound 1 (.ok "front")), .look 1,
      .fault 1 (.system .tooManyOpenFiles) 0, .whole (.pass 5000000), .wake 1, .look 1, .take 1 "peer", .look 1,
      .fault 1 (.system .tooManyOpenFiles) 0, .whole (.pass 5000000), .wake 1, .look 1,
      .fault 1 (.system .tooManyOpenFiles) 0] rfl
  have hafter := hbefore.further [.whole (.close 2), .whole (.pass 10000000), .wake 1] rfl
  have hlater := accepting_tireless hbuilt (hbefore.append hafter)
  exact ⟨_, _, _, _, _, rfl, rfl, hbefore, rfl, rfl, accepting_tireless hbuilt hbefore, rfl, rfl, hafter, hlater,
    hlater.stops 1 rfl ⟨_, rfl, rfl⟩ (List.not_mem_nil)⟩

end PooledTcp.Server
