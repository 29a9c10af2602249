import PooledTcp.Keyed
import PooledTcp.Run
import PooledTcp.Server.Builder

/-!
# What a server can do next

`Server.step` refuses most events in most states. `Move` lists what is left, one constructor for each event
and each point at which an operation can wait for it; `Move.of_step` says that nothing else happens. What
holds of every run of a server is proved by cases on `Move`.

Before it stand the operations that branch, each as one change of the fields of a server. The notes that an
event leaves are new ones in front of the history, and those of connections, listeners and closes are left
only by the few events that are about them (`Fits`, `history_step`).
-/

namespace PooledTcp.Server

/-- A server that was just built. -/
inductive Built (s : Server) : Prop where
  | intro {η : Type} {b : ServerBuilder η} {handler : η} : b.build = .ok (s, handler) → Built s

/-- A run leads from a server that was just built to `s`. -/
def Reachable (s : Server) : Prop := ∃ s₀ es, Built s₀ ∧ Run step s₀ es s

/-- A loop has a listener from when its address is bound. -/
def ServeStage.listens : ServeStage → Bool
  | .binding => false
  | .accepting _ _ | .retrying _ _ _ => true

/-- What is said of the end of a handler, if anything. -/
def Ending.said (conn : GuardId) (peer : String) : Ending → List Note
  | .returned => []
  | .panicked p => (p.report?.map (Note.panicked conn peer)).toList
  | .forced => [.forced conn peer]

/-- The listener of an operation is opened in the event. -/
def Event.Opens : Event → Prop
  | .bound _ (.error (.refused _)) => False
  | .bound _ _ => True
  | _ => False

/-- The listener of an operation is handed over, closed, or opened in the event. -/
def Event.MovesListener : Event → Prop
  | .bound _ _ | .serve _ _ | .resume _ | .dropLoop _ => True
  | _ => False

/-- What is noted of listeners, closes and connections is what the event is about. -/
def Fits (s : Server) (e : Event) : Note → Prop
  | .opened _ => e.Opens
  | .given _ | .released _ => e.MovesListener
  | .closed id => e = .proceed id ∧ s.listeners = 0 ∧ ∃ grace, s.stops.lookup id = some (.closing grace)
  | .accepted | .tracked _ _ | .dispatched _ _ => ∃ id peer, e = .accept id peer
  | .serving conn _ => e = .begin conn
  | .panicked conn _ _ | .forced conn _ | .shutSocket conn _ | .droppedSocket conn
  | .untracked conn _ => ∃ ending failure, e = .finish conn ending failure
  | _ => True

variable {s t : Server} {e : Event} {id : CallId} {conn : GuardId}

theorem Event.Opens.movesListener (h : e.Opens) : e.MovesListener := by
  cases e with
  | bound _ _ => trivial
  | _ => exact False.elim h

theorem Built.eq (h : Built s) : s = { addr := s.addr, timeouts := s.timeouts } := by
  obtain ⟨h⟩ := h
  unfold ServerBuilder.build at h
  split at h
  · cases h
    rfl
  · cases h

/-- A server that has not started. -/
theorem Built.of_addr (addr : String) (timeouts : Timeouts) : Built { addr, timeouts } :=
  @Built.intro _ Unit { addr, timeouts, handler := some () } () rfl

/-- The run in which nothing has happened yet. -/
theorem Built.start (_ : Built s) : Run step s [] s := .nil s

theorem Built.reachable {es : List Event} (h : Built s) (hrun : Run step s es t) : Reachable t :=
  ⟨s, es, h, hrun⟩

theorem Reachable.run {es : List Event} (h : Reachable s) (hrun : Run step s es t) :
    Reachable t := by
  obtain ⟨s₀, es₀, hbuilt, hrun₀⟩ := h
  exact ⟨s₀, es₀ ++ es, hbuilt, hrun₀.append hrun⟩

theorem Reachable.step (h : Reachable s) (hstep : s.step e = some t) : Reachable t :=
  h.run (.cons hstep (.nil t))

/-- What every event keeps and a server that was just built has, every reachable server has. -/
theorem Reachable.keeps {I : Server → Prop} (h : Reachable s) (hbuilt : ∀ s, Built s → I s)
    (hstep : ∀ s e t, I s → s.step e = some t → I t) : I s := by
  obtain ⟨s₀, es, hs₀, hrun⟩ := h
  exact hrun.keeps hstep (hbuilt _ hs₀)

section Operations

theorem beginLoop_of_closed (h : s.state = .closed) (id : CallId) (address : String) :
    s.beginLoop id address = { s with
      loops := s.loops.filter (·.1 != id)
      history := .answered id (.error .closed) :: .listeners s.listeners :: .released id ::
        .listeners (s.listeners + 1) :: s.history } := by
  simp [beginLoop, countListener, releaseListener, dropLoop, answer, note, isClosed, h]

theorem beginLoop_of_open (h : s.state ≠ .closed) (id : CallId) (address : String) :
    s.beginLoop id address = { s with
      state := .listening
      localAddr := some address
      listeners := s.listeners + 1
      loops := put id (.accepting address (Backoff.ofBounds acceptBase acceptMax)) s.loops
      history := .listening address :: .listeners (s.listeners + 1) :: s.history } := by
  simp [beginLoop, countListener, holdLoop, note, isClosed, h]

theorem releaseListener_eq (s : Server) (id : CallId) : s.releaseListener id = { s with
    listeners := s.listeners - 1
    history := .listeners (s.listeners - 1) :: .released id :: s.history } := by
  simp only [releaseListener, note]

theorem endLoop_eq (s : Server) (id : CallId) (address : String) : s.endLoop id address = { s with
    listeners := s.listeners - 1
    loops := s.loops.filter (·.1 != id)
    history := .answered id (.error .closed) :: .stopped address :: .listeners (s.listeners - 1) ::
      .released id :: s.history } := by
  simp only [endLoop, releaseListener_eq, note, dropLoop, answer]

/-- A connection that is accepted comes to the table under the next number. -/
theorem dispatch_eq (s : Server) (address peer : String) : ∃ (c : Connection) (warnings : List Note),
    c.begun = false ∧ c.peer = peer ∧ (∀ n ∈ warnings, ∃ cause, n = .keepAliveFailed peer cause) ∧
    s.dispatch address peer = { s with
      active := s.active + 1
      nextConn := s.nextConn + 1
      conns := (s.nextConn, c) :: s.conns
      history := .dispatched s.nextConn peer ::
        (warnings ++ .tracked s.nextConn (s.active + 1) :: s.history) } := by
  unfold dispatch
  dsimp only
  split
  · exact ⟨_, [], rfl, rfl, List.forall_mem_nil _, rfl⟩
  · split
    · exact ⟨_, [], rfl, rfl, List.forall_mem_nil _, rfl⟩
    · rename_i cause _
      exact ⟨_, [.keepAliveFailed peer cause], rfl, rfl, by simp, rfl⟩

theorem report_eq (s : Server) (conn : GuardId) (c : Connection) (ending : Ending) :
    s.report conn c ending = { s with history := ending.said conn c.peer ++ s.history } := by
  cases ending with
  | panicked p => cases p <;> rfl
  | _ => rfl

theorem untrack_eq (s : Server) (conn : GuardId) : s.untrack conn = { s with
    active := s.active - 1
    conns := s.conns.filter (·.1 != conn)
    stops := if s.active - 1 = 0 then s.stops.map fun (i, st) => (i, st.tell) else s.stops
    history := .untracked conn (s.active - 1) :: s.history } := by
  unfold untrack
  dsimp only
  split
  · rfl
  · rfl

theorem markClosed_eq (s : Server) : s.markClosed = { s with
    state := .closed
    done := true
    history := (if s.done then [] else [.closing s.addr s.state]) ++ s.history } := by
  unfold markClosed
  dsimp only
  split
  · rename_i hdone
    simp [hdone]
  · rfl

end Operations

/-- What an event can do to a server, by the point at which the operation that it moves on waits. -/
inductive Move (s : Server) : Event → Server → Prop where
  | late {id : CallId} : s.isBusy id = false → s.state = .closed →
    Move s (.listenAndServe id) (s.answer id (.error .closed))
  | nameless {id : CallId} : s.isBusy id = false → s.state ≠ .closed →
    Move s (.listenAndServe id) (s.answer id (.error (.config "empty address")))
  | binds {id : CallId} : s.isBusy id = false → s.state ≠ .closed →
    Move s (.listenAndServe id) (s.holdLoop id .binding)
  | refused {id : CallId} {cause : IoError} : s.loops.lookup id = some .binding →
    Move s (.bound id (.error (.refused cause)))
      ((s.dropLoop id).answer id (.error (.bind s.addr cause)))
  | untold {id : CallId} {cause : IoError} : s.loops.lookup id = some .binding →
    Move s (.bound id (.error (.untold cause))) { s with
      loops := s.loops.filter (·.1 != id)
      history := .answered id (.error (.io cause)) :: .released id :: .opened id :: s.history }
  /-- The listener is closed again, since the server is closed. -/
  | boundLate {id : CallId} {address : String} : s.loops.lookup id = some .binding →
    s.state = .closed → Move s (.bound id (.ok address)) { s with
      loops := s.loops.filter (·.1 != id)
      history := .answered id (.error .closed) :: .listeners s.listeners :: .released id ::
        .listeners (s.listeners + 1) :: .bound address :: .opened id :: s.history }
  | bound {id : CallId} {address : String} : s.loops.lookup id = some .binding →
    s.state ≠ .closed → Move s (.bound id (.ok address)) { s with
      state := .listening
      localAddr := some address
      listeners := s.listeners + 1
      loops := put id (.accepting address (Backoff.ofBounds acceptBase acceptMax)) s.loops
      history := .listening address :: .listeners (s.listeners + 1) :: .bound address ::
        .opened id :: s.history }
  | unknown {id : CallId} {cause : IoError} : s.isBusy id = false →
    Move s (.serve id (.error cause)) (s.answer id (.error (.io cause)))
  | servedLate {id : CallId} {address : String} : s.isBusy id = false → s.state = .closed →
    Move s (.serve id (.ok address)) { s with
      loops := s.loops.filter (·.1 != id)
      history := .answered id (.error .closed) :: .listeners s.listeners :: .released id ::
        .listeners (s.listeners + 1) :: .given id :: s.history }
  | served {id : CallId} {address : String} : s.isBusy id = false → s.state ≠ .closed →
    Move s (.serve id (.ok address)) { s with
      state := .listening
      localAddr := some address
      listeners := s.listeners + 1
      loops := put id (.accepting address (Backoff.ofBounds acceptBase acceptMax)) s.loops
      history := .listening address :: .listeners (s.listeners + 1) :: .given id :: s.history }
  /-- All that may come between the count and the task is that keep-alive fails. -/
  | accepted {id : CallId} {peer address : String} {backoff : Backoff} {c : Connection}
    {warnings : List Note} : s.loops.lookup id = some (.accepting address backoff) →
    s.done = false → c.begun = false → c.peer = peer →
    (∀ n ∈ warnings, ∃ cause, n = .keepAliveFailed peer cause) →
    Move s (.accept id peer) { s with
      active := s.active + 1
      nextConn := s.nextConn + 1
      conns := (s.nextConn, c) :: s.conns
      loops := put id (.accepting address backoff.reset) s.loops
      history := .dispatched s.nextConn peer ::
        (warnings ++ .tracked s.nextConn (s.active + 1) :: .accepted :: s.history) }
  | failed {id : CallId} {cause : IoError} {draw : UInt64} {address : String} {backoff : Backoff} :
    s.loops.lookup id = some (.accepting address backoff) → s.done = false →
    Move s (.acceptFails id cause draw)
      ((s.note (.acceptFailed cause (backoff.next draw).1.attempts.toNat
        (backoff.next draw).2.millis)).holdLoop id (.retrying address (backoff.next draw).1
          (Clock.sleepEnd s.now (backoff.next draw).2)))
  | heard {id : CallId} {stage : ServeStage} {address : String} :
    s.loops.lookup id = some stage → stage.listens = true → s.done = true →
    Move s (.resume id) { s with
      listeners := s.listeners - 1
      loops := s.loops.filter (·.1 != id)
      history := .answered id (.error .closed) :: .stopped address :: .listeners (s.listeners - 1) ::
        .released id :: s.history }
  | retried {id : CallId} {address : String} {backoff : Backoff} {until_ : Nat} :
    s.loops.lookup id = some (.retrying address backoff until_) → s.done = false →
    Move s (.resume id) (s.holdLoop id (.accepting address backoff))
  | unbound {id : CallId} : s.loops.lookup id = some .binding →
    Move s (.dropLoop id) (s.dropLoop id)
  | dropped {id : CallId} {stage : ServeStage} : s.loops.lookup id = some stage →
    stage.listens = true → Move s (.dropLoop id) { s with
      listeners := s.listeners - 1
      loops := s.loops.filter (·.1 != id)
      history := .listeners (s.listeners - 1) :: .released id :: s.history }
  | close {id : CallId} : s.isBusy id = false → Move s (.close id) { s with
      state := .closed
      done := true
      stops := put id (.closing none) s.stops
      history := (if s.done then [] else [.closing s.addr s.state]) ++ s.history }
  | shutdown {id : CallId} {grace : Duration} : s.isBusy id = false →
    Move s (.shutdown id grace) { s with
      state := .closed
      done := true
      stops := put id (.closing (some grace)) s.stops
      history := (if s.done then [] else [.closing s.addr s.state]) ++ s.history }
  | closed {id : CallId} : s.stops.lookup id = some (.closing none) → s.listeners = 0 →
    Move s (.proceed id) ((s.note (.closed id)).endStop id (.ok ()))
  | idle {id : CallId} {grace : Duration} : s.stops.lookup id = some (.closing (some grace)) →
    s.listeners = 0 → s.active = 0 →
    Move s (.proceed id) (((s.note (.closed id)).note .drained).endStop id (.ok ()))
  | drains {id : CallId} {grace : Duration} : s.stops.lookup id = some (.closing (some grace)) →
    s.listeners = 0 → s.active ≠ 0 → Move s (.proceed id) ((s.note (.closed id)).holdStop id
      (.draining grace (Clock.sleepEnd s.now grace) false))
  | drained {id : CallId} {grace : Duration} {deadline : Nat} :
    s.stops.lookup id = some (.draining grace deadline true) → s.active = 0 →
    Move s (.proceed id) ((s.note .drained).endStop id (.ok ()))
  /-- The grace is over, and nothing is left. -/
  | spent {id : CallId} {grace : Duration} {deadline : Nat} {told : Bool} :
    s.stops.lookup id = some (.draining grace deadline told) →
    Clock.fired s.now deadline = true → s.active = 0 → Move s (.proceed id) (s.endStop id (.ok ()))
  | graceOver {id : CallId} {grace : Duration} {deadline : Nat} {told : Bool} :
    s.stops.lookup id = some (.draining grace deadline told) →
    Clock.fired s.now deadline = true → s.active ≠ 0 → Move s (.proceed id)
      (({ s with force := true }.note (.graceOver s.active grace)).holdStop id
        (.forcing s.active (Clock.sleepEnd s.now forceWait) false))
  | stillDraining {id : CallId} {grace : Duration} {deadline : Nat} :
    s.stops.lookup id = some (.draining grace deadline true) → s.active ≠ 0 →
    Move s (.proceed id) (s.holdStop id (.draining grace deadline false))
  | forced {id : CallId} {remaining deadline : Nat} :
    s.stops.lookup id = some (.forcing remaining deadline true) → s.active = 0 →
    Move s (.proceed id) (s.endStop id (.error (.drainTimeout remaining)))
  | forceOver {id : CallId} {remaining deadline : Nat} {told : Bool} :
    s.stops.lookup id = some (.forcing remaining deadline told) →
    Move s (.proceed id)
      ((s.note (.stillOpen s.active)).endStop id (.error (.drainTimeout remaining)))
  | stillForcing {id : CallId} {remaining deadline : Nat} :
    s.stops.lookup id = some (.forcing remaining deadline true) → s.active ≠ 0 →
    Move s (.proceed id) (s.holdStop id (.forcing remaining deadline false))
  | begins {conn : GuardId} {c : Connection} : s.conns.lookup conn = some c → c.begun = false →
    Move s (.begin conn) ({ s with conns := put conn { c with begun := true } s.conns }.note
      (.serving conn c.peer))
  /-- What there is to say of the handler comes first, the socket goes next, the count last. -/
  | finished {conn : GuardId} {c : Connection} {ending : Ending} {failure : Option IoError} :
    s.conns.lookup conn = some c → c.begun = true → (ending = .forced → s.force = true) →
    Move s (.finish conn ending failure) { s with
      active := s.active - 1
      conns := s.conns.filter (·.1 != conn)
      stops := if s.active - 1 = 0 then s.stops.map fun (i, st) => (i, st.tell) else s.stops
      history := .untracked conn (s.active - 1) :: .droppedSocket conn ::
        .shutSocket conn failure :: (ending.said conn c.peer ++ s.history) }
  | triggered : Move s .triggerBase { s with base := true }
  | passed {nanos : Nat} : Move s (.pass nanos) { s with now := s.now + nanos }

/-- Nothing but a move happens. -/
theorem Move.of_step (h : s.step e = some t) : Move s e t := by
  cases e with
  | listenAndServe id =>
    simp only [step, isClosed, beq_iff_eq, Option.ite_none_left_eq_some, Bool.not_eq_true] at h
    obtain ⟨hfree, h⟩ := h
    split at h
    · rename_i hclosed
      cases h
      exact .late hfree hclosed
    · rename_i hopen
      split at h
      · cases h
        exact .nameless hfree hopen
      · cases h
        exact .binds hfree hopen
  | bound id result =>
    simp only [step] at h
    split at h
    · rename_i hid
      split at h
      · cases h
        exact .refused hid
      · cases h
        exact .untold hid
      · rename_i address
        cases h
        by_cases hclosed : s.state = .closed
        · rw [beginLoop_of_closed (s := (s.note (.opened id)).note (.bound address)) hclosed]
          exact .boundLate hid hclosed
        · rw [beginLoop_of_open (s := (s.note (.opened id)).note (.bound address)) hclosed]
          exact .bound hid hclosed
    · cases h
  | serve id address =>
    simp only [step, Option.ite_none_left_eq_some, Bool.not_eq_true] at h
    obtain ⟨hfree, h⟩ := h
    split at h
    · cases h
      exact .unknown hfree
    · cases h
      by_cases hclosed : s.state = .closed
      · rw [beginLoop_of_closed (s := s.note (.given id)) hclosed]
        exact .servedLate hfree hclosed
      · rw [beginLoop_of_open (s := s.note (.given id)) hclosed]
        exact .served hfree hclosed
  | accept id peer =>
    simp only [step] at h
    split at h
    · rename_i hid
      simp only [Option.ite_none_left_eq_some, Bool.not_eq_true, Option.some.injEq] at h
      obtain ⟨hdone, rfl⟩ := h
      obtain ⟨c, warnings, hbegun, hpeer, hwarn, heq⟩ := dispatch_eq (s.note .accepted) _ peer
      rw [heq]
      exact .accepted hid hdone hbegun hpeer hwarn
    · cases h
  | acceptFails id cause draw =>
    simp only [step] at h
    split at h
    · rename_i hid
      simp only [Option.ite_none_left_eq_some, Bool.not_eq_true, Option.some.injEq] at h
      obtain ⟨hdone, rfl⟩ := h
      exact .failed hid hdone
    · cases h
  | resume id =>
    simp only [step] at h
    split at h
    · rename_i hid
      simp only [Option.ite_none_right_eq_some, Option.some.injEq] at h
      obtain ⟨hdone, rfl⟩ := h
      rw [endLoop_eq]
      exact .heard hid rfl hdone
    · rename_i hid
      split at h
      · rename_i hdone
        cases h
        rw [endLoop_eq]
        exact .heard hid rfl hdone
      · rename_i hdone
        simp only [Option.ite_none_right_eq_some, Option.some.injEq] at h
        obtain ⟨-, rfl⟩ := h
        exact .retried hid (Bool.eq_false_iff.2 hdone)
    · cases h
  | dropLoop id =>
    simp only [step] at h
    split at h
    · rename_i hid
      cases h
      exact .unbound hid
    · rename_i stage hnot hid
      cases h
      rw [releaseListener_eq]
      refine .dropped hid ?_
      cases stage with
      | binding => exact absurd rfl hnot
      | _ => rfl
    · cases h
  | close id =>
    simp only [step, Option.ite_none_left_eq_some, Bool.not_eq_true, Option.some.injEq] at h
    obtain ⟨hfree, rfl⟩ := h
    rw [markClosed_eq]
    exact .close hfree
  | shutdown id grace =>
    simp only [step, Option.ite_none_left_eq_some, Bool.not_eq_true, Option.some.injEq] at h
    obtain ⟨hfree, rfl⟩ := h
    rw [markClosed_eq]
    exact .shutdown hfree
  | proceed id =>
    simp only [step] at h
    split at h
    · rename_i grace hid
      simp only [Option.ite_none_right_eq_some] at h
      obtain ⟨hzero, h⟩ := h
      split at h
      · cases h
        exact .closed hid hzero
      · cases h
        unfold beginDrain
        split
        · rename_i hidle
          exact .idle hid hzero hidle
        · rename_i hbusy
          exact .drains hid hzero hbusy
    · rename_i grace deadline told hid
      split at h
      · rename_i htold
        simp only [Bool.and_eq_true, beq_iff_eq] at htold
        obtain ⟨rfl, hidle⟩ := htold
        cases h
        exact .drained hid hidle
      · rename_i hnot
        split at h
        · rename_i hfired
          cases h
          unfold forceAll
          split
          · rename_i hidle
            exact .spent hid hfired hidle
          · rename_i hbusy
            exact .graceOver hid hfired hbusy
        · simp only [Option.ite_none_right_eq_some, Option.some.injEq] at h
          obtain ⟨rfl, rfl⟩ := h
          exact .stillDraining hid (by simpa using hnot)
    · rename_i remaining deadline told hid
      split at h
      · rename_i htold
        simp only [Bool.and_eq_true, beq_iff_eq] at htold
        obtain ⟨rfl, hidle⟩ := htold
        cases h
        exact .forced hid hidle
      · rename_i hnot
        split at h
        · cases h
          exact .forceOver hid
        · simp only [Option.ite_none_right_eq_some, Option.some.injEq] at h
          obtain ⟨rfl, rfl⟩ := h
          exact .stillForcing hid (by simpa using hnot)
    · cases h
  | «begin» conn =>
    simp only [step] at h
    split at h
    · rename_i c hconn
      simp only [Option.ite_none_left_eq_some, Bool.not_eq_true, Option.some.injEq] at h
      obtain ⟨hbegun, rfl⟩ := h
      exact .begins hconn hbegun
    · cases h
  | finish conn ending failure =>
    simp only [step] at h
    split at h
    · rename_i c hconn
      simp only [Option.ite_none_right_eq_some, Option.some.injEq, Bool.and_eq_true,
        Bool.or_eq_true, bne_iff_ne, ne_eq] at h
      obtain ⟨⟨hbegun, hforce⟩, rfl⟩ := h
      rw [untrack_eq, report_eq]
      exact .finished hconn hbegun fun hforced => hforce.resolve_right fun hnot => hnot hforced
    · cases h
  | triggerBase =>
    cases h
    exact .triggered
  | pass nanos =>
    cases h
    exact .passed

/-- Time goes on, and the signal that forces connections is not taken back. -/
theorem clock_step (h : s.step e = some t) : s.now ≤ t.now ∧ (s.force = true → t.force = true) := by
  cases Move.of_step h with
  | graceOver _ _ _ => exact ⟨Nat.le_refl _, fun _ => rfl⟩
  | passed => exact ⟨Nat.le_add_right _ _, fun h => h⟩
  | _ => exact ⟨Nat.le_refl _, fun h => h⟩

theorem answer?_answer (s : Server) (id : CallId) (a : Except ServerError Unit) :
    (s.answer id a).answer? id = some a := by
  simp [answer?, answer, note, Note.answerTo?]

/-- The history of `t` is that of `s` with new notes in front, which all have the property. -/
def Grows (P : Note → Prop) (s t : Server) : Prop :=
  ∃ news, t.history = news ++ s.history ∧ ∀ n ∈ news, P n

namespace Grows

variable {P : Note → Prop} {u : Server}

theorem refl (s : Server) : Grows P s s := ⟨[], rfl, List.forall_mem_nil _⟩

theorem trans (h : Grows P s t) (k : Grows P t u) : Grows P s u := by
  obtain ⟨before, hbefore, hfirst⟩ := h
  obtain ⟨after, hafter, hlater⟩ := k
  refine ⟨after ++ before, by rw [hafter, hbefore, List.append_assoc], fun n hn => ?_⟩
  rcases List.mem_append.1 hn with hn | hn
  · exact hlater n hn
  · exact hfirst n hn

theorem suffix (h : Grows P s t) : s.history <:+ t.history := by
  obtain ⟨news, hhist, -⟩ := h
  exact hhist ▸ List.suffix_append _ _

end Grows

section History

theorem panicked_or_forced_of_said {n : Note} {peer : String} {ending : Ending}
    (hn : n ∈ ending.said conn peer) : (∃ text, n = .panicked conn peer text) ∨ n = .forced conn peer := by
  cases ending with
  | returned => cases hn
  | panicked p =>
    obtain ⟨text, -, rfl⟩ : ∃ text, p.report? = some text ∧ .panicked conn peer text = n := by
      simpa [Ending.said] using hn
    exact .inl ⟨text, rfl⟩
  | forced =>
    obtain rfl := List.mem_singleton.1 hn
    exact .inr rfl

/-- An event leaves its notes in front of the history. -/
theorem history_step (h : s.step e = some t) : Grows (Fits s e) s t := by
  cases Move.of_step h with
  | binds _ _ | retried _ _ | unbound _ | stillDraining _ _ | stillForcing _ _ | triggered | passed =>
    exact .refl s
  | late _ _ | nameless _ _ | refused _ | unknown _ | failed _ _ | spent _ _ _ | graceOver _ _ _
  | forced _ _ | begins _ _ => exact ⟨[_], rfl, by simp [Fits]⟩
  | drained _ _ | forceOver _ => exact ⟨[_, _], rfl, by simp [Fits]⟩
  | untold _ => exact ⟨[_, _, _], rfl, by simp [Fits, Event.Opens, Event.MovesListener]⟩
  | boundLate _ _ => exact ⟨[_, _, _, _, _, _], rfl, by simp [Fits, Event.Opens, Event.MovesListener]⟩
  | bound _ _ => exact ⟨[_, _, _, _], rfl, by simp [Fits, Event.Opens]⟩
  | servedLate _ _ => exact ⟨[_, _, _, _, _], rfl, by simp [Fits, Event.MovesListener]⟩
  | served _ _ => exact ⟨[_, _, _], rfl, by simp [Fits, Event.MovesListener]⟩
  | heard _ _ _ => exact ⟨[_, _, _, _], rfl, by simp [Fits, Event.MovesListener]⟩
  | dropped _ _ => exact ⟨[_, _], rfl, by simp [Fits, Event.MovesListener]⟩
  | close _ | shutdown _ =>
    refine ⟨_, rfl, fun n hn => ?_⟩
    split at hn
    · cases hn
    · obtain rfl := List.mem_singleton.1 hn
      trivial
  | closed hid hzero => exact ⟨[_, _], rfl, by simp [Fits, hid, hzero]⟩
  | idle hid hzero _ => exact ⟨[_, _, _], rfl, by simp [Fits, hid, hzero]⟩
  | drains hid hzero _ => exact ⟨[_], rfl, by simp [Fits, hid, hzero]⟩
  | @accepted id peer _ _ c warnings _ _ _ _ hwarn =>
    refine ⟨.dispatched s.nextConn peer :: (warnings ++ [.tracked s.nextConn (s.active + 1), .accepted]),
      by simp, fun n hn => ?_⟩
    simp only [List.mem_cons, List.mem_append, List.not_mem_nil, or_false] at hn
    obtain rfl | hn | rfl | rfl := hn
    · exact ⟨id, peer, rfl⟩
    · obtain ⟨cause, rfl⟩ := hwarn n hn
      trivial
    · exact ⟨id, peer, rfl⟩
    · exact ⟨id, peer, rfl⟩
  | @finished conn c ending failure _ _ _ =>
    refine ⟨.untracked conn (s.active - 1) :: .droppedSocket conn :: .shutSocket conn failure ::
      ending.said conn c.peer, rfl, fun n hn => ?_⟩
    simp only [List.mem_cons] at hn
    obtain rfl | rfl | rfl | hn := hn
    · exact ⟨ending, failure, rfl⟩
    · exact ⟨ending, failure, rfl⟩
    · exact ⟨ending, failure, rfl⟩
    · rcases panicked_or_forced_of_said hn with ⟨text, rfl⟩ | rfl
      · exact ⟨ending, failure, rfl⟩
      · exact ⟨ending, failure, rfl⟩

/-- What was noted stays noted. -/
theorem history_run {es : List Event} (hrun : Run step s es t) : s.history <:+ t.history := by
  refine hrun.keeps (P := fun u => s.history <:+ u.history) (fun u e v h hstep => ?_)
    List.suffix_rfl
  exact h.trans (history_step hstep).suffix

end History

end PooledTcp.Server
