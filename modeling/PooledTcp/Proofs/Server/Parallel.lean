import PooledTcp.Proofs.Server.Polling
import PooledTcp.Proofs.Server.Tracked

/-!
# A server all of whose operations take their steps one by one

The first steps of a loop and of a close come one by one in `Midway`, and the looks of a loop for the signal and for
a connection in `Polling`. In `Parallel` they all do, so that a loop can be given a connection when the signal is
given already, and count its listener when the server is closed. The end of a connection has two steps there as well: it
is counted no longer, and where it was the last one, the stops are told of that afterwards. So the time of a stop can
be over when the count has come to zero and it has not been told. In a row the steps are the operations of
`Midway.step`, `Polling.step` and `Server.step` (`step_first`, `step_turn`, `step_tell_of_leave`), and every run of a
server is one of a `Parallel` (`run_whole`).

But for the signal and the stops, all that a step does is what `Midway.step` does in some event, or nothing
(`Parallel.Move.lift`). So an invariant that says nothing of these two is kept by the steps of a `Parallel` where
those of a `Midway` keep it.
-/

namespace PooledTcp.Server

/-- Connection `conn` is counted no longer, and nobody is told of that yet. -/
def leave (s : Server) (conn : GuardId) (c : Connection) (ending : Ending) (failure : Option IoError) : Server :=
  let s := ((s.report conn c ending).note (.shutSocket conn failure)).note (.droppedSocket conn)
  { s with active := s.active - 1, conns := s.conns.filter (·.1 != conn) }.note (.untracked conn (s.active - 1))

/-- The loop that takes a step of a turn in the event. -/
def Polling.Event.turn? : Polling.Event → Option CallId
  | .whole _ => none
  | .look id | .take id _ | .fault id _ _ | .park id | .wake id => some id

/-- A server with the loops and closes that are within their first steps, the loops that are about to ask for a
connection, and the number of times that the stops are going to be told that no connection is counted. -/
structure Parallel extends Midway where
  looked : List CallId := []
  telling : Nat := 0

namespace Parallel

/-- The server as its loops see it between two turns. -/
def polling (p : Parallel) : Polling := { server := p.server, looked := p.looked }

/-- What can happen. -/
inductive Event where
  /-- An uninterrupted piece of work, or a first step of a loop or a close. -/
  | first (e : Midway.Event)
  /-- A step of a turn of a loop. -/
  | turn (e : Polling.Event)
  /-- The handler of a connection ends, its socket is shut down, and it is counted no longer. -/
  | leave (conn : GuardId) (ending : Ending) (failure : Option IoError)
  /-- The stops are told that no connection is counted. -/
  | tell

namespace Event

/-- An uninterrupted piece of work. -/
@[match_pattern]
abbrev whole (e : Server.Event) : Event := .first (.whole e)

/-- The loop that an event is about. -/
def loop? : Event → Option CallId
  | .first e => e.loop?
  | .turn e => e.turn?
  | .leave _ _ _ | .tell => none

end Event

/-- Perform an event, if it can happen. -/
def step (p : Parallel) : Event → Option Parallel
  | .first e =>
    if e.loop?.any (· ∈ p.looked) then none else (p.toMidway.step e).map fun m => { p with toMidway := m }
  | .turn e =>
    match e.turn? with
    | none => none
    | some id =>
      if (p.entering.lookup id).isSome then none
      else (p.polling.step e).map fun q => { p with server := q.server, looked := q.looked }
  | .leave conn ending failure =>
    match p.server.conns.lookup conn with
    | some c =>
      if c.begun && (p.server.force || ending != .forced) then
        some { p with
          server := p.server.leave conn c ending failure
          telling := if p.server.active - 1 = 0 then p.telling + 1 else p.telling }
      else none
    | none => none
  | .tell =>
    if p.telling = 0 then none else some { p with server := p.server.tellIdle, telling := p.telling - 1 }

/-- A run leads from a server that was just built to `p`. -/
def Reachable (p : Parallel) : Prop := ∃ s es, Built s ∧ Run step { server := s } es p

end Parallel

variable {s : Server} {p q : Parallel} {e : Parallel.Event} {id : CallId}

/-- The first steps of loops and closes are those of `Midway`. -/
theorem step_first (m : Midway) (e : Midway.Event) :
    Parallel.step { toMidway := m } (.first e) = (m.step e).map ({ toMidway := · }) := by
  cases h : e.loop? <;> simp [Parallel.step, h]

/-- The steps of a turn are those of `Polling`. -/
theorem step_turn (p : Polling) (e : Polling.Event) (hturn : e.turn? = some id) :
    Parallel.step { server := p.server, looked := p.looked } (.turn e) =
      (p.step e).map fun q => { server := q.server, looked := q.looked } := by
  simp [Parallel.step, hturn, Parallel.polling]

theorem leave_eq (s : Server) (conn : GuardId) (c : Connection) (ending : Ending) (failure : Option IoError) :
    s.leave conn c ending failure = { s with
      active := s.active - 1
      conns := s.conns.filter (·.1 != conn)
      history := .untracked conn (s.active - 1) :: .droppedSocket conn :: .shutSocket conn failure ::
        (ending.said conn c.peer ++ s.history) } := by
  simp only [leave, report_eq, note]

/-- The two steps at the end of a connection in a row are its end. -/
theorem step_tell_of_leave (s : Server) (conn : GuardId) (ending : Ending) (failure : Option IoError) :
    ((Parallel.step { server := s } (.leave conn ending failure)).bind fun p =>
      if p.telling = 0 then some p else p.step .tell) =
      Parallel.step { server := s } (.whole (.finish conn ending failure)) := by
  cases hconn : s.conns.lookup conn with
  | none => simp [Parallel.step, Midway.step, Midway.Holds, Midway.Event.loop?, Event.loop?, Event.stop?,
      Server.step, hconn]
  | some c =>
    by_cases hends : (c.begun && (s.force || ending != .forced)) = true
    · by_cases hzero : s.active - 1 = 0 <;>
        simp [Parallel.step, Midway.step, Midway.Holds, Midway.Event.loop?, Event.loop?, Event.stop?,
          Server.step, hconn, hends, hzero, leave_eq, untrack_eq, report_eq, note, tellIdle]
    · simp [Parallel.step, Midway.step, Midway.Holds, Midway.Event.loop?, Event.loop?, Event.stop?,
        Server.step, hconn, hends]

/-- Where nothing is torn apart, the operations are those of the server. -/
theorem run_whole {t : Server} {es : List Event} (hrun : Run step s es t) :
    Run Parallel.step { server := s } (es.map .whole) { server := t } := by
  induction hrun with
  | nil s => exact .nil _
  | @cons s u t e es hstep _ ih =>
    have hwhole : Parallel.step { server := s } (.whole e) = some { server := u } := by
      cases hloop : e.loop? <;> cases hstop : e.stop? <;>
        simp [Parallel.step, Midway.Event.loop?, Midway.step, Midway.Holds, hloop, hstop, hstep]
    exact .cons hwhole ih

/-- What an event can do to a server whose operations all take their steps one by one. -/
inductive Parallel.Move (p : Parallel) : Parallel.Event → Parallel → Prop where
  | first {e : Midway.Event} {m : Midway} : (∀ id ∈ p.looked, e.loop? ≠ some id) →
    Midway.Move p.toMidway e m → Move p (.first e) { p with toMidway := m }
  | turn {e : Polling.Event} {id : CallId} {q : Polling} : e.turn? = some id → p.entering.lookup id = none →
    p.polling.step e = some q → Move p (.turn e) { p with server := q.server, looked := q.looked }
  | leave {conn : GuardId} {c : Connection} {ending : Ending} {failure : Option IoError} :
    p.server.conns.lookup conn = some c → c.begun = true → (ending = .forced → p.server.force = true) →
    Move p (.leave conn ending failure) { p with
      server := p.server.leave conn c ending failure
      telling := if p.server.active - 1 = 0 then p.telling + 1 else p.telling }
  | tell : p.telling ≠ 0 →
    Move p .tell { p with server := p.server.tellIdle, telling := p.telling - 1 }

/-- A loop that has looked for the signal is about to ask for a connection, and past its first steps. -/
structure Watching (p : Parallel) : Prop where
  looking : Looking p.polling
  entering : ∀ id ∈ p.looked, p.entering.lookup id = none

/-- Nothing but a move happens. -/
theorem Parallel.Move.of_step (hstep : p.step e = some q) : Move p e q := by
  cases e with
  | first e =>
    simp only [step, Option.ite_none_left_eq_some, Option.map_eq_some_iff] at hstep
    obtain ⟨hnone, m, hm, rfl⟩ := hstep
    refine .first (fun id hid hloop => hnone ?_) (.of_step hm)
    rw [hloop, Option.any_some]
    exact decide_eq_true hid
  | turn e =>
    simp only [step] at hstep
    split at hstep
    · cases hstep
    · rename_i id hid
      simp only [Option.ite_none_left_eq_some, Option.map_eq_some_iff, Bool.not_eq_true] at hstep
      obtain ⟨hentering, q, hq, rfl⟩ := hstep
      exact .turn hid (Option.isSome_eq_false_iff.1 hentering |> Option.isNone_iff_eq_none.1) hq
  | leave conn ending failure =>
    simp only [step] at hstep
    split at hstep
    · rename_i c hconn
      simp only [Option.ite_none_right_eq_some, Option.some.injEq, Bool.and_eq_true, Bool.or_eq_true,
        bne_iff_ne, ne_eq] at hstep
      obtain ⟨⟨hbegun, hforce⟩, rfl⟩ := hstep
      exact .leave hconn hbegun fun hforced => hforce.resolve_right fun hnot => hnot hforced
    · cases hstep
  | tell =>
    simp only [step, Option.ite_none_left_eq_some, Option.some.injEq] at hstep
    obtain ⟨htelling, rfl⟩ := hstep
    exact .tell htelling

/-! ### What no signal and no stop is part of -/

/-- A loop is given a connection whatever the signal. -/
theorem takeConnection_done (s : Server) (done : Bool) (id : CallId) (address : String) (backoff : Backoff)
    (peer : String) : { s with done }.takeConnection id address backoff peer =
      { s.takeConnection id address backoff peer with done } := by
  cases hzero : s.timeouts.keepAlive.isZero with
  | true => simp [takeConnection, dispatch, note, holdLoop, hzero]
  | false =>
    rcases hset : ({} : SocketOptions).setKeepAlive s.timeouts.keepAlive with ⟨options, _ | _⟩
    · simp [takeConnection, dispatch, note, holdLoop, hzero, hset]
    · simp [takeConnection, dispatch, note, holdLoop, hzero, hset]

/-- A step of a turn is what an uninterrupted piece of work does under some signal, or changes nothing. -/
theorem step_of_turn {p q : Polling} {e : Polling.Event} (hturn : e.turn? = some id) (hstep : p.step e = some q) :
    q.server = p.server ∨ ∃ done f, Event.loop? f = some id ∧
      Server.step { p.server with done } f = some { q.server with done } := by
  cases e with
  | whole _ => cases hturn
  | look i =>
    cases Polling.Move.of_step hstep with
    | looks _ _ _ => exact .inl rfl
  | park i =>
    cases Polling.Move.of_step hstep with
    | parks _ => exact .inl rfl
  | take i peer =>
    cases hturn
    simp only [Polling.step] at hstep
    split at hstep
    · rename_i address backoff hid
      obtain ⟨-, h⟩ := Option.ite_none_right_eq_some.1 hstep
      cases h
      refine .inr ⟨false, .accept id peer, rfl, ?_⟩
      simp only [Server.step, hid, Bool.false_eq_true, if_false]
      exact congrArg some (takeConnection_done p.server false id address backoff peer)
    · cases hstep
  | fault i cause draw =>
    cases hturn
    simp only [Polling.step] at hstep
    split at hstep
    · rename_i address backoff hid
      obtain ⟨-, h⟩ := Option.ite_none_right_eq_some.1 hstep
      cases h
      cases hdone : p.server.done with
      | true => exact .inr ⟨true, .resume id, rfl, by simp [Server.step, hid, Polling.settle, endLoop_eq]⟩
      | false =>
        refine .inr ⟨false, .acceptFails id cause draw, rfl, ?_⟩
        simp only [Server.step, hid, Bool.false_eq_true, if_false]
        rfl
    · cases hstep
  | wake i =>
    cases hturn
    cases Polling.Move.of_step hstep with
    | wakes hid hfired =>
      exact .inr ⟨false, .resume id, rfl, by simp [Server.step, hid, hfired, holdLoop]⟩

/-- The end of a connection is what it does in one piece, but that the stops are not told. -/
theorem step_of_leave {conn : GuardId} {c : Connection} {ending : Ending} {failure : Option IoError}
    (hconn : s.conns.lookup conn = some c) (hbegun : c.begun = true)
    (hforce : ending = .forced → s.force = true) :
    s.step (.finish conn ending failure) = some { s.leave conn c ending failure with
      stops := if s.active - 1 = 0 then s.tellIdle.stops else s.stops } := by
  have hends : (c.begun && (s.force || ending != .forced)) = true := by
    simpa [hbegun, Decidable.or_iff_not_imp_right] using hforce
  simp only [Server.step, hconn, hends, if_true, untrack_eq, report_eq, leave_eq, note, tellIdle]

/-- What is about a loop that has no first step to take is not held back. -/
theorem holds_of_loop {m : Midway} {f : Event} (hloop : f.loop? = some id)
    (hentering : m.entering.lookup id = none) : m.Holds f = false := by
  have hstop : f.stop? = none := by
    cases f with
    | proceed _ => cases hloop
    | _ => rfl
  simp [Midway.Holds, hloop, hentering, hstop]

/-- An event is about one loop, and leaves the others where they are. -/
theorem Parallel.Move.lookup (hmove : Move p e q) (hid : e.loop? ≠ some id) :
    q.server.loops.lookup id = p.server.loops.lookup id ∧ q.entering.lookup id = p.entering.lookup id := by
  cases hmove with
  | first _ hm => exact hm.lookup hid
  | turn hturn _ hq =>
    refine ⟨?_, rfl⟩
    rcases step_of_turn hturn hq with heq | ⟨done, f, hloop, hf⟩
    · exact congrArg (·.loops.lookup id) heq
    · have hkept := lookup_step hf fun h => hid (hturn.trans (hloop.symm.trans h))
      exact hkept
  | leave _ _ _ => exact ⟨by rw [leave_eq], rfl⟩
  | tell _ => exact ⟨rfl, rfl⟩

/-- A turn of one loop lets no other one look for the signal. -/
theorem mem_looked_of_turn {p q : Polling} {f : Polling.Event} {other : CallId} (hturn : f.turn? = some id)
    (hstep : p.step f = some q) (hother : other ∈ q.looked) : other = id ∨ other ∈ p.looked := by
  cases Polling.Move.of_step hstep with
  | whole _ _ => cases hturn
  | looks _ _ _ =>
    cases hturn
    exact List.mem_cons.1 hother
  | takes _ _ _ | fails _ _ _ | hears _ _ _ | parks _ => exact .inr (List.mem_filter.1 hother).1
  | wakes _ _ => exact .inr hother

theorem Watching.step (hs : Watching p) (hstep : p.step e = some q) : Watching q := by
  have hmove := Parallel.Move.of_step hstep
  have hothers (hlooked : q.looked = p.looked) (hnot : ∀ id ∈ p.looked, e.loop? ≠ some id) : Watching q := by
    refine ⟨fun id hid => ?_, fun id hid => ?_⟩
    · have hid' : id ∈ p.looked := hlooked ▸ hid
      obtain ⟨address, backoff, hlookup⟩ := hs.looking id hid'
      exact ⟨address, backoff, (hmove.lookup (hnot id hid')).1.trans hlookup⟩
    · have hid' : id ∈ p.looked := hlooked ▸ hid
      exact (hmove.lookup (hnot id hid')).2.trans (hs.entering id hid')
  cases hmove with
  | first hnot _ => exact hothers rfl hnot
  | turn hturn hentering hq =>
    refine ⟨hs.looking.step hq, fun id hid => ?_⟩
    rcases mem_looked_of_turn hturn hq hid with rfl | hold
    · exact hentering
    · exact hs.entering id hold
  | leave _ _ _ | tell _ => exact hothers rfl fun _ _ => nofun

/-- The server before the first event. -/
theorem Built.parallel (hs : Built s) : Parallel.Reachable { server := s } := ⟨s, [], hs, .nil _⟩

theorem Parallel.Reachable.run {es : List Parallel.Event} (hs : Reachable p) (hrun : Run step p es q) :
    Reachable q := by
  obtain ⟨s, fs, hs, hbefore⟩ := hs
  exact ⟨s, fs ++ es, hs, hbefore.append hrun⟩

theorem Parallel.Reachable.watching (hs : Reachable p) : Watching p := by
  obtain ⟨s, es, -, hrun⟩ := hs
  exact hrun.keeps (fun _ _ _ => Watching.step) ⟨List.forall_mem_nil _, List.forall_mem_nil _⟩

/-- What says nothing of the signal, and of the stops only whether there are any, is kept by every step if it is
by those of a `Midway`. -/
theorem Parallel.Move.lift {I : Midway → Prop}
    (hsame : ∀ m done stops, (stops = [] ↔ m.server.stops = []) → I m →
      I { m with server := { m.server with done, stops } })
    (hkept : ∀ m f n, I m → Midway.Move m f n → I n) (hmove : Move p e q) (hp : I p.toMidway) :
    I q.toMidway := by
  cases hmove with
  | first _ hm => exact hkept _ _ _ hp hm
  | @turn e id q hturn hentering hq =>
    rcases step_of_turn hturn hq with heq | ⟨done, f, hloop, hf⟩
    · show I { p.toMidway with server := q.server }
      rw [heq]
      exact hp
    · have hother := hsame p.toMidway done p.server.stops Iff.rfl hp
      have hafter := hkept _ _ _ hother (.whole (holds_of_loop hloop hentering) hf)
      exact hsame _ q.server.done q.server.stops Iff.rfl hafter
  | @leave conn c ending failure hconn hbegun hforce =>
    generalize hleave : p.server.leave conn c ending failure = t
    have hfinish : p.server.step (.finish conn ending failure) = some _ := step_of_leave hconn hbegun hforce
    rw [hleave] at hfinish
    have hstops : t.stops = p.server.stops := by rw [← hleave, leave_eq]
    refine hsame _ t.done t.stops ?_ (hkept _ _ _ hp (.whole rfl hfinish))
    rw [hstops]
    dsimp only
    split
    · exact List.map_eq_nil_iff.symm
    · exact Iff.rfl
  | tell _ => exact hsame _ p.server.done p.server.tellIdle.stops List.map_eq_nil_iff hp

/-- And so by every run. -/
theorem Parallel.Reachable.lift {I : Midway → Prop} (hs : Reachable p) (hbuilt : ∀ s, Built s → I { server := s })
    (hsame : ∀ m done stops, (stops = [] ↔ m.server.stops = []) → I m →
      I { m with server := { m.server with done, stops } })
    (hkept : ∀ m f n, I m → Midway.Move m f n → I n) : I p.toMidway := by
  obtain ⟨s, es, hs, hrun⟩ := hs
  exact hrun.keeps (P := fun q => I q.toMidway)
    (fun _ _ _ hu hstep => Move.lift hsame hkept (.of_step hstep) hu) (hbuilt s hs)

end PooledTcp.Server
