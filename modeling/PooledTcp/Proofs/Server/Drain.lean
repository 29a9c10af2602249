import PooledTcp.Proofs.Server.Closed
import PooledTcp.Proofs.Server.Courses

/-!
# How a shutdown ends

A shutdown waits for its close, then for the connections as long as its grace lasts, then for those that it forced.
Only its own turns take it from one point to the next (`stop_step`, `Parallel.Move.stop`); others at most tell it
that no connection is counted any more, and that some time after the last one has gone. `Returns` is the part of a
run in which a call is in flight, up to where it is over.

A close waits for every loop, also for one that is given a connection after the signal. So once it is over no
connection comes (`unserved_run`), and a count of zero is final: a shutdown that finds it before its grace is over ends
well, also where it was not told in time, and one that ends well leaves no connection behind. A shutdown that does not
end well found connections when its grace was over, gave the signal that forces them, and reports their number
(`shutdown_drains`).
-/

namespace PooledTcp.Server

/-- The shutdown that is called in the event, or takes its first step. -/
def Parallel.Event.shuts? : Parallel.Event → Option (CallId × Duration)
  | .first (.mark id grace) => grace.map (id, ·)
  | .whole (.shutdown id grace) => some (id, grace)
  | _ => none

/-- Call `id` waits before each of the events, and is over after them. -/
inductive Returns (id : CallId) : Parallel → List Parallel.Event → Parallel → Prop where
  | ended {p : Parallel} : p.server.stops.lookup id = none → Returns id p [] p
  | more {p q r : Parallel} {e : Parallel.Event} {es : List Parallel.Event} :
    (p.server.stops.lookup id).isSome → p.step e = some q → Returns id q es r → Returns id p (e :: es) r

/-- Where the call is over, if it waits before each of the events and is over after them. -/
def returned? (id : CallId) (p : Parallel) : List Parallel.Event → Option Parallel
  | [] => if (p.server.stops.lookup id).isNone then some p else none
  | e :: es => if (p.server.stops.lookup id).isSome then (p.step e).bind (returned? id · es) else none

/-- No connection is counted any more, and of every accepted one the socket is gone. -/
def Emptied (p : Parallel) : Prop := ∀ es q, Run Parallel.step p es q → q.server.active = 0 ∧
  ∀ conn ∈ dispatchedIn q.server.history, .droppedSocket conn ∈ q.server.history

/-- Every handler that runs can be dropped from now on. -/
def Forcing (p : Parallel) : Prop := ∀ es q, Run Parallel.step p es q → q.server.force = true ∧
  ∀ conn failure, q.server.table.Running conn → (q.step (.leave conn .forced failure)).isSome

/-- During the events call `id` finds its grace over while so many connections are counted, and forces
them. -/
def GraceOver (id : CallId) (grace : Duration) (deadline : Nat) (p : Parallel) (es : List Parallel.Event)
    (remaining : Nat) : Prop :=
  ∃ es₁ es₂ u v told, es = es₁ ++ .whole (.proceed id) :: es₂ ∧ Run Parallel.step p es₁ u ∧
    u.server.stops.lookup id = some (.draining grace deadline told) ∧
    Clock.fired u.server.now deadline = true ∧ u.server.active = remaining ∧
    u.step (.whole (.proceed id)) = some v ∧ Forcing v

/-- Call `id` can end well at once, or once it is told that no connection is counted. -/
def EndsWell (id : CallId) (p : Parallel) : Prop :=
  ∃ es q, (es = [.whole (.proceed id)] ∨ es = [.tell, .whole (.proceed id)]) ∧ Run Parallel.step p es q ∧
    q.server.answer? id = some (.ok ())

/-- Where call `id` is after its close, by the end of its grace. It is told that no connection is counted, or
is going to be. -/
inductive Lapsing (id : CallId) (grace : Duration) (deadline : Nat) (p : Parallel) : Prop where
  | draining {told : Bool} : p.server.stops.lookup id = some (.draining grace deadline told) →
    (p.server.active = 0 → p.telling = 0 → told = true) → Lapsing id grace deadline p
  | forcing {remaining until_ : Nat} {told : Bool} :
    p.server.stops.lookup id = some (.forcing remaining until_ told) → deadline ≤ p.server.now →
    Lapsing id grace deadline p

variable {s t : Server} {m n : Midway} {p q r : Parallel} {e : Event} {f : Midway.Event} {g : Parallel.Event}
  {es es₁ es₂ : List Parallel.Event} {id : CallId} {conn : GuardId} {stage : StopStage} {grace : Duration}
  {deadline remaining until_ : Nat} {told : Bool}

namespace Returns

/-- What comes of a call is computed event by event. -/
theorem of_eq (h : returned? id p es = some q) : Returns id p es q := by
  induction es generalizing p with
  | nil =>
    simp only [returned?, Option.ite_none_right_eq_some, Option.isNone_iff_eq_none, Option.some.injEq] at h
    obtain ⟨hover, rfl⟩ := h
    exact .ended hover
  | cons e es ih =>
    simp only [returned?, Option.ite_none_right_eq_some, Option.bind_eq_some_iff] at h
    obtain ⟨hwaits, u, hstep, hrest⟩ := h
    exact .more hwaits hstep (ih hrest)

/-- A call that is over is not waited for. -/
theorem eq_of_over (h : Returns id p es q) (hover : p.server.stops.lookup id = none) : es = [] ∧ q = p := by
  cases h with
  | ended _ => exact ⟨rfl, rfl⟩
  | more hwaits _ _ => simp [hover] at hwaits

theorem waits (h : Returns id p es q) (hne : es ≠ []) : (p.server.stops.lookup id).isSome := by
  cases h with
  | ended _ => exact absurd rfl hne
  | more hwaits _ _ => exact hwaits

/-- The rest of a call. -/
theorem rest (h : Returns id p (es₁ ++ es₂) r) (hrun : Run Parallel.step p es₁ q) : Returns id q es₂ r := by
  induction es₁ generalizing p with
  | nil =>
    cases hrun
    exact h
  | cons f es₁ ih =>
    cases hrun with
    | cons hstep hlater =>
      cases h with
      | more _ hstep' hrest =>
        obtain rfl := Option.some.inj (hstep.symm.trans hstep')
        exact ih hrest hlater

/-- What each event keeps before and after which the call waits, holds as long as it waits. -/
theorem keeps {P : Parallel → Prop} (hkept : ∀ p g q, (p.server.stops.lookup id).isSome →
      (q.server.stops.lookup id).isSome → P p → p.step g = some q → P q)
    (h : Returns id p (es₁ ++ g :: es₂) r) (hp : P p) (hrun : Run Parallel.step p es₁ q) : P q := by
  induction es₁ generalizing p with
  | nil =>
    cases hrun
    exact hp
  | cons f es₁ ih =>
    cases hrun with
    | cons hstep hlater =>
      cases h with
      | more hwaits hstep' hrest =>
        obtain rfl := Option.some.inj (hstep.symm.trans hstep')
        exact ih hrest (hkept _ _ _ hwaits (hrest.waits (by simp)) hp hstep) hlater

end Returns

section Moves

theorem active_of_quiet (hstep : s.step e = some t) (hquiet : ¬e.OnConnection) :
    t.active = s.active :=
  congrArg Table.active (quiet_step hstep hquiet).1

/-- A stop moves by its own turns; others only tell it when the number of connections comes to zero. -/
theorem stop_step (hid : s.stops.lookup id = some stage) (hstep : s.step e = some t)
    (hother : e ≠ .proceed id) :
    t.stops.lookup id = some stage ∧ (t.active = 0 → s.active = 0) ∨
      t.stops.lookup id = some stage.tell ∧ t.active = 0 := by
  have hkept (hstops : t.stops.lookup id = s.stops.lookup id) (hquiet : ¬e.OnConnection) :
      t.stops.lookup id = some stage ∧ (t.active = 0 → s.active = 0) ∨
        t.stops.lookup id = some stage.tell ∧ t.active = 0 :=
    .inl ⟨hstops.trans hid, fun hzero => active_of_quiet hstep hquiet ▸ hzero⟩
  have hbusy {other : CallId} (hfree : s.isBusy other = false) : id ≠ other := by
    rintro rfl
    simp [isBusy, hid] at hfree
  have hturn {other : CallId} (hnot : Event.proceed other ≠ .proceed id) : id ≠ other := by
    rintro rfl
    exact hnot rfl
  cases Move.of_step hstep with
  | accepted _ _ _ _ _ => exact .inl ⟨hid, fun hzero => absurd hzero (Nat.succ_ne_zero _)⟩
  | close hfree | shutdown hfree => exact hkept (lookup_put_of_ne (hbusy hfree) _ _) not_false
  | closed _ _ | idle _ _ _ | drained _ _ | spent _ _ _ | forced _ _ | forceOver _ =>
    exact hkept (lookup_filter_of_ne (hturn hother) _) not_false
  | drains _ _ _ | graceOver _ _ _ | stillDraining _ _ | stillForcing _ _ =>
    exact hkept (lookup_put_of_ne (hturn hother) _ _) not_false
  | begins _ _ => exact .inl ⟨hid, fun hzero => hzero⟩
  | finished _ _ _ =>
    dsimp only
    split
    · rename_i hzero
      exact .inr ⟨by rw [lookup_map, hid]; rfl, hzero⟩
    · rename_i hleft
      exact .inl ⟨hid, fun hzero => absurd hzero hleft⟩
  | _ => exact hkept rfl not_false

/-- Nor is it moved by the first steps of others. -/
theorem Midway.Move.stop (hid : m.server.stops.lookup id = some stage) (hmove : Midway.Move m f n)
    (hother : f ≠ .whole (.proceed id)) :
    n.server.stops.lookup id = some stage ∧ (n.server.active = 0 → m.server.active = 0) ∨
      n.server.stops.lookup id = some stage.tell ∧ n.server.active = 0 := by
  cases hmove with
  | whole _ hstep => exact stop_step hid hstep fun heq => hother (congrArg _ heq)
  | mark hfree =>
    refine .inl ⟨(lookup_put_of_ne ?_ _ _).trans hid, fun hzero => hzero⟩
    rintro rfl
    simp [isBusy, hid] at hfree
  | count _ _ | turnAway _ _ | enter _ _ | record _ | signal _ _ => exact .inl ⟨hid, fun hzero => hzero⟩

/-- A turn of a loop moves no stop, and ends no connection. -/
theorem active_of_turn {p q : Polling} {f : Polling.Event} {other : CallId} (hturn : f.turn? = some other)
    (hstep : p.step f = some q) : q.server.stops = p.server.stops ∧ p.server.active ≤ q.server.active := by
  cases Polling.Move.of_step hstep with
  | whole _ _ => cases hturn
  | takes _ _ _ => exact ⟨rfl, Nat.le_succ _⟩
  | looks _ _ _ | fails _ _ _ | hears _ _ _ | parks _ | wakes _ _ => exact ⟨rfl, Nat.le_refl _⟩

/-- A stop moves by its own turns. Where the count has come to zero it is told, or going to be. -/
theorem Parallel.Move.stop (hid : p.server.stops.lookup id = some stage) (hmove : Parallel.Move p g q)
    (hother : g ≠ .whole (.proceed id)) :
    q.server.stops.lookup id = some stage ∧
        (q.server.active = 0 → q.telling = 0 → p.server.active = 0 ∧ p.telling = 0) ∨
      q.server.stops.lookup id = some stage.tell := by
  cases hmove with
  | first _ hm =>
    rcases hm.stop hid fun heq => hother (congrArg _ heq) with ⟨hsame, hzero⟩ | ⟨htold, -⟩
    · exact .inl ⟨hsame, fun hidle htelling => ⟨hzero hidle, htelling⟩⟩
    · exact .inr htold
  | turn hturn _ hq =>
    obtain ⟨hstops, hactive⟩ := active_of_turn hturn hq
    refine .inl ⟨(congrArg (·.lookup id) hstops).trans hid, fun hidle htelling => ⟨?_, htelling⟩⟩
    exact Nat.le_zero.1 (hidle ▸ hactive)
  | leave _ _ _ =>
    rw [leave_eq]
    refine .inl ⟨hid, fun hidle htelling => ?_⟩
    rw [if_pos hidle] at htelling
    cases htelling
  | tell _ => exact .inr (by rw [tellIdle, lookup_map, hid]; rfl)

/-- A turn of a stop is one of the server, and its close has taken both of its steps. -/
theorem proceed_of_step (hstep : p.step (.whole (.proceed id)) = some q) :
    p.server.step (.proceed id) = some q.server ∧ q.marking.lookup id = none := by
  cases Parallel.Move.of_step hstep with
  | first _ hm =>
    cases hm with
    | whole hholds hs =>
      obtain ⟨-, hmarking⟩ := Bool.or_eq_false_iff.1 hholds
      exact ⟨hs, Option.not_isSome_iff_eq_none.1 (Bool.eq_false_iff.1 hmarking)⟩

/-- While a stop waits, no other one takes its number. -/
theorem unmarked_step (hwaits : (p.server.stops.lookup id).isSome) (hnone : p.marking.lookup id = none)
    (hstep : p.step g = some q) : q.marking.lookup id = none := by
  cases Parallel.Move.of_step hstep with
  | first _ hm =>
    cases hm with
    | @mark other _ hfree =>
      have hne : id ≠ other := by
        rintro rfl
        simp [isBusy, hwaits] at hfree
      exact (lookup_cons_of_ne hne).trans hnone
    | signal _ _ =>
      refine Option.eq_none_iff_forall_ne_some.2 fun x hx => ?_
      cases hnone.symm.trans (lookup_filter_eq_some.1 hx).2
    | whole _ _ | count _ _ | turnAway _ _ | enter _ _ | record _ => exact hnone
  | turn _ _ _ | leave _ _ _ | tell _ => exact hnone

/-- Time goes on, and the signal that forces connections is not taken back. -/
theorem Parallel.Move.clock (hmove : Parallel.Move p g q) :
    p.server.now ≤ q.server.now ∧ (p.server.force = true → q.server.force = true) := by
  refine hmove.lift
    (I := fun m => p.server.now ≤ m.server.now ∧ (p.server.force = true → m.server.force = true))
    (fun _ _ _ _ h => h) ?_ ⟨Nat.le_refl _, fun h => h⟩
  rintro m f n ⟨hnow, hforce⟩ hmn
  cases hmn with
  | whole _ hstep => exact ⟨Nat.le_trans hnow (clock_step hstep).1, (clock_step hstep).2 ∘ hforce⟩
  | count _ _ | turnAway _ _ | enter _ _ | record _ | mark _ | signal _ _ => exact ⟨hnow, hforce⟩

end Moves

section Turns

theorem endStop_over (s : Server) (id : CallId) (a : Except ServerError Unit) :
    (s.endStop id a).stops.lookup id = none ∧ (s.endStop id a).answer? id = some a :=
  ⟨lookup_filter_self _ _, answer?_answer _ _ _⟩

/-- A shutdown finds its close over. It ends if no connection is counted, else its grace begins. -/
theorem proceed_closing (hid : s.stops.lookup id = some (.closing (some grace)))
    (hstep : s.step (.proceed id) = some t) : ClosedIn t.history ∧
      (s.active = 0 ∧ t.stops.lookup id = none ∧ t.answer? id = some (.ok ()) ∨
        s.active ≠ 0 ∧ t.stops.lookup id = some (.draining grace (Clock.sleepEnd s.now grace) false)) := by
  cases Move.of_step hstep with
  | idle hid' _ hidle =>
    exact ⟨⟨id, .tail _ (.tail _ (.head _))⟩, .inl ⟨hidle, endStop_over _ _ _⟩⟩
  | drains hid' _ hbusy =>
    cases hid.symm.trans hid'
    exact ⟨⟨id, .head _⟩, .inr ⟨hbusy, lookup_put_self _ _ _⟩⟩
  | closed hid' _ | drained hid' _ | spent hid' _ _ | graceOver hid' _ _ | stillDraining hid' _
  | forced hid' _ | forceOver hid' | stillForcing hid' _ => cases hid.symm.trans hid'

/-- A shutdown that waits for the connections ends, forces those that are left, or waits on. -/
theorem proceed_draining (hid : s.stops.lookup id = some (.draining grace deadline told))
    (hstep : s.step (.proceed id) = some t) :
    s.active = 0 ∧ t.stops.lookup id = none ∧ t.answer? id = some (.ok ()) ∨
      s.active ≠ 0 ∧ Clock.fired s.now deadline = true ∧ t.force = true ∧
        (∃ until_, t.stops.lookup id = some (.forcing s.active until_ false)) ∨
      s.active ≠ 0 ∧ t.stops.lookup id = some (.draining grace deadline false) := by
  cases Move.of_step hstep with
  | drained hid' hidle => exact .inl ⟨hidle, endStop_over _ _ _⟩
  | spent hid' _ hidle => exact .inl ⟨hidle, endStop_over _ _ _⟩
  | graceOver hid' hfired hbusy =>
    cases hid.symm.trans hid'
    exact .inr (.inl ⟨hbusy, hfired, rfl, _, lookup_put_self _ _ _⟩)
  | stillDraining hid' hbusy =>
    cases hid.symm.trans hid'
    exact .inr (.inr ⟨hbusy, lookup_put_self _ _ _⟩)
  | closed hid' _ | idle hid' _ _ | drains hid' _ _ | forced hid' _ | forceOver hid'
  | stillForcing hid' _ => cases hid.symm.trans hid'

/-- A shutdown that waits for forced connections ends with their number, or waits on. -/
theorem proceed_forcing (hid : s.stops.lookup id = some (.forcing remaining until_ told))
    (hstep : s.step (.proceed id) = some t) :
    t.stops.lookup id = none ∧ t.answer? id = some (.error (.drainTimeout remaining)) ∨
      t.stops.lookup id = some (.forcing remaining until_ false) := by
  cases Move.of_step hstep with
  | forced hid' _ =>
    cases hid.symm.trans hid'
    exact .inl (endStop_over _ _ _)
  | forceOver hid' =>
    cases hid.symm.trans hid'
    exact .inl (endStop_over _ _ _)
  | stillForcing hid' _ =>
    cases hid.symm.trans hid'
    exact .inr (lookup_put_self _ _ _)
  | closed hid' _ | idle hid' _ _ | drains hid' _ _ | drained hid' _ | spent hid' _ _
  | graceOver hid' _ _ | stillDraining hid' _ => cases hid.symm.trans hid'

end Turns

section Connections

/-- A connection that was given a task and is in the table no longer has lost its socket. -/
theorem Coursed.dropped {fs : List Event} (hs : Coursed fs s) (hgiven : conn ∈ dispatchedIn s.history)
    (hgone : s.conns.lookup conn = none) : .droppedSocket conn ∈ s.history := by
  have hnow := hs.course conn
  have hnotes : ∀ n ∈ courseOf conn s.history, n ∈ s.history := fun n hn => (List.mem_filter.1 hn).1
  rw [← List.count_pos_iff, count_dispatchedIn] at hgiven
  rw [hgone] at hnow
  generalize courseOf conn s.history = notes at hnow hnotes hgiven
  cases hnow with
  | unknown _ => simp at hgiven
  | ended _ _ => exact hnotes _ (.tail _ (.head _))

/-- Every step of loops and closes takes no connection back. -/
theorem Coursed.move {fs : List Event} (hs : Coursed fs m.server) (hmove : Midway.Move m f n) :
    ∃ fs', Coursed fs' n.server := by
  cases hmove with
  | whole _ hstep => exact ⟨_, hs.step hstep⟩
  | count _ hnews =>
    refine ⟨fs, hs.tracked, fun conn => ?_⟩
    rcases hnews with rfl | rfl
    · simpa [courseOf_cons, Note.conn?] using hs.course conn
    · simpa [courseOf_cons, Note.conn?] using hs.course conn
  | turnAway _ _ =>
    exact ⟨fs, hs.tracked, fun conn => by simpa [courseOf_cons, Note.conn?] using hs.course conn⟩
  | record _ =>
    exact ⟨fs, hs.tracked, fun conn => by simpa [courseOf_cons, Note.conn?, Server.record, note] using hs.course conn⟩
  | @signal _ _ news _ hnews =>
    refine ⟨fs, hs.tracked, fun conn => ?_⟩
    show Course fs m.server.nextConn conn (m.server.conns.lookup conn) (courseOf conn (news ++ m.server.history))
    rw [courseOf_append_of_ne fun x hx hconn => ?_]
    · exact hs.course conn
    · obtain ⟨addr, rfl⟩ := hnews x hx
      cases hconn
  | enter _ _ | mark _ => exact ⟨fs, hs.tracked, hs.course⟩

theorem Parallel.Reachable.coursed (hs : Reachable p) : ∃ fs, Coursed fs p.server :=
  hs.lift (I := fun m => ∃ fs, Coursed fs m.server) (fun _ hbuilt => ⟨[], hbuilt.coursed⟩)
    (fun _ _ _ _ ⟨fs, hm⟩ => ⟨fs, hm.tracked, hm.course⟩) fun _ _ _ ⟨_, hm⟩ hmove => hm.move hmove

/-- Where a close is over and no connection is counted, none ever is. -/
theorem Parallel.Reachable.emptied (hs : Reachable p) (hover : ClosedIn p.server.history)
    (hzero : p.server.active = 0) : Emptied p := by
  intro es q hrun
  obtain ⟨-, -, hunserved⟩ := unserved_run hs.rested hover hrun
  have hidle : q.server.active = 0 := Nat.le_zero.1 (hzero ▸ hunserved.active)
  obtain ⟨fs, hcoursed⟩ := (hs.run hrun).coursed
  exact ⟨hidle, fun conn hgiven => hcoursed.dropped hgiven (hcoursed.tracked.lookup_eq_none hidle conn)⟩

theorem forcing_of_force (hforce : p.server.force = true) : Forcing p := by
  intro es q hrun
  have hstill : q.server.force = true :=
    hrun.keeps (P := fun u => u.server.force = true) (fun _ _ _ hu hstep => (Parallel.Move.of_step hstep).clock.2 hu)
      hforce
  refine ⟨hstill, ?_⟩
  rintro conn failure ⟨c, hfound, hbegun⟩
  have hfound' : q.server.conns.lookup conn = some c := hfound
  simp [Parallel.step, hfound', hbegun, hstill]

end Connections

section Calls

theorem stop_of_shuts (hshuts : g.shuts? = some (id, grace)) (hstep : p.step g = some q) :
    q.server.stops.lookup id = some (.closing (some grace)) := by
  cases Parallel.Move.of_step hstep with
  | first _ hm =>
    cases hm with
    | whole _ hs =>
      cases Move.of_step hs with
      | shutdown _ =>
        cases hshuts
        exact lookup_put_self _ _ _
      | _ => cases hshuts
    | @mark _ after _ =>
      cases after with
      | none => cases hshuts
      | some _ =>
        cases hshuts
        exact lookup_put_self _ _ _
    | _ => cases hshuts
  | _ => cases hshuts

/-- A shutdown waits for its close until its first turn. -/
theorem Returns.of_closing (h : Returns id p es r)
    (hid : p.server.stops.lookup id = some (.closing (some grace))) :
    ∃ es₁ es₂ q, es = es₁ ++ .whole (.proceed id) :: es₂ ∧ Run Parallel.step p es₁ q ∧
      q.server.stops.lookup id = some (.closing (some grace)) ∧ Returns id q (.whole (.proceed id) :: es₂) r := by
  induction h with
  | ended hover => cases hover.symm.trans hid
  | @more p q r g es hwaits hstep hrest ih =>
    by_cases hturn : g = .whole (.proceed id)
    · rw [hturn] at hstep ⊢
      exact ⟨[], es, p, rfl, .nil p, hid, .more hwaits hstep hrest⟩
    · have hnext : q.server.stops.lookup id = some (.closing (some grace)) := by
        rcases (Parallel.Move.of_step hstep).stop hid hturn with ⟨hsame, -⟩ | htold
        · exact hsame
        · exact htold
      obtain ⟨es₁, es₂, v, rfl, hrun, hv, hlater⟩ := ih hnext
      exact ⟨g :: es₁, es₂, v, rfl, .cons hstep hrun, hv, hlater⟩

/-- A shutdown that waits for forced connections reports their number. -/
theorem Returns.of_forcing (h : Returns id p es r)
    (hid : p.server.stops.lookup id = some (.forcing remaining until_ told)) :
    r.server.answer? id = some (.error (.drainTimeout remaining)) := by
  induction h generalizing told with
  | ended hover => cases hover.symm.trans hid
  | @more p q r g es hwaits hstep hrest ih =>
    by_cases hturn : g = .whole (.proceed id)
    · rw [hturn] at hstep
      rcases proceed_forcing hid (proceed_of_step hstep).1 with ⟨hover, hanswer⟩ | hnext
      · rw [(hrest.eq_of_over hover).2]
        exact hanswer
      · exact ih hnext
    · rcases (Parallel.Move.of_step hstep).stop hid hturn with ⟨hsame, -⟩ | htold
      · exact ih hsame
      · exact ih htold

/-- A shutdown that waits for the connections ends well and leaves none, or finds its grace over. -/
theorem Returns.of_draining (h : Returns id p es r) (hs : Parallel.Reachable p) (hover : ClosedIn p.server.history)
    (hid : p.server.stops.lookup id = some (.draining grace deadline told)) :
    r.server.answer? id = some (.ok ()) ∧ Emptied r ∨
      ∃ remaining, r.server.answer? id = some (.error (.drainTimeout remaining)) ∧ 1 ≤ remaining ∧
        GraceOver id grace deadline p es remaining := by
  induction h generalizing told with
  | ended hgone => cases hgone.symm.trans hid
  | @more p q r g es hwaits hstep hrest ih =>
    have hreach := hs.run (.cons hstep (.nil q))
    obtain ⟨-, hlater, -⟩ := (Parallel.Move.of_step hstep).unserved hs.rested hover
    have hgoes {told' : Bool} (hnext : q.server.stops.lookup id = some (.draining grace deadline told')) :
        r.server.answer? id = some (.ok ()) ∧ Emptied r ∨
          ∃ remaining, r.server.answer? id = some (.error (.drainTimeout remaining)) ∧ 1 ≤ remaining ∧
            GraceOver id grace deadline p (g :: es) remaining := by
      rcases ih hreach hlater hnext with
        hwell | ⟨remaining, hanswer, hpos, es₁, es₂, v, w, told'', rfl, hrun, hv⟩
      · exact .inl hwell
      · exact .inr ⟨remaining, hanswer, hpos, g :: es₁, es₂, v, w, told'', rfl, .cons hstep hrun, hv⟩
    by_cases hturn : g = .whole (.proceed id)
    · subst hturn
      have hproceed := (proceed_of_step hstep).1
      rcases proceed_draining hid hproceed with
        ⟨hidle, hgone, hanswer⟩ | ⟨hbusy, hfired, hforce, until_, hnext⟩ | ⟨-, hnext⟩
      · obtain ⟨rfl, rfl⟩ := hrest.eq_of_over hgone
        exact .inl ⟨hanswer, hreach.emptied hlater (active_of_quiet hproceed not_false ▸ hidle)⟩
      · exact .inr ⟨p.server.active, hrest.of_forcing hnext, Nat.pos_of_ne_zero hbusy, [], es, p, q, told, rfl,
          .nil p, hid, hfired, rfl, hstep, forcing_of_force hforce⟩
      · exact hgoes hnext
    · rcases (Parallel.Move.of_step hstep).stop hid hturn with ⟨hsame, -⟩ | htold
      · exact hgoes hsame
      · exact hgoes htold

/-- A shutdown that waits for the connections where none is counted ends well. -/
theorem Returns.of_drained (h : Returns id p es r) (hs : Rested p.toMidway) (hover : ClosedIn p.server.history)
    (hid : p.server.stops.lookup id = some (.draining grace deadline told)) (hzero : p.server.active = 0) :
    r.server.answer? id = some (.ok ()) := by
  induction h generalizing told with
  | ended hgone => cases hgone.symm.trans hid
  | @more p q r g es hwaits hstep hrest ih =>
    have hmove := Parallel.Move.of_step hstep
    obtain ⟨hnext, hlater, hunserved⟩ := hmove.unserved hs hover
    have hidle : q.server.active = 0 := Nat.le_zero.1 (hzero ▸ hunserved.active)
    by_cases hturn : g = .whole (.proceed id)
    · subst hturn
      rcases proceed_draining hid (proceed_of_step hstep).1 with ⟨-, hgone, hanswer⟩ | ⟨hbusy, -⟩ | ⟨hbusy, -⟩
      · rw [(hrest.eq_of_over hgone).2]
        exact hanswer
      · exact absurd hzero hbusy
      · exact absurd hzero hbusy
    · rcases hmove.stop hid hturn with ⟨hsame, -⟩ | htold
      · exact ih hnext hlater hsame hidle
      · exact ih hnext hlater htold hidle

/-- A shutdown does not find its grace over before it is. -/
theorem Lapsing.step (hs : Lapsing id grace deadline p) (hstep : p.step g = some q)
    (hwaits : (q.server.stops.lookup id).isSome) : Lapsing id grace deadline q := by
  have hmove := Parallel.Move.of_step hstep
  have hnow := hmove.clock.1
  by_cases hturn : g = .whole (.proceed id)
  · subst hturn
    have hproceed := (proceed_of_step hstep).1
    have hactive := active_of_quiet hproceed not_false
    cases hs with
    | draining hid htold =>
      rcases proceed_draining hid hproceed with ⟨-, hgone, -⟩ | ⟨-, hfired, -, until_, hnext⟩ | ⟨hbusy, hnext⟩
      · simp [hgone] at hwaits
      · have hlate : Clock.tick deadline ≤ p.server.now := of_decide_eq_true hfired
        exact .forcing hnext (Nat.le_trans (Clock.le_tick deadline) (Nat.le_trans hlate hnow))
      · exact .draining hnext fun hzero => absurd (hactive ▸ hzero) hbusy
    | forcing hid hlate =>
      rcases proceed_forcing hid hproceed with ⟨hgone, -⟩ | hnext
      · simp [hgone] at hwaits
      · exact .forcing hnext (Nat.le_trans hlate hnow)
  · cases hs with
    | draining hid htold =>
      rcases hmove.stop hid hturn with ⟨hsame, hzero⟩ | hnext
      · exact .draining hsame fun hidle htelling => htold (hzero hidle htelling).1 (hzero hidle htelling).2
      · exact .draining hnext fun _ _ => rfl
    | forcing hid hlate =>
      rcases hmove.stop hid hturn with ⟨hsame, -⟩ | hnext
      · exact .forcing hsame (Nat.le_trans hlate hnow)
      · exact .forcing hnext (Nat.le_trans hlate hnow)

/-- A shutdown that is told that no connection is counted ends well in its next turn. -/
theorem proceed_of_told (hid : p.server.stops.lookup id = some (.draining grace deadline true))
    (hnone : p.marking.lookup id = none) (hzero : p.server.active = 0) :
    ∃ q, p.step (.whole (.proceed id)) = some q ∧ q.server.answer? id = some (.ok ()) := by
  refine ⟨{ p with server := (p.server.note .drained).endStop id (.ok ()) }, ?_, (endStop_over _ _ _).2⟩
  simp [Parallel.step, Midway.Event.loop?, Event.loop?, Midway.step, Midway.Holds, Event.stop?, hnone, Server.step,
    hid, hzero]

/-- Where no connection is counted, a shutdown that waits for them can end well. -/
theorem endsWell_of_draining (hid : p.server.stops.lookup id = some (.draining grace deadline told))
    (hnone : p.marking.lookup id = none) (htold : p.telling = 0 → told = true) (hzero : p.server.active = 0) :
    EndsWell id p := by
  by_cases htelling : p.telling = 0
  · rw [htold htelling] at hid
    obtain ⟨q, hq, hanswer⟩ := proceed_of_told hid hnone hzero
    exact ⟨_, q, .inl rfl, .cons hq (.nil q), hanswer⟩
  · have htell : p.step .tell = some { p with server := p.server.tellIdle, telling := p.telling - 1 } := by
      simp [Parallel.step, htelling]
    have hnext : p.server.tellIdle.stops.lookup id = some (.draining grace deadline true) := by
      rw [tellIdle, lookup_map, hid]
      rfl
    obtain ⟨q, hq, hanswer⟩ := proceed_of_told (p := { p with server := _, telling := _ }) hnext hnone hzero
    exact ⟨_, q, .inr rfl, .cons htell (.cons hq (.nil q)), hanswer⟩

/-- A shutdown that finds no connection counted before its grace is over ends well, and can do so at once. -/
theorem Returns.in_time (h : Returns id p (es₁ ++ g :: es₂) r) (hs : Rested p.toMidway)
    (hover : ClosedIn p.server.history) (hlapsing : Lapsing id grace deadline p)
    (hnone : p.marking.lookup id = none) (hrun : Run Parallel.step p es₁ q) (hzero : q.server.active = 0)
    (hearly : q.server.now < deadline) : r.server.answer? id = some (.ok ()) ∧ EndsWell id q := by
  obtain ⟨hlate, hunmarked⟩ := h.keeps
    (P := fun u => Lapsing id grace deadline u ∧ u.marking.lookup id = none)
    (fun _ _ _ hbefore hafter hu hstep => ⟨hu.1.step hstep hafter, unmarked_step hbefore hu.2 hstep⟩)
    ⟨hlapsing, hnone⟩ hrun
  cases hlate with
  | draining hid htold =>
    obtain ⟨hnext, hlater, -⟩ := unserved_run hs hover hrun
    exact ⟨(h.rest hrun).of_drained hnext hlater hid hzero, endsWell_of_draining hid hunmarked (htold hzero) hzero⟩
  | forcing _ hlate => exact absurd hlate (Nat.not_le_of_lt hearly)

end Calls

/-- A shutdown that returns has found its close over at some point `v`, from which its grace counts. It ends
well and leaves no connection, or it found connections when the grace was over and forces them. It ends well if
no connection is counted at some point from `v` on and before the grace is over. All of this holds however the
steps of whatever else happens come together. -/
theorem shutdown_drains (hs : Parallel.Reachable p) (hcall : p.step g = some q)
    (hshuts : g.shuts? = some (id, grace)) (hreturns : Returns id q es r) :
    ∃ es₁ es₂ v, es = es₁ ++ .whole (.proceed id) :: es₂ ∧ Run Parallel.step q es₁ v ∧
      v.server.stops.lookup id = some (.closing (some grace)) ∧
      (r.server.answer? id = some (.ok ()) ∧ Emptied r ∨
        ∃ remaining, r.server.answer? id = some (.error (.drainTimeout remaining)) ∧ 1 ≤ remaining ∧
          GraceOver id grace (Clock.sleepEnd v.server.now grace) v (.whole (.proceed id) :: es₂) remaining) ∧
      ∀ fs f gs w, .whole (.proceed id) :: es₂ = fs ++ f :: gs → Run Parallel.step v fs w → w.server.active = 0 →
        w.server.now < Clock.sleepEnd v.server.now grace →
        r.server.answer? id = some (.ok ()) ∧ EndsWell id w := by
  obtain ⟨es₁, es₂, v, hes, hbefore, hclosing, hafter⟩ := hreturns.of_closing (stop_of_shuts hshuts hcall)
  refine ⟨es₁, es₂, v, hes, hbefore, hclosing, ?_⟩
  have hv : Parallel.Reachable v := hs.run (.cons hcall hbefore)
  cases hafter with
  | @more _ x _ _ _ hwaits hstep hrest =>
    have hx := hv.run (.cons hstep (.nil x))
    obtain ⟨hproceed, hnone⟩ := proceed_of_step hstep
    obtain ⟨hover, hturn⟩ := proceed_closing hclosing hproceed
    have hactive := active_of_quiet hproceed not_false
    rcases hturn with ⟨hidle, hgone, hanswer⟩ | ⟨hbusy, hdrains⟩
    · -- nothing to wait for
      obtain ⟨rfl, rfl⟩ := hrest.eq_of_over hgone
      refine ⟨.inl ⟨hanswer, hx.emptied hover (hactive ▸ hidle)⟩, ?_⟩
      rintro fs f gs w hfs hw - -
      obtain rfl : fs = [] := by
        rcases fs with _ | ⟨f, fs⟩
        · rfl
        · simp at hfs
      cases hw
      exact ⟨hanswer, _, r, .inl rfl, .cons hstep (.nil r), hanswer⟩
    · refine ⟨?_, ?_⟩
      · rcases hrest.of_draining hx hover hdrains with
          hwell | ⟨remaining, hanswer, hpos, es₃, es₄, y, z, told, rfl, hrun, hy⟩
        · exact .inl hwell
        · exact .inr ⟨remaining, hanswer, hpos, .whole (.proceed id) :: es₃, es₄, y, z, told, rfl,
            .cons hstep hrun, hy⟩
      · rintro fs f gs w hfs hw hzero hearly
        have hlapsing : Lapsing id grace (Clock.sleepEnd v.server.now grace) x :=
          .draining hdrains fun hidle => absurd (hactive ▸ hidle) hbusy
        cases hw with
        | nil => exact absurd hzero hbusy
        | @cons _ y _ f fs hstep' hlater =>
          obtain ⟨rfl, rfl⟩ := List.cons.inj hfs
          obtain rfl := Option.some.inj (hstep.symm.trans hstep')
          exact hrest.in_time hx.rested hover hlapsing hnone hlater hzero hearly

/-- A loop has looked for the signal when a shutdown takes its first step, and is given a connection after the
second one. The handler returns when the grace is over, and nobody has told the shutdown when it finds so; or it finds
the handler running, and drops it. -/
theorem shutdown_drains_or_forces : ∃ p q, Parallel.Reachable p ∧ p.looked = [1] ∧
    p.step (.first (.mark 2 (some (.ofMillis 50)))) = some q ∧
    (∃ r, Returns 2 q [.first (.signal 2), .turn (.take 1 "peer"), .whole (.resume 1), .whole (.begin 1),
        .whole (.proceed 2), .whole (.pass 50000000), .leave 1 .returned none, .whole (.proceed 2)] r ∧
      r.server.answer? 2 = some (.ok ()) ∧ r.telling = 1 ∧ Emptied r) ∧
    ∃ r, Returns 2 q [.first (.signal 2), .turn (.take 1 "peer"), .whole (.resume 1), .whole (.begin 1),
        .whole (.proceed 2), .whole (.pass 50000000), .whole (.proceed 2), .leave 1 .forced none, .tell,
        .whole (.proceed 2)] r ∧
      r.server.answer? 2 = some (.error (.drainTimeout 1)) ∧
      ∃ v es, GraceOver 2 (.ofMillis 50) (Clock.sleepEnd v.server.now (.ofMillis 50)) v es 1 := by
  have hbuilt := Built.of_addr "front" {}
  have hnil : Run Parallel.step { server := { addr := "front" } } [] _ := .nil _
  have hbefore := hnil.further
    [.whole (.listenAndServe 1), .first (.count 1 "front"), .first (.enter 1), .first (.record 1),
      .turn (.look 1)] rfl
  have hs := hbuilt.parallel.run hbefore
  have hcall := (hbefore.further [.first (.mark 2 (some (.ofMillis 50)))] rfl).single
  have hshuts : (.first (.mark 2 (some (.ofMillis 50))) : Parallel.Event).shuts? = some (2, .ofMillis 50) := rfl
  have hends {es : List Parallel.Event} {r : Parallel} (hr : Returns 2 _ es r) :=
    shutdown_drains hs hcall hshuts hr
  refine ⟨_, _, hs, rfl, hcall, ?_, ?_⟩
  · refine Exists.imp (fun r (h : _ ∧ _ ∧ _) => ⟨h.1, h.2.1, h.2.2, ?_⟩) ⟨_, .of_eq rfl, rfl, rfl⟩
    obtain ⟨hreturns, hwell, -⟩ := h
    obtain ⟨-, -, -, -, -, -, ⟨-, hemptied⟩ | ⟨remaining, hanswer, -⟩, -⟩ := hends hreturns
    · exact hemptied
    · cases hwell.symm.trans hanswer
  · refine Exists.imp (fun r (h : _ ∧ _) => ⟨h.1, h.2, ?_⟩) ⟨_, .of_eq rfl, rfl⟩
    obtain ⟨hreturns, hforced⟩ := h
    obtain ⟨-, es, v, -, -, -, ⟨hanswer, -⟩ | ⟨remaining, hanswer, -, hover⟩, -⟩ := hends hreturns
    · cases hforced.symm.trans hanswer
    · cases hforced.symm.trans hanswer
      exact ⟨v, _, hover⟩

end PooledTcp.Server
