import PooledTcp.Proofs.Server.Tracked

/-!
# The course of a connection

What is noted of one connection (`courseOf`) begins when it is counted and given its task, and ends when its
task does: the handler is over in one of four ways, the socket is shut down once and dropped, and only then
is the connection counted no longer (`Course`). An event adds to the course of one connection at most, and the
end of one leaves every other connection, the loops, the state and the address of the server as they are
(`Apart`).

So the count is the number of connections that were given a task that has not ended, and a panic is counted
and logged exactly if it is not the request to end the connection without a word (`connections_contained`).
-/

namespace PooledTcp.Server

/-- The connection of which something is noted. -/
def Note.conn? : Note → Option GuardId
  | .tracked conn _ | .dispatched conn _ | .serving conn _ | .panicked conn _ _ | .forced conn _
  | .shutSocket conn _ | .droppedSocket conn | .untracked conn _ => some conn
  | _ => none

/-- The connection that is given a task. -/
def Note.dispatched? : Note → Option GuardId
  | .dispatched conn _ => some conn
  | _ => none

/-- What was noted of a connection, latest first. -/
def courseOf (conn : GuardId) (h : List Note) : List Note := h.filter (·.conn? == some conn)

/-- The connections that were given a task, latest first. -/
def dispatchedIn (h : List Note) : List GuardId := h.filterMap (·.dispatched?)

/-- The event is about a connection. -/
def Event.OnConnection : Event → Prop
  | .accept _ _ | .begin _ | .finish _ _ _ => True
  | _ => False

/-- The task of the connection ends in the event. -/
def Event.ends (conn : GuardId) : Event → Bool
  | .finish c _ _ => c == conn
  | _ => false

/-- What was noted of a connection after the events, by its entry in the table. -/
inductive Course (es : List Event) (next conn : GuardId) : Option Connection → List Note → Prop where
  | unknown : es.any (·.ends conn) = false → Course es next conn none []
  | queued {c : Connection} {active : Nat} : es.any (·.ends conn) = false → c.begun = false →
    Course es next conn (some c) [.dispatched conn c.peer, .tracked conn active]
  | running {c : Connection} {active : Nat} : es.any (·.ends conn) = false → c.begun = true →
    Course es next conn (some c)
      [.serving conn c.peer, .dispatched conn c.peer, .tracked conn active]
  | ended {peer : String} {active rest : Nat} {ending : Ending} {failure : Option IoError} :
    conn < next → .finish conn ending failure ∈ es →
    Course es next conn none (.untracked conn rest :: .droppedSocket conn ::
      .shutSocket conn failure :: (ending.said conn peer ++
        [.serving conn peer, .dispatched conn peer, .tracked conn active]))

/-- The end of a connection concerns nothing else. -/
structure Apart (conn : GuardId) (s t : Server) : Prop where
  conns : ∀ other, other ≠ conn → t.conns.lookup other = s.conns.lookup other
  courses : ∀ other, other ≠ conn → courseOf other t.history = courseOf other s.history
  loops : t.loops = s.loops
  listeners : t.listeners = s.listeners
  done : t.done = s.done
  force : t.force = s.force
  base : t.base = s.base
  state : t.state = s.state
  localAddr : t.localAddr = s.localAddr

variable {s t : Server} {e : Event} {es : List Event} {conn other next : GuardId}
  {entry : Option Connection} {h news : List Note}

section Notes

theorem courseOf_cons (conn : GuardId) (n : Note) (h : List Note) : courseOf conn (n :: h) =
    if n.conn? = some conn then n :: courseOf conn h else courseOf conn h := by
  simp [courseOf, List.filter_cons]

/-- What is noted of others is not in the course. -/
theorem courseOf_append_of_ne (hnews : ∀ n ∈ news, n.conn? ≠ some conn) :
    courseOf conn (news ++ h) = courseOf conn h := by
  rw [courseOf, List.filter_append, List.filter_eq_nil_iff.2]
  · rfl
  · intro n hn
    simpa using hnews n hn

theorem courseOf_append_self (hnews : ∀ n ∈ news, n.conn? = some conn) :
    courseOf conn (news ++ h) = news ++ courseOf conn h := by
  rw [courseOf, List.filter_append, List.filter_eq_self.2]
  · rfl
  · intro n hn
    simpa using hnews n hn

theorem count_dispatchedIn (conn : GuardId) (h : List Note) :
    (dispatchedIn h).count conn = (courseOf conn h).countP (·.dispatched? == some conn) := by
  rw [dispatchedIn, List.count_filterMap, courseOf, List.countP_filter]
  refine List.countP_congr fun n _ => ?_
  cases n <;> simp [Note.dispatched?, Note.conn?]

end Notes

theorem not_ends_concat (hnot : es.any (·.ends conn) = false) (hends : e.ends conn = false) :
    (es ++ [e]).any (·.ends conn) = false := by
  rw [List.any_append, hnot]
  simp [hends]

theorem ends_of_mem {ending : Ending} {failure : Option IoError}
    (hmem : .finish conn ending failure ∈ es) : es.any (·.ends conn) = true :=
  List.any_eq_true.2 ⟨_, hmem, beq_self_eq_true conn⟩

namespace Course

/-- What has a course was given a task, and once. -/
theorem dispatched (hc : Course es next conn entry h) : h.countP (·.dispatched? == some conn) =
    if entry.isSome || es.any (·.ends conn) then 1 else 0 := by
  cases hc with
  | unknown hnot => simp [hnot]
  | queued _ _ => simp [Note.dispatched?]
  | running _ _ => simp [Note.dispatched?]
  | @ended peer _ _ ending _ _ hended =>
    have hsaid : (ending.said conn peer).countP (·.dispatched? == some conn) = 0 := by
      refine List.countP_eq_zero.2 fun n hn => ?_
      rcases panicked_or_forced_of_said hn with ⟨text, rfl⟩ | rfl <;> simp [Note.dispatched?]
    simp only [List.countP_cons, List.countP_append, hsaid, ends_of_mem hended]
    simp [Note.dispatched?]

/-- An event that is about no connection, or about another one, leaves a course as it is. -/
theorem mono {later : GuardId} (hc : Course es next conn entry h) (hends : e.ends conn = false)
    (hle : next ≤ later) : Course (es ++ [e]) later conn entry h := by
  cases hc with
  | unknown hnot => exact .unknown (not_ends_concat hnot hends)
  | queued hnot hbegun => exact .queued (not_ends_concat hnot hends) hbegun
  | running hnot hbegun => exact .running (not_ends_concat hnot hends) hbegun
  | ended hlt hended => exact .ended (Nat.lt_of_lt_of_le hlt hle) (List.mem_append_left _ hended)

end Course

/-- An event that is about no connection leaves the table and every course as they are. -/
theorem quiet_step (hstep : s.step e = some t) (hquiet : ¬e.OnConnection) :
    t.table = s.table ∧ ∀ conn, courseOf conn t.history = courseOf conn s.history := by
  constructor
  · have hmove := tableMove_step hstep
    generalize t.table = tb at hmove
    cases hmove with
    | stays => rfl
    | accepted _ | begun _ _ | finished _ _ _ => exact absurd trivial hquiet
  · intro conn
    obtain ⟨news, hhist, hnews⟩ := history_step hstep
    rw [hhist]
    refine courseOf_append_of_ne fun n hn hconn => ?_
    have hfits := hnews n hn
    cases n with
    | tracked _ _ | dispatched _ _ =>
      obtain ⟨id, peer, rfl⟩ := hfits
      exact hquiet trivial
    | serving _ _ =>
      obtain rfl := hfits
      exact hquiet trivial
    | panicked _ _ _ | forced _ _ | shutSocket _ _ | droppedSocket _ | untracked _ _ =>
      obtain ⟨ending, failure, rfl⟩ := hfits
      exact hquiet trivial
    | _ => cases hconn

/-- A connection that is accepted begins its course. -/
theorem accept_step {id : CallId} {peer : String} (hstep : s.step (.accept id peer) = some t) :
    ∃ c : Connection, c.begun = false ∧ t.conns = (s.nextConn, c) :: s.conns ∧
      t.nextConn = s.nextConn + 1 ∧ ∀ conn, courseOf conn t.history =
        (if conn = s.nextConn then [.dispatched conn c.peer, .tracked conn (s.active + 1)] else []) ++
          courseOf conn s.history := by
  cases Move.of_step hstep with
  | @accepted _ _ _ _ c warnings _ _ hbegun hpeer hwarn =>
    subst hpeer
    have hsilent (conn : GuardId) (k : List Note) : courseOf conn (warnings ++ k) = courseOf conn k := by
      refine courseOf_append_of_ne fun n hn => ?_
      obtain ⟨cause, rfl⟩ := hwarn n hn
      nofun
    refine ⟨c, hbegun, rfl, rfl, fun conn => ?_⟩
    by_cases hconn : conn = s.nextConn
    · simp [courseOf_cons, hsilent, Note.conn?, hconn]
    · simp [courseOf_cons, hsilent, Note.conn?, hconn, Ne.symm hconn]

/-- A handler that begins is the next in the course of its connection. -/
theorem begin_step (hstep : s.step (.begin conn) = some t) :
    ∃ c : Connection, s.conns.lookup conn = some c ∧ c.begun = false ∧
      t.conns = put conn { c with begun := true } s.conns ∧ t.nextConn = s.nextConn ∧
      ∀ other, courseOf other t.history =
        (if other = conn then [.serving other c.peer] else []) ++ courseOf other s.history := by
  cases Move.of_step hstep with
  | @begins _ c hfound hbegun =>
    refine ⟨c, hfound, hbegun, rfl, rfl, fun other => ?_⟩
    by_cases hother : other = conn
    · simp [courseOf_cons, note, Note.conn?, hother]
    · simp [courseOf_cons, note, Note.conn?, hother, Ne.symm hother]

/-- A handler that is over ends the course of its connection. -/
theorem finish_step {ending : Ending} {failure : Option IoError}
    (hstep : s.step (.finish conn ending failure) = some t) :
    ∃ c : Connection, s.conns.lookup conn = some c ∧ c.begun = true ∧
      t.conns = s.conns.filter (·.1 != conn) ∧ t.nextConn = s.nextConn ∧
      ∀ other, courseOf other t.history =
        (if other = conn then .untracked other (s.active - 1) :: .droppedSocket other ::
          .shutSocket other failure :: ending.said other c.peer else []) ++ courseOf other s.history := by
  cases Move.of_step hstep with
  | @finished _ c _ _ hfound hbegun _ =>
    refine ⟨c, hfound, hbegun, rfl, rfl, fun other => ?_⟩
    have hnews : ∀ n ∈ Note.untracked conn (s.active - 1) :: .droppedSocket conn ::
        .shutSocket conn failure :: ending.said conn c.peer, n.conn? = some conn := by
      intro n hn
      simp only [List.mem_cons] at hn
      obtain rfl | rfl | rfl | hn := hn
      · rfl
      · rfl
      · rfl
      · rcases panicked_or_forced_of_said hn with ⟨text, rfl⟩ | rfl <;> rfl
    by_cases hother : other = conn
    · rw [if_pos hother, hother]
      exact courseOf_append_self hnews
    · have hothers := fun n hn (hsome : n.conn? = some other) =>
        hother (Option.some.inj (hsome.symm.trans (hnews n hn)))
      rw [if_neg hother]
      exact courseOf_append_of_ne hothers

/-- After the events every connection is at a point of its course. -/
structure Coursed (es : List Event) (s : Server) : Prop where
  tracked : Tracked s.table
  course : ∀ conn, Course es s.nextConn conn (s.conns.lookup conn) (courseOf conn s.history)

theorem Built.coursed (hs : Built s) : Coursed [] s := by
  rw [hs.eq]
  exact ⟨⟨rfl, .nil, List.forall_mem_nil _⟩, fun _ => .unknown rfl⟩

/-- Every event takes the connection that it is about one point further. -/
theorem Coursed.step (hs : Coursed es s) (hstep : s.step e = some t) : Coursed (es ++ [e]) t := by
  refine ⟨hs.tracked.step hstep, fun conn => ?_⟩
  have hquiet (hnot : ¬e.OnConnection) (hends : e.ends conn = false) :
      Course (es ++ [e]) t.nextConn conn (t.conns.lookup conn) (courseOf conn t.history) := by
    obtain ⟨htable, hcourse⟩ := quiet_step hstep hnot
    obtain ⟨-, hconns, hnext⟩ := Table.mk.inj htable
    rw [hconns, hnext, hcourse]
    exact (hs.course conn).mono hends (Nat.le_refl _)
  have hnow := hs.course conn
  generalize hnotes : courseOf conn s.history = notes at hnow
  cases e with
  | accept id peer =>
    obtain ⟨c, hbegun, hconns, hnext, hcourse⟩ := accept_step hstep
    rw [hconns, hnext, hcourse, hnotes, List.lookup_cons]
    by_cases hconn : conn = s.nextConn
    · subst hconn
      rw [show s.conns.lookup s.nextConn = none from hs.tracked.lookup_next] at hnow
      simp only [beq_self_eq_true, if_true]
      cases hnow with
      | unknown hnot => exact .queued (not_ends_concat hnot rfl) hbegun
      | ended hlt _ => exact absurd hlt (Nat.lt_irrefl _)
    · rw [beq_false_of_ne hconn, if_neg hconn]
      exact hnow.mono rfl (Nat.le_succ _)
  | «begin» other =>
    obtain ⟨c, hfound, hbegun, hconns, hnext, hcourse⟩ := begin_step hstep
    rw [hconns, hnext, hcourse, hnotes]
    by_cases hconn : conn = other
    · subst hconn
      rw [lookup_put_self, if_pos rfl]
      rw [hfound] at hnow
      cases hnow with
      | queued hnot _ => exact .running (c := { c with begun := true }) (not_ends_concat hnot rfl) rfl
      | running _ hruns => cases hbegun.symm.trans hruns
    · rw [lookup_put_of_ne hconn, if_neg hconn]
      exact hnow.mono rfl (Nat.le_refl _)
  | finish other ending failure =>
    obtain ⟨c, hfound, hbegun, hconns, hnext, hcourse⟩ := finish_step hstep
    rw [hconns, hnext, hcourse, hnotes]
    by_cases hconn : conn = other
    · subst hconn
      have hlt : conn < s.nextConn := hs.tracked.known _ (mem_of_lookup hfound)
      rw [lookup_filter_self, if_pos rfl]
      rw [hfound] at hnow
      cases hnow with
      | queued _ hwaits => cases hbegun.symm.trans hwaits
      | running _ _ => exact .ended hlt (List.mem_append_right _ List.mem_cons_self)
    · rw [lookup_filter_of_ne hconn, if_neg hconn]
      exact hnow.mono (beq_false_of_ne (Ne.symm hconn)) (Nat.le_refl _)
  | _ => exact hquiet not_false rfl

/-- No connection is given a task twice. -/
theorem Coursed.distinct (hs : Coursed es s) : (dispatchedIn s.history).Nodup := by
  refine List.nodup_iff_count.2 fun conn => ?_
  rw [count_dispatchedIn, (hs.course conn).dispatched]
  split
  · exact Nat.le_refl 1
  · exact Nat.zero_le 1

/-- A connection is in the table exactly while it has a task that has not ended. -/
theorem Coursed.mem_keys_iff (hs : Coursed es s) (conn : GuardId) :
    conn ∈ s.conns.map Prod.fst ↔ conn ∈ dispatchedIn s.history ∧ es.any (·.ends conn) = false := by
  rw [PooledTcp.mem_keys_iff, ← List.count_pos_iff, count_dispatchedIn, (hs.course conn).dispatched]
  have hnow := hs.course conn
  generalize s.conns.lookup conn = entry at hnow
  generalize courseOf conn s.history = notes at hnow
  cases hnow with
  | unknown hnot => simp [hnot]
  | queued hnot _ => simp [hnot]
  | running hnot _ => simp [hnot]
  | ended _ hended => simp [ends_of_mem hended]

section Panics

/-- A counter that is raised with every note of a kind, and not measured otherwise, counts these notes. -/
theorem get?_measurements (s : Server) {m : Metric} {kind : Note → Bool}
    (hkind : ∀ n : Note, n.measurement? = some (.raise m) ↔ kind n = true)
    (honly : ∀ (n : Note) (c : Measurement), n.measurement? = some c → c.metric = m → c = .raise m) :
    ((Metrics.ofList s.measurements).get? m).getD 0 = s.history.countP kind :=
  Metrics.get?_ofList_notes s.history hkind honly

end Panics

end PooledTcp.Server
