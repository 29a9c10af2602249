import Mathlib.Data.List.TakeWhile
import PooledTcp.Proofs.Pool.Absorbed
import PooledTcp.Proofs.Pool.Custody

/-!
# A shutdown is final

The shutdown that finds a queue takes it and closes its entries one after the other, front first, whatever
else happens meanwhile. What it closed and what it has left are together the entries that it found
(`Drained.step`), so when it answers it has closed each of them once and nothing else: no connection that a
caller holds is among them. Every other operation finds the pool absorbed (`Absorbed`) from then on.
-/

namespace PooledTcp.Pool

/-- The connection whose close operation `id` begins. -/
def Note.closingBy? (id : CallId) : Note → Option ConnId
  | .called i (.close conn) => if i = id then some conn else none
  | _ => none

/-- The connections whose closes operation `id` began up to its answer, first one first, among `notes`, latest
first. -/
def closesBy (id : CallId) (notes : List Note) : List ConnId :=
  (notes.reverse.takeWhile fun n => (n.answerTo? id).isNone).filterMap (·.closingBy? id)

/-- How far the shutdown `id` has come with `conns`, where `news` was noted since it began. -/
inductive Drained (id : CallId) (conns : List ConnId) (news : List Note) (p : Pool) : Prop where
  /-- It closes one connection and has the others left. -/
  | closing {conn : ConnId} {rest : List IdleEntry} : p.call? id = some (.shutdown conn rest) →
    (∀ n ∈ news, n.answerTo? id = none) → closesBy id news ++ rest.map (·.conn) = conns →
    Drained id conns news p
  | ended : (∃ n ∈ news, n.answerTo? id = some .shutDown) → closesBy id news = conns →
    Drained id conns news p

variable {r : PoolRequest} {p q t : Pool} {id : CallId} {e : Event} {es : List Event}
  {conns : List ConnId} {news more : List Note} {idle : List IdleEntry}

section ClosesBy

/-- What is noted after the answer does not count. -/
theorem closesBy_append_of_answered (h : ∃ n ∈ news, n.answerTo? id ≠ none) (more : List Note) :
    closesBy id (more ++ news) = closesBy id news := by
  obtain ⟨n, hn, hanswer⟩ := h
  have hlt : (news.reverse.takeWhile fun n => (n.answerTo? id).isNone).length ≠
      news.reverse.length := by
    intro hlen
    have hall := List.takeWhile_eq_self_iff.1
      ((List.takeWhile_sublist _).eq_of_length hlen) n (List.mem_reverse.2 hn)
    exact hanswer (Option.isNone_iff_eq_none.1 hall)
  rw [closesBy, List.reverse_append, List.takeWhile_append, if_neg hlt]
  rfl

/-- Before the answer everything counts. -/
theorem closesBy_append (h : ∀ n ∈ news, n.answerTo? id = none) (more : List Note) :
    closesBy id (more ++ news) = closesBy id news ++ closesBy id more := by
  have hall : (news.reverse.takeWhile fun n => (n.answerTo? id).isNone) = news.reverse :=
    List.takeWhile_eq_self_iff.2 fun n hn => by simp [h n (List.mem_reverse.1 hn)]
  rw [closesBy, List.reverse_append, List.takeWhile_append, if_pos (congrArg List.length hall),
    List.filterMap_append]
  simp only [closesBy, hall]

/-- Notes about others are no closes and no answers. -/
theorem others_say_nothing (h : ∀ n ∈ more, ∀ i, n.author? = some i → i ≠ id) :
    closesBy id more = [] ∧ ∀ n ∈ more, n.answerTo? id = none := by
  have hanswer : ∀ n ∈ more, n.answerTo? id = none := by
    intro n hn
    cases n with
    | answered i a => exact if_neg (h _ hn i rfl)
    | _ => rfl
  refine ⟨List.filterMap_eq_nil_iff.2 fun n hn => ?_, hanswer⟩
  have hn := List.mem_reverse.1 ((List.takeWhile_sublist _).subset hn)
  cases n with
  | called i f =>
    cases f with
    | close conn => exact if_neg (h _ hn i rfl)
    | _ => rfl
  | _ => rfl

end ClosesBy

/-- What a shutdown notes when it goes on with `rest`: it closes the next connection, or answers. -/
theorem drained_drain (id : CallId) (rest : List IdleEntry) :
    ∃ more, (p.drain id rest).history = more ++ p.history ∧
      Drained id (rest.map (·.conn)) more (p.drain id rest) := by
  cases rest with
  | nil =>
    refine ⟨[.answered id .shutDown, .idleLength 0], rfl, .ended ⟨_, List.mem_cons_self, ?_⟩ ?_⟩
    · exact if_pos rfl
    · simp [closesBy, Note.answerTo?, Note.closingBy?]
  | cons x rest =>
    refine ⟨[.called id (.close x.conn)], rfl, .closing (call?_hold_self _ _ _) ?_ ?_⟩
    · simp [Note.answerTo?]
    · simp [closesBy, Note.answerTo?, Note.closingBy?]

/-- What a shutdown closed and what it has left stay together what it found. -/
theorem Drained.append (h : ∀ n ∈ news, n.answerTo? id = none) {rest : List ConnId}
    (hrest : closesBy id news ++ rest = conns) (hmore : Drained id rest more q) :
    Drained id conns (more ++ news) q := by
  cases hmore with
  | closing hcall hnone hleft =>
    refine .closing hcall (fun n hn => ?_) ?_
    · rcases List.mem_append.1 hn with hn | hn
      · exact hnone n hn
      · exact h n hn
    · rw [closesBy_append h, List.append_assoc, hleft, hrest]
  | ended hanswer hleft =>
    obtain ⟨n, hn, heq⟩ := hanswer
    refine .ended ⟨n, List.mem_append_left _ hn, heq⟩ ?_
    rw [closesBy_append h, hleft, hrest]

/-- Every event keeps what a shutdown closed and what it has left together. -/
theorem Drained.step (h : Drained id conns news p) (hstep : p.step e = some q) :
    ∃ more, q.history = more ++ p.history ∧ Drained id conns (more ++ news) q := by
  cases h with
  | ended hanswer hall =>
    obtain ⟨more, hhist, -⟩ := (within_step hstep).notes
    obtain ⟨n, hn, heq⟩ := hanswer
    refine ⟨more, hhist, .ended ⟨n, List.mem_append_right _ hn, heq⟩ ?_⟩
    rw [closesBy_append_of_answered ⟨n, hn, by simp [heq]⟩, hall]
  | @closing conn rest hcall hnone hleft =>
    by_cases hclosed : ∃ failure, e = .closed id failure
    · obtain ⟨failure, rfl⟩ := hclosed
      have hq : (p.sayCloseFailed failure).drain id rest = q := by
        simpa only [Pool.step, hcall, Option.some.injEq] using hstep
      obtain ⟨more, hhist, hmore⟩ := drained_drain (p := p.sayCloseFailed failure) id rest
      rw [hq, sayCloseFailed_eq] at hhist
      rw [hq] at hmore
      -- a close that failed is logged first
      have hlogged : Drained id (rest.map (·.conn))
          (more ++ failure.toList.map fun cause => .logged (.closeFailed cause)) q := by
        have hnone : closesBy id (failure.toList.map fun cause => .logged (.closeFailed cause)) ++
            rest.map (·.conn) = rest.map (·.conn) := by
          cases failure <;> rfl
        refine .append (fun n hn => ?_) hnone hmore
        obtain ⟨cause, -, rfl⟩ := List.mem_map.1 hn
        rfl
      refine ⟨_, by rw [hhist, List.append_assoc], ?_⟩
      exact .append hnone hleft hlogged
    · have hne : ∀ failure, e ≠ .closed id failure := fun failure heq => hclosed ⟨failure, heq⟩
      obtain ⟨more, hhist, hmore⟩ := (within_step hstep).notes
      have hnot := notMem_ops hcall trivial hstep hne
      have hothers : ∀ n ∈ more, ∀ i, n.author? = some i → i ≠ id := by
        rintro n hn i hi rfl
        exact hnot ((hmore n hn).1 i hi)
      obtain ⟨hcloses, hanswers⟩ := others_say_nothing hothers
      have hcall' : q.call? id = some (.shutdown conn rest) :=
        call?_of_awaitsClose hcall trivial hstep hne
      have hsame : closesBy id more ++ rest.map (·.conn) = rest.map (·.conn) := by rw [hcloses]; rfl
      exact ⟨more, hhist, .append hnone hleft (.closing hcall' hanswers hsame)⟩

theorem Drained.run (h : Drained id conns news p) (hrun : Run Pool.step p es t) :
    ∃ more, t.history = more ++ p.history ∧ Drained id conns (more ++ news) t := by
  induction hrun generalizing news with
  | nil => exact ⟨[], rfl, h⟩
  | cons hstep _ ih =>
    obtain ⟨more, hhist, hdrained⟩ := h.step hstep
    obtain ⟨later, hhist', hdrained'⟩ := ih hdrained
    exact ⟨later ++ more, by rw [hhist', hhist, List.append_assoc],
      by rwa [List.append_assoc]⟩

/-- A shutdown neither dials nor pings. -/
theorem probes_drain (rest : List IdleEntry) : (p.drain id rest).probes = p.probes := by
  cases rest with
  | nil => rfl
  | cons x rest => rfl

/-- The shutdown that finds a queue has all of it to close. -/
theorem drained_shutdown (hidle : p.idle = some idle) (hstep : p.step (.shutdown id) = some q) :
    q.idle = none ∧ q.probes = p.probes ∧ ∃ news, q.history = news ++ p.history ∧
      Drained id (idle.map (·.conn)) news q := by
  cases Move.of_step hstep with
  | shutdown _ =>
    have hq : p.shutdown id =
        (({ p with idle := none }.say (.shuttingDown idle.length)).notifyAll).drain id idle := by
      simp only [shutdown, hidle]
    obtain ⟨more, hhist, hmore⟩ := drained_drain (p := _) id idle
    rw [hq]
    refine ⟨by simp, probes_drain _, more ++ [.logged (.shuttingDown idle.length)], ?_, ?_⟩
    · rw [hhist]
      simp
    · refine .append (fun n hn => ?_) rfl hmore
      obtain rfl := List.mem_singleton.1 hn
      rfl

/-- Nobody holds what a shutdown closed or has left to close. -/
theorem Drained.holders {s : Custody} (h : Drained id conns news s.pool) (hs : s.Balanced)
    (hnews : news ⊆ s.pool.history) {conn : ConnId} (hconn : conn ∈ conns) :
    s.holders conn = 0 := by
  have hclosed (hmem : conn ∈ closesBy id news) : s.holders conn = 0 := by
    refine hs.holders_of_closed (List.mem_filterMap.2 ?_)
    obtain ⟨n, hn, hclosing⟩ := List.mem_filterMap.1 hmem
    refine ⟨n, hnews (List.mem_reverse.1 ((List.takeWhile_sublist _).subset hn)), ?_⟩
    unfold Note.closingBy? at hclosing
    split at hclosing
    · rw [Option.ite_none_right_eq_some] at hclosing
      exact hclosing.2
    · cases hclosing
  cases h with
  | ended _ hall => exact hclosed (hall ▸ hconn)
  | @closing c rest hcall _ hall =>
    rw [← hall] at hconn
    rcases List.mem_append.1 hconn with hmem | hmem
    · exact hclosed hmem
    · -- the shutdown carries it, so it has its place
      have hcarried := carries_others hs.distinct id conn
      rw [carriedBy_of_call? hcall] at hcarried
      have hpos : 0 < (rest.map (·.conn)).count conn := List.count_pos_iff.2 hmem
      have hle := hs.length_le_one conn
      rw [Custody.length_places] at hle
      simp only [carries_eq] at hcarried
      omega

/-- A shutdown that takes the queue is final. Nobody was told before that the pool is closed; from then on
there is no queue, no dial and no ping begins, and the pool absorbs whatever is asked of it. The shutdown
closes the entries that were in the queue, each once and front first, and none of them is with a caller. -/
theorem shutdown_final (hreach : Reachable r p) (hidle : p.idle = some idle)
    (hshutdown : p.step (.shutdown id) = some q) (hrun : Run step q es t) :
    (∀ n ∈ p.history, ¬n.SaysClosed) ∧ t.idle = none ∧ t.probes = p.probes ∧ Absorbed t ∧
    (∃ news, t.history = news ++ p.history ∧ Drained id (idle.map (·.conn)) news t) ∧
    ∀ s₀ fs s, Custody.Begins r s₀ → Run Custody.step s₀ fs s → s.pool = t →
      ∀ conn, 0 < s.holders conn → conn ∉ idle.map (·.conn) := by
  obtain ⟨hnone, hprobes, news, hhist, hdrained⟩ := drained_shutdown hidle hshutdown
  obtain ⟨hclosed, hprobes'⟩ := closed_run hnone hrun
  obtain ⟨more, hhist', hdrained'⟩ := hdrained.run hrun
  have hall : t.history = (more ++ news) ++ p.history := by
    rw [hhist', hhist, List.append_assoc]
  refine ⟨fun n hn hsays => ?_, hclosed, hprobes'.trans hprobes, ?_, ⟨_, hall, hdrained'⟩, ?_⟩
  · cases hidle.symm.trans (hreach.candid.notes n hn hsays)
  · obtain ⟨p₀, fs, hopen, hpast⟩ := hreach
    have hreach' : Reachable r t := ⟨p₀, _, hopen, hpast.append (.cons hshutdown hrun)⟩
    exact absorbed_of_closed hclosed hreach'.attentive
  · rintro s₀ fs s hbegin hcustody rfl conn hheld hmem
    have hs := hbegin.balanced.run hcustody
    have hnews : more ++ news ⊆ s.pool.history := hall ▸ List.subset_append_left _ _
    exact absurd (hdrained'.holders hs hnews hmem) (Nat.ne_of_gt hheld)

/-- A pool with three idle connections is shut down while an acquire pings the first one. The acquire is
given up and can put nothing back, a patient one is told that the pool is closed, and the shutdown closes
the other two. -/
theorem shutdown_final_during_ping : ∃ p q t news, Reachable ⟨3, 3, 3, .zero⟩ p ∧
    p.idle = some [⟨1, 0⟩, ⟨2, 0⟩] ∧ p.step (.shutdown 2) = some q ∧
    Run step q [.cancel 1 true 3, .closed 2 none, .acquire 4 (some .longest), .closed 2 none] t ∧
    t.idle = none ∧ t.answer? 4 = some (.acquired (.error .closed)) ∧
    t.answer? 2 = some .shutDown ∧ t.history = news ++ p.history ∧ closesBy 2 news = [1, 2] := by
  have hopen := Opened.of_foldlM (r := ⟨3, 3, 3, .zero⟩)
    [.dialed (.ok 0), .dialed (.ok 1), .dialed (.ok 2)] rfl
  have hping := hopen.start.further [.acquire 1 none] rfl
  have hreach := hopen.reachable hping
  have hrun := hping.further [.shutdown 2, .cancel 1 true 3, .closed 2 none,
    .acquire 4 (some .longest), .closed 2 none] rfl
  cases hrun with
  | cons hshutdown hrun =>
    obtain ⟨-, hclosed, -, -, ⟨news, hhist, hdrained⟩, -⟩ :=
      shutdown_final hreach rfl hshutdown hrun
    refine ⟨_, _, _, news, hreach, rfl, hshutdown, hrun, hclosed, rfl, rfl, hhist, ?_⟩
    cases hdrained with
    | closing hcall _ _ => cases hcall
    | ended _ hall => exact hall

end PooledTcp.Pool
