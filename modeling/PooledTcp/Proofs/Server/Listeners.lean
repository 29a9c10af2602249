import PooledTcp.Proofs.Server.Moves

/-!
# The listeners of a server

The listeners that are open at a moment are read off the history (`listenersOf`): one is opened by a server on
its own address, or handed to it, and is open until it is closed. Between events every open listener is that
of a loop past its binding, and is counted (`Held`), so none is open where a close finds none counted.

A loop that waits for its address to be bound holds no listener and is not counted, so a close does not wait
for it. When the address comes to be bound after the close, the listener is open until the loop finds the
server closed. That is the only way in which a server has a listener of its own open after a close: none ever
is exactly when no address comes to be bound after a close is over (`dials_refused_iff`). The shortest run in
which one does stands at the end.
-/

namespace PooledTcp.Server

/-- The operation that opens a listener of the server's own. -/
def Note.opens? : Note → Option CallId
  | .opened id => some id
  | _ => none

/-- The operation that comes to hold a listener, the server's own or not. -/
def Note.takes? : Note → Option CallId
  | .opened id | .given id => some id
  | _ => none

/-- The operations whose listener is open after the notes, latest first. -/
def listenersOf (taker? : Note → Option CallId) : List Note → List CallId
  | [] => []
  | .released id :: h => (listenersOf taker? h).erase id
  | n :: h => (taker? n).toList ++ listenersOf taker? h

/-- Whose listener is open. -/
abbrev openListeners : List Note → List CallId := listenersOf Note.takes?

/-- Whose listener is open on the address of the server. -/
abbrev ownListeners : List Note → List CallId := listenersOf Note.opens?

/-- Some close is over. -/
def ClosedIn (h : List Note) : Prop := ∃ id, .closed id ∈ h

/-- From the moment at which some close is over no listener of the server's own is open. -/
def Refusing (s : Server) : Prop := ∀ h, h <:+ s.history → ClosedIn h → ownListeners h = []

/-- Loop `id` is past its binding. -/
def Listening (loops : List (CallId × ServeStage)) (id : CallId) : Prop :=
  ∃ stage, loops.lookup id = some stage ∧ stage.listens = true

/-- The open listeners are those of the loops past their binding, one of each, and are counted. -/
structure Held (loops : List (CallId × ServeStage)) (listeners : Nat) (opened : List CallId) :
    Prop where
  nodup : opened.Nodup
  held : ∀ id, id ∈ opened ↔ Listening loops id
  counted : listeners = opened.length

variable {s t : Server} {e : Event} {id other : CallId} {stage : ServeStage}
  {loops : List (CallId × ServeStage)} {listeners : Nat} {opened : List CallId}
  {taker? : Note → Option CallId} {h news : List Note}

theorem ClosedIn.mono {k : List Note} (hclosed : ClosedIn h) (hsub : h <:+ k) : ClosedIn k := by
  obtain ⟨id, hid⟩ := hclosed
  exact ⟨id, hsub.subset hid⟩

section Loops

theorem listening_put_self : Listening (put id stage loops) id ↔ stage.listens = true := by
  simp [Listening, lookup_put_self]

theorem listening_put_of_ne (hne : other ≠ id) :
    Listening (put id stage loops) other ↔ Listening loops other := by
  simp [Listening, lookup_put_of_ne hne]

theorem not_listening_filter : ¬Listening (loops.filter (·.1 != id)) id := by
  simp [Listening, lookup_filter_self]

theorem listening_filter_of_ne (hne : other ≠ id) :
    Listening (loops.filter (·.1 != id)) other ↔ Listening loops other := by
  simp [Listening, lookup_filter_of_ne hne]

theorem not_listening_of_binding (hid : loops.lookup id = some .binding) : ¬Listening loops id := by
  rintro ⟨stage, hstage, hlistens⟩
  cases hid.symm.trans hstage
  cases hlistens

theorem not_listening_of_isBusy (hfree : s.isBusy id = false) : ¬Listening s.loops id := by
  rintro ⟨stage, hstage, -⟩
  simp [isBusy, hstage] at hfree

end Loops

namespace Held

/-- A loop goes on at a point at which it has a listener exactly if it had one. -/
theorem hold (hheld : Held loops listeners opened)
    (hsame : Listening loops id ↔ stage.listens = true) :
    Held (put id stage loops) listeners opened := by
  refine ⟨hheld.nodup, fun other => ?_, hheld.counted⟩
  rw [hheld.held]
  by_cases hother : other = id
  · rw [hother, listening_put_self, hsame]
  · rw [listening_put_of_ne hother]

/-- A loop without a listener gets one. -/
theorem take (hheld : Held loops listeners opened) (hid : ¬Listening loops id)
    (hlistens : stage.listens = true) :
    Held (put id stage loops) (listeners + 1) (id :: opened) := by
  refine ⟨List.nodup_cons.2 ⟨fun hmem => hid ((hheld.held id).1 hmem), hheld.nodup⟩,
    fun other => ?_, congrArg (· + 1) hheld.counted⟩
  by_cases hother : other = id
  · simp [hother, listening_put_self, hlistens]
  · rw [List.mem_cons, listening_put_of_ne hother, hheld.held]
    simp [hother]

/-- A loop without a listener is gone. -/
theorem drop (hheld : Held loops listeners opened) (hid : ¬Listening loops id) :
    Held (loops.filter (·.1 != id)) listeners opened := by
  refine ⟨hheld.nodup, fun other => ?_, hheld.counted⟩
  rw [hheld.held]
  by_cases hother : other = id
  · rw [hother]
    exact ⟨fun hlistening => absurd hlistening hid, fun hgone => absurd hgone not_listening_filter⟩
  · rw [listening_filter_of_ne hother]

/-- A loop is gone, and so is its listener. -/
theorem release (hheld : Held loops listeners opened) (hid : Listening loops id) :
    Held (loops.filter (·.1 != id)) (listeners - 1) (opened.erase id) := by
  refine ⟨hheld.nodup.erase id, fun other => ?_, ?_⟩
  · rw [hheld.nodup.mem_erase_iff, hheld.held]
    by_cases hother : other = id
    · simp [hother, not_listening_filter]
    · simp [hother, listening_filter_of_ne hother]
  · rw [List.length_erase_of_mem ((hheld.held id).2 hid), hheld.counted]

/-- Where no listener is counted, none is open. -/
theorem eq_nil (hheld : Held loops 0 opened) : opened = [] :=
  List.length_eq_zero_iff.1 hheld.counted.symm

end Held

section Notes

/-- What is noted of no listener leaves the listeners as they are. -/
theorem listenersOf_append (hnews : ∀ n ∈ news, taker? n = none ∧ ∀ id, n ≠ .released id) :
    listenersOf taker? (news ++ h) = listenersOf taker? h := by
  induction news with
  | nil => rfl
  | cons n news ih =>
    obtain ⟨⟨hnone, hkept⟩, hrest⟩ := List.forall_mem_cons.1 hnews
    rw [List.cons_append, listenersOf, ih hrest, hnone]
    · rfl
    · exact hkept

/-- What an event notes that moves no listener leaves the listeners as they are. -/
theorem openListeners_append (hnot : ¬e.MovesListener) (hnews : ∀ n ∈ news, s.Fits e n) :
    openListeners (news ++ h) = openListeners h := by
  refine listenersOf_append fun n hn => ?_
  have hfits := hnews n hn
  cases n with
  | opened _ => exact absurd hfits.movesListener hnot
  | given _ | released _ => exact absurd hfits hnot
  | _ => exact ⟨rfl, fun id => nofun⟩

/-- An event that moves no listener leaves the listeners as they are. -/
theorem listenersOf_step (hstep : s.step e = some t) (hnot : ¬e.MovesListener) :
    openListeners t.history = openListeners s.history := by
  obtain ⟨news, hhist, hnews⟩ := history_step hstep
  rw [hhist]
  exact openListeners_append hnot hnews

/-- Where no listener of the server's own is open and none is opened, none is. -/
theorem ownListeners_append (hnil : ownListeners h = []) (hnews : ∀ n ∈ news, n.opens? = none) :
    ownListeners (news ++ h) = [] := by
  induction news with
  | nil => exact hnil
  | cons n news ih =>
    obtain ⟨hnone, hrest⟩ := List.forall_mem_cons.1 hnews
    have hlater := ih hrest
    cases n with
    | opened id => cases hnone
    | released id => exact congrArg (·.erase id) hlater
    | _ => exact hlater

/-- The listeners of the server's own are among the open ones. -/
theorem ownListeners_sublist (h : List Note) : (ownListeners h).Sublist (openListeners h) := by
  induction h with
  | nil => exact .slnil
  | cons n h ih =>
    cases n with
    | opened id => exact ih.cons_cons id
    | given id => exact ih.cons id
    | released id => exact ih.erase id
    | _ => exact ih

end Notes

/-- A server that was just built has no listener. -/
theorem Built.held (hs : Built s) : Held s.loops s.listeners (openListeners s.history) := by
  rw [hs.eq]
  exact ⟨.nil, by simp [Listening, listenersOf], rfl⟩

/-- Every event keeps the open listeners those of the loops. -/
theorem Held.step (hheld : Held s.loops s.listeners (openListeners s.history))
    (hstep : s.step e = some t) : Held t.loops t.listeners (openListeners t.history) := by
  have hkept := listenersOf_step hstep
  cases Move.of_step hstep with
  | @binds id hfree _ =>
    have hnot := not_listening_of_isBusy hfree
    exact hheld.hold (by simp [hnot, ServeStage.listens])
  | refused hid | unbound hid => exact hheld.drop (not_listening_of_binding hid)
  | untold hid | boundLate hid _ =>
    show Held _ _ ((_ :: openListeners s.history).erase _)
    rw [List.erase_cons_head]
    exact hheld.drop (not_listening_of_binding hid)
  | servedLate hfree _ =>
    show Held _ _ ((_ :: openListeners s.history).erase _)
    rw [List.erase_cons_head]
    exact hheld.drop (not_listening_of_isBusy hfree)
  | bound hid _ => exact hheld.take (not_listening_of_binding hid) rfl
  | served hfree _ => exact hheld.take (not_listening_of_isBusy hfree) rfl
  | accepted hid _ _ _ _ =>
    rw [hkept not_false]
    exact hheld.hold ⟨fun _ => rfl, fun _ => ⟨_, hid, rfl⟩⟩
  | failed hid _ | retried hid _ => exact hheld.hold ⟨fun _ => rfl, fun _ => ⟨_, hid, rfl⟩⟩
  | heard hid hlistens _ | dropped hid hlistens => exact hheld.release ⟨_, hid, hlistens⟩
  | close _ | shutdown _ | finished _ _ _ =>
    rw [hkept not_false]
    exact hheld
  | _ => exact hheld

theorem Reachable.held (hs : Reachable s) : Held s.loops s.listeners (openListeners s.history) :=
  hs.keeps (fun _ => Built.held) fun _ _ _ => Held.step

/-- A server that was just built has closed nothing. -/
theorem Built.refusing (hs : Built s) : Refusing s := by
  rw [hs.eq]
  intro h hsub _
  rw [List.suffix_nil.1 hsub]
  rfl

/-- A listener that is opened is open at some moment of the event. -/
theorem opened_of_opens (hstep : s.step e = some t) (hopens : e.Opens) :
    ∃ id, .opened id :: s.history <:+ t.history := by
  cases Move.of_step hstep with
  | untold _ => exact ⟨_, [_, _], rfl⟩
  | boundLate _ _ => exact ⟨_, [_, _, _, _, _], rfl⟩
  | bound _ _ => exact ⟨_, [_, _, _], rfl⟩
  | _ => exact False.elim hopens

/-- Where none of the server's own listeners is open after a close, an event changes that exactly if it opens
one after a close. -/
theorem refusing_step (hheld : Held s.loops s.listeners (openListeners s.history))
    (hs : Refusing s) (hstep : s.step e = some t) :
    Refusing t ↔ ¬(ClosedIn s.history ∧ e.Opens) := by
  constructor
  · rintro ht ⟨hclosed, hopens⟩
    obtain ⟨id, hsub⟩ := opened_of_opens hstep hopens
    have hnil := ht _ hsub (hclosed.mono (List.suffix_cons _ _))
    cases hnil
  · intro hnot h hsub hclosed
    obtain ⟨news, hhist, hnews⟩ := history_step hstep
    have hsuffix : s.history <:+ t.history := hhist ▸ List.suffix_append _ _
    rcases List.suffix_or_suffix_of_suffix hsub hsuffix with hold | ⟨late, rfl⟩
    · exact hs h hold hclosed
    · rw [hhist, List.suffix_append_self_iff] at hsub
      have hfits : ∀ n ∈ late, s.Fits e n := fun n hn => hnews n (hsub.subset hn)
      have hbefore : ownListeners s.history = [] ∧ ¬e.Opens := by
        by_cases hover : ClosedIn s.history
        · exact ⟨hs _ List.suffix_rfl hover, fun hopens => hnot ⟨hover, hopens⟩⟩
        · -- the close is over in this very event, which then finds no listener counted
          obtain ⟨id, hid⟩ := hclosed
          rcases List.mem_append.1 hid with hid | hid
          · obtain ⟨rfl, hzero, -⟩ := hfits _ hid
            rw [hzero] at hheld
            exact ⟨List.sublist_nil.1 (hheld.eq_nil ▸ ownListeners_sublist _), not_false⟩
          · exact absurd ⟨id, hid⟩ hover
      refine ownListeners_append hbefore.1 fun n hn => ?_
      cases n with
      | opened id => exact absurd (hfits _ hn) hbefore.2
      | _ => rfl

/-- After a close no listener of the server's own is open at any moment, exactly when none is opened in an
event after a close. -/
theorem dials_refused_iff {es : List Event} (hs : Built s) (hrun : Run step s es t) :
    (∀ h, h <:+ t.history → ClosedIn h → ownListeners h = []) ↔
    ∀ es₁ e u, es₁ ++ [e] <+: es → Run step s es₁ u → ¬(ClosedIn u.history ∧ e.Opens) := by
  have hiff := hrun.throughout_iff (fun _ _ _ => Held.step) (fun _ _ _ => refusing_step) hs.held hs.refusing
  rw [← hiff]
  constructor
  · rintro hall es₁ u ⟨es₂, rfl⟩ hu h hsub
    obtain ⟨u', hu', hlater⟩ := hrun.split
    obtain rfl := hu.unique hu'
    exact hall h (hsub.trans (history_run hlater))
  · intro hall
    exact hall es t List.prefix_rfl hrun

/-- A server that listened before the close has no listener open after it. -/
theorem dials_refused_after_listening : ∃ t,
    Run step { addr := "front" }
      [.listenAndServe 1, .bound 1 (.ok "front"), .close 2, .resume 1, .proceed 2] t ∧
    t.answer? 2 = some (.ok ()) ∧ ClosedIn t.history ∧
    ∀ h, h <:+ t.history → ClosedIn h → ownListeners h = [] := by
  have hbuilt := Built.of_addr "front" {}
  have hrun := hbuilt.start.further
    [.listenAndServe 1, .bound 1 (.ok "front"), .close 2, .resume 1, .proceed 2] rfl
  refine ⟨_, hrun, rfl, ⟨2, .tail _ (.head _)⟩, (dials_refused_iff hbuilt hrun).2 ?_⟩
  rintro es₁ e u hpre hu ⟨⟨id, hid⟩, hopens⟩
  rcases es₁ with _ | ⟨a, _ | ⟨b, _ | ⟨c, _ | ⟨d, _ | ⟨x, tail⟩⟩⟩⟩⟩ <;> simp at hpre
  · obtain rfl := hpre
    exact hopens
  · -- the only listener is opened before anything is closed
    obtain ⟨rfl, rfl⟩ := hpre
    obtain rfl := hu.unique (hbuilt.start.further [.listenAndServe 1] rfl)
    cases hid
  · obtain ⟨rfl, rfl, rfl⟩ := hpre
    exact hopens
  · obtain ⟨rfl, rfl, rfl, rfl⟩ := hpre
    exact hopens
  · obtain ⟨rfl, rfl, rfl, rfl, rfl⟩ := hpre
    exact hopens

/-- A start waits for its address to be bound, a close finds no listener and is over, and then the address is
bound: the start finds the server closed, but till then its listener is open. -/
theorem listening_after_close : ∃ t h, Run step { addr := "front" } [.listenAndServe 1, .close 2, .proceed 2,
      .bound 1 (.ok "front")] t ∧ h <:+ t.history ∧ ClosedIn h ∧ ownListeners h = [1] ∧
    t.answer? 2 = some (.ok ()) ∧ t.answer? 1 = some (.error .closed) := by
  refine ⟨_, [.opened 1, .answered 2 (.ok ()), .closed 2, .closing "front" .notStarted], .of_foldlM rfl,
    ⟨[.answered 1 (.error .closed), .listeners 0, .released 1, .listeners 1, .bound "front"], rfl⟩,
    ⟨2, by simp⟩, rfl, rfl, rfl⟩

end PooledTcp.Server
