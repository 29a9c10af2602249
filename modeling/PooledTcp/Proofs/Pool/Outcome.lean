import PooledTcp.Proofs.Pool.Frame

/-!
# An operation stays what it is until it is answered

An operation in flight waits at one point after the other, and in the end it gets its answer. What kind it
is of does not change on the way, and its answer is of the same kind (`serves_step`). An operation that was
not in flight is of the kind that the event begins (`begins_step`). What can act for an acquire in flight
follows from the stage at which it waits (`Advance`).
-/

namespace PooledTcp.Pool

/-- What an operation was called for. -/
inductive Kind where
  | acquire | release | discard | shutdown
  /-- To close what an abandoned acquire left. -/
  | leftover
  deriving DecidableEq, Repr

def Call.kind : Call → Kind
  | .acquire _ _ => .acquire
  | .release _ _ => .release
  | .discard _ => .discard
  | .shutdown _ _ => .shutdown
  | .abandoned _ | .tidying _ => .leftover

/-- The kind of operation that the answer ends. -/
def Answer.kind : Answer → Kind
  | .acquired _ | .cancelled => .acquire
  | .released _ => .release
  | .discarded => .discard
  | .shutDown => .shutdown
  | .tidied => .leftover

/-- The operation waits for the end of a close, and nothing else moves it on. -/
def Call.AwaitsClose : Call → Prop
  | .release _ _ | .discard _ | .shutdown _ _ | .tidying _ => True
  | _ => False

/-- The event begins operation `id`, of kind `k`. -/
def Event.Begins (id : CallId) (k : Kind) : Event → Prop
  | .acquire i _ => i = id ∧ k = .acquire
  | .release i _ => i = id ∧ k = .release
  | .discard i _ => i = id ∧ k = .discard
  | .shutdown i => i = id ∧ k = .shutdown
  | .cancel _ _ task => task = id ∧ k = .leftover
  | _ => False

/-- Why a release that begins is going to fail. -/
def Grounds (p : Pool) : PoolError → Prop
  | .closed => p.idle = none
  | .invalidConnection => p.idle ≠ none ∧ p.checkedOut = 0
  | _ => False

/-- Operation `id` is in flight and of kind `k`, or was last answered as one of kind `k`. -/
def Serves (p : Pool) (id : CallId) (k : Kind) : Prop :=
  (∃ c, p.call? id = some c ∧ c.kind = k) ∨
    p.call? id = none ∧ ∃ a, p.answer? id = some a ∧ a.kind = k

/-- Operation `id` is not in flight, and was last answered with `a`. -/
def Ended (p : Pool) (id : CallId) (a : Answer) : Prop :=
  p.call? id = none ∧ p.answer? id = some a

variable {p q : Pool} {id : CallId} {k : Kind} {a : Answer} {c : Call} {e : Event}

@[simp] theorem Call.kind_notify (c : Call) : c.notify.kind = c.kind := by
  cases c with
  | acquire w stage => cases w <;> rfl
  | _ => rfl

section Serves

theorem serves_hold (p : Pool) (id : CallId) (c : Call) : (p.hold id c).Serves id c.kind :=
  .inl ⟨c, call?_hold_self p id c, rfl⟩

theorem Ended.serves (h : p.Ended id a) : p.Serves id a.kind := .inr ⟨h.1, a, h.2, rfl⟩

theorem ended_finish (p : Pool) (id : CallId) (a : Answer) : (p.finish id a).Ended id a :=
  ⟨call?_finish_self p id a, answer?_finish p id a⟩

theorem serves_finish (p : Pool) (id : CallId) (a : Answer) : (p.finish id a).Serves id a.kind :=
  (ended_finish p id a).serves

theorem Serves.notifyAll (h : p.Serves id k) : p.notifyAll.Serves id k := by
  rcases h with ⟨c, hid, rfl⟩ | ⟨hid, ha⟩
  · exact .inl ⟨c.notify, by rw [call?_notifyAll, hid]; rfl, c.kind_notify⟩
  · exact .inr ⟨by rw [call?_notifyAll, hid]; rfl, ha⟩

theorem serves_look (p : Pool) (id : CallId) (w : Option Patience) :
    (p.look id w).Serves id .acquire := by
  unfold look
  split
  · exact serves_finish _ id (.acquired (.error .closed))
  · split
    · cases w with
      | none => exact serves_finish _ id (.acquired (.error .exhausted))
      | some w => exact serves_hold _ id (.acquire (some w) .parked)
    · exact serves_hold _ id (.acquire w .dialing)
  · rename_i x rest _
    dsimp only
    split
    · exact serves_hold _ id (.acquire w (.evicting x.conn))
    · exact serves_hold _ id (.acquire w (.pinging x))

theorem serves_afterPing (p : Pool) (id : CallId) (w : Option Patience) (x : IdleEntry)
    (failure : Option IoError) : (p.afterPing id w x failure).Serves id .acquire := by
  cases failure with
  | none => exact serves_finish _ id (.acquired (.ok x.conn))
  | some cause => exact serves_hold _ id (.acquire w (.evicting x.conn))

theorem serves_afterDial (p : Pool) (id : CallId) (result : Except IoError ConnId) :
    (p.afterDial id result).Serves id .acquire := by
  cases result with
  | ok conn => exact serves_finish _ id (.acquired (.ok conn))
  | error cause =>
    have hend := serves_finish (p.say (.dialFailed cause)) id (.acquired (.error (.factory cause)))
    exact hend.notifyAll

theorem serves_drain (p : Pool) (id : CallId) (rest : List IdleEntry) :
    (p.drain id rest).Serves id .shutdown := by
  cases rest with
  | nil => exact serves_finish _ id .shutDown
  | cons x rest => exact serves_hold _ id (.shutdown x.conn rest)

theorem Ended.notifyAll (h : p.Ended id a) : p.notifyAll.Ended id a :=
  ⟨by rw [call?_notifyAll, h.1]; rfl, h.2⟩

theorem Ended.leave {task : CallId} (h : p.Ended id a) (hne : id ≠ task) (conn : ConnId)
    (canSpawn : Bool) : (p.leave conn canSpawn task).Ended id a := by
  cases canSpawn with
  | false => exact h
  | true => exact ⟨(call?_hold_of_ne hne _).trans h.1, h.2⟩

/-- An acquire that is given up ends at once. -/
theorem ended_cancel {task : CallId} (hne : id ≠ task) (p : Pool) (canSpawn : Bool)
    (stage : AcquireStage) : (p.cancel id canSpawn task stage).Ended id .cancelled := by
  have hend : (p.finish id .cancelled).Ended id .cancelled := ended_finish p id .cancelled
  have hfreed : (p.finish id .cancelled).giveBack.Ended id .cancelled := hend.notifyAll
  cases stage with
  | pinging x =>
    simp only [cancel, reclaim]
    split
    · exact hfreed.leave hne _ _
    · split
      · exact hfreed
      · exact hfreed.leave hne _ _
  | parked => exact hend
  | _ => exact hfreed

/-- An operation in flight stays of its kind, and is answered as one. -/
theorem serves_step (hstep : p.step e = some q) (hid : p.call? id = some c) :
    q.Serves id c.kind := by
  by_cases hmem : id ∈ e.ops
  · cases Move.of_step hstep with
    | acquire h | acquirePatiently h | release h | discard h | shutdown h =>
      obtain rfl := List.mem_singleton.1 hmem
      cases hid.symm.trans h
    | dialed h =>
      obtain rfl := List.mem_singleton.1 hmem
      cases hid.symm.trans h
      exact serves_afterDial _ _ _
    | pinged h =>
      obtain rfl := List.mem_singleton.1 hmem
      cases hid.symm.trans h
      exact serves_afterPing _ _ _ _ _
    | evicted h | retry h _ =>
      obtain rfl := List.mem_singleton.1 hmem
      cases hid.symm.trans h
      exact serves_look _ _ _
    | released h | discarded h | tidied h | tidiedBadly h | expire h _ _ =>
      obtain rfl := List.mem_singleton.1 hmem
      cases hid.symm.trans h
      exact serves_finish _ _ _
    | drained h =>
      obtain rfl := List.mem_singleton.1 hmem
      cases hid.symm.trans h
      exact serves_drain _ _ _
    | cancel h htask =>
      have hne : id ≠ _ := fun heq => by
        cases (heq ▸ hid).symm.trans htask
      obtain rfl := (List.mem_cons.1 hmem).resolve_right fun h => hne (List.mem_singleton.1 h)
      cases hid.symm.trans h
      exact (ended_cancel hne _ _ _).serves
    | tidy h =>
      obtain rfl := List.mem_singleton.1 hmem
      cases hid.symm.trans h
      exact serves_hold _ _ (.tidying _)
    | pass => cases hmem
  · rcases call?_of_notMem_ops hstep hmem with h | h
    · exact .inl ⟨c, h.trans hid, rfl⟩
    · exact .inl ⟨c.notify, by rw [h, hid]; rfl, c.kind_notify⟩

end Serves

section Advance

/-- What can act for the acquire `id`, by its patience and the stage at which it waits, and where that leads. -/
inductive Advance (p : Pool) (id : CallId) : Option Patience → AcquireStage → Event → Pool → Prop where
  | dialed {w : Option Patience} {result : Except IoError ConnId} :
    Advance p id w .dialing (.dialed id result) (p.afterDial id result)
  | pinged {w : Option Patience} {x : IdleEntry} {failure : Option IoError} :
    Advance p id w (.pinging x) (.pinged id failure) (p.afterPing id w x failure)
  | evicted {w : Option Patience} {conn : ConnId} {failure : Option IoError} :
    Advance p id w (.evicting conn) (.closed id failure) ((p.sayCloseFailed failure).afterEviction id)
  | retry {w : Patience} : Advance p id (some w) .parked (.retry id)
      ((p.listen w.deadline).1.look id (some (p.listen w.deadline).2))
  | expire {w : Patience} : Advance p id (some w) .parked (.expire id)
      (p.finish id (.acquired (.error .exhausted)))
  | cancel {w : Option Patience} {stage : AcquireStage} {canSpawn : Bool} {task : CallId} :
    id ≠ task → p.call? task = none →
    Advance p id w stage (.cancel id canSpawn task) (p.cancel id canSpawn task stage)

/-- Nothing else acts for an acquire in flight. -/
theorem advance_of_step {w : Option Patience} {stage : AcquireStage} (hstep : p.step e = some q)
    (hid : p.call? id = some (.acquire w stage)) (hmem : id ∈ e.ops) : p.Advance id w stage e q := by
  cases Move.of_step hstep with
  | dialed h =>
    obtain rfl := List.mem_singleton.1 hmem
    cases hid.symm.trans h
    exact .dialed
  | pinged h =>
    obtain rfl := List.mem_singleton.1 hmem
    cases hid.symm.trans h
    exact .pinged
  | evicted h =>
    obtain rfl := List.mem_singleton.1 hmem
    cases hid.symm.trans h
    exact .evicted
  | retry h _ =>
    obtain rfl := List.mem_singleton.1 hmem
    cases hid.symm.trans h
    exact .retry
  | expire h _ _ =>
    obtain rfl := List.mem_singleton.1 hmem
    cases hid.symm.trans h
    exact .expire
  | cancel h htask =>
    have hne : id ≠ _ := fun heq => by
      cases (heq ▸ hid).symm.trans htask
    obtain rfl := (List.mem_cons.1 hmem).resolve_right fun h => hne (List.mem_singleton.1 h)
    cases hid.symm.trans h
    exact .cancel hne htask
  | acquire h | acquirePatiently h | release h | discard h | shutdown h | released h | discarded h
  | drained h | tidied h | tidiedBadly h | tidy h =>
    obtain rfl := List.mem_singleton.1 hmem
    cases hid.symm.trans h
  | pass => cases hmem

end Advance

section Begins

theorem Serves.kind_eq (h : p.Serves id k) (hid : p.call? id = some c) : c.kind = k := by
  rcases h with ⟨d, hd, hkind⟩ | ⟨hnone, -⟩
  · cases hid.symm.trans hd
    exact hkind
  · cases hid.symm.trans hnone

theorem serves_release (p : Pool) (id : CallId) (conn : ConnId) :
    (p.release id conn).Serves id .release := by
  unfold release
  split
  · exact serves_hold _ id (.release conn (.error .closed))
  · split
    · exact serves_hold _ id (.release conn (.error .invalidConnection))
    · split
      · exact serves_finish _ id (.released (.ok ()))
      · exact serves_hold _ id (.release conn (.ok ()))

theorem serves_shutdown (p : Pool) (id : CallId) : (p.shutdown id).Serves id .shutdown := by
  unfold shutdown
  split
  · exact serves_finish _ id .shutDown
  · exact serves_drain _ id _

/-- All that a task comes to be is the closing of what is left. -/
theorem kind_of_leave {task : CallId} {conn : ConnId} {canSpawn : Bool}
    (hnone : p.call? task = none) (h : (p.leave conn canSpawn task).call? task = some c) :
    c.kind = .leftover := by
  cases canSpawn with
  | false => cases hnone.symm.trans h
  | true => exact (serves_hold p task (.abandoned conn)).kind_eq h

theorem kind_of_cancel {task : CallId} {canSpawn : Bool} {stage : AcquireStage} (hne : id ≠ task)
    (hnone : p.call? task = none) (h : (p.cancel id canSpawn task stage).call? task = some c) :
    c.kind = .leftover := by
  have hend : (p.finish id .cancelled).call? task = none :=
    (call?_finish_of_ne hne.symm _).trans hnone
  have hfreed : (p.finish id .cancelled).giveBack.call? task = none := by
    rw [giveBack, call?_notifyAll]
    exact congrArg (Option.map Call.notify) hend
  cases stage with
  | pinging x =>
    simp only [cancel, reclaim] at h
    split at h
    · exact kind_of_leave hfreed h
    · split at h
      · cases hfreed.symm.trans h
      · exact kind_of_leave hfreed h
  | parked => cases hend.symm.trans h
  | _ => cases hfreed.symm.trans h

/-- An operation that comes to be in flight is of the kind that the event begins. -/
theorem begins_step (hstep : p.step e = some q) (hnone : p.call? id = none)
    (hid : q.call? id = some c) : e.Begins id c.kind := by
  have hmem : id ∈ e.ops := by
    refine Decidable.byContradiction fun hnot => ?_
    cases hid.symm.trans (call?_step_none hstep hnot hnone)
  cases Move.of_step hstep with
  | acquire _ | acquirePatiently _ =>
    obtain rfl := List.mem_singleton.1 hmem
    exact ⟨rfl, (serves_look _ _ _).kind_eq hid⟩
  | release _ =>
    obtain rfl := List.mem_singleton.1 hmem
    exact ⟨rfl, (serves_release _ _ _).kind_eq hid⟩
  | discard _ =>
    obtain rfl := List.mem_singleton.1 hmem
    exact ⟨rfl, (serves_hold _ _ (.discard _)).kind_eq hid⟩
  | shutdown _ =>
    obtain rfl := List.mem_singleton.1 hmem
    exact ⟨rfl, (serves_shutdown _ _).kind_eq hid⟩
  | cancel h htask =>
    rcases List.mem_cons.1 hmem with rfl | hmem
    · cases hnone.symm.trans h
    · obtain rfl := List.mem_singleton.1 hmem
      refine ⟨rfl, kind_of_cancel ?_ htask hid⟩
      rintro rfl
      cases htask.symm.trans h
  | dialed h | pinged h | evicted h | released h | discarded h | drained h | tidied h | tidiedBadly h
  | retry h _ | expire h _ _ | tidy h =>
    obtain rfl := List.mem_singleton.1 hmem
    cases hnone.symm.trans h
  | pass => cases hmem

end Begins

section Numbers

/-- The operations that an event begins. -/
def Event.begun : Event → List CallId
  | .acquire id _ | .release id _ | .discard id _ | .shutdown id | .cancel _ _ id => [id]
  | _ => []

/-- An event that acts for an operation that is not in flight begins it. -/
theorem mem_begun (hstep : p.step e = some q) (hmem : id ∈ e.ops) (hnone : p.call? id = none) :
    id ∈ e.begun := by
  cases Move.of_step hstep with
  | acquire _ | acquirePatiently _ | release _ | discard _ | shutdown _ => exact hmem
  | cancel h _ =>
    refine (List.mem_cons.1 hmem).resolve_left ?_
    rintro rfl
    cases hnone.symm.trans h
  | dialed h | pinged h | evicted h | released h | discarded h | drained h | tidied h | tidiedBadly h
  | retry h _ | expire h _ _ | tidy h =>
    obtain rfl := List.mem_singleton.1 hmem
    cases hnone.symm.trans h
  | pass => cases hmem

/-- An operation that ended stays as it is until it is begun anew. -/
theorem Ended.stays (h : p.Ended id a) (hstep : p.step e = some q) (hnot : id ∉ e.begun) :
    q.Ended id a := by
  have hops : id ∉ e.ops := fun hmem => hnot (mem_begun hstep hmem h.1)
  exact ⟨call?_step_none hstep hops h.1, (answer?_step hstep hops).trans h.2⟩

/-- An event that does not act for an operation does not end it. -/
theorem Ended.before (h : q.Ended id a) (hstep : p.step e = some q) (hmem : id ∉ e.ops) : p.Ended id a := by
  refine ⟨?_, (answer?_step hstep hmem).symm.trans h.2⟩
  rcases call?_of_notMem_ops hstep hmem with hsame | htold
  · exact hsame.symm.trans h.1
  · exact Option.map_eq_none_iff.1 (htold.symm.trans h.1)

theorem Event.Begins.mem_begun (h : e.Begins id k) : id ∈ e.begun := by
  cases e with
  | acquire _ _ | release _ _ | discard _ _ | shutdown _ | cancel _ _ _ =>
    obtain ⟨rfl, -⟩ := h
    exact List.mem_singleton_self _
  | _ => exact h.elim

theorem Event.begun_subset (e : Event) : e.begun ⊆ e.mentions := by
  cases e with
  | cancel i canSpawn task => exact List.subset_cons_self i [task]
  | _ => exact List.Subset.refl _

theorem mem_mentions (hstep : p.step e = some q) (hmem : id ∈ e.ops) (hnone : p.call? id = none) :
    id ∈ e.mentions :=
  e.begun_subset (mem_begun hstep hmem hnone)

/-- No number comes to be in flight that the event does not mention. -/
theorem call?_of_notMem_mentions (hstep : p.step e = some q) (hnot : id ∉ e.mentions)
    (hnone : p.call? id = none) : q.call? id = none :=
  call?_step_none hstep (fun hmem => hnot (mem_mentions hstep hmem hnone)) hnone

/-- An operation that ended stays as it is, unless its number is used again. -/
theorem Ended.step (h : p.Ended id a) (hstep : p.step e = some q) (hnot : id ∉ e.mentions) :
    q.Ended id a :=
  h.stays hstep fun hmem => hnot (e.begun_subset hmem)

theorem Serves.not_fresh (h : p.Serves id k) : p.isFresh id = false := by
  rcases h with ⟨c, hid, -⟩ | ⟨-, a, ha, -⟩
  · simp [isFresh, hid]
  · simp [isFresh, ha]

theorem of_isFresh (h : p.isFresh id = true) : p.call? id = none ∧ p.answer? id = none := by
  simpa [isFresh] using h

/-- A number that an operation had is fresh no more. -/
theorem not_fresh_step (hstep : p.step e = some q) (h : p.isFresh id = false) :
    q.isFresh id = false := by
  refine Bool.eq_false_iff.2 fun hfresh => Bool.eq_false_iff.1 h ?_
  obtain ⟨hcall, hanswer⟩ := of_isFresh hfresh
  have hbefore : p.call? id = none := by
    cases hid : p.call? id with
    | none => rfl
    | some c => exact absurd hfresh (Bool.eq_false_iff.1 (serves_step hstep hid).not_fresh)
  obtain ⟨news, hhist, -⟩ := (within_step hstep).notes
  rw [answer?, hhist, List.findSome?_append, Option.or_eq_none_iff] at hanswer
  have hnone : p.answer? id = none := hanswer.2
  simp [isFresh, hbefore, hnone]

end Numbers

section Waiting

theorem Call.AwaitsClose.notify (hc : c.AwaitsClose) : c.notify = c := by
  cases c with
  | acquire w stage => exact hc.elim
  | _ => rfl

/-- Only the end of its close acts for an operation that waits for one. -/
theorem notMem_ops (hid : p.call? id = some c) (hc : c.AwaitsClose) (hstep : p.step e = some q)
    (hne : ∀ failure, e ≠ .closed id failure) : id ∉ e.ops := by
  intro hmem
  cases Move.of_step hstep with
  | acquire h | acquirePatiently h | release h | discard h | shutdown h =>
    obtain rfl := List.mem_singleton.1 hmem
    cases hid.symm.trans h
  | dialed h | pinged h | retry h _ | expire h _ _ | tidy h =>
    obtain rfl := List.mem_singleton.1 hmem
    cases hid.symm.trans h
    exact hc
  | cancel h htask =>
    rcases List.mem_cons.1 hmem with rfl | hmem
    · cases hid.symm.trans h
      exact hc
    · obtain rfl := List.mem_singleton.1 hmem
      cases hid.symm.trans htask
  | pass => cases hmem
  | _ =>
    obtain rfl := List.mem_singleton.1 hmem
    exact hne _ rfl

/-- An operation that waits for the end of a close waits until it comes. -/
theorem call?_of_awaitsClose (hid : p.call? id = some c) (hc : c.AwaitsClose)
    (hstep : p.step e = some q) (hne : ∀ failure, e ≠ .closed id failure) :
    q.call? id = some c :=
  call?_step hstep (notMem_ops hid hc hstep hne) hid hc.notify

theorem grounds_of_release {conn c : ConnId} {err : PoolError}
    (h : (p.release id conn).call? id = some (.release c (.error err))) : p.Grounds err := by
  have hself (s : Pool) (d : Call) (hd : (s.hold id d).call? id = some (.release c (.error err))) :
      d = .release c (.error err) := Option.some.inj ((call?_hold_self s id d).symm.trans hd)
  unfold release at h
  split at h
  · cases hself _ _ h
    assumption
  · split at h
    · cases hself _ _ h
      exact ⟨by simp_all, ‹_›⟩
    · split at h
      · cases (call?_finish_self _ id _).symm.trans h
      · cases hself _ _ h

/-- A release that will fail was going to before, or begins and has its grounds. -/
theorem promises_step {err : PoolError} (hstep : p.step e = some q) (h : q.Promises id err) :
    p.Promises id err ∨ ∃ conn, e = .release id conn ∧ p.Grounds err := by
  obtain ⟨conn, hid⟩ := h
  cases hcall : p.call? id with
  | some c =>
    have hkind := (serves_step hstep hcall).kind_eq hid
    cases c with
    | release conn' answer =>
      by_cases he : ∃ failure, e = .closed id failure
      · obtain ⟨failure, rfl⟩ := he
        have hq : (p.sayCloseFailed failure).finish id (.released answer) = q := by
          simpa only [step, hcall, Option.some.injEq] using hstep
        rw [← hq, call?_finish_self] at hid
        cases hid
      · have hne : ∀ failure, e ≠ .closed id failure := fun failure heq => he ⟨failure, heq⟩
        have hsame := call?_of_awaitsClose hcall trivial hstep hne
        cases hid.symm.trans hsame
        exact .inl ⟨conn, hcall⟩
    | _ => cases hkind
  | none =>
    have hbegins := begins_step hstep hcall hid
    cases e with
    | release i c =>
      obtain ⟨rfl, -⟩ := hbegins
      cases Move.of_step hstep with
      | release _ => exact .inr ⟨c, rfl, grounds_of_release hid⟩
    | _ => first | exact hbegins.elim | cases hbegins.2

end Waiting

end PooledTcp.Pool
