import PooledTcp.Proofs.Pool.Outcome
import PooledTcp.Proofs.Pool.Stock

/-!
# To whom a pool hands out its connections

A connection is handed out when a dial or a ping ends well, to the acquire whose dial or ping it was
(`hands?`, `handedOut_step`). So an acquire in flight, if nobody gives it up, goes on waiting, ends with an
error, or ends with the connection that the event hands to it (`turn_of_acquire`).
-/

namespace PooledTcp.Pool

/-- What the event hands out, and to which operation. -/
def hands? (p : Pool) : Event → Option (CallId × ConnId)
  | .dialed id (.ok conn) => some (id, conn)
  | .pinged id none =>
    match p.call? id with
    | some (.acquire _ (.pinging x)) => some (id, x.conn)
    | _ => none
  | _ => none

variable {p q : Pool} {id : CallId} {e : Event} {w : Option Patience} {stage : AcquireStage}

section HandedOut

attribute [local simp] handedOut Note.handed? hands?

theorem handedOut_look (p : Pool) (id : CallId) (w : Option Patience) :
    (p.look id w).handedOut = p.handedOut := by
  unfold look
  split
  · simp
  · split
    · cases w <;> simp
    · simp
  · dsimp only
    split <;> simp

theorem handedOut_drain (p : Pool) (id : CallId) (rest : List IdleEntry) :
    (p.drain id rest).handedOut = p.handedOut := by
  cases rest <;> simp [drain]

theorem handedOut_release (p : Pool) (id : CallId) (conn : ConnId) :
    (p.release id conn).handedOut = p.handedOut := by
  unfold release
  split
  · simp
  · split
    · simp
    · split <;> simp

theorem handedOut_shutdown (p : Pool) (id : CallId) : (p.shutdown id).handedOut = p.handedOut := by
  unfold shutdown
  split
  · simp
  · rw [handedOut_drain]
    simp

theorem handedOut_cancel (p : Pool) (id task : CallId) (canSpawn : Bool) (stage : AcquireStage) :
    (p.cancel id canSpawn task stage).handedOut = p.handedOut := by
  cases stage with
  | pinging x =>
    simp only [cancel, reclaim, leave]
    split
    · cases canSpawn <;> simp
    · split
      · simp
      · cases canSpawn <;> simp
  | _ => simp [cancel]

theorem handedOut_sayCloseFailed (p : Pool) (failure : Option IoError) :
    (p.sayCloseFailed failure).handedOut = p.handedOut := by
  cases failure <;> rfl

/-- Nothing else is handed out. -/
theorem handedOut_step (hstep : p.step e = some q) :
    q.handedOut = (p.hands? e).toList.map (·.2) ++ p.handedOut := by
  cases Move.of_step hstep with
  | acquire _ => exact handedOut_look p _ none
  | acquirePatiently _ => exact handedOut_look (p.listen _).1 _ _
  | retry _ _ => exact handedOut_look (p.listen _).1 _ _
  | release _ => exact handedOut_release p _ _
  | shutdown _ => exact handedOut_shutdown p _
  | @dialed id result w _ => cases result <;> simp [afterDial]
  | @pinged id failure w x hid => cases failure <;> simp [afterPing, hid]
  | @evicted id failure _ _ _ =>
    exact (handedOut_look (p.sayCloseFailed failure).giveBack _ _).trans
      (handedOut_sayCloseFailed p failure)
  | @drained id failure _ rest _ =>
    exact (handedOut_drain _ _ _).trans (handedOut_sayCloseFailed p failure)
  | released _ | discarded _ => exact handedOut_sayCloseFailed p _
  | cancel _ _ => exact handedOut_cancel p _ _ _ _
  | _ => simp

end HandedOut

section Turn

/-- An acquire that looks goes on waiting, or ends with an error. -/
theorem turn_of_look (p : Pool) (id : CallId) (w : Option Patience) :
    (∃ stage, (p.look id w).call? id = some (.acquire w stage) ∧
      (p.look id w).answer? id = p.answer? id) ∨
    ∃ err, (p.look id w).Ended id (.acquired (.error err)) := by
  unfold look
  split
  · exact .inr ⟨_, ended_finish _ _ _⟩
  · split
    · cases w with
      | none => exact .inr ⟨_, ended_finish _ _ _⟩
      | some w => exact .inl ⟨_, call?_hold_self _ _ _, rfl⟩
    · exact .inl ⟨_, call?_hold_self _ _ _, rfl⟩
  · dsimp only
    split
    · exact .inl ⟨_, call?_hold_self _ _ _, rfl⟩
    · exact .inl ⟨_, call?_hold_self _ _ _, rfl⟩

/-- What an event hands out goes to an operation that it acts for. -/
theorem mem_ops_of_hands {conn : ConnId} (h : p.hands? e = some (id, conn)) : id ∈ e.ops := by
  cases e with
  | dialed i result =>
    cases result with
    | ok c =>
      cases h
      exact List.mem_singleton_self _
    | error cause => cases h
  | pinged i failure =>
    cases failure with
    | none =>
      simp only [hands?] at h
      split at h
      · cases h
        exact List.mem_singleton_self _
      · cases h
    | some cause => cases h
  | _ => cases h

/-- What becomes of an acquire in flight, with what the event hands out. -/
inductive Turn (p q : Pool) (e : Event) (id : CallId) : Prop where
  | waits {w : Option Patience} {stage : AcquireStage} : q.call? id = some (.acquire w stage) →
    q.answer? id = p.answer? id → (∀ conn, p.hands? e ≠ some (id, conn)) → Turn p q e id
  | fails {err : PoolError} : q.Ended id (.acquired (.error err)) →
    (∀ conn, p.hands? e ≠ some (id, conn)) → Turn p q e id
  | gets {conn : ConnId} : q.Ended id (.acquired (.ok conn)) → p.hands? e = some (id, conn) →
    Turn p q e id

/-- An acquire in flight that nobody gives up goes on waiting, fails, or gets what the event hands out. -/
theorem turn_of_acquire (hstep : p.step e = some q) (hid : p.call? id = some (.acquire w stage))
    (hnot : id ∉ e.mentions) : Turn p q e id := by
  by_cases hmem : id ∈ e.ops
  · cases advance_of_step hstep hid hmem with
    | @dialed _ result =>
      cases result with
      | ok conn => exact .gets (ended_finish _ _ _) rfl
      | error cause =>
        have hend := ended_finish (p.say (.dialFailed cause)) id
          (.acquired (.error (.factory cause)))
        exact .fails hend.notifyAll nofun
    | @pinged _ x failure =>
      cases failure with
      | none => exact .gets (ended_finish _ _ _) (by simp [hands?, hid])
      | some cause => exact .waits (call?_hold_self _ _ _) rfl nofun
    | @evicted _ _ failure =>
      have hsame : (p.sayCloseFailed failure).giveBack.answer? id = p.answer? id := by
        cases failure <;> rfl
      rcases turn_of_look (p.sayCloseFailed failure).giveBack id _ with
        ⟨stage, hcall, hanswer⟩ | ⟨err, hend⟩
      · exact .waits hcall (hanswer.trans hsame) nofun
      · exact .fails hend nofun
    | retry =>
      rcases turn_of_look (p.listen _).1 id _ with ⟨stage, hcall, hanswer⟩ | ⟨err, hend⟩
      · exact .waits hcall hanswer nofun
      · exact .fails hend nofun
    | expire => exact .fails (ended_finish _ _ _) nofun
    | cancel _ _ => exact absurd hmem hnot
  · have hanswer := answer?_step hstep hmem
    have hhands (conn : ConnId) : p.hands? e ≠ some (id, conn) := fun h =>
      hmem (mem_ops_of_hands h)
    rcases call?_of_notMem_ops hstep hmem with h | h
    · exact .waits (h.trans hid) hanswer hhands
    · rw [hid] at h
      cases w with
      | none => exact .waits h hanswer hhands
      | some w => exact .waits h hanswer hhands

end Turn

end PooledTcp.Pool
