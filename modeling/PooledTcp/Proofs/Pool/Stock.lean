import PooledTcp.Proofs.Pool.Tally

/-!
# Where connections come from and where they go

A connection comes into a pool when a dial ends well and when somebody gives it back. It leaves when it is
handed out, when its close begins and when it is dropped. Between the two it is idle or some operation
carries it. `stock` counts all of this for one connection: its entries in the queue, the operations that carry
it and the notes with which it left. The law is that an event adds to the stock what it brings and nothing
else changes it (`stock_step`): no operation loses a connection and none makes two of one.

That a connection is dropped has a single cause (`drops_step`): a ping is given up with no room in the queue
and no task to close what is left.
-/

namespace PooledTcp.Pool

/-- The connections that an operation carries: one that it pings, those that a shutdown has yet to close,
one that a task is about to close. -/
def Call.carried : Call → List ConnId
  | .acquire _ (.pinging e) => [e.conn]
  | .shutdown _ rest => rest.map (·.conn)
  | .abandoned conn => [conn]
  | _ => []

/-- How often an operation carries `conn`. -/
def Call.carries (conn : ConnId) (c : Call) : Nat := c.carried.count conn

namespace Note

/-- The connection that is handed out. -/
def handed? : Note → Option ConnId
  | answered _ (.acquired (.ok conn)) => some conn
  | _ => none

/-- The connection whose close begins. -/
def closing? : Note → Option ConnId
  | called _ (.close conn) => some conn
  | _ => none

def dropped? : Note → Option ConnId
  | dropped conn => some conn
  | _ => none

end Note

/-- The connections in the queue, front first. -/
def idleConns (p : Pool) : List ConnId := (p.idle.getD []).map (·.conn)

/-- The connections that were handed out, once for each time, latest first. -/
def handedOut (p : Pool) : List ConnId := p.history.filterMap (·.handed?)

/-- The connections whose close began, once for each time, latest first. -/
def closes (p : Pool) : List ConnId := p.history.filterMap (·.closing?)

/-- The connections that were dropped, latest first. -/
def drops (p : Pool) : List ConnId := p.history.filterMap (·.dropped?)

/-- How often operation `id` carries `conn`. -/
def carriedBy (p : Pool) (id : CallId) (conn : ConnId) : Nat := measureOf (·.carries conn) p id

/-- How often `conn` is in the queue, carried by an operation, or gone. -/
def stock (p : Pool) (conn : ConnId) : Nat :=
  p.idleConns.count conn + tally (·.carries conn) p.calls +
    p.handedOut.count conn + p.closes.count conn + p.drops.count conn

/-- The connection that a dial brings. -/
def Event.dialled : Event → List ConnId
  | .dialed _ (.ok conn) => [conn]
  | _ => []

/-- The connection that is given back. -/
def Event.returned : Event → List ConnId
  | .release _ conn | .discard _ conn => [conn]
  | _ => []

variable {r : PoolRequest} {p q : Pool} {id : CallId} {e : Event} {conn : ConnId}

/-- One connection is given back at a time. -/
theorem Event.length_returned (e : Event) : e.returned.length ≤ 1 := by
  cases e <;> simp [returned]

@[simp] theorem carries_notify (c : Call) : c.notify.carries conn = c.carries conn := by
  cases c with
  | acquire w stage => cases w <;> cases stage <;> rfl
  | _ => rfl

@[simp] theorem carries_eq (conn : ConnId) :
    (∀ w e, Call.carries conn (.acquire w (.pinging e)) = [e.conn].count conn) ∧
    (∀ w d, Call.carries conn (.acquire w (.evicting d)) = 0) ∧
    (∀ w, Call.carries conn (.acquire w .dialing) = 0) ∧
    (∀ w, Call.carries conn (.acquire w .parked) = 0) ∧
    (∀ d a, Call.carries conn (.release d a) = 0) ∧ (∀ d, Call.carries conn (.discard d) = 0) ∧
    (∀ d rest, Call.carries conn (.shutdown d rest) = (rest.map (·.conn)).count conn) ∧
    (∀ d, Call.carries conn (.abandoned d) = [d].count conn) ∧
    ∀ d, Call.carries conn (.tidying d) = 0 := by
  simp [Call.carries, Call.carried]

@[simp] theorem tally_carries_notify (calls : List (CallId × Call)) :
    tally (·.carries conn) (calls.map fun x => (x.1, x.2.notify)) =
      tally (·.carries conn) calls :=
  tally_notify carries_notify calls

section Stock

attribute [local simp] stock idleConns handedOut closes drops Note.handed? Note.closing?
  Note.dropped?

/-- What the other operations carry. -/
theorem carries_others (hd : p.Distinct) (id : CallId) (conn : ConnId) :
    tally (·.carries conn) (p.calls.filter (·.1 != id)) + p.carriedBy id conn =
      tally (·.carries conn) p.calls :=
  tally_others hd (·.carries conn) id

theorem carriedBy_of_call? {c : Call} (h : p.call? id = some c) :
    p.carriedBy id conn = c.carries conn :=
  measureOf_of_call? h

theorem carriedBy_of_none (h : p.call? id = none) : p.carriedBy id conn = 0 := measureOf_of_none h

@[simp] theorem carriedBy_notifyAll (p : Pool) (id : CallId) :
    p.notifyAll.carriedBy id conn = p.carriedBy id conn :=
  measureOf_notifyAll carries_notify p id

@[simp] theorem carriedBy_sayCloseFailed (p : Pool) (failure : Option IoError) (id : CallId) :
    (p.sayCloseFailed failure).carriedBy id conn = p.carriedBy id conn := by
  cases failure <;> rfl

@[simp] theorem stock_giveBack (p : Pool) : p.giveBack.stock conn = p.stock conn := by
  simp

@[simp] theorem stock_sayCloseFailed (p : Pool) (failure : Option IoError) :
    (p.sayCloseFailed failure).stock conn = p.stock conn := by
  cases failure <;> simp [sayCloseFailed]

/-- What an operation that ends carried is out of the stock, unless its answer hands it out. -/
theorem stock_finish (hd : p.Distinct) (id : CallId) {a : Answer} (conn : ConnId)
    (ha : (Note.answered id a).handed? = none) :
    (p.finish id a).stock conn + p.carriedBy id conn = p.stock conn := by
  have hothers := carries_others hd id conn
  simp [-Note.handed?, ha]
  omega

theorem stock_look (hd : p.Distinct) (hid : p.carriedBy id conn = 0) (w : Option Patience) :
    (p.look id w).stock conn = p.stock conn := by
  have hothers := carries_others hd id conn
  unfold look
  split
  · simp; omega
  · rename_i hidle
    split
    · cases w <;> simp <;> omega
    · simp [hidle]; omega
  · rename_i x rest hidle
    dsimp only
    split
    · simp [hidle, List.count_cons]; omega
    · simp [hidle, List.count_cons]; omega

theorem stock_afterPing {x : IdleEntry} (hd : p.Distinct)
    (hid : p.carriedBy id conn = [x.conn].count conn) (w : Option Patience)
    (failure : Option IoError) : (p.afterPing id w x failure).stock conn = p.stock conn := by
  have hothers := carries_others hd id conn
  cases failure with
  | none => simp [afterPing, List.count_cons] at hid ⊢; omega
  | some cause => simp [afterPing, List.count_cons] at hid ⊢; omega

theorem stock_afterDial (hd : p.Distinct) (hid : p.carriedBy id conn = 0)
    (result : Except IoError ConnId) : (p.afterDial id result).stock conn =
      p.stock conn + (Event.dialled (.dialed id result)).count conn := by
  have hothers := carries_others hd id conn
  cases result with
  | ok c => simp [afterDial, Event.dialled, List.count_cons]; omega
  | error cause => simp [afterDial, Event.dialled]; omega

/-- The entries that a shutdown has left are idle no more and carried by it. -/
theorem stock_drain (hd : p.Distinct) (id : CallId) (conn : ConnId) (rest : List IdleEntry) :
    (p.drain id rest).stock conn + p.carriedBy id conn =
      p.stock conn + (rest.map (·.conn)).count conn := by
  have hothers := carries_others hd id conn
  cases rest with
  | nil => simp [drain]; omega
  | cons x rest => simp [drain, List.count_cons]; omega

theorem stock_release (hd : p.Distinct) (hid : p.carriedBy id conn = 0) (c : ConnId) :
    (p.release id c).stock conn = p.stock conn + [c].count conn := by
  have hothers := carries_others hd id conn
  unfold release
  split
  · simp [List.count_cons]; omega
  · rename_i idle hidle
    split
    · simp [List.count_cons]; omega
    · split
      · simp [hidle, List.count_cons]; omega
      · simp [List.count_cons]; omega

theorem stock_shutdown (hd : p.Distinct) (hid : p.carriedBy id conn = 0) :
    (p.shutdown id).stock conn = p.stock conn := by
  unfold shutdown
  split
  · have hend := stock_finish hd id conn (show (Note.answered id .shutDown).handed? = none from rfl)
    omega
  · rename_i idle hidle
    generalize hp' : ({ p with idle := none }.say (.shuttingDown idle.length)).notifyAll = p'
    have hd' : p'.Distinct := hp' ▸ Distinct.notifyAll hd
    have hid' : p'.carriedBy id conn = 0 := by rw [← hp', carriedBy_notifyAll]; exact hid
    have hstock : p'.stock conn + (idle.map (·.conn)).count conn = p.stock conn := by
      simp [← hp', hidle]; omega
    have hdrain := stock_drain hd' id conn idle
    omega

/-- A connection that nobody holds is carried by the task, or dropped. -/
theorem stock_leave {task : CallId} (hd : p.Distinct) (htask : p.carriedBy task conn = 0)
    (c : ConnId) (canSpawn : Bool) :
    (p.leave c canSpawn task).stock conn = p.stock conn + [c].count conn := by
  have hothers := carries_others hd task conn
  cases canSpawn with
  | false => simp [leave, List.count_cons]; omega
  | true => simp [leave, List.count_cons]; omega

theorem stock_cancel {task : CallId} {w : Option Patience} {stage : AcquireStage} (hd : p.Distinct)
    (hid : p.call? id = some (.acquire w stage)) (htask : p.call? task = none) (canSpawn : Bool) :
    (p.cancel id canSpawn task stage).stock conn = p.stock conn := by
  have hend := stock_finish hd id conn (show (Note.answered id .cancelled).handed? = none from rfl)
  rw [carriedBy_of_call? hid] at hend
  cases stage with
  | pinging x =>
    generalize hp' : p.finish id .cancelled = p' at hend
    have hd' : p'.giveBack.Distinct :=
      hp' ▸ Distinct.kept.giveBack (Distinct.kept.finish id .cancelled hd)
    have hne : task ≠ id := by
      rintro rfl
      cases hid.symm.trans htask
    have htask' : p'.giveBack.carriedBy task conn = 0 := by
      refine (carriedBy_notifyAll _ _).trans (carriedBy_of_none ?_)
      rw [← hp']
      exact (lookup_filter_of_ne hne _).trans htask
    have hleft : (p'.giveBack.leave x.conn canSpawn task).stock conn = p.stock conn := by
      rw [stock_leave hd' htask', stock_giveBack, ← hend]
      rfl
    simp only [cancel, hp', reclaim]
    split
    · exact hleft
    · rename_i idle hidle
      split
      · simp [hidle, List.count_cons] at hend ⊢
        omega
      · exact hleft
  | evicting c => exact (stock_giveBack _).trans hend
  | dialing => exact (stock_giveBack _).trans hend
  | parked => exact hend

theorem stock_discard (hd : p.Distinct) (hid : p.carriedBy id conn = 0) (c : ConnId) :
    ((p.giveBack.request id (.close c)).hold id (.discard c)).stock conn =
      p.stock conn + [c].count conn := by
  have hothers := carries_others hd id conn
  simp [List.count_cons]
  omega

theorem stock_tidy {c : ConnId} (hd : p.Distinct) (hid : p.call? id = some (.abandoned c)) :
    ((p.request id (.close c)).hold id (.tidying c)).stock conn = p.stock conn := by
  have hothers := carries_others hd id conn
  have hcarried : p.carriedBy id conn = [c].count conn :=
    (carriedBy_of_call? hid).trans (by simp)
  simp [List.count_cons] at hcarried ⊢
  omega

/-- An operation that carries nothing ends without an effect on the stock. -/
theorem stock_end {c : Call} {a : Answer} (hd : p.Distinct) (hid : p.call? id = some c)
    (hc : c.carries conn = 0) (ha : (Note.answered id a).handed? = none) :
    (p.finish id a).stock conn = p.stock conn := by
  have hend := stock_finish hd id conn ha
  rwa [carriedBy_of_call? hid, hc] at hend

theorem stock_ended {c : Call} {a : Answer} (hd : p.Distinct) (hid : p.call? id = some c)
    (hc : c.carries conn = 0) (ha : (Note.answered id a).handed? = none) (failure : Option IoError) :
    ((p.sayCloseFailed failure).finish id a).stock conn = p.stock conn := by
  have hid' := (call?_sayCloseFailed p failure id).trans hid
  rw [stock_end (Distinct.kept.sayCloseFailed hd failure) hid' hc ha, stock_sayCloseFailed]

theorem stock_evicted {c : ConnId} {w : Option Patience} (hd : p.Distinct)
    (hid : p.call? id = some (.acquire w (.evicting c))) (failure : Option IoError) :
    ((p.sayCloseFailed failure).afterEviction id).stock conn = p.stock conn := by
  have hd' := Distinct.kept.giveBack (Distinct.kept.sayCloseFailed hd failure)
  have hid' : (p.sayCloseFailed failure).giveBack.carriedBy id conn = 0 := by
    refine (carriedBy_notifyAll _ id).trans ((carriedBy_sayCloseFailed p failure id).trans ?_)
    exact carriedBy_of_call? hid
  exact (stock_look hd' hid' _).trans ((stock_giveBack _).trans (stock_sayCloseFailed p failure))

theorem stock_drained {c : ConnId} {rest : List IdleEntry} (hd : p.Distinct)
    (hid : p.call? id = some (.shutdown c rest)) (failure : Option IoError) :
    ((p.sayCloseFailed failure).drain id rest).stock conn = p.stock conn := by
  have hdrain := stock_drain (Distinct.kept.sayCloseFailed hd failure) id conn rest
  rw [carriedBy_sayCloseFailed, carriedBy_of_call? hid, stock_sayCloseFailed] at hdrain
  exact Nat.add_right_cancel hdrain

/-- An event adds to the stock what it brings. -/
theorem stock_step (hd : p.Distinct) (hstep : p.step e = some q) (conn : ConnId) :
    q.stock conn = p.stock conn + e.dialled.count conn + e.returned.count conn := by
  cases Move.of_step hstep with
  | acquire hid => exact stock_look hd (carriedBy_of_none hid) none
  | acquirePatiently hid => exact stock_look (p := (p.listen _).1) hd (carriedBy_of_none hid) _
  | release hid => exact stock_release hd (carriedBy_of_none hid) _
  | discard hid => exact stock_discard hd (carriedBy_of_none hid) _
  | shutdown hid => exact stock_shutdown hd (carriedBy_of_none hid)
  | dialed hid => exact stock_afterDial hd (carriedBy_of_call? hid) _
  | pinged hid => exact stock_afterPing hd ((carriedBy_of_call? hid).trans (by simp)) _ _
  | evicted hid => exact stock_evicted hd hid _
  | released hid => exact stock_ended hd hid rfl rfl _
  | discarded hid => exact stock_ended hd hid rfl rfl _
  | drained hid => exact stock_drained hd hid _
  | tidied hid => exact stock_end hd hid rfl rfl
  | tidiedBadly hid => exact stock_end (Distinct.kept.note _ hd) hid rfl rfl
  | retry hid _ => exact stock_look (p := (p.listen _).1) hd (carriedBy_of_call? hid) _
  | expire hid _ _ => exact stock_end hd hid rfl rfl
  | cancel hid htask => exact stock_cancel hd hid htask _
  | tidy hid => exact stock_tidy hd hid
  | pass => rfl

end Stock

section Drops

attribute [local simp] drops Note.dropped?

theorem drops_look (w : Option Patience) : (p.look id w).drops = p.drops := by
  unfold look
  split
  · simp
  · split
    · cases w <;> simp
    · simp
  · dsimp only
    split <;> simp

theorem drops_afterPing (w : Option Patience) (x : IdleEntry) (failure : Option IoError) :
    (p.afterPing id w x failure).drops = p.drops := by
  cases failure <;> simp [afterPing]

theorem drops_afterDial (result : Except IoError ConnId) :
    (p.afterDial id result).drops = p.drops := by
  cases result <;> simp [afterDial]

theorem drops_sayCloseFailed (failure : Option IoError) :
    (p.sayCloseFailed failure).drops = p.drops := by
  cases failure <;> simp [sayCloseFailed]

theorem drops_drain (rest : List IdleEntry) : (p.drain id rest).drops = p.drops := by
  cases rest <;> simp [drain]

theorem drops_release (c : ConnId) : (p.release id c).drops = p.drops := by
  unfold release
  split
  · simp
  · split
    · simp
    · split <;> simp

theorem drops_shutdown : (p.shutdown id).drops = p.drops := by
  unfold shutdown
  split
  · simp
  · rw [drops_drain]
    simp

/-- Only a ping that is given up where neither the queue nor a task takes the connection drops it. -/
theorem drops_cancel (p : Pool) (id task : CallId) (canSpawn : Bool) (stage : AcquireStage) :
    (p.cancel id canSpawn task stage).drops = p.drops ∨
    ∃ x, stage = .pinging x ∧ canSpawn = false ∧
      (∀ idle, p.idle = some idle → p.limits.maxIdle ≤ idle.length) ∧
      (p.cancel id canSpawn task stage).drops = x.conn :: p.drops := by
  cases stage with
  | pinging x =>
    simp only [cancel, reclaim]
    split
    · rename_i hidle
      have hnone : p.idle = none := hidle
      cases canSpawn with
      | true => exact .inl (by simp [leave])
      | false => exact .inr ⟨x, rfl, rfl, by simp [hnone], by simp [leave]⟩
    · rename_i idle hidle
      have hsome : p.idle = some idle := hidle
      split
      · exact .inl (by simp)
      · rename_i hroom
        have hfull : p.limits.maxIdle ≤ idle.length := Nat.le_of_not_lt hroom
        cases canSpawn with
        | true => exact .inl (by simp [leave])
        | false => exact .inr ⟨x, rfl, rfl, by simpa [hsome] using hfull, by simp [leave]⟩
  | _ => exact .inl (by simp [cancel])

/-- The event gives up a ping of `conn` where the queue has no room for it and no task can be started. -/
def Abandons (p : Pool) (conn : ConnId) : Event → Prop
  | .cancel id canSpawn _ => canSpawn = false ∧
      (∃ w x, p.call? id = some (.acquire w (.pinging x)) ∧ x.conn = conn) ∧
      ∀ idle, p.idle = some idle → p.limits.maxIdle ≤ idle.length
  | _ => False

/-- Nothing else drops a connection. -/
theorem drops_step (hstep : p.step e = some q) :
    q.drops = p.drops ∨ ∃ conn, p.Abandons conn e ∧ q.drops = conn :: p.drops := by
  cases Move.of_step hstep with
  | @cancel id task canSpawn w stage hid _ =>
    rcases drops_cancel p id task canSpawn stage with hsame | ⟨x, rfl, hspawn, hroom, hdrop⟩
    · exact .inl hsame
    · exact .inr ⟨x.conn, ⟨hspawn, ⟨_, x, hid, rfl⟩, hroom⟩, hdrop⟩
  | acquire _ => exact .inl (drops_look none)
  | acquirePatiently _ => exact .inl (drops_look _)
  | release _ => exact .inl (drops_release _)
  | shutdown _ => exact .inl drops_shutdown
  | dialed _ => exact .inl (drops_afterDial _)
  | pinged _ => exact .inl (drops_afterPing _ _ _)
  | evicted _ => exact .inl ((drops_look _).trans (drops_sayCloseFailed _))
  | drained _ => exact .inl ((drops_drain _).trans (drops_sayCloseFailed _))
  | released _ | discarded _ => exact .inl (drops_sayCloseFailed _)
  | retry _ _ => exact .inl (drops_look _)
  | _ => exact .inl (by simp)

theorem abandons_of_drops (hstep : p.step e = some q) (hold : conn ∉ p.drops)
    (hnew : conn ∈ q.drops) : p.Abandons conn e := by
  rcases drops_step hstep with hsame | ⟨c, hover, hdrop⟩
  · exact absurd (hsame ▸ hnew) hold
  · rw [hdrop] at hnew
    obtain rfl := (List.mem_cons.1 hnew).resolve_right hold
    exact hover

/-- What was noted stays noted. -/
theorem history_step (hstep : p.step e = some q) : p.history <:+ q.history := by
  obtain ⟨news, hhist, -⟩ := (within_step hstep).notes
  exact ⟨news, hhist.symm⟩

end Drops

end PooledTcp.Pool
