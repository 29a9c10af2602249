import PooledTcp.Proofs.Pool.Moves
import PooledTcp.Proofs.Pool.Opened

/-!
# What every event keeps

The operations of a pool are made of few updates: notes, operations that begin to wait or end, slots that
become free, entries that leave the queue at its front and come in at either end. `Kept I` says that each of
these updates keeps `I`, with what is known where it happens: that a slot is free when a dial begins, that
the pool is full when an acquire parks, whose entry it is that goes back to the front. `Kept.step` puts the
updates together, so an invariant that does not read the history is proved by one small lemma for each
update and never looks into an operation.
-/

namespace PooledTcp.Pool

/-- The operation waits for the end of a close, or for the turn to begin one. -/
def Call.Closing : Call → Prop
  | .acquire _ (.evicting _) => True
  | .acquire _ _ => False
  | _ => True

/-- Each of the updates that operations are made of keeps `I`. -/
structure Kept (I : Pool → Prop) : Prop where
  note : ∀ {p : Pool} (n : Note), I p → I (p.note n)
  listen : ∀ {p : Pool} (deadline : Option Nat), I p → I (p.listen deadline).1
  finish : ∀ {p : Pool} (id : CallId) (a : Answer), I p → I (p.finish id a)
  notifyAll : ∀ {p : Pool}, I p → I p.notifyAll
  giveBack : ∀ {p : Pool}, I p → I p.giveBack
  pass : ∀ {p : Pool} (nanos : Nat), I p → I { p with now := p.now + nanos }
  /-- An operation waits for a close. -/
  hold : ∀ {p : Pool} {c : Call} (id : CallId), I p → c.Closing → I (p.hold id c)
  /-- An acquire that finds the pool full parks. -/
  park : ∀ {p : Pool} (id : CallId) (w : Patience), I p → p.idle = some [] →
    p.limits.maxConns ≤ p.checkedOut → I (p.hold id (.acquire (some w) .parked))
  /-- An acquire takes a free slot to dial for. -/
  dial : ∀ {p : Pool} (id : CallId) (w : Option Patience), I p → p.idle = some [] →
    p.checkedOut < p.limits.maxConns →
    I ({ p with checkedOut := p.checkedOut + 1 }.hold id (.acquire w .dialing))
  /-- An acquire takes the front of the queue, to ping or to close it. -/
  take : ∀ {p : Pool} {stage : AcquireStage} {e : IdleEntry} {rest : List IdleEntry}
    (id : CallId) (w : Option Patience), I p → p.idle = some (e :: rest) →
    stage = .pinging e ∨ stage = .evicting e.conn →
    I ({ p with idle := some rest, checkedOut := p.checkedOut + 1 }.hold id (.acquire w stage))
  /-- A release puts its connection at the back of the queue. -/
  store : ∀ {p : Pool} {idle : List IdleEntry} (conn : ConnId), I p → p.idle = some idle →
    p.checkedOut ≠ 0 → idle.length < p.limits.maxIdle →
    I { p.freeSlot with idle := some (idle ++ [IdleEntry.mk conn p.now]) }.notifyAll
  /-- An acquire that is given up puts the entry that it pinged back to the front. -/
  restore : ∀ {p : Pool} {id : CallId} {w : Option Patience} {e : IdleEntry}
    {idle : List IdleEntry}, I p → p.call? id = some (.acquire w (.pinging e)) →
    p.idle = some idle → idle.length < p.limits.maxIdle →
    I { (p.finish id .cancelled).freeSlot with idle := some (e :: idle) }.notifyAll
  /-- A shutdown takes the queue. -/
  close : ∀ {p : Pool}, I p → I { p with idle := none }.notifyAll

namespace Kept

variable {I : Pool → Prop} {p q : Pool} {id : CallId}

theorem look (k : Kept I) (h : I p) (w : Option Patience) : I (p.look id w) := by
  unfold Pool.look
  split
  · exact k.finish _ _ h
  · rename_i hidle
    split
    · rename_i hmax
      cases w with
      | none => exact k.finish _ _ (k.note _ h)
      | some w => exact k.note _ (k.park id w h hidle hmax)
    · rename_i hfree
      exact k.note _ (k.dial id w h hidle (Nat.lt_of_not_le hfree))
  · rename_i e rest hidle
    dsimp only
    split
    · have htake := k.take id w h hidle (.inr rfl)
      exact k.note _ (k.note _ (k.note _ (k.note _ htake)))
    · exact k.note _ (k.note _ (k.take id w h hidle (.inl rfl)))

theorem afterPing (k : Kept I) (h : I p) (w : Option Patience) (e : IdleEntry)
    (failure : Option IoError) : I (p.afterPing id w e failure) := by
  cases failure with
  | none => exact k.finish _ _ (k.note _ (k.note _ h))
  | some cause => exact k.hold _ (k.note _ (k.note _ (k.note _ h))) trivial

theorem afterDial (k : Kept I) (h : I p) (result : Except IoError ConnId) :
    I (p.afterDial id result) := by
  cases result with
  | ok conn => exact k.finish _ _ (k.note _ (k.note _ h))
  | error cause => exact k.giveBack (k.finish _ _ (k.note _ h))

theorem sayCloseFailed (k : Kept I) (h : I p) (failure : Option IoError) :
    I (p.sayCloseFailed failure) := by
  cases failure with
  | none => exact h
  | some cause => exact k.note _ h

theorem drain (k : Kept I) (h : I p) (rest : List IdleEntry) : I (p.drain id rest) := by
  cases rest with
  | nil => exact k.finish _ _ (k.note _ h)
  | cons e rest => exact k.hold _ (k.note _ h) trivial

theorem release (k : Kept I) (h : I p) (conn : ConnId) : I (p.release id conn) := by
  unfold Pool.release
  split
  · exact k.hold _ (k.note _ (k.giveBack h)) trivial
  · rename_i idle hidle
    split
    · exact k.hold _ (k.note _ (k.note _ (k.notifyAll h))) trivial
    · rename_i hout
      split
      · rename_i hroom
        exact k.finish _ _ (k.note _ (k.store conn h hidle hout hroom))
      · exact k.hold _ (k.note _ (k.note _ (k.giveBack h))) trivial

theorem shutdown (k : Kept I) (h : I p) : I (p.shutdown id) := by
  unfold Pool.shutdown
  split
  · exact k.finish _ _ h
  · exact k.drain (k.note _ (k.close h)) _

theorem leave (k : Kept I) (h : I p) (conn : ConnId) (canSpawn : Bool) (task : CallId) :
    I (p.leave conn canSpawn task) := by
  cases canSpawn with
  | false => exact k.note _ (k.note _ h)
  | true => exact k.hold _ h trivial

theorem cancel (k : Kept I) (h : I p) {w : Option Patience} {stage : AcquireStage}
    (hid : p.call? id = some (.acquire w stage)) (canSpawn : Bool) (task : CallId) :
    I (p.cancel id canSpawn task stage) := by
  have hfin := k.finish id .cancelled h
  cases stage with
  | pinging e =>
    simp only [Pool.cancel, reclaim]
    split
    · exact k.leave (k.giveBack hfin) _ _ _
    · rename_i idle hidle
      split
      · rename_i hroom
        exact k.restore h hid hidle hroom
      · exact k.leave (k.giveBack hfin) _ _ _
  | evicting conn => exact k.giveBack hfin
  | dialing => exact k.giveBack hfin
  | parked => exact hfin

/-- What every update keeps, every event keeps. -/
theorem step (k : Kept I) {e : Event} (h : I p) (hstep : p.step e = some q) : I q := by
  cases Move.of_step hstep with
  | acquire _ => exact k.look h none
  | acquirePatiently _ => exact k.look (k.listen _ h) _
  | release _ => exact k.release h _
  | discard _ => exact k.hold _ (k.note _ (k.giveBack h)) trivial
  | shutdown _ => exact k.shutdown h
  | dialed _ => exact k.afterDial h _
  | pinged _ => exact k.afterPing h _ _ _
  | evicted _ => exact k.look (k.giveBack (k.sayCloseFailed h _)) _
  | released _ | discarded _ => exact k.finish _ _ (k.sayCloseFailed h _)
  | drained _ => exact k.drain (k.sayCloseFailed h _) _
  | tidied _ => exact k.finish _ _ h
  | tidiedBadly _ => exact k.finish _ _ (k.note _ h)
  | retry _ _ => exact k.look (k.listen _ h) _
  | expire _ _ _ => exact k.finish _ _ h
  | cancel hid _ => exact k.cancel h hid _ _
  | tidy _ => exact k.hold _ (k.note _ h) trivial
  | pass => exact k.pass _ h

/-- What every update keeps and a fresh pool has, every reachable pool has. -/
theorem reachable (k : Kept I) {r : PoolRequest} (h : Reachable r q)
    (hfresh : ∀ p entries, Fresh r p entries → I p) : I q :=
  h.induct hfresh fun _ _ _ hp hstep => k.step hp hstep

end Kept
end PooledTcp.Pool
