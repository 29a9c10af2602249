import PooledTcp.Keyed
import PooledTcp.Proofs.Pool.Moves

/-!
# What an event says, and what it leaves alone

An event acts for one operation, or for two where a task takes over what an abandoned acquire left. For any
other operation nothing is noted, and it waits where it waited; all that can happen to it is to be told of
something given back. And what is noted fits the pool: dials and pings begin while there is a queue, an
acquire is told that the pool is closed when it is, and a release fails as it was decided when it began.

`Within` says so of two pools, one small update after the other, and `within_step` of an event. What one
operation does on its way is read off the events that act for it.
-/

namespace PooledTcp.Pool

/-- The operations that an event acts for. -/
def Event.ops : Event → List CallId
  | .acquire id _ | .release id _ | .discard id _ | .shutdown id | .dialed id _ | .pinged id _
  | .closed id _ | .retry id | .expire id | .tidy id => [id]
  | .cancel id _ task => [id, task]
  | .pass _ => []

/-- The operation that the note is about. -/
def Note.author? : Note → Option CallId
  | .called id _ | .answered id _ => some id
  | _ => none

/-- Operation `id` is a release that will fail with `err`. -/
def Promises (p : Pool) (id : CallId) (err : PoolError) : Prop :=
  ∃ conn, p.call? id = some (.release conn (.error err))

/-- What the note says of the pool is so. -/
def Note.Fits (p : Pool) : Note → Prop
  | .called _ .dial | .called _ (.ping _) => p.idle ≠ none
  | .answered _ (.acquired (.error .closed)) => p.idle = none
  | .answered id (.released (.error err)) => p.Promises id err
  | _ => True

/-- The operations in flight other than `ops`. -/
def apart (p : Pool) (ops : List CallId) : List (CallId × Call) := p.calls.filter (·.1 ∉ ops)

/-- Whoever is in `calls` is told that something was given back. -/
def tell (calls : List (CallId × Call)) : List (CallId × Call) :=
  calls.map fun x => (x.1, x.2.notify)

/-- `q` came of `p` by updates for the operations `ops` alone, with notes that fit `p`. -/
structure Within (ops : List CallId) (p q : Pool) : Prop where
  calls : q.apart ops = p.apart ops ∨ q.apart ops = tell (p.apart ops)
  notes : ∃ news, q.history = news ++ p.history ∧
    ∀ n ∈ news, (∀ i, n.author? = some i → i ∈ ops) ∧ n.Fits p

variable {p q : Pool} {ops : List CallId} {id i : CallId} {e : Event} {c : Call} {n : Note}

theorem lookup_tell (calls : List (CallId × Call)) (id : CallId) :
    (tell calls).lookup id = (calls.lookup id).map Call.notify := by
  induction calls with
  | nil => rfl
  | cons x calls ih =>
    obtain ⟨i, c⟩ := x
    simp only [tell, List.map_cons, List.lookup_cons]
    cases id == i with
    | true => rfl
    | false => exact ih

/-- Whoever is told stays what he is. -/
theorem call?_notifyAll (p : Pool) (id : CallId) :
    p.notifyAll.call? id = (p.call? id).map Call.notify :=
  lookup_tell p.calls id

/-- An operation other than `ops` is found among them. -/
theorem lookup_apart (p : Pool) {ops : List CallId} (h : i ∉ ops) :
    (p.apart ops).lookup i = p.call? i := by
  unfold apart call?
  induction p.calls with
  | nil => rfl
  | cons x calls ih =>
    obtain ⟨j, c⟩ := x
    by_cases hj : j ∈ ops
    · have hne : (i == j) = false := beq_false_of_ne (by rintro rfl; exact h hj)
      rw [List.filter_cons_of_neg (by simpa using hj), ih, List.lookup_cons, hne]
    · rw [List.filter_cons_of_pos (by simpa using hj), List.lookup_cons, List.lookup_cons, ih]

/-- Leaving out one of the operations that are left out anyway changes nothing. -/
theorem apart_others (p : Pool) {ops : List CallId} (h : id ∈ ops) :
    (p.others id).filter (·.1 ∉ ops) = p.apart ops := by
  rw [others, apart, List.filter_filter]
  refine List.filter_congr fun x _ => ?_
  by_cases hx : x.1 ∈ ops
  · simp [hx]
  · have hne : x.1 ≠ id := by
      rintro rfl
      exact hx h
    simp [hx, hne]

theorem apart_hold (p : Pool) {ops : List CallId} (h : id ∈ ops) (c : Call) :
    (p.hold id c).apart ops = p.apart ops :=
  (List.filter_cons_of_neg (by simpa using h)).trans (p.apart_others h)

theorem apart_notifyAll (p : Pool) (ops : List CallId) :
    p.notifyAll.apart ops = tell (p.apart ops) :=
  List.filter_map

@[simp] theorem Call.notify_notify (c : Call) : c.notify.notify = c.notify := by
  cases c with
  | acquire w stage => cases w <;> rfl
  | _ => rfl

theorem call?_hold_self (p : Pool) (id : CallId) (c : Call) : (p.hold id c).call? id = some c :=
  lookup_put_self id c p.calls

theorem call?_hold_of_ne (h : i ≠ id) (c : Call) : (p.hold id c).call? i = p.call? i :=
  lookup_put_of_ne h c p.calls

theorem call?_finish_of_ne (h : i ≠ id) (a : Answer) : (p.finish id a).call? i = p.call? i :=
  lookup_filter_of_ne h p.calls

theorem call?_finish_self (p : Pool) (id : CallId) (a : Answer) :
    (p.finish id a).call? id = none := by
  refine List.lookup_eq_none_iff.2 fun x hx => ?_
  have hne : x.1 ≠ id := bne_iff_ne.1 (List.mem_filter.1 hx).2
  exact bne_iff_ne.2 hne.symm

theorem answer?_finish (p : Pool) (id : CallId) (a : Answer) :
    (p.finish id a).answer? id = some a := by
  simp [answer?, Note.answerTo?]

namespace Within

theorem refl (p : Pool) : Within ops p p :=
  ⟨.inl rfl, [], rfl, fun _ hn => absurd hn List.not_mem_nil⟩

/-- Operations and history are all that counts. -/
theorem update (h : Within ops p q) (now checkedOut nextTicket : Nat)
    (idle : Option (List IdleEntry)) :
    Within ops p { q with now, checkedOut, idle, nextTicket } :=
  ⟨h.calls, h.notes⟩

theorem note (h : Within ops p q) (hn : ∀ i, n.author? = some i → i ∈ ops) (hfits : n.Fits p) :
    Within ops p (q.note n) := by
  refine ⟨h.calls, ?_⟩
  obtain ⟨news, hhist, hnews⟩ := h.notes
  refine ⟨n :: news, congrArg (n :: ·) hhist, fun m hm => ?_⟩
  rcases List.mem_cons.1 hm with rfl | hm
  · exact ⟨hn, hfits⟩
  · exact hnews m hm

/-- A note about no operation. -/
theorem remark (h : Within ops p q) (n : Note) (hn : n.author? = none) (hfits : n.Fits p) :
    Within ops p (q.note n) :=
  h.note (fun i hi => by rw [hn] at hi; cases hi) hfits

theorem say (h : Within ops p q) (x : Notice) : Within ops p (q.say x) :=
  h.remark (.logged x) rfl trivial

theorem request {conn : ConnId} (h : Within ops p q) (hid : id ∈ ops) :
    Within ops p (q.request id (.close conn)) :=
  h.note (fun i hi => by cases hi; exact hid) trivial

/-- A dial or a ping. -/
theorem probe {f : FactoryCall} (h : Within ops p q) (hid : id ∈ ops) (hsome : p.idle ≠ none) :
    Within ops p (q.request id f) := by
  refine h.note (fun i hi => by cases hi; exact hid) ?_
  cases f with
  | close conn => trivial
  | _ => exact hsome

theorem listen (h : Within ops p q) (deadline : Option Nat) :
    Within ops p (q.listen deadline).1 :=
  h.update _ _ _ _

theorem hold (h : Within ops p q) (hid : id ∈ ops) : Within ops p (q.hold id c) := by
  refine ⟨?_, h.notes⟩
  rw [apart_hold q hid]
  exact h.calls

theorem finish {a : Answer} (h : Within ops p q) (hid : id ∈ ops)
    (hfits : (Note.answered id a).Fits p) : Within ops p (q.finish id a) := by
  refine note (q := { q with calls := q.others id }) ⟨?_, h.notes⟩
    (fun i hi => by cases hi; exact hid) hfits
  rw [apart, q.apart_others hid]
  exact h.calls

theorem notifyAll (h : Within ops p q) : Within ops p q.notifyAll := by
  refine ⟨.inr ?_, h.notes⟩
  rw [apart_notifyAll]
  rcases h.calls with hq | hq
  · rw [hq]
  · rw [hq, tell, tell, List.map_map]
    exact List.map_congr_left fun x _ => congrArg (x.1, ·) x.2.notify_notify

theorem giveBack (h : Within ops p q) : Within ops p q.giveBack := (h.update _ _ _ _).notifyAll

theorem sayCloseFailed (h : Within ops p q) (failure : Option IoError) :
    Within ops p (q.sayCloseFailed failure) := by
  cases failure with
  | none => exact h
  | some cause => exact h.say _

theorem look (h : Within ops p q) (hid : id ∈ ops) (hsame : q.idle = p.idle)
    (w : Option Patience) : Within ops p (q.look id w) := by
  unfold Pool.look
  split
  · rename_i hnone
    exact h.finish hid (hsame.symm.trans hnone)
  · rename_i hempty
    have hsome : p.idle ≠ none := by simp [← hsame, hempty]
    split
    · cases w with
      | none => exact (h.remark .exhausted rfl trivial).finish hid trivial
      | some w => exact (h.remark .exhausted rfl trivial).hold hid
    · exact ((h.update _ _ _ _).probe hid hsome).hold hid
  · rename_i x rest hqueue
    have hsome : p.idle ≠ none := by simp [← hsame, hqueue]
    have htaken : Within ops p
        ({ q with idle := some rest, checkedOut := q.checkedOut + 1 }.note
          (.idleLength rest.length)) := (h.update _ _ _ _).remark _ rfl trivial
    dsimp only
    split
    · exact (((htaken.say _).remark (.evicted .stale) rfl trivial).request hid).hold hid
    · exact (htaken.probe hid hsome).hold hid

theorem afterPing (h : Within ops p q) (hid : id ∈ ops) (w : Option Patience) (x : IdleEntry)
    (failure : Option IoError) : Within ops p (q.afterPing id w x failure) := by
  cases failure with
  | none => exact ((h.say _).remark (.acquired .idle) rfl trivial).finish hid trivial
  | some cause => exact (((h.say _).remark (.evicted .unhealthy) rfl trivial).request hid).hold hid

theorem afterDial (h : Within ops p q) (hid : id ∈ ops) (result : Except IoError ConnId) :
    Within ops p (q.afterDial id result) := by
  cases result with
  | ok conn => exact ((h.say _).remark (.acquired .new) rfl trivial).finish hid trivial
  | error cause => exact ((h.say _).finish (a := .acquired (.error (.factory cause))) hid trivial).giveBack

theorem drain (h : Within ops p q) (hid : id ∈ ops) (rest : List IdleEntry) :
    Within ops p (q.drain id rest) := by
  cases rest with
  | nil => exact (h.remark (.idleLength 0) rfl trivial).finish hid trivial
  | cons x rest => exact (h.request hid).hold hid

theorem release (h : Within ops p q) (hid : id ∈ ops) (conn : ConnId) :
    Within ops p (q.release id conn) := by
  unfold Pool.release
  split
  · exact (h.giveBack.request hid).hold hid
  · split
    · exact ((h.notifyAll.say _).request hid).hold hid
    · split
      · exact ((h.update _ _ _ _).remark (.idleLength _) rfl trivial).notifyAll.finish hid trivial
      · exact ((h.giveBack.say _).request hid).hold hid

theorem shutdown (h : Within ops p q) (hid : id ∈ ops) : Within ops p (q.shutdown id) := by
  unfold Pool.shutdown
  split
  · exact h.finish hid trivial
  · exact ((h.update _ _ _ _).say _).notifyAll.drain hid _

theorem leave {task : CallId} (h : Within ops p q) (htask : task ∈ ops) (conn : ConnId)
    (canSpawn : Bool) : Within ops p (q.leave conn canSpawn task) := by
  cases canSpawn with
  | true => exact h.hold htask
  | false => exact (h.say _).remark (.dropped conn) rfl trivial

theorem cancel {task : CallId} (h : Within ops p q) (hid : id ∈ ops) (htask : task ∈ ops)
    (canSpawn : Bool) (stage : AcquireStage) :
    Within ops p (q.cancel id canSpawn task stage) := by
  have hfin : Within ops p (q.finish id .cancelled) := h.finish hid trivial
  cases stage with
  | pinging x =>
    simp only [Pool.cancel, reclaim]
    split
    · exact hfin.giveBack.leave htask _ _
    · split
      · exact (hfin.update _ _ _ _).notifyAll
      · exact hfin.giveBack.leave htask _ _
  | evicting conn => exact hfin.giveBack
  | dialing => exact hfin.giveBack
  | parked => exact hfin

end Within

/-- What a release answers when its close ends fits the pool. -/
theorem fits_released {conn : ConnId} {answer : Except PoolError Unit}
    (h : p.call? id = some (.release conn answer)) :
    (Note.answered id (.released answer)).Fits p := by
  cases answer with
  | ok _ => trivial
  | error err => exact ⟨conn, h⟩

/-- An event acts for its own operations, leaves all others alone, and notes what fits the pool. -/
theorem within_step (hstep : p.step e = some q) : Within e.ops p q := by
  have h : Within e.ops p p := .refl p
  have hself (i : CallId) : i ∈ [i] := List.mem_singleton_self i
  cases Move.of_step hstep with
  | acquire _ => exact h.look (hself _) rfl none
  | acquirePatiently _ => exact (h.listen _).look (hself _) rfl _
  | release _ => exact h.release (hself _) _
  | discard _ => exact (h.giveBack.request (hself _)).hold (hself _)
  | shutdown _ => exact h.shutdown (hself _)
  | dialed _ => exact h.afterDial (hself _) _
  | pinged _ => exact h.afterPing (hself _) _ _ _
  | evicted _ => exact (h.sayCloseFailed _).giveBack.look (hself _) (by simp [sayCloseFailed_eq]) _
  | released hid => exact (h.sayCloseFailed _).finish (hself _) (fits_released hid)
  | discarded _ => exact (h.sayCloseFailed _).finish (hself _) trivial
  | drained _ => exact (h.sayCloseFailed _).drain (hself _) _
  | tidied _ => exact h.finish (hself _) trivial
  | tidiedBadly _ => exact (h.say _).finish (hself _) trivial
  | retry _ _ => exact (h.listen _).look (hself _) rfl _
  | expire _ _ _ => exact h.finish (hself _) trivial
  | cancel _ _ => exact h.cancel (by simp [Event.ops]) (by simp [Event.ops]) _ _
  | tidy _ => exact (h.request (hself _)).hold (hself _)
  | pass => exact h.update _ _ _ _

/-- An operation that an event does not act for waits where it waited, and may be told. -/
theorem call?_of_notMem_ops (hstep : p.step e = some q) (hi : i ∉ e.ops) :
    q.call? i = p.call? i ∨ q.call? i = (p.call? i).map Call.notify := by
  rw [← lookup_apart q hi, ← lookup_apart p hi]
  rcases (within_step hstep).calls with h | h
  · exact .inl (congrArg (·.lookup i) h)
  · exact .inr ((congrArg (·.lookup i) h).trans (lookup_tell _ _))

/-- An operation that takes no notice of what is given back waits where it waited, unless the event
acts for it. -/
theorem call?_step (hstep : p.step e = some q) (hi : i ∉ e.ops) (hcall : p.call? i = some c)
    (hdeaf : c.notify = c) : q.call? i = some c := by
  rcases call?_of_notMem_ops hstep hi with h | h
  · exact h.trans hcall
  · rw [h, hcall, Option.map_some, hdeaf]

/-- No operation that is not in flight comes to be by an event that does not act for it. -/
theorem call?_step_none (hstep : p.step e = some q) (hi : i ∉ e.ops) (hcall : p.call? i = none) :
    q.call? i = none := by
  rcases call?_of_notMem_ops hstep hi with h | h <;> rw [h, hcall]
  rfl

/-- An operation gets its answer from an event that acts for it. -/
theorem answer?_step (hstep : p.step e = some q) (hi : i ∉ e.ops) :
    q.answer? i = p.answer? i := by
  obtain ⟨news, hhist, hnews⟩ := (within_step hstep).notes
  have hnone : news.findSome? (·.answerTo? i) = none := by
    refine List.findSome?_eq_none_iff.2 fun n hn => ?_
    cases n with
    | answered j a =>
      have hj : j ∈ e.ops := (hnews _ hn).1 j rfl
      have hne : j ≠ i := by
        rintro rfl
        exact hi hj
      exact if_neg hne
    | _ => rfl
  rw [answer?, hhist, List.findSome?_append, hnone, Option.none_or]
  rfl

end PooledTcp.Pool
