import PooledTcp.Pool.Basic

/-!
# What a pool can do next

`Pool.step` refuses most events in most states. `Move` lists what is left, one constructor for each event
and each point at which an operation can wait for it; `Move.of_step` says that nothing else happens. What
holds of every run of a pool is proved by cases on `Move`, with one lemma for each operation that a move
performs.

Before it stand the fields of a pool after the small updates that all operations are made of.
-/

namespace PooledTcp.Pool

attribute [simp] say request finish giveBack others

/-- A note changes the history alone. -/
@[simp] theorem note_frame (p : Pool) (n : Note) :
    (p.note n).addr = p.addr ∧ (p.note n).limits = p.limits ∧ (p.note n).now = p.now ∧
      (p.note n).checkedOut = p.checkedOut ∧ (p.note n).idle = p.idle ∧
      (p.note n).calls = p.calls ∧ (p.note n).nextTicket = p.nextTicket ∧
      (p.note n).history = n :: p.history := by
  simp [note]

/-- An operation that waits at another point changes the operations alone. -/
@[simp] theorem hold_frame (p : Pool) (id : CallId) (c : Call) :
    (p.hold id c).addr = p.addr ∧ (p.hold id c).limits = p.limits ∧ (p.hold id c).now = p.now ∧
      (p.hold id c).checkedOut = p.checkedOut ∧ (p.hold id c).idle = p.idle ∧
      (p.hold id c).calls = (id, c) :: p.calls.filter (·.1 != id) ∧
      (p.hold id c).nextTicket = p.nextTicket ∧ (p.hold id c).history = p.history := by
  simp [hold]

/-- Telling everybody changes the operations alone. -/
@[simp] theorem notifyAll_frame (p : Pool) :
    p.notifyAll.addr = p.addr ∧ p.notifyAll.limits = p.limits ∧ p.notifyAll.now = p.now ∧
      p.notifyAll.checkedOut = p.checkedOut ∧ p.notifyAll.idle = p.idle ∧
      p.notifyAll.calls = p.calls.map (fun x => (x.1, x.2.notify)) ∧
      p.notifyAll.nextTicket = p.nextTicket ∧ p.notifyAll.history = p.history := by
  simp [notifyAll]

/-- A slot that is free again changes the count alone. -/
@[simp] theorem freeSlot_frame (p : Pool) :
    p.freeSlot.addr = p.addr ∧ p.freeSlot.limits = p.limits ∧ p.freeSlot.now = p.now ∧
      p.freeSlot.checkedOut = p.checkedOut - 1 ∧ p.freeSlot.idle = p.idle ∧
      p.freeSlot.calls = p.calls ∧ p.freeSlot.nextTicket = p.nextTicket ∧
      p.freeSlot.history = p.history := by
  simp [freeSlot]

/-- Beginning to listen takes a ticket and changes nothing else. -/
@[simp] theorem listen_frame (p : Pool) (deadline : Option Nat) :
    (p.listen deadline).1.addr = p.addr ∧ (p.listen deadline).1.limits = p.limits ∧
      (p.listen deadline).1.now = p.now ∧ (p.listen deadline).1.checkedOut = p.checkedOut ∧
      (p.listen deadline).1.idle = p.idle ∧ (p.listen deadline).1.calls = p.calls ∧
      (p.listen deadline).1.nextTicket = p.nextTicket + 1 ∧
      (p.listen deadline).1.history = p.history := by
  simp [listen]

/-- A close that failed is logged and changes nothing else. -/
theorem sayCloseFailed_eq (p : Pool) (failure : Option IoError) :
    p.sayCloseFailed failure =
      { p with history := failure.toList.map (fun c => Note.logged (.closeFailed c)) ++ p.history } := by
  cases failure <;> rfl

theorem call?_sayCloseFailed (p : Pool) (failure : Option IoError) (id : CallId) :
    (p.sayCloseFailed failure).call? id = p.call? id := by
  rw [sayCloseFailed_eq]
  rfl

/-- An operation that is found is in flight. -/
theorem mem_of_call? {p : Pool} {id : CallId} {c : Call} (h : p.call? id = some c) :
    (id, c) ∈ p.calls := by
  obtain ⟨l₁, l₂, hcalls, -⟩ := List.lookup_eq_some_iff.1 h
  rw [hcalls]
  exact List.mem_append_right _ List.mem_cons_self

/-- The pool from which an acquire took the front of the queue. -/
def took (p : Pool) (rest : List IdleEntry) : Pool :=
  { p with idle := some rest, checkedOut := p.checkedOut + 1 }.note (.idleLength rest.length)

/-- What an acquire that looks for a connection can find. -/
inductive Looked (p : Pool) (id : CallId) : Option Patience → Pool → Prop where
  | refused {w : Option Patience} : p.idle = none →
    Looked p id w (p.finish id (.acquired (.error .closed)))
  | rejected : p.idle = some [] → p.limits.maxConns ≤ p.checkedOut →
    Looked p id none ((p.note .exhausted).finish id (.acquired (.error .exhausted)))
  | parked {w : Patience} : p.idle = some [] → p.limits.maxConns ≤ p.checkedOut →
    Looked p id (some w) ((p.note .exhausted).hold id (.acquire (some w) .parked))
  | dials {w : Option Patience} : p.idle = some [] → p.checkedOut < p.limits.maxConns →
    Looked p id w (({ p with checkedOut := p.checkedOut + 1 }.request id .dial).hold id
      (.acquire w .dialing))
  | evicts {w : Option Patience} {x : IdleEntry} {rest : List IdleEntry} :
    p.idle = some (x :: rest) → p.isStale x = true →
    Looked p id w (((((p.took rest).say (.evictingStale (Clock.span x.returnedAt p.now))).note
      (.evicted .stale)).request id (.close x.conn)).hold id (.acquire w (.evicting x.conn)))
  | pings {w : Option Patience} {x : IdleEntry} {rest : List IdleEntry} :
    p.idle = some (x :: rest) → p.isStale x = false →
    Looked p id w (((p.took rest).request id (.ping x.conn)).hold id (.acquire w (.pinging x)))

/-- Nothing else is found. -/
theorem looked (p : Pool) (id : CallId) (w : Option Patience) : Looked p id w (p.look id w) := by
  unfold look
  split
  · rename_i hidle
    exact .refused hidle
  · rename_i hidle
    split
    · rename_i hfull
      cases w with
      | none => exact .rejected hidle hfull
      | some w => exact .parked hidle hfull
    · rename_i hfree
      exact .dials hidle (Nat.lt_of_not_le hfree)
  · rename_i x rest hidle
    -- whether the entry is too old depends on the clock and the limits alone
    have hsame : (p.took rest).isStale x = p.isStale x := rfl
    dsimp only
    split
    · rename_i hstale
      exact .evicts hidle (hsame.symm.trans hstale)
    · rename_i hstale
      exact .pings hidle (hsame.symm.trans (Bool.eq_false_iff.2 hstale))

/-- What an event can do to a pool, by the point at which the operation that it moves on waits. -/
inductive Move (p : Pool) : Event → Pool → Prop where
  | acquire {id : CallId} : p.call? id = none → Move p (.acquire id none) (p.look id none)
  | acquirePatiently {id : CallId} {wait : Duration} : p.call? id = none →
    Move p (.acquire id (some wait))
      ((p.listen (Clock.after? p.now wait)).1.look id (some (p.listen (Clock.after? p.now wait)).2))
  | release {id : CallId} {conn : ConnId} : p.call? id = none →
    Move p (.release id conn) (p.release id conn)
  | discard {id : CallId} {conn : ConnId} : p.call? id = none →
    Move p (.discard id conn) ((p.giveBack.request id (.close conn)).hold id (.discard conn))
  | shutdown {id : CallId} : p.call? id = none → Move p (.shutdown id) (p.shutdown id)
  | dialed {id : CallId} {result : Except IoError ConnId} {w : Option Patience} :
    p.call? id = some (.acquire w .dialing) → Move p (.dialed id result) (p.afterDial id result)
  | pinged {id : CallId} {failure : Option IoError} {w : Option Patience} {e : IdleEntry} :
    p.call? id = some (.acquire w (.pinging e)) →
    Move p (.pinged id failure) (p.afterPing id w e failure)
  | evicted {id : CallId} {failure : Option IoError} {w : Option Patience} {conn : ConnId} :
    p.call? id = some (.acquire w (.evicting conn)) →
    Move p (.closed id failure) ((p.sayCloseFailed failure).afterEviction id)
  | released {id : CallId} {failure : Option IoError} {conn : ConnId}
      {answer : Except PoolError Unit} :
    p.call? id = some (.release conn answer) →
    Move p (.closed id failure) ((p.sayCloseFailed failure).finish id (.released answer))
  | discarded {id : CallId} {failure : Option IoError} {conn : ConnId} :
    p.call? id = some (.discard conn) →
    Move p (.closed id failure) ((p.sayCloseFailed failure).finish id .discarded)
  | drained {id : CallId} {failure : Option IoError} {conn : ConnId} {rest : List IdleEntry} :
    p.call? id = some (.shutdown conn rest) →
    Move p (.closed id failure) ((p.sayCloseFailed failure).drain id rest)
  | tidied {id : CallId} {conn : ConnId} : p.call? id = some (.tidying conn) →
    Move p (.closed id none) (p.finish id .tidied)
  | tidiedBadly {id : CallId} {cause : IoError} {conn : ConnId} :
    p.call? id = some (.tidying conn) →
    Move p (.closed id (some cause)) ((p.say (.abandonedCloseFailed cause)).finish id .tidied)
  | retry {id : CallId} {w : Patience} :
    p.call? id = some (.acquire (some w) .parked) → w.notified = true →
    Move p (.retry id) ((p.listen w.deadline).1.look id (some (p.listen w.deadline).2))
  | expire {id : CallId} {w : Patience} :
    p.call? id = some (.acquire (some w) .parked) → w.notified = false →
    p.expired w.deadline = true →
    Move p (.expire id) (p.finish id (.acquired (.error .exhausted)))
  | cancel {id task : CallId} {canSpawn : Bool} {w : Option Patience} {stage : AcquireStage} :
    p.call? id = some (.acquire w stage) → p.call? task = none →
    Move p (.cancel id canSpawn task) (p.cancel id canSpawn task stage)
  | tidy {id : CallId} {conn : ConnId} : p.call? id = some (.abandoned conn) →
    Move p (.tidy id) ((p.request id (.close conn)).hold id (.tidying conn))
  | pass {nanos : Nat} : Move p (.pass nanos) { p with now := p.now + nanos }

/-- Nothing but a move happens. -/
theorem Move.of_step {p q : Pool} {e : Event} (h : p.step e = some q) : Move p e q := by
  cases e with
  | acquire id wait =>
    simp only [step] at h
    split at h
    · cases h
    · rename_i hid
      have hnone : p.call? id = none := Option.not_isSome_iff_eq_none.1 hid
      cases wait with
      | none => cases h; exact .acquire hnone
      | some d => cases h; exact .acquirePatiently hnone
  | release id conn =>
    simp only [step, Option.ite_none_left_eq_some, Option.some.injEq] at h
    obtain ⟨hid, rfl⟩ := h
    exact .release (Option.not_isSome_iff_eq_none.1 hid)
  | discard id conn =>
    simp only [step, Option.ite_none_left_eq_some, Option.some.injEq] at h
    obtain ⟨hid, rfl⟩ := h
    exact .discard (Option.not_isSome_iff_eq_none.1 hid)
  | shutdown id =>
    simp only [step, Option.ite_none_left_eq_some, Option.some.injEq] at h
    obtain ⟨hid, rfl⟩ := h
    exact .shutdown (Option.not_isSome_iff_eq_none.1 hid)
  | dialed id result =>
    simp only [step] at h
    split at h
    · rename_i hid; cases h; exact .dialed hid
    · cases h
  | pinged id failure =>
    simp only [step] at h
    split at h
    · rename_i hid; cases h; exact .pinged hid
    · cases h
  | closed id failure =>
    simp only [step] at h
    split at h
    · rename_i hid; cases h; exact .evicted hid
    · rename_i hid; cases h; exact .released hid
    · rename_i hid; cases h; exact .discarded hid
    · rename_i hid; cases h; exact .drained hid
    · rename_i hid
      cases failure with
      | none => cases h; exact .tidied hid
      | some cause => cases h; exact .tidiedBadly hid
    · cases h
  | retry id =>
    simp only [step] at h
    split at h
    · rename_i hid
      simp only [Option.ite_none_right_eq_some, Option.some.injEq] at h
      obtain ⟨hn, rfl⟩ := h
      exact .retry hid hn
    · cases h
  | expire id =>
    simp only [step] at h
    split at h
    · rename_i hid
      simp only [Option.ite_none_right_eq_some, Option.some.injEq, Bool.and_eq_true,
        Bool.not_eq_true'] at h
      obtain ⟨⟨hn, hx⟩, rfl⟩ := h
      exact .expire hid hn hx
    · cases h
  | cancel id canSpawn task =>
    simp only [step] at h
    split at h
    · rename_i hid
      simp only [Option.ite_none_left_eq_some, Option.some.injEq] at h
      obtain ⟨ht, rfl⟩ := h
      exact .cancel hid (Option.not_isSome_iff_eq_none.1 ht)
    · cases h
  | tidy id =>
    simp only [step] at h
    split at h
    · rename_i hid; cases h; exact .tidy hid
    · cases h
  | pass nanos => cases h; exact .pass

end PooledTcp.Pool
