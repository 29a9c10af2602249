import Mathlib.Data.List.Induction
import PooledTcp.Proofs.Pool.Capacity
import PooledTcp.Proofs.Pool.Counters
import PooledTcp.Proofs.Pool.Fates

/-!
# An acquire that runs alone

While nobody else does anything, an acquire is moved on by the answers of the factory and by time alone. It
takes one entry after the other from the front of the queue, evicts those that are too old when it takes them
and those whose ping fails, and goes on until an entry is fit or the queue is empty. `Course` says of any point
on this way what was asked of the factory and in which order, what the factory answered, when the acquire
looked, and what is left of the queue and of the slots; `Point` is where the acquire stands, in flight or ended.

The answers are a script: any results, any delays. A step of the acquire is either an answer that leaves it with
the entry it has, or the end of a close, after which it looks again (`Cleared.look`).
-/

namespace PooledTcp

/-- An idle entry is too old to be handed out. A timeout of zero is none. -/
def IdleEntry.TooOld (timeout : Duration) (now : Nat) (x : IdleEntry) : Prop :=
  timeout.nanos ≠ 0 ∧ timeout.nanos < now - x.returnedAt

namespace Pool

/-- Whether the event answers operation `id`, or time passes. -/
def Event.isReply (id : CallId) : Event → Bool
  | .dialed i _ | .pinged i _ | .closed i _ => i == id
  | .pass _ => true
  | _ => false

def Event.isPass : Event → Bool
  | .pass _ => true
  | _ => false

/-- The events less the passing of time. -/
def answersIn (es : List Event) : List Event := es.filter (!·.isPass)

/-- What was asked of the factory, and by whom, first call first. -/
def asked (p : Pool) : List (CallId × FactoryCall) := p.history.reverse.filterMap (·.call?)

/-- The clock, if an acquire looks for a connection. -/
def lookTimes (p : Pool) (e : Event) : List Nat := (p.looker? e).toList.map fun _ => p.now

/-- What is asked about an entry that is evicted, with the failure of its ping if it was pinged. -/
def evictionCalls (x : IdleEntry) (pingFailure : Option IoError) : List FactoryCall :=
  pingFailure.toList.map (fun _ => .ping x.conn) ++ [.close x.conn]

/-- The answer to a ping that failed, if there was one. -/
def pingAnswers (id : CallId) (pingFailure : Option IoError) : List Event :=
  pingFailure.toList.map fun cause => .pinged id (some cause)

/-- An entry that an acquire passed over. -/
structure Skip where
  entry : IdleEntry
  /-- When the acquire took it from the queue. -/
  takenAt : Nat
  /-- How its ping failed; `none` if it was not pinged. -/
  pingFailure : Option IoError
  /-- How its close failed, if it did. -/
  closeFailure : Option IoError

def Skip.calls (k : Skip) : List FactoryCall := evictionCalls k.entry k.pingFailure

def Skip.answers (id : CallId) (k : Skip) : List Event :=
  pingAnswers id k.pingFailure ++ [.closed id k.closeFailure]

/-- It was passed over without a ping if it was too old when it was taken, else because its ping failed. -/
def Skip.Due (limits : PoolLimits) (k : Skip) : Prop :=
  k.pingFailure = none ↔ k.entry.TooOld limits.idleTimeout k.takenAt

/-- Where an acquire stands once it has passed over some entries. -/
inductive Point where
  | pinging (x : IdleEntry)
  /-- `x` is being closed, for its age or after its ping failed. -/
  | closing (x : IdleEntry) (pingFailure : Option IoError)
  | dialing
  /-- It returned the connection of `x`. -/
  | reused (x : IdleEntry)
  /-- It returned a new connection. -/
  | opened (conn : ConnId)
  | failed (cause : IoError)
  | exhausted

namespace Point

/-- The entry that the acquire has, or had last. -/
def taken : Point → List IdleEntry
  | pinging x | closing x _ | reused x => [x]
  | _ => []

/-- What it asked since it looked last. -/
def calls : Point → List FactoryCall
  | pinging x | reused x => [.ping x.conn]
  | closing x pingFailure => evictionCalls x pingFailure
  | dialing | opened _ | failed _ => [.dial]
  | exhausted => []

/-- What was answered since it looked last. -/
def answers (id : CallId) : Point → List Event
  | closing _ pingFailure => pingAnswers id pingFailure
  | reused _ => [.pinged id none]
  | opened conn => [.dialed id (.ok conn)]
  | failed cause => [.dialed id (.error cause)]
  | pinging _ | dialing | exhausted => []

/-- How many slots more are taken than before the acquire. -/
def slots : Point → Nat
  | failed _ | exhausted => 0
  | _ => 1

/-- Why it is there, if it looked last at `lookedAt` and left `rest` of the queue. -/
def Decided (p : Pool) (queue rest : List IdleEntry) (lookedAt : Nat) : Point → Prop
  | pinging x | reused x => ¬x.TooOld p.limits.idleTimeout lookedAt
  | closing x pingFailure => pingFailure = none ↔ x.TooOld p.limits.idleTimeout lookedAt
  | dialing | opened _ | failed _ => rest = [] ∧ p.checkedOut < p.limits.maxConns
  | exhausted => queue = [] ∧ p.checkedOut = p.limits.maxConns

/-- The operation in flight, if it has not ended. -/
def call? : Point → Option Call
  | pinging x => some (.acquire none (.pinging x))
  | closing x _ => some (.acquire none (.evicting x.conn))
  | dialing => some (.acquire none .dialing)
  | _ => none

/-- What it returned, if it has ended. -/
def result? : Point → Option (Except PoolError ConnId)
  | reused x => some (.ok x.conn)
  | opened conn => some (.ok conn)
  | failed cause => some (.error (.factory cause))
  | exhausted => some (.error .exhausted)
  | _ => none

/-- The event is an answer to what the acquire waits for. -/
def Awaits (id : CallId) : Point → Event → Prop
  | pinging _, .pinged i _ | closing _ _, .closed i _ | dialing, .dialed i _ => i = id
  | _, _ => False

end Point

/-- An acquire that began in `p`, alone, has passed over `skips`, and is about to look again. -/
structure Cleared (p : Pool) (id : CallId) (queue : List IdleEntry) (skips : List Skip)
    (rest : List IdleEntry) (es : List Event) (looks : List Nat) (q : Pool) : Prop where
  limits : q.limits = p.limits
  entries : queue = skips.map (·.entry) ++ rest
  idle : q.idle = some rest
  due : ∀ k ∈ skips, k.Due p.limits
  looks : looks = skips.map (·.takenAt)
  answers : answersIn es = skips.flatMap (·.answers id)
  asked : q.asked = p.asked ++ (skips.flatMap (·.calls)).map (id, ·)
  checkedOut : q.checkedOut = p.checkedOut

/-- An acquire that began in `p`, alone, has passed over `skips`, looked last at `lookedAt`, and stands at
`point` after the events `es`. -/
structure Course (p : Pool) (id : CallId) (queue : List IdleEntry) (skips : List Skip)
    (lookedAt : Nat) (point : Point) (rest : List IdleEntry) (es : List Event) (looks : List Nat)
    (q : Pool) : Prop where
  limits : q.limits = p.limits
  decided : point.Decided p queue rest lookedAt
  /-- Entries are taken from the front, and those behind stay as they were. -/
  entries : queue = skips.map (·.entry) ++ (point.taken ++ rest)
  idle : q.idle = some rest
  due : ∀ k ∈ skips, k.Due p.limits
  /-- It looks once for each entry that it passed over, and once more. -/
  looks : looks = skips.map (·.takenAt) ++ [lookedAt]
  /-- What the factory answered is all that was answered, time apart. -/
  answers : answersIn es = skips.flatMap (·.answers id) ++ point.answers id
  asked : q.asked = p.asked ++ (skips.flatMap (·.calls) ++ point.calls).map (id, ·)
  checkedOut : q.checkedOut = p.checkedOut + point.slots
  call : q.call? id = point.call?
  result : ∀ res ∈ point.result?, q.answer? id = some (.acquired res)

variable {r : PoolRequest} {p q s t : Pool} {id : CallId} {queue rest : List IdleEntry}
  {skips : List Skip} {lookedAt : Nat} {point : Point} {es : List Event} {looks : List Nat} {e : Event}

theorem isStale_iff {x : IdleEntry} :
    p.isStale x = true ↔ x.TooOld p.limits.idleTimeout p.now := by
  simp [isStale, IdleEntry.TooOld, Duration.isZero]

theorem not_isStale_iff {x : IdleEntry} :
    p.isStale x = false ↔ ¬x.TooOld p.limits.idleTimeout p.now := by
  rw [← isStale_iff, Bool.not_eq_true]

theorem answersIn_concat (he : e.isPass = false) (es : List Event) :
    answersIn (es ++ [e]) = answersIn es ++ [e] := by
  simp [answersIn, he]

theorem answersIn_pass (es : List Event) (nanos : Nat) :
    answersIn (es ++ [.pass nanos]) = answersIn es :=
  (List.filter_append _ _).trans (List.append_nil _)

/-- What was noted since tells what was asked since. -/
theorem asked_of_history (news : List Note) (h : q.history = news ++ p.history) :
    q.asked = p.asked ++ (news.filterMap (·.call?)).reverse := by
  rw [asked, h, List.reverse_append, List.filterMap_append, List.filterMap_reverse (l := news)]
  rfl

section Look

/-- The acquire has looked, and nothing was answered since. -/
theorem Cleared.course (h : Cleared p id queue skips rest es looks s) {rest' : List IdleEntry}
    (hlimits : q.limits = s.limits) (hrest : rest = point.taken ++ rest') (hidle : q.idle = some rest')
    (hdecided : point.Decided p queue rest' s.now) (hanswers : point.answers id = [])
    (hasked : q.asked = s.asked ++ point.calls.map (id, ·))
    (hout : q.checkedOut = s.checkedOut + point.slots) (hcall : q.call? id = point.call?)
    (hresult : ∀ res ∈ point.result?, q.answer? id = some (.acquired res)) :
    Course p id queue skips s.now point rest' es (looks ++ [s.now]) q where
  limits := hlimits.trans h.limits
  decided := hdecided
  entries := hrest ▸ h.entries
  idle := hidle
  due := h.due
  looks := by rw [h.looks]
  answers := by rw [hanswers, List.append_nil, h.answers]
  asked := by rw [hasked, h.asked, List.map_append, List.append_assoc]
  checkedOut := by rw [hout, h.checkedOut]
  call := hcall
  result := hresult

/-- An acquire that looks takes the front of the queue, or a slot, or ends. It finds the pool full only if
it passed over nothing: where an entry was taken from the queue there is a slot. -/
theorem Cleared.look (h : Cleared p id queue skips rest es looks s)
    (hroom : p.checkedOut + queue.length ≤ p.limits.maxConns) :
    ∃ point rest', Course p id queue skips s.now point rest' es (looks ++ [s.now]) (s.look id none) := by
  have hlooked := s.looked id none
  generalize s.look id none = q at hlooked ⊢
  cases hlooked with
  | refused hclosed => cases h.idle.symm.trans hclosed
  | rejected hempty hfull =>
    obtain rfl : rest = [] := Option.some.inj (h.idle.symm.trans hempty)
    rw [h.limits, h.checkedOut] at hfull
    have hnone : queue = [] := List.eq_nil_of_length_eq_zero (by omega)
    have hend := ended_finish (s.note .exhausted) id (.acquired (.error .exhausted))
    exact ⟨.exhausted, [], h.course rfl rfl hempty ⟨hnone, by omega⟩ rfl
      (asked_of_history [.answered id (.acquired (.error .exhausted)), .exhausted] rfl) rfl hend.1
      fun _ hres => by cases hres; exact hend.2⟩
  | dials hempty hfree =>
    obtain rfl : rest = [] := Option.some.inj (h.idle.symm.trans hempty)
    rw [h.limits, h.checkedOut] at hfree
    exact ⟨.dialing, [], h.course rfl rfl hempty ⟨rfl, hfree⟩ rfl
      (asked_of_history [.called id .dial] rfl) rfl (call?_hold_self _ _ _) fun _ hres => by cases hres⟩
  | @evicts _ x behind hfront hold =>
    obtain rfl : rest = x :: behind := Option.some.inj (h.idle.symm.trans hfront)
    have hwhy : x.TooOld p.limits.idleTimeout s.now := h.limits ▸ isStale_iff.1 hold
    exact ⟨.closing x none, behind, h.course rfl rfl rfl (iff_of_true rfl hwhy) rfl
      (asked_of_history [.called id (.close x.conn), .evicted .stale,
        .logged (.evictingStale (Clock.span x.returnedAt s.now)), .idleLength behind.length] rfl) rfl
      (call?_hold_self _ _ _) fun _ hres => by cases hres⟩
  | @pings _ x behind hfront hyoung =>
    obtain rfl : rest = x :: behind := Option.some.inj (h.idle.symm.trans hfront)
    have hwhy : ¬x.TooOld p.limits.idleTimeout s.now := h.limits ▸ not_isStale_iff.1 hyoung
    exact ⟨.pinging x, behind, h.course rfl rfl rfl hwhy rfl
      (asked_of_history [.called id (.ping x.conn), .idleLength behind.length] rfl) rfl
      (call?_hold_self _ _ _) fun _ hres => by cases hres⟩

end Look

section Step

variable {point' : Point} {x : IdleEntry} {pingFailure failure : Option IoError}
  {result : Except IoError ConnId}

/-- An answer that leaves the acquire with what it took from the queue. -/
theorem Course.turn (h : Course p id queue skips lookedAt point rest es looks q)
    (hlimits : t.limits = q.limits) (hidle : t.idle = q.idle) (htaken : point'.taken = point.taken)
    (hdecided : point'.Decided p queue rest lookedAt) (he : e.isPass = false)
    (hanswers : point'.answers id = point.answers id ++ [e]) {calls : List FactoryCall}
    (hcalls : point'.calls = point.calls ++ calls) (hasked : t.asked = q.asked ++ calls.map (id, ·))
    (hout : t.checkedOut + point.slots = q.checkedOut + point'.slots)
    (hcall : t.call? id = point'.call?)
    (hresult : ∀ res ∈ point'.result?, t.answer? id = some (.acquired res)) :
    Course p id queue skips lookedAt point' rest (es ++ [e]) looks t where
  limits := hlimits.trans h.limits
  decided := hdecided
  entries := htaken ▸ h.entries
  idle := hidle.trans h.idle
  due := h.due
  looks := h.looks
  answers := by rw [answersIn_concat he, h.answers, hanswers, List.append_assoc]
  asked := by simp [hasked, h.asked, hcalls]
  checkedOut := by
    have hbefore := h.checkedOut
    omega
  call := hcall
  result := hresult

theorem Course.pinged (h : Course p id queue skips lookedAt (.pinging x) rest es looks q)
    (failure : Option IoError) : ∃ point',
    Course p id queue skips lookedAt point' rest (es ++ [.pinged id failure]) looks
      (q.afterPing id none x failure) := by
  cases failure with
  | none =>
    have hend := ended_finish ((q.say .reusing).note (.acquired .idle)) id (.acquired (.ok x.conn))
    exact ⟨.reused x, h.turn rfl rfl rfl h.decided rfl rfl rfl (asked_of_history
      [.answered id (.acquired (.ok x.conn)), .acquired .idle, .logged .reusing] rfl) rfl hend.1
      fun _ hres => by cases hres; exact hend.2⟩
  | some cause =>
    exact ⟨.closing x (some cause), h.turn rfl rfl rfl (iff_of_false nofun h.decided) rfl rfl rfl
      (asked_of_history [.called id (.close x.conn), .evicted .unhealthy, .logged (.unhealthy cause)]
        rfl) rfl (call?_hold_self _ _ _) fun _ hres => by cases hres⟩

theorem Course.dialed (h : Course p id queue skips lookedAt .dialing rest es looks q)
    (result : Except IoError ConnId) : ∃ point',
    Course p id queue skips lookedAt point' rest (es ++ [.dialed id result]) looks
      (q.afterDial id result) := by
  cases result with
  | ok conn =>
    have hend := ended_finish ((q.say .opened).note (.acquired .new)) id (.acquired (.ok conn))
    exact ⟨.opened conn, h.turn rfl rfl rfl h.decided rfl rfl rfl (asked_of_history
      [.answered id (.acquired (.ok conn)), .acquired .new, .logged .opened] rfl) rfl hend.1
      fun _ hres => by cases hres; exact hend.2⟩
  | error cause =>
    have hend : ((q.say (.dialFailed cause)).finish id
        (.acquired (.error (.factory cause)))).giveBack.Ended id _ := (ended_finish _ _ _).notifyAll
    refine ⟨.failed cause, h.turn rfl rfl rfl h.decided rfl rfl rfl (asked_of_history
      [.answered id (.acquired (.error (.factory cause))), .logged (.dialFailed cause)] rfl) ?_ hend.1
      fun _ hres => by cases hres; exact hend.2⟩
    have hout : q.checkedOut = p.checkedOut + 1 := h.checkedOut
    simp only [afterDial, giveBack, finish, say, freeSlot_frame, notifyAll_frame, note_frame,
      Point.slots]
    omega

/-- The entry that was being closed is passed over, and its slot is free. -/
theorem Course.closed (h : Course p id queue skips lookedAt (.closing x pingFailure) rest es looks q)
    (failure : Option IoError) :
    Cleared p id queue (skips ++ [⟨x, lookedAt, pingFailure, failure⟩]) rest (es ++ [.closed id failure])
      looks (q.sayCloseFailed failure).giveBack where
  limits := by
    rw [sayCloseFailed_eq]
    exact h.limits
  entries := by simpa [Point.taken] using h.entries
  idle := by
    rw [sayCloseFailed_eq]
    exact h.idle
  due k hk := by
    rcases List.mem_append.1 hk with hk | hk
    · exact h.due k hk
    · obtain rfl := List.mem_singleton.1 hk
      exact h.decided
  looks := by simpa using h.looks
  answers := by
    rw [answersIn_concat rfl, h.answers]
    simp [Point.answers, Skip.answers]
  asked := by
    have hsame : (q.sayCloseFailed failure).giveBack.asked = q.asked := by
      rw [sayCloseFailed_eq]
      cases failure with
      | none => rfl
      | some cause => exact (asked_of_history [.logged (.closeFailed cause)] rfl).trans (List.append_nil _)
    rw [hsame, h.asked]
    simp [Point.calls, Skip.calls]
  checkedOut := by
    have hout : q.checkedOut = p.checkedOut + 1 := h.checkedOut
    simp [sayCloseFailed_eq, hout]

theorem Course.pass (h : Course p id queue skips lookedAt point rest es looks q) (nanos : Nat) :
    Course p id queue skips lookedAt point rest (es ++ [.pass nanos]) looks
      { q with now := q.now + nanos } where
  limits := h.limits
  decided := h.decided
  entries := h.entries
  idle := h.idle
  due := h.due
  looks := h.looks
  answers := (answersIn_pass es nanos).trans h.answers
  asked := h.asked
  checkedOut := h.checkedOut
  call := h.call
  result := h.result

/-- Every answer leads on, and so does the passing of time. -/
theorem Course.step (h : Course p id queue skips lookedAt point rest es looks q)
    (hroom : p.checkedOut + queue.length ≤ p.limits.maxConns) (hstep : q.step e = some t)
    (halone : e.isReply id) : ∃ skips' lookedAt' point' rest',
    Course p id queue skips' lookedAt' point' rest' (es ++ [e]) (looks ++ q.lookTimes e) t := by
  have hcall := h.call
  cases Move.of_step hstep with
  | @dialed i result w hid =>
    obtain rfl : i = id := eq_of_beq halone
    have hquiet : looks ++ q.lookTimes (.dialed i result) = looks := List.append_nil looks
    rw [hid] at hcall
    rw [hquiet]
    cases point with
    | dialing =>
      obtain ⟨point', h'⟩ := h.dialed result
      exact ⟨skips, lookedAt, point', rest, h'⟩
    | _ => cases hcall
  | @pinged i failure w x hid =>
    obtain rfl : i = id := eq_of_beq halone
    have hquiet : looks ++ q.lookTimes (.pinged i failure) = looks := List.append_nil looks
    rw [hid] at hcall
    rw [hquiet]
    cases point with
    | pinging y =>
      cases hcall
      obtain ⟨point', h'⟩ := h.pinged failure
      exact ⟨skips, lookedAt, point', rest, h'⟩
    | _ => cases hcall
  | @evicted i failure w conn hid =>
    obtain rfl : i = id := eq_of_beq halone
    have hlooks : q.lookTimes (.closed i failure) = [q.now] := by simp [lookTimes, looker?, hid]
    have hnow : (q.sayCloseFailed failure).giveBack.now = q.now := by simp [sayCloseFailed_eq]
    rw [hid] at hcall
    cases point with
    | closing x pingFailure =>
      cases hcall
      have hpatience := patienceOf_giveBack ((call?_sayCloseFailed q failure i).trans hid)
      obtain ⟨point', rest', h'⟩ := (h.closed failure).look hroom
      rw [hnow, ← hpatience] at h'
      rw [hlooks]
      exact ⟨_, _, point', rest', h'⟩
    | _ => cases hcall
  | @pass nanos =>
    have hquiet : looks ++ q.lookTimes (.pass nanos) = looks := List.append_nil looks
    rw [hquiet]
    exact ⟨skips, lookedAt, point, rest, h.pass nanos⟩
  | released hid | discarded hid | drained hid | tidied hid | tidiedBadly hid =>
    obtain rfl := eq_of_beq halone
    rw [hid] at hcall
    cases point <;> cases hcall
  | _ => cases halone

/-- An acquire that begins is about to look for the first time. -/
theorem Cleared.begin (hidle : p.idle = some queue) : Cleared p id queue [] queue [] [] p where
  limits := rfl
  entries := rfl
  idle := hidle
  due _ hk := absurd hk List.not_mem_nil
  looks := rfl
  answers := rfl
  asked := (List.append_nil _).symm
  checkedOut := rfl

/-- From its first look on, whatever the factory answers and however long it takes. -/
theorem course_of_run (hroom : p.checkedOut + queue.length ≤ p.limits.maxConns)
    (hidle : p.idle = some queue) (hrun : Run step p (.acquire id none :: es) q)
    (halone : ∀ e ∈ es, e.isReply id) : ∃ skips lookedAt point rest,
    Course p id queue skips lookedAt point rest es
      (along step lookTimes p (.acquire id none :: es)) q := by
  induction es using List.reverseRecOn generalizing q with
  | nil =>
    have hfirst := hrun.single
    cases Move.of_step hfirst with
    | acquire hid =>
      obtain ⟨point, rest, h⟩ := (Cleared.begin hidle).look hroom
      exact ⟨[], p.now, point, rest, by simpa [along, hfirst, lookTimes, looker?] using h⟩
  | append_singleton es e ih =>
    rw [← List.cons_append] at hrun ⊢
    obtain ⟨u, hu, hstep⟩ := hrun.split_last
    obtain ⟨skips, lookedAt, point, rest, h⟩ := ih hu fun f hf => halone f (List.mem_append_left _ hf)
    rw [hu.along_concat]
    exact h.step hroom hstep (halone e (by simp))

end Step

section Bounds

theorem Skip.length_answers_le (id : CallId) (k : Skip) : (k.answers id).length ≤ 2 := by
  unfold Skip.answers pingAnswers
  cases k.pingFailure <;> simp

theorem Point.length_answers_le (id : CallId) (point : Point) : (point.answers id).length ≤ 1 := by
  cases point with
  | closing x pingFailure => cases pingFailure <;> simp [answers, pingAnswers]
  | _ => simp [answers]

/-- It looks no more than once for each entry of the queue, and once more. -/
theorem Course.length_looks_le (h : Course p id queue skips lookedAt point rest es looks q) :
    looks.length ≤ queue.length + 1 := by
  rw [h.looks, h.entries]
  simp only [List.length_append, List.length_map, List.length_singleton]
  omega

theorem length_answers_le (id : CallId) (skips : List Skip) :
    (skips.flatMap (·.answers id)).length ≤ 2 * skips.length := by
  induction skips with
  | nil => exact Nat.le_refl 0
  | cons k skips ih =>
    have hone := k.length_answers_le id
    rw [List.flatMap_cons, List.length_append, List.length_cons]
    omega

/-- At most two answers are about an entry, and one more is about the dial or the entry that it returns. -/
theorem Course.length_answers_le (h : Course p id queue skips lookedAt point rest es looks q) :
    (answersIn es).length ≤ 2 * queue.length + 1 := by
  have hskips := Pool.length_answers_le id skips
  have hpoint := point.length_answers_le id
  have hqueue := congrArg List.length h.entries
  simp only [List.length_append, List.length_map] at hqueue
  rw [h.answers, List.length_append]
  omega

/-- An acquire that has not ended waits for an answer, and goes on with any. -/
theorem Course.goes_on (h : Course p id queue skips lookedAt point rest es looks q)
    (hpoint : point.result? = none) :
    (∃ e, point.Awaits id e) ∧ ∀ e, point.Awaits id e → ∃ t, q.step e = some t := by
  have hcall := h.call
  cases point with
  | pinging x =>
    refine ⟨⟨.pinged id none, rfl⟩, fun e he => ?_⟩
    cases e with
    | pinged i failure =>
      obtain rfl : i = id := he
      exact ⟨_, by simp only [Pool.step, hcall, Point.call?]; rfl⟩
    | _ => exact he.elim
  | closing x pingFailure =>
    refine ⟨⟨.closed id none, rfl⟩, fun e he => ?_⟩
    cases e with
    | closed i failure =>
      obtain rfl : i = id := he
      exact ⟨_, by simp only [Pool.step, hcall, Point.call?]; rfl⟩
    | _ => exact he.elim
  | dialing =>
    refine ⟨⟨.dialed id (.ok 0), rfl⟩, fun e he => ?_⟩
    cases e with
    | dialed i result =>
      obtain rfl : i = id := he
      exact ⟨_, by simp only [Pool.step, hcall, Point.call?]; rfl⟩
    | _ => exact he.elim
  | _ => cases hpoint

end Bounds

/-- An acquire that runs alone in a pool that is not shut down examines the queue from the front. It passes
over an entry without a ping exactly if it is too old when it is taken, and after a ping exactly if the ping
fails; each of them is closed once, in the order of the queue, whatever the close comes to. It returns the
first entry that is fit and leaves those behind it as they were, or, if there is none, what its only dial
comes to; and it finds the pool full only with an empty queue and every slot taken. The slots are as before if
it fails, else one more is taken. It looks no more than once for each entry and once more, and until it ends it
waits for an answer and goes on with any. -/
theorem acquire_alone (hreach : Reachable r p) (hidle : p.idle = some queue)
    (hrun : Run step p (.acquire id none :: es) q) (halone : ∀ e ∈ es, e.isReply id) :
    ∃ skips lookedAt point rest,
      Course p id queue skips lookedAt point rest es
        (along step lookTimes p (.acquire id none :: es)) q ∧
      (along step lookTimes p (.acquire id none :: es)).length ≤ queue.length + 1 ∧
      (answersIn es).length ≤ 2 * queue.length + 1 ∧
      (point.result? = none →
        (∃ e, point.Awaits id e) ∧ ∀ e, point.Awaits id e → ∃ t, q.step e = some t) := by
  obtain ⟨hlimits, -, htotal⟩ := hreach.capacity
  rw [idleCount_eq hidle, ← hlimits] at htotal
  obtain ⟨skips, lookedAt, point, rest, h⟩ := course_of_run htotal hidle hrun halone
  exact ⟨skips, lookedAt, point, rest, h, h.length_looks_le, h.length_answers_le, h.goes_on⟩

/-- Three idle connections and a timeout of ten: the first one is too old at once, the ping of the second one
fails, and when its close ends at last the third one is nearly too old, and is returned. -/
theorem acquire_alone_third_of_three : ∃ p q es,
    Reachable ⟨3, 3, 3, ⟨10, by decide⟩⟩ p ∧ p.idle = some [⟨0, 0⟩, ⟨1, 5⟩, ⟨2, 5⟩] ∧
    Run step p (.acquire 1 none :: es) q ∧ (∀ e ∈ es, e.isReply 1) ∧
    q.asked = p.asked ++ [(1, .close 0), (1, .ping 1), (1, .close 1), (1, .ping 2)] ∧
    q.Ended 1 (.acquired (.ok 2)) ∧ q.idle = some [] ∧ q.checkedOut = 1 ∧
    ∃ skips lookedAt point rest, Course p 1 [⟨0, 0⟩, ⟨1, 5⟩, ⟨2, 5⟩] skips lookedAt point rest es
      [11, 12, 15] q := by
  have hopen := Opened.of_foldlM (r := ⟨3, 3, 3, ⟨10, by decide⟩⟩)
    [.dialed (.ok 0), .pass 5, .dialed (.ok 1), .dialed (.ok 2)] rfl
  have hlater := hopen.start.further [.pass 6] rfl
  have hreach := hopen.reachable hlater
  have hrun := hlater.further [.acquire 1 none, .pass 1, .closed 1 (some (.raised .other "reset")),
    .pinged 1 (some (.raised .other "gone")), .pass 3, .closed 1 none, .pinged 1 none] rfl
  obtain ⟨skips, lookedAt, point, rest, h, -, -, -⟩ := acquire_alone hreach rfl hrun (by decide)
  exact ⟨_, _, _, hreach, rfl, hrun, by decide, rfl, ⟨rfl, rfl⟩, rfl, rfl, skips, lookedAt, point, rest,
    h⟩

end Pool
end PooledTcp
