import PooledTcp.Proofs.Pool.Arrivals

/-!
# Where an acquired connection comes from

An acquire returns a connection that it took from the queue or one that it dialled. What it took was not too old
then, and it was with this acquire alone from that moment to the end of its ping; for a dial it found the queue empty
and a slot free (`Checked`).

An acquire in flight is moved on by what it finds when it looks (`Sought`) and by the answer to what it asked
(`Act`). `Hand` tells at each point what it has of the entries that it took, and whether it dialled; all other
entries that it took it passed to a close (`hand_run`).
-/

namespace PooledTcp.Pool

/-- How many slots are taken when the acquire looks that the event moves on. If it evicted an entry it has given back
its slot. -/
def slotsSeen (p : Pool) : Event → Nat
  | .closed _ _ => p.checkedOut - 1
  | _ => p.checkedOut

/-- What the acquire `id` finds that looks for a connection, and what it does about it. -/
inductive Sought (p : Pool) (e : Event) (id : CallId) (q : Pool) : Prop where
  | pings {w : Option Patience} {x : IdleEntry} {rest : List IdleEntry} : p.idle = some (x :: rest) →
    p.isStale x = false → q.idle = some rest → q.call? id = some (.acquire w (.pinging x)) →
    q.asked = p.asked ++ [(id, .ping x.conn)] → Sought p e id q
  | evicts {w : Option Patience} {x : IdleEntry} {rest : List IdleEntry} : p.idle = some (x :: rest) →
    q.call? id = some (.acquire w (.evicting x.conn)) →
    q.asked = p.asked ++ [(id, .close x.conn)] → Sought p e id q
  | dials {w : Option Patience} : p.idle = some [] → p.slotsSeen e < p.limits.maxConns →
    q.call? id = some (.acquire w .dialing) → q.asked = p.asked ++ [(id, .dial)] → Sought p e id q
  | parks {w : Option Patience} : p.front id = [] → q.call? id = some (.acquire w .parked) →
    q.asked = p.asked → Sought p e id q
  | fails {err : PoolError} : p.front id = [] → q.Ended id (.acquired (.error err)) → q.asked = p.asked →
    Sought p e id q

/-- The entry that an acquire has of those that it took, by the point at which it waits. -/
def AcquireStage.taken : AcquireStage → List IdleEntry
  | .pinging x => [x]
  | _ => []

def AcquireStage.dials : AcquireStage → Nat
  | .dialing => 1
  | _ => 0

/-- What an event does that acts for the acquire `id`. -/
inductive Act (p : Pool) (e : Event) (id : CallId) (q : Pool) : Prop where
  /-- It looks, at first or after a close or a wait. -/
  | looks : p.looker? e = some id →
    (∀ w stage, p.call? id = some (.acquire w stage) → stage.taken = [] ∧ stage.dials = 0) →
    Sought p e id q → Act p e id q
  /-- Its ping ended well. -/
  | reuses {w : Option Patience} {x : IdleEntry} : e = .pinged id none →
    p.call? id = some (.acquire w (.pinging x)) → q.Ended id (.acquired (.ok x.conn)) →
    q.asked = p.asked → Act p e id q
  /-- Its ping failed. -/
  | evicts {w w' : Option Patience} {x : IdleEntry} {cause : IoError} : e = .pinged id (some cause) →
    p.call? id = some (.acquire w (.pinging x)) → q.call? id = some (.acquire w' (.evicting x.conn)) →
    q.asked = p.asked ++ [(id, .close x.conn)] → Act p e id q
  /-- Its dial ended well. -/
  | opens {w : Option Patience} {conn : ConnId} : e = .dialed id (.ok conn) →
    p.call? id = some (.acquire w .dialing) → q.Ended id (.acquired (.ok conn)) → q.asked = p.asked →
    Act p e id q
  /-- Its dial failed, or its timer fired. -/
  | fails {w : Option Patience} {stage : AcquireStage} {err : PoolError} : p.takes e = [] →
    p.call? id = some (.acquire w stage) → stage.taken = [] → q.Ended id (.acquired (.error err)) →
    q.asked = p.asked → Act p e id q
  | givenUp {w : Option Patience} {stage : AcquireStage} : p.takes e = [] →
    p.call? id = some (.acquire w stage) → q.Ended id .cancelled → q.asked = p.asked → Act p e id q

/-- The entry that an acquire has of those that it took, if any, and how often it dialled. -/
inductive Hand (p : Pool) (id : CallId) : List IdleEntry → Nat → Prop where
  | waits {w : Option Patience} {stage : AcquireStage} : p.call? id = some (.acquire w stage) →
    Hand p id stage.taken stage.dials
  | returned {x : IdleEntry} : p.Ended id (.acquired (.ok x.conn)) → Hand p id [x] 0
  | ended {a : Answer} {dials : Nat} : p.Ended id a → dials ≤ 1 → Hand p id [] dials
  /-- It was given up during the ping of the entry. -/
  | givenUp {x : IdleEntry} : p.Ended id .cancelled → Hand p id [x] 0

/-- Of the entries that the acquire `id` took it has `held`, all others it passed to a close; and it dialled that
often. -/
structure Spent (p : Pool) (id : CallId) (es : List Event) (q : Pool) (held : List IdleEntry) (dials : Nat) :
    Prop where
  taken : ∃ closed, valuesOf id (along step takes p es) = closed ++ held ∧
    ∀ x ∈ closed, (id, .close x.conn) ∈ q.asked
  dialled : q.asked.count (id, .dial) = p.asked.count (id, .dial) + dials
  hand : Hand q id held dials

/-- How an acquire came by the connection that it returned. -/
inductive Checked (brought : List IdleEntry) (s₀ : Custody) (es₀ : List Event) (s : Custody) (id : CallId)
    (es : List Event) (t : Custody) : ConnId → Prop where
  /-- It took it from the queue with the event `f`, when it had arrived no longer ago than idle connections are kept,
  and pinged it. The ping ended well, and until then nobody else had the connection. -/
  | reused {fs gs hs : List Event} {f : Event} {u v y z : Custody} {x : IdleEntry} {rest : List IdleEntry} :
    es = fs ++ f :: (gs ++ .pinged id none :: hs) →
    Run Custody.step s fs u → u.step f = some v → Run Custody.step v gs y →
    y.step (.pinged id none) = some z → Run Custody.step z hs t →
    u.pool.looker? f = some id → u.pool.idle = some (x :: rest) → v.pool.idle = some rest →
    Custody.lastArrival brought s₀ (es₀ ++ fs) x.conn = some x.returnedAt →
    ¬x.TooOld u.pool.limits.idleTimeout u.pool.now →
    v.pool.asked = u.pool.asked ++ [(id, .ping x.conn)] →
    (∀ ps w, ps <+: gs → Run Custody.step v ps w → w.places x.conn = [.pinged id]) →
    z.pool.Ended id (.acquired (.ok x.conn)) → Checked brought s₀ es₀ s id es t x.conn
  /-- It saw an empty queue and a free slot with the event `f`, and dialled, and the dial brought it. -/
  | dialled {fs gs hs : List Event} {f : Event} {u v y z : Custody} {conn : ConnId} :
    es = fs ++ f :: (gs ++ .dialed id (.ok conn) :: hs) →
    Run Custody.step s fs u → u.step f = some v → Run Custody.step v gs y →
    y.step (.dialed id (.ok conn)) = some z → Run Custody.step z hs t →
    u.pool.looker? f = some id → u.pool.idle = some [] →
    u.pool.slotsSeen f < u.pool.limits.maxConns →
    v.pool.asked = u.pool.asked ++ [(id, .dial)] →
    z.pool.Ended id (.acquired (.ok conn)) → Checked brought s₀ es₀ s id es t conn

variable {p q s : Pool} {id task : CallId} {e : Event} {es : List Event} {w : Option Patience}
  {stage : AcquireStage} {held : List IdleEntry} {dials : Nat}

section Acts

/-- Notes that name no call of the factory ask for nothing. -/
theorem asked_of_silent (news : List Note) (hhist : q.history = news ++ p.history)
    (hsilent : news.filterMap (·.call?) = []) : q.asked = p.asked := by
  rw [asked_of_history news hhist, hsilent]
  exact List.append_nil _

theorem asked_sayCloseFailed (p : Pool) (failure : Option IoError) :
    (p.sayCloseFailed failure).asked = p.asked := by
  cases failure with
  | none => rfl
  | some cause => exact asked_of_silent [.logged (.closeFailed cause)] rfl rfl

theorem front_of_empty (h : p.idle = some []) (id : CallId) : p.front id = [] := by
  simp only [front, h]

theorem front_of_closed (h : p.idle = none) (id : CallId) : p.front id = [] := by
  simp only [front, h]

/-- What an acquire finds is told by the queue, the clock and the slots that it sees. -/
theorem sought_look (hidle : s.idle = p.idle) (hnow : s.now = p.now) (hlimits : s.limits = p.limits)
    (hslots : s.checkedOut = p.slotsSeen e) (hasked : s.asked = p.asked) (id : CallId) (w : Option Patience) :
    Sought p e id (s.look id w) := by
  have hstale (x : IdleEntry) : s.isStale x = p.isStale x := by rw [isStale, isStale, hnow, hlimits]
  have h := s.looked id w
  generalize s.look id w = q at h ⊢
  cases h with
  | refused hnone =>
    refine .fails (front_of_closed (hidle.symm.trans hnone) id) (ended_finish _ _ _) ?_
    rw [← hasked]
    exact asked_of_silent [.answered id (.acquired (.error .closed))] rfl rfl
  | rejected hempty _ =>
    refine .fails (front_of_empty (hidle.symm.trans hempty) id) (ended_finish _ _ _) ?_
    rw [← hasked]
    exact asked_of_silent [.answered id (.acquired (.error .exhausted)), .exhausted] rfl rfl
  | parked hempty _ =>
    refine .parks (front_of_empty (hidle.symm.trans hempty) id) (call?_hold_self _ _ _) ?_
    rw [← hasked]
    exact asked_of_silent [.exhausted] rfl rfl
  | dials hempty hfree =>
    rw [hslots, hlimits] at hfree
    refine .dials (hidle.symm.trans hempty) hfree (call?_hold_self _ _ _) ?_
    rw [← hasked]
    exact asked_of_history [.called id .dial] rfl
  | @evicts _ x rest hfront _ =>
    refine .evicts (hidle.symm.trans hfront) (call?_hold_self _ _ _) ?_
    rw [← hasked]
    exact asked_of_history [.called id (.close x.conn), .evicted .stale,
      .logged (.evictingStale (Clock.span x.returnedAt s.now)), .idleLength rest.length] rfl
  | @pings _ x rest hfront hfit =>
    refine .pings (hidle.symm.trans hfront) ((hstale x).symm.trans hfit) rfl (call?_hold_self _ _ _) ?_
    rw [← hasked]
    exact asked_of_history [.called id (.ping x.conn), .idleLength rest.length] rfl

theorem sought_listen {deadline : Option Nat} (hslots : p.checkedOut = p.slotsSeen e) (id : CallId)
    (w : Option Patience) : Sought p e id ((p.listen deadline).1.look id w) :=
  sought_look (p := p) (s := (p.listen deadline).1) rfl rfl rfl hslots rfl id w

theorem asked_cancel (p : Pool) (id task : CallId) (canSpawn : Bool) (stage : AcquireStage) :
    (p.cancel id canSpawn task stage).asked = p.asked := by
  cases stage with
  | pinging x =>
    simp only [cancel, reclaim, leave]
    split
    · cases canSpawn <;> simp [asked, Note.call?]
    · split
      · simp [asked, Note.call?]
      · cases canSpawn <;> simp [asked, Note.call?]
  | _ => simp [cancel, asked, Note.call?]

/-- An acquire that begins looks. -/
theorem act_begin {wait : Option Duration} (hstep : p.step (.acquire id wait) = some q) :
    Act p (.acquire id wait) id q := by
  cases Move.of_step hstep with
  | acquire hnone =>
    refine .looks rfl (fun w stage hid => ?_) (sought_look rfl rfl rfl rfl rfl id none)
    cases hnone.symm.trans hid
  | acquirePatiently hnone =>
    refine .looks rfl (fun w stage hid => ?_) (sought_listen rfl id _)
    cases hnone.symm.trans hid

/-- What can act for an acquire in flight. -/
theorem act_of_step (hstep : p.step e = some q) (hid : p.call? id = some (.acquire w stage))
    (hmem : id ∈ e.ops) : Act p e id q := by
  cases advance_of_step hstep hid hmem with
  | @dialed _ result =>
    cases result with
    | ok conn =>
      exact .opens rfl hid (ended_finish _ _ _) (asked_of_silent
        [.answered id (.acquired (.ok conn)), .acquired .new, .logged .opened] rfl rfl)
    | error cause =>
      have hend := ended_finish (p.say (.dialFailed cause)) id (.acquired (.error (.factory cause)))
      exact .fails rfl hid rfl hend.notifyAll (asked_of_silent
        [.answered id (.acquired (.error (.factory cause))), .logged (.dialFailed cause)] rfl rfl)
  | @pinged _ x failure =>
    cases failure with
    | none =>
      exact .reuses rfl hid (ended_finish _ _ _) (asked_of_silent
        [.answered id (.acquired (.ok x.conn)), .acquired .idle, .logged .reusing] rfl rfl)
    | some cause =>
      exact .evicts rfl hid (call?_hold_self _ _ _) (asked_of_history
        [.called id (.close x.conn), .evicted .unhealthy, .logged (.unhealthy cause)] rfl)
  | @evicted _ conn failure =>
    have hframe := sayCloseFailed_eq p failure
    refine .looks (by simp [looker?, hid]) (fun w stage hid' => ?_) (sought_look ?_ ?_ ?_ ?_ ?_ id _)
    · cases hid.symm.trans hid'
      exact ⟨rfl, rfl⟩
    · simp [hframe]
    · simp [hframe]
    · simp [hframe]
    · simp [hframe, slotsSeen]
    · exact asked_sayCloseFailed p failure
  | retry =>
    refine .looks rfl (fun w stage hid' => ?_) (sought_listen rfl id _)
    cases hid.symm.trans hid'
    exact ⟨rfl, rfl⟩
  | expire =>
    exact .fails rfl hid rfl (ended_finish _ _ _) (asked_of_silent
      [.answered id (.acquired (.error .exhausted))] rfl rfl)
  | @cancel _ _ canSpawn task hne _ =>
    exact .givenUp rfl hid (ended_cancel hne p canSpawn stage) (asked_cancel p id task canSpawn stage)

end Acts

section Spending

theorem mem_asked_step {c : CallId × FactoryCall} (hstep : p.step e = some q) (hc : c ∈ p.asked) :
    c ∈ q.asked := by
  obtain ⟨news, hhist⟩ := history_step hstep
  rw [asked_of_history news hhist.symm]
  exact List.mem_append_left _ hc

/-- An event that does not act for an operation asks nothing for it. -/
theorem count_asked_step {c : FactoryCall} (hstep : p.step e = some q) (hmem : id ∉ e.ops) :
    q.asked.count (id, c) = p.asked.count (id, c) := by
  obtain ⟨news, hhist, hnews⟩ := (within_step hstep).notes
  have hnone : (id, c) ∉ (news.filterMap (·.call?)).reverse := by
    intro hc
    obtain ⟨n, hn, hcall⟩ := List.mem_filterMap.1 (List.mem_reverse.1 hc)
    cases n with
    | called i d =>
      obtain ⟨rfl, -⟩ := Prod.mk.inj (Option.some.inj hcall)
      exact hmem ((hnews _ hn).1 i rfl)
    | _ => cases hcall
  rw [asked_of_history news hhist, List.count_append, List.count_eq_zero.2 hnone]
  rfl

/-- Nor does it take anything for it. -/
theorem takes_of_notMem_ops (hmem : id ∉ e.ops) : valuesOf id (p.takes e) = [] := by
  refine valuesOf_eq_nil fun t ht heq => ?_
  unfold takes at ht
  cases hlook : p.looker? e with
  | none =>
    rw [hlook] at ht
    cases ht
  | some i =>
    rw [hlook] at ht
    obtain ⟨rfl, -⟩ := mem_front.1 ht
    rw [(of_looker hlook).1] at hmem
    exact hmem (List.mem_singleton.2 heq.symm)

theorem valuesOf_front {x : IdleEntry} {rest : List IdleEntry} (hidle : p.idle = some (x :: rest)) :
    valuesOf id (p.front id) = [x] := by
  simp only [front, hidle]
  exact valuesOf_cons_self _ _ _

/-- What one event adds to what an acquire took and dialled. -/
def Adds (p : Pool) (e : Event) (id : CallId) (q : Pool) (held : List IdleEntry) (dials : Nat) : Prop :=
  ∃ closed held' dials', held ++ valuesOf id (p.takes e) = closed ++ held' ∧
    (∀ x ∈ closed, (id, .close x.conn) ∈ q.asked) ∧
    q.asked.count (id, .dial) + dials = p.asked.count (id, .dial) + dials' ∧ Hand q id held' dials'

theorem Sought.adds (h : Sought p e id q) (hlook : p.looker? e = some id) : Adds p e id q [] 0 := by
  have htakes : p.takes e = p.front id := by simp [takes, hlook]
  have hnone : ∀ x ∈ ([] : List IdleEntry), (id, .close x.conn) ∈ q.asked :=
    fun _ hx => absurd hx List.not_mem_nil
  rw [Adds, htakes]
  cases h with
  | @pings w x rest hidle _ _ hid hasked =>
    refine ⟨[], [x], 0, valuesOf_front hidle, hnone, ?_, .waits hid⟩
    simp [hasked]
  | @evicts w x rest hidle hid hasked =>
    refine ⟨[x], [], 0, by rw [valuesOf_front hidle]; rfl, ?_, ?_, .waits hid⟩
    · intro y hy
      obtain rfl := List.mem_singleton.1 hy
      simp [hasked]
    · simp [hasked]
  | dials hidle _ hid hasked =>
    refine ⟨[], [], 1, by rw [front_of_empty hidle]; rfl, hnone, ?_, .waits hid⟩
    simp [hasked]
  | parks hfront hid hasked =>
    exact ⟨[], [], 0, by rw [hfront]; rfl, hnone, by rw [hasked], .waits hid⟩
  | fails hfront hend hasked =>
    exact ⟨[], [], 0, by rw [hfront]; rfl, hnone, by rw [hasked], .ended hend (Nat.zero_le 1)⟩

theorem Hand.waits_or_ended (h : Hand p id held dials) :
    (∃ w stage, p.call? id = some (.acquire w stage)) ∨ ∃ a, p.Ended id a := by
  cases h with
  | waits hid => exact .inl ⟨_, _, hid⟩
  | returned hend | ended hend _ | givenUp hend => exact .inr ⟨_, hend⟩

/-- An acquire in flight has what belongs to the point at which it waits. -/
theorem Hand.eq_of_call? (h : Hand p id held dials) (hid : p.call? id = some (.acquire w stage)) :
    held = stage.taken ∧ dials = stage.dials := by
  cases h with
  | waits hid' =>
    cases hid.symm.trans hid'
    exact ⟨rfl, rfl⟩
  | returned hend | ended hend _ | givenUp hend => cases hid.symm.trans hend.1

theorem AcquireStage.dials_le (stage : AcquireStage) : stage.dials ≤ 1 := by
  cases stage <;> simp [AcquireStage.dials]

/-- An event that acts for an acquire in flight. -/
theorem Act.adds (h : Act p e id q) (hhand : Hand p id held dials)
    (hid : p.call? id = some (.acquire w stage)) : Adds p e id q held dials := by
  obtain ⟨rfl, rfl⟩ := hhand.eq_of_call? hid
  have hnone : ∀ x ∈ ([] : List IdleEntry), (id, .close x.conn) ∈ q.asked :=
    fun _ hx => absurd hx List.not_mem_nil
  cases h with
  | looks hlook hbetween hsought =>
    obtain ⟨htaken, hdials⟩ := hbetween _ _ hid
    rw [htaken, hdials]
    exact hsought.adds hlook
  | @reuses _ x he hid' hend hasked =>
    cases hid.symm.trans hid'
    subst he
    exact ⟨[], [x], 0, rfl, hnone, by rw [hasked]; rfl, .returned hend⟩
  | @evicts _ _ x cause he hid' hafter hasked =>
    cases hid.symm.trans hid'
    subst he
    refine ⟨[x], [], 0, rfl, ?_, ?_, .waits hafter⟩
    · intro y hy
      obtain rfl := List.mem_singleton.1 hy
      simp [hasked]
    · simp [hasked, AcquireStage.dials]
  | @opens _ conn he hid' hend hasked =>
    cases hid.symm.trans hid'
    subst he
    exact ⟨[], [], 1, rfl, hnone, by rw [hasked]; rfl, .ended hend (Nat.le_refl 1)⟩
  | fails htakes hid' htaken hend hasked =>
    cases hid.symm.trans hid'
    refine ⟨[], [], stage.dials, ?_, hnone, by rw [hasked], .ended hend stage.dials_le⟩
    rw [htaken, htakes]
    rfl
  | givenUp htakes hid' hend hasked =>
    cases hid.symm.trans hid'
    refine ⟨[], stage.taken, stage.dials, ?_, hnone, by rw [hasked], ?_⟩
    · rw [htakes]
      exact List.append_nil _
    · cases stage with
      | pinging x => exact .givenUp hend
      | dialing => exact .ended hend (Nat.le_refl 1)
      | _ => exact .ended hend (Nat.zero_le 1)

theorem Hand.step (h : Hand p id held dials) (hstep : p.step e = some q) (hnot : id ∉ e.begun) :
    Adds p e id q held dials := by
  by_cases hmem : id ∈ e.ops
  · rcases h.waits_or_ended with ⟨w, stage, hid⟩ | ⟨a, hend⟩
    · exact (act_of_step hstep hid hmem).adds h hid
    · exact absurd (mem_begun hstep hmem hend.1) hnot
  · refine ⟨[], held, dials, ?_, nofun, by rw [count_asked_step hstep hmem], ?_⟩
    · rw [takes_of_notMem_ops hmem]
      exact List.append_nil _
    · cases h with
      | waits hid =>
        rcases call?_of_notMem_ops hstep hmem with hsame | htold
        · exact .waits (hsame.trans hid)
        · rw [hid] at htold
          rename_i w stage
          cases w <;> exact .waits htold
      | returned hend => exact .returned (hend.stays hstep hnot)
      | ended hend hle => exact .ended (hend.stays hstep hnot) hle
      | givenUp hend => exact .givenUp (hend.stays hstep hnot)

/-- One event more. -/
theorem Spent.concat (h : Spent p id es q held dials) (hrun : Run Pool.step p es q)
    (hadds : Adds q e id s held dials) (hstep : q.step e = some s) :
    ∃ held dials, Spent p id (es ++ [e]) s held dials := by
  obtain ⟨closed, htaken, hclosed⟩ := h.taken
  obtain ⟨more, held', dials', hmore, hclosed', hdials, hhand⟩ := hadds
  refine ⟨held', dials', ⟨closed ++ more, ?_, ?_⟩, ?_, hhand⟩
  · rw [hrun.along_concat, valuesOf_append, htaken, List.append_assoc, hmore, List.append_assoc]
  · intro x hx
    rcases List.mem_append.1 hx with hx | hx
    · exact mem_asked_step hstep (hclosed x hx)
    · exact hclosed' x hx
  · have hbefore := h.dialled
    omega

/-- From the beginning of an acquire on. -/
theorem spent_run {wait : Option Duration} (hrun : Run Pool.step p (.acquire id wait :: es) q)
    (hnew : ∀ e ∈ es, id ∉ e.begun) : ∃ held dials, Spent p id (.acquire id wait :: es) q held dials := by
  cases hrun with
  | @cons _ u _ _ _ hfirst hrest =>
    -- the induction starts after the first look, which may take an entry itself
    have hone : Run Pool.step p [.acquire id wait] u := .cons hfirst (.nil u)
    have hbegin : ∃ held dials, Spent p id [.acquire id wait] u held dials := by
      cases act_begin hfirst with
      | looks hlook _ hsought =>
        obtain ⟨closed, held, dials, htaken, hclosed, hdials, hhand⟩ := hsought.adds hlook
        refine ⟨held, dials, ⟨closed, ?_, hclosed⟩, hdials, hhand⟩
        rw [← htaken]
        simp [along, hfirst]
      | reuses he _ _ _ | evicts he _ _ _ | opens he _ _ _ => cases he
      | fails _ hid _ _ _ | givenUp _ hid _ _ =>
        simp [Pool.step, hid] at hfirst
    refine (hrest.induction_last (P := fun fs v => (∀ e ∈ fs, id ∉ e.begun) →
      Run Pool.step p (.acquire id wait :: fs) v ∧
        ∃ held dials, Spent p id (.acquire id wait :: fs) v held dials) (fun _ => ⟨hone, hbegin⟩) ?_ hnew).2
    intro fs e v v' ih hstep hfs
    obtain ⟨hv, held, dials, hspent⟩ := ih fun f hf => hfs f (List.mem_append_left _ hf)
    have hnot := hfs e (List.mem_append_right _ (List.mem_singleton_self e))
    exact ⟨hv.append (.cons hstep (.nil v')), hspent.concat hv (hspent.hand.step hstep hnot) hstep⟩

end Spending

section Looks

/-- Where an acquire waits that an event does not act for, it waited. -/
theorem call?_before (hstep : p.step e = some q) (hmem : id ∉ e.ops)
    (hid : q.call? id = some (.acquire w stage)) : ∃ w', p.call? id = some (.acquire w' stage) := by
  rcases call?_of_notMem_ops hstep hmem with hsame | htold
  · exact ⟨w, hsame.symm.trans hid⟩
  · rw [hid] at htold
    obtain ⟨c, hc, hnotify⟩ := Option.map_eq_some_iff.1 htold.symm
    cases c with
    | acquire w' stage' => cases w' <;> cases hnotify <;> exact ⟨_, hc⟩
    | _ => cases hnotify

/-- An acquire that comes to ping looked and took the front of the queue. -/
theorem Act.took {x : IdleEntry} (h : Act p e id q) (hid : q.call? id = some (.acquire w (.pinging x))) :
    p.looker? e = some id ∧ ∃ rest, p.idle = some (x :: rest) ∧ p.isStale x = false ∧
      q.idle = some rest ∧ q.asked = p.asked ++ [(id, .ping x.conn)] := by
  cases h with
  | looks hlook _ hsought =>
    refine ⟨hlook, ?_⟩
    cases hsought with
    | pings hidle hstale hrest hid' hasked =>
      cases hid.symm.trans hid'
      exact ⟨_, hidle, hstale, hrest, hasked⟩
    | evicts _ hid' _ | dials _ _ hid' _ | parks _ hid' _ => cases hid.symm.trans hid'
    | fails _ hend _ => cases hid.symm.trans hend.1
  | evicts _ _ hid' _ => cases hid.symm.trans hid'
  | reuses _ _ hend _ | opens _ _ hend _ | fails _ _ _ hend _ | givenUp _ _ hend _ =>
    cases hid.symm.trans hend.1

/-- One that comes to dial looked and saw an empty queue and a free slot. -/
theorem Act.saw (h : Act p e id q) (hid : q.call? id = some (.acquire w .dialing)) :
    p.looker? e = some id ∧ p.idle = some [] ∧ p.slotsSeen e < p.limits.maxConns ∧
      q.asked = p.asked ++ [(id, .dial)] := by
  cases h with
  | looks hlook _ hsought =>
    refine ⟨hlook, ?_⟩
    cases hsought with
    | dials hidle hfree _ hasked => exact ⟨hidle, hfree, hasked⟩
    | pings _ _ _ hid' _ | evicts _ hid' _ | parks _ hid' _ => cases hid.symm.trans hid'
    | fails _ hend _ => cases hid.symm.trans hend.1
  | evicts _ _ hid' _ => cases hid.symm.trans hid'
  | reuses _ _ hend _ | opens _ _ hend _ | fails _ _ _ hend _ | givenUp _ _ hend _ =>
    cases hid.symm.trans hend.1

/-- An acquire that gets a connection waited for a ping or for a dial, and the event ends it well. -/
theorem Act.got {conn : ConnId} (h : Act p e id q) (hend : q.Ended id (.acquired (.ok conn))) :
    (∃ w x, e = .pinged id none ∧ p.call? id = some (.acquire w (.pinging x)) ∧ x.conn = conn) ∨
    ∃ w, e = .dialed id (.ok conn) ∧ p.call? id = some (.acquire w .dialing) := by
  have hsame {a : Answer} (hother : q.Ended id a) : a = .acquired (.ok conn) :=
    Option.some.inj (hother.2.symm.trans hend.2)
  cases h with
  | looks _ _ hsought =>
    cases hsought with
    | pings _ _ _ hid _ | evicts _ hid _ | dials _ _ hid _ | parks _ hid _ => cases hid.symm.trans hend.1
    | fails _ hother _ => cases hsame hother
  | reuses he hid hother _ =>
    cases hsame hother
    exact .inl ⟨_, _, he, hid, rfl⟩
  | evicts _ _ hid _ => cases hid.symm.trans hend.1
  | opens he hid hother _ =>
    cases hsame hother
    exact .inr ⟨_, he, hid⟩
  | fails _ _ _ hother _ | givenUp _ _ hother _ => cases hsame hother

/-- Whatever acts for the acquire of a run. -/
theorem act_of_run {wait : Option Duration} {fs gs : List Event} {f : Event}
    (hes : .acquire id wait :: es = fs ++ f :: gs) (hrun : Run Pool.step p fs q) (hstep : q.step f = some s)
    (hnew : ∀ e ∈ es, id ∉ e.begun) (hmem : id ∈ f.ops) : Act q f id s := by
  cases fs with
  | nil =>
    obtain ⟨rfl, -⟩ := List.cons.inj hes
    exact act_begin hstep
  | cons g fs =>
    obtain ⟨rfl, rfl⟩ := List.cons.inj hes
    obtain ⟨held, dials, hspent⟩ := spent_run hrun fun e he => hnew e (List.mem_append_left _ he)
    rcases hspent.hand.waits_or_ended with ⟨w, stage, hid⟩ | ⟨a, hend⟩
    · exact act_of_step hstep hid hmem
    · have hnot := hnew f (List.mem_append_right _ List.mem_cons_self)
      exact absurd (mem_begun hstep hmem hend.1) hnot

/-- Where an acquire waits, it came to wait by an event that acts for it, and has waited there ever since. -/
theorem waits_since {s y : Custody} {wait : Option Duration} (hrun : Run Custody.step s (.acquire id wait :: es) y)
    (hnew : ∀ e ∈ es, id ∉ e.begun) (hid : y.pool.call? id = some (.acquire w stage)) :
    ∃ fs f gs u v w', .acquire id wait :: es = fs ++ f :: gs ∧ Run Custody.step s fs u ∧ u.step f = some v ∧
      Run Custody.step v gs y ∧ Act u.pool f id v.pool ∧ v.pool.call? id = some (.acquire w' stage) ∧
      ∀ ps c, ps <+: gs → Run Custody.step v ps c → ∃ w, c.pool.call? id = some (.acquire w stage) := by
  have hbefore : ¬∃ w, s.pool.call? id = some (.acquire w stage) := by
    rintro ⟨w', hid'⟩
    cases hrun with
    | cons hfirst _ =>
      have hstep := (Custody.step_eq_some hfirst).2.1
      simp [Pool.step, hid'] at hstep
  obtain ⟨fs, f, gs, u, v, hes, hu, hstep, hnot, hgs, hheld⟩ :=
    hrun.since (P := fun c => ∃ w, c.pool.call? id = some (.acquire w stage)) hbefore ⟨w, hid⟩
  obtain ⟨w', hv⟩ := hheld [] v List.nil_prefix (.nil v)
  have hpool := (Custody.step_eq_some hstep).2.1
  -- nobody else moves an acquire on, so the event acts for it
  have hmem : id ∈ f.ops := Decidable.byContradiction fun hmem => hnot (call?_before hpool hmem hv)
  exact ⟨fs, f, gs, u, v, w', hes, hu, hstep, hgs, act_of_run hes (Custody.run_pool hu) hpool hnew hmem, hv,
    hheld⟩

theorem mem_places_of_pinging {s : Custody} {x : IdleEntry}
    (hid : s.pool.call? id = some (.acquire w (.pinging x))) : .pinged id ∈ s.places x.conn := by
  have hmem := mem_of_call? hid
  simp only [Custody.places, List.mem_append, List.mem_flatMap]
  exact .inl (.inr ⟨_, hmem, by simp [Call.place]⟩)

/-- What an acquire passed to a close is with that close. -/
theorem mem_places_of_asked {s : Custody} {conn : ConnId} (h : (id, .close conn) ∈ s.pool.asked) :
    .closed id ∈ s.places conn := by
  obtain ⟨n, hn, hcall⟩ := List.mem_filterMap.1 h
  cases n with
  | called i c =>
    cases hcall
    exact mem_places_of_note (List.mem_reverse.1 hn) (if_pos rfl)
  | _ => cases hcall

theorem Hand.dials_le (h : Hand p id held dials) : dials ≤ 1 := by
  cases h with
  | waits _ => exact AcquireStage.dials_le _
  | returned _ | givenUp _ => exact Nat.zero_le 1
  | ended _ hle => exact hle

end Looks

section Returns

variable {r : PoolRequest} {brought : List IdleEntry} {s₀ s t : Custody} {es₀ : List Event}
  {wait : Option Duration} {conn : ConnId}

/-- An acquire that got a connection got it from a ping or from a dial, and has it since. -/
theorem got_since (hrun : Run Custody.step s (.acquire id wait :: es) t) (hnew : ∀ e ∈ es, id ∉ e.begun)
    (hend : t.pool.Ended id (.acquired (.ok conn))) :
    ∃ gs e hs y z, es = gs ++ e :: hs ∧ Run Custody.step s (.acquire id wait :: gs) y ∧ y.step e = some z ∧
      Run Custody.step z hs t ∧ Act y.pool e id z.pool ∧ z.pool.Ended id (.acquired (.ok conn)) := by
  cases hrun with
  | @cons _ u _ _ _ hfirst hrest =>
    have hbegin := act_begin (Custody.step_eq_some hfirst).2.1
    have hbefore : ¬u.pool.Ended id (.acquired (.ok conn)) := by
      intro hearly
      rcases hbegin.got hearly with ⟨_, _, he, -⟩ | ⟨_, he, -⟩ <;> cases he
    obtain ⟨gs, e, hs, y, z, rfl, hgs, hstep, hnot, hhs, hheld⟩ :=
      hrest.since (P := fun c => c.pool.Ended id (.acquired (.ok conn))) hbefore hend
    have hz := hheld [] z List.nil_prefix (.nil z)
    have hy : Run Custody.step s (.acquire id wait :: gs) y := .cons hfirst hgs
    have hpool := (Custody.step_eq_some hstep).2.1
    have hmem : id ∈ e.ops := Decidable.byContradiction fun hmem => hnot (hz.before hpool hmem)
    have hes : Event.acquire id wait :: (gs ++ e :: hs) = (.acquire id wait :: gs) ++ e :: hs := rfl
    exact ⟨gs, e, hs, y, z, rfl, hy, hstep, hhs, act_of_run hes (Custody.run_pool hy) hpool hnew hmem, hz⟩

theorem checked_of_ended (hwarm : Custody.Warmed r brought s₀) (hrun₀ : Run Custody.step s₀ es₀ s)
    (hrun : Run Custody.step s (.acquire id wait :: es) t) (hnew : ∀ e ∈ es, id ∉ e.begun)
    (hend : t.pool.Ended id (.acquired (.ok conn))) :
    Checked brought s₀ es₀ s id (.acquire id wait :: es) t conn := by
  obtain ⟨ks, e, hs, y, z, rfl, hy, hlast, hhs, hact, hz⟩ := got_since hrun hnew hend
  have hnew' : ∀ f ∈ ks, id ∉ f.begun := fun f hf => hnew f (List.mem_append_left _ hf)
  rcases hact.got hz with ⟨w, x, rfl, hid, rfl⟩ | ⟨w, rfl, hid⟩
  -- it waited for the ping since it took the entry: the entry had been idle until then, in nobody's hands
  · obtain ⟨fs, f, gs, u, v, w', hes, hu, hlook, hgs, hact', hv, hheld⟩ := waits_since hy hnew' hid
    obtain ⟨hlooker, rest, hidle, hstale, hrest, hasked⟩ := hact'.took hv
    have hbefore := hrun₀.append hu
    have hentry : x ∈ u.pool.entries := mem_entries.2 (.inl (by simp [hidle]))
    have hevents : .acquire id wait :: (ks ++ .pinged id none :: hs) =
        fs ++ f :: (gs ++ .pinged id none :: hs) := by
      rw [← List.cons_append, hes]
      simp
    refine .reused hevents hu hlook hgs hlast hhs hlooker hidle hrest
      (hwarm.lastArrival_of_entry hbefore hentry) (not_isStale_iff.1 hstale) hasked ?_ hz
    intro ps c hps hc
    obtain ⟨w'', hpinging⟩ := hheld ps c hps hc
    have hbalanced := hwarm.begins.balanced.run (hbefore.append (.cons hlook hc))
    exact hbalanced.places_eq (mem_places_of_pinging hpinging)
  · obtain ⟨fs, f, gs, u, v, w', hes, hu, hlook, hgs, hact', hv, -⟩ := waits_since hy hnew' hid
    obtain ⟨hlooker, hidle, hfree, hasked⟩ := hact'.saw hv
    have hevents : .acquire id wait :: (ks ++ .dialed id (.ok conn) :: hs) =
        fs ++ f :: (gs ++ .dialed id (.ok conn) :: hs) := by
      rw [← List.cons_append, hes]
      simp
    exact .dialled hevents hu hlook hgs hlast hhs hlooker hidle hfree hasked hz

end Returns

/-- Callers keep to the rules. Then an acquire, patient or not, returns only what it checked, whatever others do in
the meantime: a connection that it took from the queue, that had arrived last, with the opening of the pool or by a
release, no longer ago than idle connections are kept, and that it pinged then with success while nobody else had it;
or one that it dialled when it saw an empty queue and a free slot. At any point of it, it dialled once at most, and
of the entries that it took all but the one that it pings, returned, or pinged when it was given up are closed by
it. -/
theorem acquired_connections_checked {r : PoolRequest} {brought : List IdleEntry} {s₀ s t : Custody}
    {es₀ : List Event} {wait : Option Duration} (hwarm : Custody.Warmed r brought s₀)
    (hrun₀ : Run Custody.step s₀ es₀ s) (hrun : Run Custody.step s (.acquire id wait :: es) t)
    (hnew : ∀ e ∈ es, id ∉ e.begun) :
    (∀ conn, t.pool.Ended id (.acquired (.ok conn)) →
      Checked brought s₀ es₀ s id (.acquire id wait :: es) t conn) ∧
    ∃ closed held dials, valuesOf id (along step takes s.pool (.acquire id wait :: es)) = closed ++ held ∧
      (∀ x ∈ closed, t.places x.conn = [.closed id]) ∧
      t.pool.asked.count (id, .dial) = s.pool.asked.count (id, .dial) + dials ∧ dials ≤ 1 ∧
      Hand t.pool id held dials := by
  refine ⟨fun conn => checked_of_ended hwarm hrun₀ hrun hnew, ?_⟩
  obtain ⟨held, dials, hspent⟩ := spent_run (Custody.run_pool hrun) hnew
  obtain ⟨closed, htaken, hclosed⟩ := hspent.taken
  have hbalanced := hwarm.begins.balanced.run (hrun₀.append hrun)
  exact ⟨closed, held, dials, htaken, fun x hx => hbalanced.places_eq (mem_places_of_asked (hclosed x hx)),
    hspent.dialled, hspent.hand.dials_le, hspent.hand⟩

/-- A pool of two with a timeout of ten; its connections arrived at 0 and at 5. An acquire pings the first one and is
given up at 11, which does not make the entry any younger: the next acquire closes it as too old, and returns the
second one. -/
theorem checked_after_cancelled_ping : ∃ s₀ s t,
    Custody.Warmed ⟨2, 2, 2, ⟨10, by decide⟩⟩ [⟨0, 0⟩, ⟨1, 5⟩] s₀ ∧
    Run Custody.step s₀ [.acquire 1 none, .pass 6, .cancel 1 true 3] s ∧
    s.pool.idle = some [⟨0, 0⟩, ⟨1, 5⟩] ∧
    Run Custody.step s [.acquire 2 none, .closed 2 none, .pinged 2 none] t ∧
    (∀ e ∈ [Event.closed 2 none, .pinged 2 none], 2 ∉ e.begun) ∧
    Checked [⟨0, 0⟩, ⟨1, 5⟩] s₀ [.acquire 1 none, .pass 6, .cancel 1 true 3] s 2
      [.acquire 2 none, .closed 2 none, .pinged 2 none] t 1 := by
  have hopen := Opened.of_foldlM (r := ⟨2, 2, 2, ⟨10, by decide⟩⟩)
    [.dialed (.ok 0), .pass 5, .dialed (.ok 1)] rfl
  have hbegin : Custody.Begins ⟨2, 2, 2, ⟨10, by decide⟩⟩ ⟨_, [0, 1], []⟩ :=
    ⟨hopen, by decide, rfl, rfl⟩
  have hwarm : Custody.Warmed ⟨2, 2, 2, ⟨10, by decide⟩⟩ [⟨0, 0⟩, ⟨1, 5⟩] ⟨_, [0, 1], []⟩ :=
    ⟨hbegin, "mem", true, 24, 0, _, [.dialed (.ok 0), .pass 5, .dialed (.ok 1)], _, rfl, .of_foldlM rfl,
      rfl, rfl⟩
  have hrun₀ := hbegin.start.further [.acquire 1 none, .pass 6, .cancel 1 true 3] rfl
  have hrun := hrun₀.further [.acquire 2 none, .closed 2 none, .pinged 2 none] rfl
  have hnew : ∀ e ∈ [Event.closed 2 none, .pinged 2 none], 2 ∉ e.begun := by decide
  obtain ⟨hchecked, -⟩ := acquired_connections_checked hwarm hrun₀ hrun hnew
  exact ⟨_, _, _, hwarm, hrun₀, rfl, hrun, hnew, hchecked 1 ⟨rfl, rfl⟩⟩

end PooledTcp.Pool
