import PooledTcp.Proofs.Pool.QueueOrder
import PooledTcp.Proofs.Pool.Stock

/-!
# What becomes of the entries that acquires take from the queue

An acquire takes the front of the queue and pings it, unless it is too old. From then on it has the entry
until something is decided about it: it is handed out, or evicted because it is too old or its ping failed,
or the acquire is given up and the entry goes back to the queue, is left to a task, or is dropped. `takes` and
`verdicts` read off an event what is taken and what is decided. That this is what happens to the queue and to
the entries is said by `Moved`, of the pools before and after the event (`moved_step`).
-/

namespace PooledTcp.Pool

/-- What becomes of an entry that an acquire took from the queue. -/
inductive Fate where
  /-- The acquire returns its connection. -/
  | reused
  /-- The acquire closes it and looks again. -/
  | evicted (reason : Eviction)
  /-- The acquire is given up, and the entry goes back to the front of the queue. -/
  | restored
  /-- The acquire is given up, and a task closes its connection. -/
  | left
  /-- The acquire is given up, and nobody closes its connection. -/
  | dropped
  deriving DecidableEq, Repr

/-- An entry about which something is decided, and the acquire that took it. -/
structure Verdict where
  taken : CallId × IdleEntry
  fate : Fate
  deriving DecidableEq, Repr

/-- The acquire and the connection. -/
def Verdict.conn (s : Verdict) : CallId × ConnId := (s.taken.1, s.taken.2.conn)

/-- What came to that end. -/
def withFate (f : Fate) (verdicts : List Verdict) : List Verdict := verdicts.filter (·.fate = f)

/-- What was evicted, for either reason. -/
def evictions (verdicts : List Verdict) : List Verdict :=
  verdicts.filter fun s => s.fate = .evicted .stale ∨ s.fate = .evicted .unhealthy

/-- The operation that looks for a connection. -/
def looker? (p : Pool) : Event → Option CallId
  | .acquire id _ | .retry id => some id
  | .closed id _ =>
    match p.call? id with
    | some (.acquire _ (.evicting _)) => some id
    | _ => none
  | _ => none

/-- The front of the queue, for operation `id`. -/
def front (p : Pool) (id : CallId) : List (CallId × IdleEntry) :=
  match p.idle with
  | some (x :: _) => [(id, x)]
  | _ => []

/-- The entry that an event takes from the queue, and the acquire that it takes it for. -/
def takes (p : Pool) (e : Event) : List (CallId × IdleEntry) := (p.looker? e).elim [] p.front

/-- The entry that operation `id` pings. -/
def pinging (id : CallId) (c : Call) : List (CallId × IdleEntry) := c.pinged?.toList.map (id, ·)

/-- The entries that are pinged, and the acquires that have them. -/
def pings (p : Pool) : List (CallId × IdleEntry) := gather pinging p

/-- Whether the queue takes one entry more. -/
def hasRoom (p : Pool) : Bool :=
  match p.idle with
  | some idle => decide (idle.length < p.limits.maxIdle)
  | none => false

/-- What becomes of the entry of an acquire that is given up. -/
def fateOfGivenUp (p : Pool) (canSpawn : Bool) : Fate :=
  if p.hasRoom then .restored else if canSpawn then .left else .dropped

/-- What an event decides about the entries that were taken. -/
def verdicts (p : Pool) : Event → List Verdict
  | .pinged id none => (gatherOf pinging p id).map (⟨·, .reused⟩)
  | .pinged id (some _) => (gatherOf pinging p id).map (⟨·, .evicted .unhealthy⟩)
  | .cancel id canSpawn _ => (gatherOf pinging p id).map (⟨·, p.fateOfGivenUp canSpawn⟩)
  | e => ((p.takes e).filter (p.isStale ·.2)).map (⟨·, .evicted .stale⟩)

/-- That an entry came to that end, told by the pools before and after the event that decided it. -/
inductive Becomes (p q : Pool) (id : CallId) (x : IdleEntry) : Fate → Prop where
  | reused : q.Ended id (.acquired (.ok x.conn)) → Becomes p q id x .reused
  | stale {w : Option Patience} : p.isStale x = true →
    q.call? id = some (.acquire w (.evicting x.conn)) → Becomes p q id x (.evicted .stale)
  | unhealthy {w : Option Patience} : p.call? id = some (.acquire w (.pinging x)) →
    q.call? id = some (.acquire w (.evicting x.conn)) → Becomes p q id x (.evicted .unhealthy)
  | restored {idle : List IdleEntry} : q.Ended id .cancelled → p.idle = some idle →
    q.idle = some (x :: idle) → Becomes p q id x .restored
  | left {task : CallId} : q.Ended id .cancelled → q.call? task = some (.abandoned x.conn) →
    Becomes p q id x .left
  | dropped : q.Ended id .cancelled → q.drops = x.conn :: p.drops → Becomes p q id x .dropped

/-- What an event takes and decides is what happens to the queue and to the entries. -/
structure Moved (p : Pool) (e : Event) (q : Pool) : Prop where
  taken : ∀ t ∈ p.takes e, ∃ rest, p.idle = some (t.2 :: rest) ∧ q.idle = some rest
  kept : p.takes e = [] → ∀ idle idle', p.idle = some idle → q.idle = some idle' → idle <:+: idle'
  settled : ∀ s ∈ p.verdicts e, Becomes p q s.taken.1 s.taken.2 s.fate

variable {p q : Pool} {id task : CallId} {e : Event}

/-- What an acquire that looks takes and finds too old. -/
def stales (p : Pool) (id : CallId) : List Verdict :=
  ((p.front id).filter (p.isStale ·.2)).map (⟨·, .evicted .stale⟩)

theorem front_congr (hidle : p.idle = q.idle) (id : CallId) : p.front id = q.front id := by
  rw [front, front, hidle]

theorem stales_congr (hidle : p.idle = q.idle) (hnow : p.now = q.now) (hlimits : p.limits = q.limits)
    (id : CallId) : p.stales id = q.stales id := by
  unfold stales isStale
  rw [front_congr hidle, hnow, hlimits]

/-- An event in which an acquire looks is for that acquire, and decides by age alone. -/
theorem of_looker (h : p.looker? e = some id) : e.ops = [id] ∧ p.verdicts e = p.stales id := by
  have hverdicts : ((p.takes e).filter (p.isStale ·.2)).map (Verdict.mk · (.evicted .stale)) =
      p.stales id := by
    rw [takes, h]
    rfl
  cases e with
  | acquire i _ | retry i =>
    obtain rfl := Option.some.inj h
    exact ⟨rfl, hverdicts⟩
  | closed i failure =>
    simp only [looker?] at h
    split at h
    · obtain rfl := Option.some.inj h
      exact ⟨rfl, hverdicts⟩
    · cases h
  | _ => cases h

/-- A ping that is given up: its entry goes back where there is room, and is left where there is none. -/
theorem reclaim_eq (p : Pool) (x : IdleEntry) (canSpawn : Bool) (task : CallId) :
    p.reclaim x canSpawn task =
      if p.hasRoom then { p.freeSlot with idle := some (x :: p.idle.getD []) }.notifyAll
      else p.giveBack.leave x.conn canSpawn task := by
  unfold reclaim hasRoom
  cases p.idle with
  | none => rfl
  | some idle =>
    by_cases hroom : idle.length < p.limits.maxIdle
    · simp [hroom]
    · simp [hroom]

theorem idle_look (p : Pool) (id : CallId) (w : Option Patience) :
    (p.look id w).idle = p.idle.map (·.tail) := by
  have h := p.looked id w
  generalize p.look id w = q at h ⊢
  cases h with
  | refused hidle | rejected hidle _ | parked hidle _ | dials hidle _ | evicts hidle _
  | pings hidle _ => simp [hidle, took]

theorem mem_front {t : CallId × IdleEntry} :
    t ∈ p.front id ↔ t.1 = id ∧ ∃ rest, p.idle = some (t.2 :: rest) := by
  obtain ⟨i, x⟩ := t
  unfold front
  split
  · rename_i y rest hidle
    simp [hidle, Prod.ext_iff, eq_comm]
  · rename_i hnone
    simp only [List.not_mem_nil, false_iff]
    rintro ⟨-, rest, hidle⟩
    exact hnone x rest hidle

/-- An acquire that finds the front of the queue too old closes it. -/
theorem call?_look {x : IdleEntry} {rest : List IdleEntry} (hfront : p.idle = some (x :: rest))
    (hold : p.isStale x = true) (id : CallId) (w : Option Patience) :
    (p.look id w).call? id = some (.acquire w (.evicting x.conn)) := by
  have h := p.looked id w
  generalize p.look id w = q at h ⊢
  cases h with
  | evicts hidle _ =>
    cases hfront.symm.trans hidle
    exact call?_hold_self _ _ _
  | pings hidle hstale =>
    cases hfront.symm.trans hidle
    cases hold.symm.trans hstale
  | refused hidle | rejected hidle _ | parked hidle _ | dials hidle _ => cases hfront.symm.trans hidle

theorem moved_look {s : Pool} {w : Option Patience} (hlooker : p.looker? e = some id)
    (hidle : s.idle = p.idle) (hnow : s.now = p.now) (hlimits : s.limits = p.limits) :
    Moved p e (s.look id w) := by
  obtain ⟨-, hverdicts⟩ := of_looker hlooker
  have htakes : p.takes e = p.front id := by simp [takes, hlooker]
  have hqueue : (s.look id w).idle = p.idle.map (·.tail) := by rw [idle_look, hidle]
  constructor
  · intro t ht
    rw [htakes] at ht
    obtain ⟨-, rest, hfront⟩ := mem_front.1 ht
    exact ⟨rest, hfront, by rw [hqueue, hfront]; rfl⟩
  · intro hnone idle idle' hp hq
    rw [hqueue, hp] at hq
    cases idle with
    | nil => exact List.nil_infix
    | cons x rest =>
      have hmem : (id, x) ∈ p.front id := mem_front.2 ⟨rfl, rest, hp⟩
      rw [← htakes, hnone] at hmem
      cases hmem
  · intro v hv
    rw [hverdicts] at hv
    obtain ⟨t, ht, rfl⟩ := List.mem_map.1 hv
    obtain ⟨ht, hold⟩ := List.mem_filter.1 ht
    obtain ⟨rfl, rest, hfront⟩ := mem_front.1 ht
    have hold' : s.isStale t.2 = true := by rwa [isStale, hnow, hlimits]
    exact .stale hold (call?_look (hidle.trans hfront) hold' _ w)

/-- An event that leaves the queue as it is and decides nothing. -/
theorem moved_quiet (htakes : p.takes e = []) (hverdicts : p.verdicts e = [])
    (hidle : q.idle = p.idle) : Moved p e q where
  taken t ht := by
    rw [htakes] at ht
    cases ht
  kept _ idle idle' hp hq := by
    obtain rfl := Option.some.inj (hp.symm.trans (hidle.symm.trans hq))
    exact List.infix_rfl
  settled v hv := by
    rw [hverdicts] at hv
    cases hv

theorem moved_cancel {w : Option Patience} {stage : AcquireStage}
    (hid : p.call? id = some (.acquire w stage)) (htask : p.call? task = none) (canSpawn : Bool) :
    Moved p (.cancel id canSpawn task) (p.cancel id canSpawn task stage) := by
  have hne : id ≠ task := by
    rintro rfl
    cases hid.symm.trans htask
  have hend := ended_cancel hne p canSpawn stage
  have hverdicts : p.verdicts (.cancel id canSpawn task) =
      (pinging id (.acquire w stage)).map (⟨·, p.fateOfGivenUp canSpawn⟩) := by
    rw [verdicts, gatherOf_of_call? hid]
  cases stage with
  | pinging x =>
    have hsame : (p.finish id .cancelled).hasRoom = p.hasRoom := rfl
    have hfate : p.fateOfGivenUp canSpawn =
      if p.hasRoom then .restored else if canSpawn then .left else .dropped := rfl
    rw [cancel, reclaim_eq, hsame] at hend ⊢
    refine ⟨fun _ ht => absurd ht List.not_mem_nil, fun _ idle idle' hp hq => ?_, fun v hv => ?_⟩
    · cases hroom : p.hasRoom with
      | true =>
        simp [hroom, hp] at hq
        exact hq ▸ (List.suffix_cons x idle).isInfix
      | false =>
        simp [hroom, hp] at hq
        exact hq ▸ List.infix_rfl
    · rw [hverdicts] at hv
      obtain rfl := List.mem_singleton.1 hv
      rw [hfate]
      cases hroom : p.hasRoom with
      | true =>
        rw [hroom] at hend
        cases hidle : p.idle with
        | none => simp [hasRoom, hidle] at hroom
        | some idle => exact .restored hend hidle (by simp [hidle])
      | false =>
        rw [hroom] at hend
        cases canSpawn with
        | true => exact .left hend (call?_hold_self _ _ _)
        | false => exact .dropped hend rfl
  | _ => exact moved_quiet rfl (by rw [hverdicts]; rfl) rfl

theorem moved_step (hstep : p.step e = some q) : Moved p e q := by
  cases Move.of_step hstep with
  | acquire _ | acquirePatiently _ | retry _ _ => exact moved_look rfl rfl rfl rfl
  | @evicted id failure w conn hid =>
    have hframe := sayCloseFailed_eq p failure
    exact moved_look (by simp [looker?, hid]) (by simp [hframe]) (by simp [hframe]) (by simp [hframe])
  | @release id conn hid =>
    refine ⟨fun _ ht => absurd ht List.not_mem_nil, fun _ idle idle' hp hq => ?_,
      fun _ hv => absurd hv List.not_mem_nil⟩
    simp only [release, hp] at hq
    split at hq
    · simp_all
    · split at hq
      · simp at hq
        exact hq ▸ (List.prefix_append _ _).isInfix
      · simp_all
  | @shutdown id hid =>
    refine ⟨fun _ ht => absurd ht List.not_mem_nil, fun _ idle idle' _ hq => ?_, fun _ hv => absurd hv List.not_mem_nil⟩
    cases idle_shutdown.symm.trans hq
  | @pinged id failure w x hid =>
    have hone : gatherOf pinging p id = [(id, x)] := gatherOf_of_call? hid
    refine ⟨fun _ ht => absurd ht List.not_mem_nil, fun _ idle idle' hp hq => ?_, fun v hv => ?_⟩
    · obtain rfl := Option.some.inj (hp.symm.trans ((idle_afterPing w x failure).symm.trans hq))
      exact List.infix_rfl
    · cases failure with
      | none =>
        rw [verdicts, hone] at hv
        obtain rfl := List.mem_singleton.1 hv
        exact .reused (ended_finish _ _ _)
      | some cause =>
        rw [verdicts, hone] at hv
        obtain rfl := List.mem_singleton.1 hv
        exact .unhealthy hid (call?_hold_self _ _ _)
  | cancel hid htask => exact moved_cancel hid htask _
  | released hid | discarded hid | drained hid | tidied hid | tidiedBadly hid =>
    refine moved_quiet (by simp [takes, looker?, hid]) (by simp [verdicts, takes, looker?, hid]) ?_
    simp
  | dialed _ | discard _ | expire _ _ _ | tidy _ | pass => exact moved_quiet rfl rfl (by simp)

end PooledTcp.Pool
