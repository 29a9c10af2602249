import PooledTcp.Proofs.Pool.Kept

/-!
# The order of the idle queue

A release appends with the present time, so the queue is ordered by the times at which its entries came back,
oldest first, as long as entries leave at the front and come in at the back. An acquire that is given up
during its ping puts its entry back to the front with its old time. Alone it takes back the place it left.
But two acquires can ping at once: when the one with the older entry is given up first, the other one puts a
younger entry in front of it.

`queue_in_order_iff` says that nothing else disturbs the order: the queue is in order throughout a run exactly
when no acquire of the run is given up while it pings an entry younger than one that is idle
(`Overtakes`). `younger_handed_out_first` is the shortest run that does it.
-/

namespace PooledTcp.Pool

/-- Entries that came back earlier are nearer to the front. -/
def QueueInOrder (p : Pool) : Prop :=
  (p.idle.getD []).Pairwise fun a b => a.returnedAt ≤ b.returnedAt

/-- The event gives up an acquire during its ping, and there is room to put its entry back in front
of one that came back earlier. -/
def Overtakes (p : Pool) : Event → Prop
  | .cancel id _ _ => ∃ w x idle, p.call? id = some (.acquire w (.pinging x)) ∧
      p.idle = some idle ∧ idle.length < p.limits.maxIdle ∧ ∃ y ∈ idle, y.returnedAt < x.returnedAt
  | _ => False

/-- What an event does to the queue. -/
inductive QueueMove (p : Pool) : Event → Option (List IdleEntry) → Prop where
  | stays {e : Event} : QueueMove p e p.idle
  | taken {e : Event} {x : IdleEntry} {rest : List IdleEntry} : p.idle = some (x :: rest) →
    QueueMove p e (some rest)
  | stored {e : Event} {idle : List IdleEntry} {conn : ConnId} : p.idle = some idle →
    QueueMove p e (some (idle ++ [⟨conn, p.now⟩]))
  | restored {id task : CallId} {canSpawn : Bool} {w : Option Patience} {x : IdleEntry}
      {idle : List IdleEntry} : p.call? id = some (.acquire w (.pinging x)) → p.idle = some idle →
    idle.length < p.limits.maxIdle → QueueMove p (.cancel id canSpawn task) (some (x :: idle))
  | closed {id : CallId} : QueueMove p (.shutdown id) none

/-- The entry that the operation pings. -/
def Call.pinged? : Call → Option IdleEntry
  | .acquire _ (.pinging e) => some e
  | _ => none

/-- The entries that are idle or being pinged. -/
def entries (p : Pool) : List IdleEntry := p.idle.getD [] ++ p.calls.filterMap (·.2.pinged?)

/-- No entry, idle or pinged, came back later than now. -/
def Timely (p : Pool) : Prop := ∀ x ∈ p.entries, x.returnedAt ≤ p.now

variable {r : PoolRequest} {p q : Pool} {id : CallId} {e : Event}

/-- The entry at the front of a queue in order came back no later than any other. -/
theorem QueueInOrder.front_oldest (h : QueueInOrder p) {x : IdleEntry} {rest : List IdleEntry}
    (hidle : p.idle = some (x :: rest)) : ∀ y ∈ rest, x.returnedAt ≤ y.returnedAt := by
  rw [QueueInOrder, hidle] at h
  exact (List.pairwise_cons.1 h).1

section Queue

@[simp] theorem idle_afterPing (w : Option Patience) (x : IdleEntry) (failure : Option IoError) :
    (p.afterPing id w x failure).idle = p.idle := by
  cases failure <;> simp [afterPing]

@[simp] theorem idle_afterDial (result : Except IoError ConnId) :
    (p.afterDial id result).idle = p.idle := by
  cases result <;> simp [afterDial]

@[simp] theorem idle_drain (rest : List IdleEntry) : (p.drain id rest).idle = p.idle := by
  cases rest <;> simp [drain]

/-- A shutdown leaves no queue. -/
@[simp] theorem idle_shutdown : (p.shutdown id).idle = none := by
  unfold shutdown
  split
  · assumption
  · rw [idle_drain]
    rfl

@[simp] theorem idle_leave (conn : ConnId) (canSpawn : Bool) (task : CallId) :
    (p.leave conn canSpawn task).idle = p.idle := by
  cases canSpawn <;> simp [leave]

@[simp] theorem idle_sayCloseFailed (failure : Option IoError) :
    (p.sayCloseFailed failure).idle = p.idle := by
  rw [sayCloseFailed_eq]

/-- An acquire that looks for a connection takes the front of the queue or nothing. -/
theorem queueMove_look {p' : Pool} (hsame : p'.idle = p.idle) (w : Option Patience) :
    QueueMove p e (p'.look id w).idle := by
  have hstays : QueueMove p e p'.idle := hsame ▸ .stays
  unfold look
  split
  · exact hstays
  · split
    · cases w <;> exact hstays
    · exact hstays
  · rename_i x rest hidle
    have htaken : QueueMove p e (some rest) := .taken (hsame.symm.trans hidle)
    dsimp only
    split <;> exact htaken

theorem queueMove_release (conn : ConnId) : QueueMove p e (p.release id conn).idle := by
  unfold release
  split
  · exact .stays
  · rename_i idle hidle
    split
    · exact .stays
    · split
      · exact .stored hidle
      · exact .stays

theorem queueMove_shutdown : QueueMove p (.shutdown id) (p.shutdown id).idle := by
  unfold shutdown
  split
  · exact .stays
  · rw [idle_drain]
    exact .closed

theorem queueMove_cancel {w : Option Patience} {stage : AcquireStage} {task : CallId}
    {canSpawn : Bool} (hid : p.call? id = some (.acquire w stage)) :
    QueueMove p (.cancel id canSpawn task) (p.cancel id canSpawn task stage).idle := by
  cases stage with
  | pinging x =>
    simp only [cancel, reclaim]
    split
    · simpa using QueueMove.stays
    · rename_i idle hidle
      split
      · rename_i hroom
        exact .restored hid hidle hroom
      · simpa using QueueMove.stays
  | evicting conn => exact .stays
  | dialing => exact .stays
  | parked => exact .stays

/-- Every event moves the queue in one of the ways. -/
theorem queueMove_step (hstep : p.step e = some q) : QueueMove p e q.idle := by
  cases Move.of_step hstep with
  | acquire _ => exact queueMove_look rfl none
  | acquirePatiently _ => exact queueMove_look (by simp) _
  | release _ => exact queueMove_release _
  | shutdown _ => exact queueMove_shutdown
  | evicted _ => exact queueMove_look (by simp) _
  | retry _ _ => exact queueMove_look (by simp) _
  | cancel hid _ => exact queueMove_cancel hid
  | _ => simpa using QueueMove.stays

end Queue

@[simp] theorem Call.pinged?_notify (c : Call) : c.notify.pinged? = c.pinged? := by
  cases c with
  | acquire w stage => cases w <;> cases stage <;> rfl
  | _ => rfl

theorem Call.Closing.pinged? {c : Call} (h : c.Closing) : c.pinged? = none := by
  cases c with
  | acquire w stage => cases stage <;> first | rfl | exact h.elim
  | _ => rfl

theorem mem_entries {x : IdleEntry} :
    x ∈ p.entries ↔ x ∈ p.idle.getD [] ∨ ∃ c ∈ p.calls, c.2.pinged? = some x := by
  simp only [entries, List.mem_append, List.mem_filterMap]

theorem mem_entries_of_finish {a : Answer} {x : IdleEntry} (h : x ∈ (p.finish id a).entries) :
    x ∈ p.entries := by
  rcases mem_entries.1 h with hidle | ⟨c, hc, hx⟩
  · exact mem_entries.2 (.inl hidle)
  · exact mem_entries.2 (.inr ⟨c, (List.mem_filter.1 hc).1, hx⟩)

theorem mem_entries_of_hold {c : Call} {x : IdleEntry} (h : x ∈ (p.hold id c).entries) :
    x ∈ p.entries ∨ c.pinged? = some x := by
  rcases mem_entries.1 h with hidle | ⟨d, hd, hx⟩
  · exact .inl (mem_entries.2 (.inl hidle))
  · rcases List.mem_cons.1 hd with rfl | hd
    · exact .inr hx
    · exact .inl (mem_entries.2 (.inr ⟨d, (List.mem_filter.1 hd).1, hx⟩))

@[simp] theorem entries_notifyAll : p.notifyAll.entries = p.entries := by
  have hsame : (fun x : CallId × Call => x.2.notify.pinged?) = fun x => x.2.pinged? :=
    funext fun x => x.2.pinged?_notify
  simp only [entries, notifyAll_frame, List.filterMap_map]
  exact congrArg (fun f => p.idle.getD [] ++ p.calls.filterMap f) hsame

/-- Entries are in time where none but what came back now is added and the clock does not go back. -/
theorem Timely.of_sub (h : Timely p) (hnow : p.now ≤ q.now)
    (hsub : ∀ x ∈ q.entries, x ∈ p.entries ∨ x.returnedAt = p.now) : Timely q := by
  intro x hx
  rcases hsub x hx with hold | hnew
  · exact Nat.le_trans (h x hold) hnow
  · exact Nat.le_trans (Nat.le_of_eq hnew) hnow

/-- No update adds an entry that is not in time. -/
theorem Timely.kept : Kept Timely where
  note _ h := h
  listen _ h := h
  finish _ _ h := h.of_sub (Nat.le_refl _) fun x hx => .inl (mem_entries_of_finish hx)
  notifyAll h := h.of_sub (Nat.le_refl _) fun x hx => .inl (by simpa using hx)
  giveBack h := h.of_sub (Nat.le_refl _) fun x hx => .inl <| by
    rw [giveBack, entries_notifyAll] at hx
    exact hx
  pass nanos h := h.of_sub (Nat.le_add_right _ _) fun x hx => .inl hx
  hold _ h hc := h.of_sub (Nat.le_refl _) fun x hx =>
    .inl ((mem_entries_of_hold hx).resolve_right (by simp [hc.pinged?]))
  park _ _ h _ _ := h.of_sub (Nat.le_refl _) fun x hx =>
    .inl ((mem_entries_of_hold hx).resolve_right nofun)
  dial _ _ h _ _ := h.of_sub (Nat.le_refl _) fun x hx =>
    .inl ((mem_entries_of_hold hx).resolve_right nofun)
  take _ _ h hidle hstage := h.of_sub (Nat.le_refl _) fun x hx => .inl <| by
    rcases mem_entries_of_hold hx with hx | hx
    · rcases mem_entries.1 hx with hrest | hcall
      · exact mem_entries.2 (.inl (by rw [hidle]; exact List.mem_cons_of_mem _ hrest))
      · exact mem_entries.2 (.inr hcall)
    · rcases hstage with rfl | rfl
      · cases hx
        exact mem_entries.2 (.inl (by simp [hidle]))
      · cases hx
  store conn h hidle _ _ := h.of_sub (Nat.le_refl _) fun x hx => by
    rw [entries_notifyAll] at hx
    rcases mem_entries.1 hx with hidle' | hcall
    · rcases List.mem_append.1 hidle' with hold | hnew
      · exact .inl (mem_entries.2 (.inl (by rw [hidle]; exact hold)))
      · exact .inr (by rw [List.mem_singleton.1 hnew])
    · exact .inl (mem_entries.2 (.inr hcall))
  restore h hid hidle _ := h.of_sub (Nat.le_refl _) fun x hx => .inl <| by
    rw [entries_notifyAll] at hx
    rcases mem_entries.1 hx with hidle' | ⟨c, hc, hx⟩
    · rcases List.mem_cons.1 hidle' with rfl | hold
      · exact mem_entries.2 (.inr ⟨_, mem_of_call? hid, rfl⟩)
      · exact mem_entries.2 (.inl (by rw [hidle]; exact hold))
    · exact mem_entries.2 (.inr ⟨c, (List.mem_filter.1 hc).1, hx⟩)
  close h := h.of_sub (Nat.le_refl _) fun x hx => .inl <| by
    rw [entries_notifyAll] at hx
    rcases mem_entries.1 hx with hnone | hcall
    · cases hnone
    · exact mem_entries.2 (.inr hcall)

theorem Fresh.timely {idle : List IdleEntry} (h : Fresh r p idle) : Timely p := by
  intro x hx
  rcases mem_entries.1 hx with hidle | ⟨c, hc, -⟩
  · rw [h.idle] at hidle
    exact h.inOrder.2 x hidle
  · rw [h.calls] at hc
    cases hc

theorem Fresh.queueInOrder {idle : List IdleEntry} (h : Fresh r p idle) : QueueInOrder p := by
  rw [QueueInOrder, h.idle]
  exact h.inOrder.1

/-- An acquire that is given up during its ping puts its entry back to the front, if there is room. -/
theorem idle_of_cancel {task : CallId} {canSpawn : Bool} {w : Option Patience} {x : IdleEntry}
    {idle : List IdleEntry} (hstep : p.step (.cancel id canSpawn task) = some q)
    (hid : p.call? id = some (.acquire w (.pinging x))) (hidle : p.idle = some idle)
    (hroom : idle.length < p.limits.maxIdle) : q.idle = some (x :: idle) := by
  cases Move.of_step hstep with
  | cancel hid' _ =>
    cases Option.some.inj (hid.symm.trans hid')
    have hidle' : (p.finish id .cancelled).idle = some idle := hidle
    have hroom' : idle.length < (p.finish id .cancelled).limits.maxIdle := hroom
    simp only [cancel, reclaim, hidle', if_pos hroom']
    rfl

/-- An event that happens while the queue is in order keeps it in order unless it overtakes. -/
theorem queueInOrder_step (ht : Timely p) (h : QueueInOrder p) (hstep : p.step e = some q) :
    QueueInOrder q ↔ ¬p.Overtakes e := by
  constructor
  · intro hq hover
    cases e with
    | cancel id canSpawn task =>
      obtain ⟨w, x, idle, hid, hidle, hroom, y, hy, hlt⟩ := hover
      have hfront := hq.front_oldest (idle_of_cancel hstep hid hidle hroom) y hy
      omega
    | _ => exact hover
  · intro hnot
    have hmove := queueMove_step hstep
    generalize hidle' : q.idle = idle' at hmove
    rw [QueueInOrder, hidle']
    cases hmove with
    | stays => exact h
    | taken hidle =>
      rw [QueueInOrder, hidle] at h
      exact (List.pairwise_cons.1 h).2
    | @stored _ idle conn hidle =>
      rw [QueueInOrder, hidle] at h
      have hle : ∀ x ∈ idle, x.returnedAt ≤ p.now := fun x hx =>
        ht x (mem_entries.2 (.inl (by rw [hidle]; exact hx)))
      exact (InOrder.concat ⟨h, hle⟩ _).1
    | restored hid hidle hroom =>
      rw [QueueInOrder, hidle] at h
      refine List.pairwise_cons.2 ⟨fun y hy => Nat.le_of_not_lt fun hlt => ?_, h⟩
      exact hnot ⟨_, _, _, hid, hidle, hroom, y, hy, hlt⟩
    | closed => exact List.Pairwise.nil

/-- The queue is in order throughout a run, so that what an acquire takes has been idle for as long
as anything else, exactly when the run gives up no acquire while it pings an entry that came back
later than one that is idle. -/
theorem queue_in_order_iff {es : List Event} (hopen : Opened r p) (hrun : Run step p es q) :
    (∀ es₁ s, es₁ <+: es → Run step p es₁ s → QueueInOrder s ∧
      ∀ x rest, s.idle = some (x :: rest) → ∀ y ∈ rest, x.returnedAt ≤ y.returnedAt) ↔
    ∀ es₁ e s, es₁ ++ [e] <+: es → Run step p es₁ s → ¬s.Overtakes e := by
  obtain ⟨idle, hfresh⟩ := hopen.fresh
  have hiff := hrun.throughout_iff (fun _ _ _ => Timely.kept.step)
    (fun _ _ _ => queueInOrder_step) hfresh.timely hfresh.queueInOrder
  rw [← hiff]
  constructor
  · intro hall es₁ s hpre hs
    exact (hall es₁ s hpre hs).1
  · intro hall es₁ s hpre hs
    have hord := hall es₁ s hpre hs
    exact ⟨hord, fun x rest hidle => hord.front_oldest hidle⟩

/-- The queue stays in order when the acquire with the younger entry is given up first. -/
theorem in_order_when_younger_first : ∃ p q, Opened ⟨2, 2, 2, .zero⟩ p ∧
    Run step p [.acquire 1 none, .acquire 2 none, .cancel 2 true 3, .cancel 1 true 4] q ∧
    q.idle = some [⟨0, 0⟩, ⟨1, 10⟩] ∧ QueueInOrder q := by
  have hopen := Opened.of_foldlM (r := ⟨2, 2, 2, .zero⟩)
    [.dialed (.ok 0), .pass 10, .dialed (.ok 1)] rfl
  have hrun := hopen.start.further
    [.acquire 1 none, .acquire 2 none, .cancel 2 true 3, .cancel 1 true 4] rfl
  refine ⟨_, _, hopen, hrun, rfl, ?_⟩
  refine ((queue_in_order_iff hopen hrun).2 ?_ _ _ List.prefix_rfl hrun).1
  intro es₁ e s hpre hs hover
  rcases es₁ with _ | ⟨a, _ | ⟨b, _ | ⟨c, _ | ⟨d, tail⟩⟩⟩⟩ <;> simp at hpre
  · obtain rfl := hpre
    exact hover
  · obtain ⟨rfl, rfl⟩ := hpre
    exact hover
  · obtain ⟨rfl, rfl, rfl⟩ := hpre
    obtain rfl := hs.unique (hopen.start.further [.acquire 1 none, .acquire 2 none] rfl)
    obtain ⟨w, x, idle, hid, hidle, -, y, hy, -⟩ := hover
    cases hidle
    cases hy
  · obtain ⟨rfl, rfl, rfl, rfl⟩ := hpre
    obtain rfl := hs.unique (hopen.start.further [.acquire 1 none, .acquire 2 none, .cancel 2 true 3] rfl)
    obtain ⟨w, x, idle, hid, hidle, -, y, hy, hlt⟩ := hover
    cases hid
    cases hidle
    obtain rfl := List.mem_singleton.1 hy
    exact absurd hlt (by decide)

/-- Two acquires ping at once, the one with the older entry is given up first: the younger entry ends up in
front, and it is what the next acquire pings and gets. -/
theorem younger_handed_out_first : ∃ p q q', Opened ⟨2, 2, 2, .zero⟩ p ∧
    Run step p [.acquire 1 none, .acquire 2 none, .cancel 1 true 3, .cancel 2 true 4] q ∧
    q.idle = some [⟨1, 10⟩, ⟨0, 0⟩] ∧ ¬QueueInOrder q ∧
    Run step q [.acquire 5 none, .pinged 5 none] q' ∧
    q'.answer? 5 = some (.acquired (.ok 1)) ∧ q'.idle = some [⟨0, 0⟩] := by
  have hopen := Opened.of_foldlM (r := ⟨2, 2, 2, .zero⟩)
    [.dialed (.ok 0), .pass 10, .dialed (.ok 1)] rfl
  refine ⟨_, _, _, hopen, .of_foldlM rfl, rfl, ?_, .of_foldlM rfl, rfl, rfl⟩
  intro h
  have hle : (10 : Nat) ≤ 0 := h.front_oldest rfl ⟨0, 0⟩ List.mem_cons_self
  omega

end PooledTcp.Pool
