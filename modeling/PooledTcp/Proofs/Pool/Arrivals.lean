import PooledTcp.Proofs.Pool.Traceless
import PooledTcp.Proofs.Pool.WarmUp

/-!
# How long a connection has been idle

The age of an idle entry counts from the moment at which its connection arrived last: when its first dial ended
while the pool was opened, or when a caller released it. An acquire that takes the entry and is given up during the
ping puts it back with the time that it had. So the time of an entry, idle or pinged, is that of the last arrival of
its connection (`Told.run`).

Nothing but a release makes an entry, and an acquire that pings one took it from the queue (`entries_step`).
Callers have to keep to the rules here: who releases a connection that is idle makes a second entry of it.
-/

namespace PooledTcp

section Values

variable {α β : Type} [BEq α] {key : α}

theorem valuesOf_append (key : α) (xs ys : List (α × β)) :
    valuesOf key (xs ++ ys) = valuesOf key xs ++ valuesOf key ys := by
  simp [valuesOf]

variable [LawfulBEq α]

theorem valuesOf_eq_nil {xs : List (α × β)} (h : ∀ x ∈ xs, x.1 ≠ key) : valuesOf key xs = [] := by
  simpa [valuesOf] using h

/-- A key that occurs once has one value. -/
theorem valuesOf_of_nodup {value : β} {xs : List (α × β)} (h : (xs.map (·.1)).Nodup)
    (hmem : (key, value) ∈ xs) : valuesOf key xs = [value] := by
  induction xs with
  | nil => cases hmem
  | cons x xs ih =>
    obtain ⟨k, v⟩ := x
    obtain ⟨hnot, hrest⟩ := List.nodup_cons.1 h
    rcases List.mem_cons.1 hmem with heq | hlater
    · cases heq
      rw [valuesOf_cons_self, valuesOf_eq_nil]
      intro y hy heq
      exact hnot (heq ▸ List.mem_map.2 ⟨y, hy, rfl⟩)
    · have hne : key ≠ k := by
        rintro rfl
        exact hnot (List.mem_map.2 ⟨_, hlater, rfl⟩)
      rw [valuesOf_cons_of_ne hne, ih hrest hlater]

end Values

namespace Pool

variable {r : PoolRequest} {p q : Pool} {id task : CallId} {e : Event} {x : IdleEntry}

section Entries

theorem entries_finish (p : Pool) (id : CallId) (a : Answer) : (p.finish id a).entries ⊆ p.entries :=
  fun _ => mem_entries_of_finish

theorem entries_hold {c : Call} (hc : c.pinged? = none) (p : Pool) (id : CallId) :
    (p.hold id c).entries ⊆ p.entries := by
  intro x hx
  rcases mem_entries_of_hold hx with hx | hx
  · exact hx
  · cases hc.symm.trans hx

theorem entries_leave (p : Pool) (conn : ConnId) (canSpawn : Bool) (task : CallId) :
    (p.leave conn canSpawn task).entries ⊆ p.entries := by
  cases canSpawn with
  | false => exact List.Subset.refl _
  | true => exact entries_hold rfl p task

theorem entries_drain (p : Pool) (id : CallId) (rest : List IdleEntry) :
    (p.drain id rest).entries ⊆ p.entries := by
  cases rest with
  | nil => exact entries_finish (p.note (.idleLength 0)) id _
  | cons x rest => exact entries_hold rfl (p.request id (.close x.conn)) id

theorem entries_sayCloseFailed (p : Pool) (failure : Option IoError) :
    (p.sayCloseFailed failure).entries = p.entries := by
  cases failure <;> rfl

theorem entries_giveBack (p : Pool) : p.giveBack.entries = p.entries :=
  entries_notifyAll

/-- What an acquire takes from the queue it pings, or it is an entry no more. -/
theorem entries_look (p : Pool) (id : CallId) (w : Option Patience) : (p.look id w).entries ⊆ p.entries := by
  have h := p.looked id w
  generalize p.look id w = q at h ⊢
  have htook {y : IdleEntry} {rest : List IdleEntry} (hidle : p.idle = some (y :: rest)) :
      (p.took rest).entries ⊆ p.entries := by
    intro x hx
    rcases mem_entries.1 hx with hrest | hcall
    · exact mem_entries.2 (.inl (by rw [hidle]; exact List.mem_cons_of_mem _ hrest))
    · exact mem_entries.2 (.inr hcall)
  cases h with
  | refused _ => exact entries_finish p id _
  | rejected _ _ => exact entries_finish (p.note .exhausted) id _
  | parked _ _ => exact entries_hold rfl (p.note .exhausted) id
  | dials _ _ =>
    exact entries_hold (c := .acquire w .dialing) rfl
      ({ p with checkedOut := p.checkedOut + 1 }.request id .dial) id
  | @evicts _ y _ hidle _ =>
    exact List.Subset.trans (entries_hold (c := .acquire w (.evicting y.conn)) rfl _ id) (htook hidle)
  | @pings _ y rest hidle _ =>
    intro x hx
    rcases mem_entries_of_hold hx with hx | hx
    · exact htook hidle hx
    · cases hx
      exact mem_entries.2 (.inl (by simp [hidle]))

theorem entries_afterPing (p : Pool) (id : CallId) (w : Option Patience) (y : IdleEntry)
    (failure : Option IoError) : (p.afterPing id w y failure).entries ⊆ p.entries := by
  cases failure with
  | none => exact entries_finish ((p.say .reusing).note (.acquired .idle)) id _
  | some cause =>
    exact entries_hold rfl
      (((p.say (.unhealthy cause)).note (.evicted .unhealthy)).request id (.close y.conn)) id

theorem entries_afterDial (p : Pool) (id : CallId) (result : Except IoError ConnId) :
    (p.afterDial id result).entries ⊆ p.entries := by
  cases result with
  | ok conn => exact entries_finish ((p.say .opened).note (.acquired .new)) id _
  | error cause =>
    rw [afterDial, entries_giveBack]
    exact entries_finish (p.say (.dialFailed cause)) id _

/-- An acquire that is given up puts back what it pinged, if anything. -/
theorem entries_cancel {w : Option Patience} {stage : AcquireStage}
    (hid : p.call? id = some (.acquire w stage)) (canSpawn : Bool) :
    (p.cancel id canSpawn task stage).entries ⊆ p.entries := by
  have hfinish := entries_finish p id .cancelled
  cases stage with
  | pinging y =>
    -- the entry goes back as it was taken, so it is among those that were pinged before
    rw [cancel, reclaim_eq]
    split
    · intro x hx
      rw [entries_notifyAll] at hx
      rcases mem_entries.1 hx with hidle | hcall
      · rcases List.mem_cons.1 hidle with rfl | hold
        · exact mem_entries.2 (.inr ⟨_, mem_of_call? hid, rfl⟩)
        · exact mem_entries.2 (.inl hold)
      · exact hfinish (mem_entries.2 (.inr hcall))
    · refine List.Subset.trans (entries_leave _ _ _ _) ?_
      rw [entries_giveBack]
      exact hfinish
  | evicting conn | dialing =>
    rw [cancel, entries_giveBack]
    exact hfinish
  | parked => exact hfinish

theorem entries_shutdown (p : Pool) (id : CallId) : (p.shutdown id).entries ⊆ p.entries := by
  unfold shutdown
  split
  · exact entries_finish p id _
  · rename_i idle _
    refine List.Subset.trans (entries_drain _ id idle) ?_
    rw [entries_notifyAll]
    intro x hx
    rcases mem_entries.1 hx with hidle | hcall
    · cases hidle
    · exact mem_entries.2 (.inr hcall)

/-- A release makes an entry of its connection, now, or none. -/
theorem entries_release {conn : ConnId} (h : x ∈ (p.release id conn).entries) :
    x ∈ p.entries ∨ x = ⟨conn, p.now⟩ := by
  unfold release at h
  split at h
  · have hmem := entries_hold rfl (p.giveBack.request id (.close conn)) id h
    exact .inl (entries_giveBack p ▸ hmem)
  · rename_i idle hidle
    split at h
    · have hmem := entries_hold rfl ((p.notifyAll.say .notCheckedOut).request id (.close conn)) id h
      exact .inl (entries_notifyAll (p := p) ▸ hmem)
    · split at h
      · have hmem := entries_finish _ id _ h
        rw [entries_notifyAll] at hmem
        rcases mem_entries.1 hmem with hold | hcall
        · rcases List.mem_append.1 hold with hold | hnew
          · exact .inl (mem_entries.2 (.inl (by rw [hidle]; exact hold)))
          · exact .inr (List.mem_singleton.1 hnew)
        · exact .inl (mem_entries.2 (.inr hcall))
      · have hmem := entries_hold rfl ((p.giveBack.say .queueFull).request id (.close conn)) id h
        exact .inl (entries_giveBack p ▸ hmem)

/-- Nothing but a release makes an entry. -/
theorem entries_step (hstep : p.step e = some q) (hx : x ∈ q.entries) :
    x ∈ p.entries ∨ ∃ id conn, e = .release id conn ∧ x = ⟨conn, p.now⟩ := by
  cases Move.of_step hstep with
  | @release id conn _ =>
    rcases entries_release hx with hold | rfl
    · exact .inl hold
    · exact .inr ⟨id, conn, rfl, rfl⟩
  | acquire _ => exact .inl (entries_look p _ none hx)
  | acquirePatiently _ | retry _ _ => exact .inl (entries_look (p.listen _).1 _ _ hx)
  | discard _ =>
    have hmem := entries_hold rfl _ _ hx
    exact .inl (entries_giveBack p ▸ hmem)
  | shutdown _ => exact .inl (entries_shutdown p _ hx)
  | dialed _ => exact .inl (entries_afterDial p _ _ hx)
  | pinged _ => exact .inl (entries_afterPing p _ _ _ _ hx)
  | evicted _ =>
    have hmem := entries_look _ _ _ hx
    rw [entries_giveBack, entries_sayCloseFailed] at hmem
    exact .inl hmem
  | released _ | discarded _ =>
    have hmem := entries_finish _ _ _ hx
    rw [entries_sayCloseFailed] at hmem
    exact .inl hmem
  | drained _ =>
    have hmem := entries_drain _ _ _ hx
    rw [entries_sayCloseFailed] at hmem
    exact .inl hmem
  | tidied _ | expire _ _ _ => exact .inl (entries_finish p _ _ hx)
  | @tidiedBadly _ cause _ _ => exact .inl (entries_finish (p.say (.abandonedCloseFailed cause)) _ _ hx)
  | cancel hid _ => exact .inl (entries_cancel hid _ hx)
  | tidy _ => exact .inl (entries_hold rfl _ _ hx)
  | pass => exact .inl hx

theorem carries_of_pinged {c : Call} (h : c.pinged? = some x) : c.carries x.conn = 1 := by
  unfold Call.pinged? at h
  split at h
  · cases h
    simp
  · cases h

end Entries

namespace Custody

/-- The pool has just been opened, and its connections arrived as `brought` says. -/
structure Warmed (r : PoolRequest) (brought : List IdleEntry) (s : Custody) : Prop where
  begins : Begins r s
  opening : ∃ addr hasFactory entryBytes now o es o',
    Opening.start addr r hasFactory entryBytes now = .ok o ∧ Run Opening.step o es o' ∧
      o'.pool? = some s.pool ∧ brought = along Opening.step Opening.brings o es

/-- The connection that an event gives back to the pool, and when. -/
def releases (s : Custody) : Event → List (ConnId × Nat)
  | .release _ conn => [(conn, s.pool.now)]
  | _ => []

/-- The arrivals of connections, first one first: with the opening of the pool, and then by releases. -/
def arrivals (brought : List IdleEntry) (s : Custody) (es : List Event) : List (ConnId × Nat) :=
  brought.map (fun x => (x.conn, x.returnedAt)) ++ along step releases s es

/-- When `conn` arrived last, if it did. -/
def lastArrival (brought : List IdleEntry) (s : Custody) (es : List Event) (conn : ConnId) : Option Nat :=
  (valuesOf conn (arrivals brought s es)).getLast?

/-- Every entry, idle or pinged, tells when its connection arrived last. -/
def Told (known : List (ConnId × Nat)) (p : Pool) : Prop :=
  ∀ x ∈ p.entries, (valuesOf x.conn known).getLast? = some x.returnedAt

variable {s t : Custody} {brought : List IdleEntry} {known : List (ConnId × Nat)} {es : List Event}

theorem Warmed.idle (h : Warmed r brought s) : s.pool.idle = some brought := by
  obtain ⟨addr, hasFactory, entryBytes, now, o, es, o', hstart, hrun, hpool, rfl⟩ := h.opening
  obtain ⟨-, hopened⟩ := Opening.stands_run hstart hrun
  simp only [Opening.pool?] at hpool
  split at hpool
  · rw [← Option.some.inj hpool, ← hopened]
  · cases hpool

/-- What is idle or pinged nobody holds. -/
theorem Balanced.holders_of_entry (h : Balanced s) (hx : x ∈ s.pool.entries) : s.holders x.conn = 0 := by
  have hle := h.length_le_one x.conn
  rw [Custody.length_places] at hle
  rcases mem_entries.1 hx with hidle | ⟨c, hc, hpinged⟩
  · have hpos : 0 < s.pool.idleConns.count x.conn :=
      List.count_pos_iff.2 (List.mem_map.2 ⟨x, hidle, rfl⟩)
    omega
  · have hpos : tally (·.carries x.conn) s.pool.calls ≠ 0 := by
      intro hzero
      have hone := tally_eq_zero_iff.1 hzero c hc
      rw [carries_of_pinged hpinged] at hone
      cases hone
    omega

/-- Every step keeps the times. What is released was held, so it was no entry. -/
theorem Told.step (h : Told known s.pool) (hs : Balanced s) (hstep : s.step e = some t) :
    Told (known ++ s.releases e) t.pool := by
  obtain ⟨hallow, hpool, -, -⟩ := step_eq_some hstep
  intro x hx
  rw [valuesOf_append]
  rcases entries_step hpool hx with hold | ⟨id, conn, rfl, rfl⟩
  · have hother : valuesOf x.conn (s.releases e) = [] := by
      refine valuesOf_eq_nil fun y hy heq => ?_
      cases e with
      | release id conn =>
        obtain rfl := List.mem_singleton.1 hy
        have hsame : conn = x.conn := heq
        have hheld := hallow.2 conn List.mem_cons_self
        rw [hsame, hs.holders_of_entry hold] at hheld
        exact absurd hheld (Nat.lt_irrefl 0)
      | _ => cases hy
    rw [hother, List.append_nil]
    exact h x hold
  · have hnow : valuesOf conn (s.releases (.release id conn)) = [s.pool.now] := valuesOf_cons_self _ _ _
    rw [hnow, List.getLast?_concat]

theorem Warmed.told (h : Warmed r brought s) :
    Told (brought.map fun x => (x.conn, x.returnedAt)) s.pool := by
  obtain ⟨idle, hfresh⟩ := h.begins.opened.fresh
  have hnodup := h.begins.nodup
  rw [idleConns, h.idle] at hnodup
  intro x hx
  rcases mem_entries.1 hx with hidle | ⟨c, hc, -⟩
  · rw [h.idle] at hidle
    have hone : valuesOf x.conn (brought.map fun x => (x.conn, x.returnedAt)) = [x.returnedAt] := by
      refine valuesOf_of_nodup ?_ (List.mem_map.2 ⟨x, hidle, rfl⟩)
      rw [List.map_map]
      exact hnodup
    rw [hone]
    rfl
  · rw [hfresh.calls] at hc
    cases hc

/-- At any point of any run the entries tell when their connections arrived last. -/
theorem Told.run (h : Warmed r brought s) (hrun : Run Custody.step s es t) :
    Told (arrivals brought s es) t.pool := by
  refine (hrun.induction_last (P := fun es t => Run Custody.step s es t ∧ Told (arrivals brought s es) t.pool)
    ⟨.nil s, ?_⟩ ?_).2
  · rw [arrivals]
    exact (List.append_nil _).symm ▸ h.told
  · rintro fs e u v ⟨hu, htold⟩ hstep
    refine ⟨hu.append (.cons hstep (.nil v)), ?_⟩
    rw [arrivals, hu.along_concat, ← List.append_assoc]
    exact htold.step (h.begins.balanced.run hu) hstep

/-- The time of an entry, idle or pinged, is that of the last arrival of its connection. -/
theorem Warmed.lastArrival_of_entry (h : Warmed r brought s) (hrun : Run Custody.step s es t)
    (hx : x ∈ t.pool.entries) : lastArrival brought s es x.conn = some x.returnedAt :=
  Told.run h hrun x hx

end Custody

end Pool
end PooledTcp
