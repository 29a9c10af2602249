import PooledTcp.Pool.Opening
import PooledTcp.Run

/-!
# Pools that were opened, and what they become

`Opened r p` says that `p` came out of an opening on request `r`: any address, any clock, any order of dials,
closes and delays. `Reachable r q` says that a run of any events leads from such a pool to `q`.

An opening dials one connection after the other, so while it dials it has opened what is neither running nor
left (`Opening.Sound`). The pool that comes out of it is fresh (`Opened.fresh`): nothing is checked out,
nothing is in flight, and the queue holds the first connections in the order in which they were dialled.
-/

namespace PooledTcp.Pool

/-- `p` came out of an opening on request `r`. -/
inductive Opened (r : PoolRequest) : Pool → Prop where
  | intro {addr : String} {hasFactory : Bool} {entryBytes now : Nat} {o o' : Opening}
      {es : List Opening.Event} {p : Pool} :
    Opening.start addr r hasFactory entryBytes now = .ok o → Run Opening.step o es o' →
    o'.pool? = some p → Opened r p

/-- A run leads from a pool opened on request `r` to `q`. -/
def Reachable (r : PoolRequest) (q : Pool) : Prop := ∃ p es, Opened r p ∧ Run step p es q

/-- An opening that is computed event by event, with a factory and room for the queue. -/
theorem Opened.of_foldlM {r : PoolRequest} {p : Pool} (es : List Opening.Event)
    (h : ((Opening.start "mem" r true 24 0).toOption.bind (es.foldlM Opening.step)).bind
      Opening.pool? = some p) : Opened r p := by
  obtain ⟨o', hrun, hpool⟩ := Option.bind_eq_some_iff.1 h
  obtain ⟨o, hstart, hrun⟩ := Option.bind_eq_some_iff.1 hrun
  cases hbegin : Opening.start "mem" r true 24 0 with
  | error e => rw [hbegin] at hstart; cases hstart
  | ok o'' =>
    rw [hbegin] at hstart
    cases hstart
    exact .intro hbegin (.of_foldlM hrun) hpool

/-- The run in which nothing has happened yet. -/
theorem Opened.start {r : PoolRequest} {p : Pool} (_ : Opened r p) : Run step p [] p := .nil p

theorem Opened.reachable {r : PoolRequest} {p q : Pool} (hopen : Opened r p) {es : List Event}
    (hrun : Run step p es q) : Reachable r q :=
  ⟨p, es, hopen, hrun⟩

/-- What a reachable pool leads to is reachable. -/
theorem Reachable.run {r : PoolRequest} {p q : Pool} {es : List Event} (h : Reachable r p)
    (hrun : Run step p es q) : Reachable r q := by
  obtain ⟨o, fs, hopen, hbefore⟩ := h
  exact ⟨o, fs ++ es, hopen, hbefore.append hrun⟩

/-- The entries came back one after the other, front first, and none later than `now`. -/
def InOrder (now : Nat) (entries : List IdleEntry) : Prop :=
  entries.Pairwise (fun a b => a.returnedAt ≤ b.returnedAt) ∧ ∀ e ∈ entries, e.returnedAt ≤ now

/-- What comes back now goes to the back. -/
theorem InOrder.concat {now : Nat} {entries : List IdleEntry} (h : InOrder now entries)
    (conn : ConnId) : InOrder now (entries ++ [⟨conn, now⟩]) := by
  obtain ⟨hsort, hle⟩ := h
  refine ⟨List.pairwise_append.2 ⟨hsort, List.pairwise_singleton _ _, ?_⟩, ?_⟩
  · intro a ha b hb
    rw [List.mem_singleton.1 hb]
    exact hle a ha
  · intro e he
    rcases List.mem_append.1 he with he | he
    · exact hle e he
    · obtain rfl := List.mem_singleton.1 he
      exact Nat.le_refl now

/-- Entries in order stay in order while time passes. -/
theorem InOrder.later {now now' : Nat} {entries : List IdleEntry} (h : InOrder now entries)
    (hle : now ≤ now') : InOrder now' entries :=
  ⟨h.1, fun e he => Nat.le_trans (h.2 e he) hle⟩

/-- A pool to which nothing has happened yet, with `entries` idle. -/
structure Fresh (r : PoolRequest) (p : Pool) (entries : List IdleEntry) : Prop where
  limits : p.limits = r.limits
  checkedOut : p.checkedOut = 0
  calls : p.calls = []
  idle : p.idle = some entries
  length : entries.length = r.limits.warm
  inOrder : InOrder p.now entries
  history : p.history = .idleLength r.limits.warm :: .logged (.ready r.limits) ::
    List.replicate r.limits.warm (.called Opening.callId .dial)

namespace Opening

/-- What an opening on request `r` has done so far, by its stage. -/
structure Sound (r : PoolRequest) (o : Opening) : Prop where
  limits : o.limits = r.limits
  inOrder : InOrder o.now o.opened
  dialing : ∀ left, o.stage = .dialing left → o.opened.length + (left + 1) = r.limits.warm ∧
    o.history = List.replicate (o.opened.length + 1) (.called callId .dial)
  ready : o.stage = .ready → o.opened.length = r.limits.warm ∧
    o.history = .idleLength r.limits.warm :: .logged (.ready r.limits) ::
      List.replicate r.limits.warm (.called callId .dial)

variable {r : PoolRequest} {o o' : Opening}

/-- Between two dials an opening has made one dial for each connection that it opened. -/
theorem sound_goOn {left : Nat} (hlim : o.limits = r.limits) (hord : InOrder o.now o.opened)
    (hlen : o.opened.length + left = r.limits.warm)
    (hhist : o.history = List.replicate o.opened.length (.called callId .dial)) :
    Sound r (o.goOn left) := by
  cases left with
  | zero =>
    have hlen : o.opened.length = r.limits.warm := hlen
    exact ⟨hlim, hord, nofun, fun _ => ⟨hlen, by simp [goOn, complete, note, hhist, hlen, hlim]⟩⟩
  | succ left =>
    refine ⟨hlim, hord, ?_, nofun⟩
    intro n hn
    obtain rfl : left = n := by simpa [goOn, dial, note] using hn
    exact ⟨hlen, by simp [goOn, dial, note, hhist, List.replicate_succ]⟩

theorem sound_closeNext (cause : IoError) (rest : List IdleEntry) (hlim : o.limits = r.limits)
    (hord : InOrder o.now o.opened) : Sound r (o.closeNext cause rest) := by
  cases rest <;> exact ⟨hlim, hord, nofun, nofun⟩

theorem sound_start {addr : String} {hasFactory : Bool} {entryBytes now : Nat}
    (h : start addr r hasFactory entryBytes now = .ok o) : Sound r o := by
  simp only [start, PoolRequest.normalize] at h
  split at h
  · cases h
  · cases hasFactory with
    | false => cases h
    | true =>
      simp only [if_true] at h
      split at h
      · cases h
      · cases h
        exact sound_goOn rfl ⟨List.Pairwise.nil, nofun⟩ (by simp) rfl

theorem sound_step {e : Event} (hs : Sound r o) (h : o.step e = some o') : Sound r o' := by
  cases e with
  | dialed result =>
    simp only [step, dialed] at h
    split at h
    · rename_i left hstage
      obtain ⟨hlen, hhist⟩ := hs.dialing left hstage
      cases result with
      | ok conn =>
        cases h
        refine sound_goOn hs.limits (hs.inOrder.concat conn) ?_ ?_
        · simp only [List.length_append, List.length_singleton]; omega
        · simpa using hhist
      | error cause => cases h; exact sound_closeNext _ _ hs.limits hs.inOrder
    · cases h
  | closed =>
    simp only [step, closed] at h
    split at h
    · cases h; exact sound_closeNext _ _ hs.limits hs.inOrder
    · cases h
  | pass nanos =>
    cases h
    exact ⟨hs.limits, hs.inOrder.later (Nat.le_add_right _ _), hs.dialing, hs.ready⟩

end Opening

/-- The pool that comes out of an opening is fresh. -/
theorem Opened.fresh {r : PoolRequest} {p : Pool} (h : Opened r p) :
    ∃ entries, Fresh r p entries := by
  obtain ⟨hstart, hrun, hpool⟩ := h
  have hs := hrun.keeps (P := Opening.Sound r) (fun _ _ _ => Opening.sound_step)
    (Opening.sound_start hstart)
  simp only [Opening.pool?] at hpool
  split at hpool
  · rename_i hready
    cases hpool
    obtain ⟨hlen, hhist⟩ := hs.ready hready
    exact ⟨_, hs.limits, rfl, rfl, rfl, hlen, hs.inOrder, hhist⟩
  · cases hpool

/-- What a fresh pool has and every event keeps, every reachable pool has. -/
theorem Reachable.induct {r : PoolRequest} {q : Pool} {P : Pool → Prop} (h : Reachable r q)
    (hfresh : ∀ p entries, Fresh r p entries → P p)
    (hstep : ∀ p e q, P p → step p e = some q → P q) : P q := by
  obtain ⟨p, es, hopen, hrun⟩ := h
  obtain ⟨entries, hp⟩ := hopen.fresh
  exact hrun.keeps hstep (hfresh p entries hp)

end PooledTcp.Pool
