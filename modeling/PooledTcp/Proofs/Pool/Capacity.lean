import PooledTcp.Proofs.Pool.Kept

/-!
# How many connections a pool has

A pool never has more than `maxConns` connections checked out. The bound itself is not kept by every event:
an acquire that takes an idle connection checks one more out and looks at no limit. What is kept is the sum:
idle and checked-out connections together are at most `maxConns` (`Capacity.total`). Taking an entry moves one
from one side to the other, so does parking it, and a dial begins only while the queue is empty.

An entry that an abandoned acquire puts back is the one case that has to be looked at twice: when strangers
gave back connections that were never checked out, the count may be zero already, and the sum grows. It is
then the length of the queue alone, which is at most `maxIdle`.
-/

namespace PooledTcp

/-- No more connections are kept idle than may be checked out. -/
theorem PoolRequest.maxIdle_le_maxConns (r : PoolRequest) :
    r.limits.maxIdle ≤ r.limits.maxConns := by
  simp only [limits]
  omega

/-- There is a slot at least. -/
theorem PoolRequest.maxConns_pos (r : PoolRequest) : 0 < r.limits.maxConns := by
  simp only [limits, orDefault, defaultMaxConns]
  split <;> omega

namespace Pool

/-- The bounds on what a pool opened on request `r` has. -/
structure Capacity (r : PoolRequest) (p : Pool) : Prop where
  limits : p.limits = r.limits
  idle : p.idleCount ≤ r.limits.maxIdle
  total : p.checkedOut + p.idleCount ≤ r.limits.maxConns

variable {r : PoolRequest} {p q : Pool}

theorem idleCount_eq {idle : List IdleEntry} (h : p.idle = some idle) :
    p.idleCount = idle.length := by
  simp [idleCount, h]

/-- The bounds are kept where neither the queue nor the sum gets larger. -/
theorem Capacity.of_le (h : Capacity r p) (hlim : q.limits = p.limits)
    (hidle : q.idleCount ≤ p.idleCount)
    (htotal : q.checkedOut + q.idleCount ≤ p.checkedOut + p.idleCount) : Capacity r q :=
  ⟨hlim.trans h.limits, Nat.le_trans hidle h.idle, Nat.le_trans htotal h.total⟩

/-- Every update keeps the bounds. -/
theorem Capacity.kept (r : PoolRequest) : Kept (Capacity r) where
  note _ h := ⟨h.limits, h.idle, h.total⟩
  listen _ h := ⟨h.limits, h.idle, h.total⟩
  finish _ _ h := ⟨h.limits, h.idle, h.total⟩
  notifyAll h := ⟨h.limits, h.idle, h.total⟩
  giveBack h := h.of_le (by simp) (by simp [idleCount]) (by simp [idleCount])
  pass _ h := ⟨h.limits, h.idle, h.total⟩
  hold _ h _ := ⟨h.limits, h.idle, h.total⟩
  park _ _ h _ _ := ⟨h.limits, h.idle, h.total⟩
  dial _ _ h hidle hfree := by
    rw [h.limits] at hfree
    exact ⟨h.limits, by simp [idleCount, hidle], by simp [idleCount, hidle]; omega⟩
  take _ _ h hidle _ :=
    h.of_le (by simp) (by simp [idleCount, hidle]) (by simp [idleCount, hidle]; omega)
  store _ h hidle hout hroom := by
    -- the connection moves from one side of the sum to the other
    have htotal := h.total
    rw [idleCount_eq hidle] at htotal
    rw [h.limits] at hroom
    exact ⟨h.limits, by simp [idleCount]; omega, by simp [idleCount]; omega⟩
  restore h _ hidle hroom := by
    -- with nothing checked out the sum is the length of the queue
    have htotal := h.total
    have hle := r.maxIdle_le_maxConns
    rw [idleCount_eq hidle] at htotal
    rw [h.limits] at hroom
    exact ⟨h.limits, by simp [idleCount]; omega, by simp [idleCount]; omega⟩
  close h := h.of_le (by simp) (by simp [idleCount]) (by simp [idleCount])

/-- A fresh pool is within its bounds. -/
theorem Fresh.capacity {entries : List IdleEntry} (h : Fresh r p entries) : Capacity r p := by
  have hwarm : r.limits.warm ≤ r.limits.maxIdle := Nat.min_le_right _ _
  have hle := r.maxIdle_le_maxConns
  have hcount : p.idleCount = r.limits.warm := (idleCount_eq h.idle).trans h.length
  have hout := h.checkedOut
  exact ⟨h.limits, by omega, by omega⟩

theorem Reachable.capacity (h : Reachable r q) : Capacity r q :=
  (Capacity.kept r).reachable h fun _ _ => Fresh.capacity

/-- In every reachable state the queue is no longer than `maxIdle`, and what is checked out and what is
idle are together no more than `maxConns`. -/
theorem reachable_within_limits (h : Reachable r q) :
    q.limits = r.limits ∧ q.idleCount ≤ q.limits.maxIdle ∧
      q.checkedOut + q.idleCount ≤ q.limits.maxConns ∧ q.checkedOut ≤ q.limits.maxConns := by
  obtain ⟨hlim, hidle, htotal⟩ := h.capacity
  rw [hlim]
  exact ⟨rfl, hidle, htotal, Nat.le_trans (Nat.le_add_right _ _) htotal⟩

/-- A pool of one connection: while it is pinged a stranger's connection is discarded, which frees the
slot of the ping, and then the acquire is given up. The sum grows from zero to one. -/
theorem stranger_within_limits : ∃ q, Reachable ⟨1, 1, 1, .zero⟩ q ∧ q.checkedOut = 0 ∧
    q.idleCount = 1 ∧ q.checkedOut + q.idleCount ≤ q.limits.maxConns := by
  have hopen := Opened.of_foldlM (r := ⟨1, 1, 1, .zero⟩) [.dialed (.ok 0)] rfl
  have hreach := hopen.reachable
    (hopen.start.further [.acquire 1 none, .discard 2 9, .cancel 1 true 3] rfl)
  exact ⟨_, hreach, rfl, rfl, (reachable_within_limits hreach).2.2.1⟩

end Pool
end PooledTcp
