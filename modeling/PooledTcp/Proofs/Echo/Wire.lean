import PooledTcp.Stream.Pipe

/-!
# A peer at the other end of a pipe

A `Wire` is a pipe of limited capacity with a peer at its far end, who sends as many bytes as there is room for,
reads when it wants to, ends its side, or is gone. It keeps what the peer has sent and what it has read. In either
direction the bytes that one end has written are those that the other end has read and those on the way
(`Channel.queue_of_read`, `Channel.queue_of_write`).
-/

namespace PooledTcp

/-- The bytes that a poll has moved. -/
def Poll.moved {α : Type} (f : α → Bytes) : Poll (Except IoError α) → Bytes
  | .ready (.ok a) => f a
  | .ready (.error _) | .pending => []

/-- A pipe whose far end is a peer's. -/
structure Wire where
  pipe : Pipe
  /-- What the peer has sent. -/
  sent : Bytes := []
  /-- What the peer has read. -/
  got : Bytes := []
  deriving DecidableEq, Repr

namespace Wire

/-- A connection on which nothing has been sent. -/
def fresh (capacity : Nat) : Wire := { pipe := .empty capacity }

/-- The near end. -/
def near : Stream Wire where
  read n w := let (r, pipe) := Pipe.near.read n w.pipe; (r, { w with pipe })
  write bytes w := let (r, pipe) := Pipe.near.write bytes w.pipe; (r, { w with pipe })
  flush w := let (r, pipe) := Pipe.near.flush w.pipe; (r, { w with pipe })
  shutdown w := let (r, pipe) := Pipe.near.shutdown w.pipe; (r, { w with pipe })

/-- What the peer does. -/
inductive Act where
  | send (bytes : Bytes)
  /-- It reads at most `n` bytes. -/
  | read (n : Nat)
  /-- It sends no more. -/
  | finish
  /-- It is gone. -/
  | drop
  deriving DecidableEq, Repr

/-- The peer has done something. -/
def perform (w : Wire) : Act → Wire
  | .send bytes =>
    let (r, pipe) := Pipe.far.write bytes w.pipe
    { w with pipe, sent := w.sent ++ r.moved bytes.take }
  | .read n =>
    let (r, pipe) := Pipe.far.read n w.pipe
    { w with pipe, got := w.got ++ r.moved id }
  | .finish => { w with pipe := (Pipe.far.shutdown w.pipe).2 }
  | .drop => { w with pipe := w.pipe.drop }

theorem near_read {n : Nat} {w w' : Wire} {p : Poll (Except IoError Bytes)} (h : near.read n w = (p, w')) :
    w.pipe.inward.read n = (p, w'.pipe.inward) := by
  cases h
  rfl

theorem near_write {bytes : Bytes} {w w' : Wire} {p : Poll (Except IoError Nat)}
    (h : near.write bytes w = (p, w')) :
    w.pipe.outward.write bytes = (p, w'.pipe.outward) ∧ w'.pipe.inward = w.pipe.inward := by
  cases h
  exact ⟨rfl, rfl⟩

/-- There is no room for what the near end writes: the peer has left it unread. -/
def Full (w : Wire) : Prop :=
  w.pipe.outward.closed = false ∧ w.pipe.outward.capacity ≤ w.pipe.outward.queue.length

/-- The peer has ended its side. -/
def Ended (w : Wire) : Prop := w.pipe.inward.closed = true

end Wire

namespace Channel

variable {c : Channel} {n : Nat}

/-- What is read comes off the front of the queue. -/
theorem queue_of_read (n : Nat) (c : Channel) :
    c.queue = (c.read n).1.moved id ++ (c.read n).2.queue ∧ (c.read n).2.closed = c.closed := by
  unfold read
  split
  · exact ⟨rfl, rfl⟩
  · split
    · exact ⟨rfl, rfl⟩
    · exact ⟨(List.take_append_drop n c.queue).symm, rfl⟩

/-- What is written goes to the back of the queue. -/
theorem queue_of_write (bytes : Bytes) (c : Channel) :
    (c.write bytes).2.queue = c.queue ++ (c.write bytes).1.moved bytes.take ∧
      (c.write bytes).2.closed = c.closed := by
  unfold write
  dsimp only
  split
  · exact ⟨(List.append_nil _).symm, rfl⟩
  · split
    · exact ⟨(List.append_nil _).symm, rfl⟩
    · refine ⟨congrArg (c.queue ++ ·) ?_, rfl⟩
      simp [Poll.moved, List.take_eq_take_iff, Nat.min_comm]

/-- A direction that has ended takes nothing more. -/
theorem write_of_closed (h : c.closed = true) (bytes : Bytes) : (c.write bytes).2 = c := by
  rw [write, if_pos h]

/-- Who waits has changed nothing. -/
theorem eq_of_read_pending (h : (c.read n).1 = .pending) : c.read n = (.pending, c) := by
  unfold read at h ⊢
  split at h
  · cases h
  · split at h
    · rename_i hn hwait
      rw [if_neg hn, if_pos hwait]
    · cases h

theorem eq_of_write_pending {bytes : Bytes} (h : (c.write bytes).1 = .pending) :
    c.write bytes = (.pending, c) := by
  unfold write at h ⊢
  dsimp only at h ⊢
  split at h
  · cases h
  · split at h
    · rename_i hopen hroom
      rw [if_neg hopen, if_pos hroom]
    · cases h

/-- A reader waits for bytes. -/
theorem empty_of_read_pending (h : (c.read n).1 = .pending) : c.queue = [] ∧ c.closed = false := by
  unfold read at h
  split at h
  · cases h
  · split at h
    · rename_i hwait
      simpa using hwait
    · cases h

/-- Nothing is read where nothing was asked for, or the other side has ended and everything before was read. -/
theorem drained_of_read_nil (h : (c.read n).1 = .ready (.ok [])) (hn : n ≠ 0) :
    c.queue = [] ∧ c.closed = true := by
  unfold read at h
  rw [if_neg hn] at h
  split at h
  · cases h
  · rename_i hsome
    have htake : c.queue.take n = [] := Except.ok.inj (Poll.ready.inj h)
    have hnil : c.queue = [] := (List.take_eq_nil_iff.1 htake).resolve_left hn
    simpa [hnil] using hsome

theorem read_ne_error (n : Nat) (c : Channel) (cause : IoError) : (c.read n).1 ≠ .ready (.error cause) := by
  unfold read
  split
  · nofun
  · split
    · nofun
    · nofun

/-- A write fails where the other side has ended, and something is written if anything was to be. -/
theorem closed_of_write_error {bytes : Bytes} {cause : IoError}
    (h : (c.write bytes).1 = .ready (.error cause)) : c.closed = true := by
  unfold write at h
  dsimp only at h
  split at h
  · assumption
  · split at h
    · cases h
    · cases h

theorem write_ne_zero {bytes : Bytes} (hsome : bytes ≠ []) : (c.write bytes).1 ≠ .ready (.ok 0) := by
  intro h
  unfold write at h
  dsimp only at h
  split at h
  · cases h
  · split at h
    · cases h
    · rename_i hroom
      have hmin : min bytes.length (c.capacity - c.queue.length) = 0 := Except.ok.inj (Poll.ready.inj h)
      have hlength : bytes.length ≠ 0 := fun hzero => hsome (List.length_eq_zero_iff.1 hzero)
      omega

/-- A writer waits for room. -/
theorem full_of_write_pending {bytes : Bytes} (h : (c.write bytes).1 = .pending) :
    c.closed = false ∧ c.capacity ≤ c.queue.length := by
  unfold write at h
  dsimp only at h
  split at h
  · cases h
  · rename_i hopen
    split at h
    · rename_i hroom
      exact ⟨Bool.eq_false_iff.2 hopen, Nat.sub_eq_zero_iff_le.1 hroom⟩
    · cases h

end Channel

namespace Wire

variable {n : Nat} {bytes : Bytes} {w : Wire}

theorem near_read_pending (h : (near.read n w).1 = .pending) :
    near.read n w = (.pending, w) ∧ w.pipe.inward.queue = [] ∧ ¬w.Ended := by
  have hwait : (w.pipe.inward.read n).1 = .pending := h
  obtain ⟨hempty, hopen⟩ := Channel.empty_of_read_pending hwait
  refine ⟨?_, hempty, Bool.eq_false_iff.1 hopen⟩
  simp only [near, Pipe.near, Channel.eq_of_read_pending hwait]

theorem near_write_pending (h : (near.write bytes w).1 = .pending) :
    near.write bytes w = (.pending, w) ∧ w.Full := by
  have hwait : (w.pipe.outward.write bytes).1 = .pending := h
  refine ⟨?_, Channel.full_of_write_pending hwait⟩
  simp only [near, Pipe.near, Channel.eq_of_write_pending hwait]

end Wire
end PooledTcp
