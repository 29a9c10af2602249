import PooledTcp.Proofs.Stream.Lockstep

/-!
# Waiting on a stream with deadlines

A `Metered` stream keeps a record of what was moved through it, and otherwise is the stream. In a `Session`
somebody may wait in each half of a wrapped metered stream for an operation to be done. Who waits is polled after
being woken, by anybody or by a timer that was looked at; time passes while nobody is woken, and not past the moment
at which a timer wakes somebody.

What one poll does is said once (`poll_spec`): what it moves is recorded under its moment, it moves no deadline,
and where it leaves its caller waiting, the caller's timer has not fired and was looked at.
-/

namespace PooledTcp

/-- A stream, and what has been moved through it: each portion with its moment. -/
structure Metered (σ : Type) where
  inner : σ
  received : List (Nat × Bytes) := []
  sent : List (Nat × Bytes) := []

namespace Metered

/-- What was moved in one half. -/
def moved {σ : Type} (m : Metered σ) : Half → List (Nat × Bytes)
  | .reading => m.received
  | .writing => m.sent

/-- What a poll adds to the record. -/
def portion {α : Type} (now : Nat) (f : α → Bytes) : Poll (Except IoError α) → List (Nat × Bytes)
  | .ready (.ok a) => [(now, f a)]
  | _ => []

/-- The bytes of several portions. -/
def bytes (portions : List (Nat × Bytes)) : Bytes := portions.flatMap Prod.snd

end Metered

/-- The stream at the moment `now`, with a record of what it moves. -/
def Stream.metered {σ : Type} (s : Stream σ) (now : Nat) : Stream (Metered σ) where
  read n m :=
    let (p, inner) := s.read n m.inner
    (p, { m with inner, received := m.received ++ Metered.portion now id p })
  write bytes m :=
    let (p, inner) := s.write bytes m.inner
    (p, { m with inner, sent := m.sent ++ Metered.portion now bytes.take p })
  flush m := let (p, inner) := s.flush m.inner; (p, { m with inner })
  shutdown m := let (p, inner) := s.shutdown m.inner; (p, { m with inner })

/-- Somebody waits for an operation. -/
structure Waiting where
  asked : Operation
  /-- What is left to do. -/
  op : Operation
  since : Nat
  /-- How many portions had been moved before. -/
  earlier : Nat
  woken : Bool := true

/-- Somebody has waited, and the operation is over. -/
structure Ended where
  who : Waiting
  time : Nat
  /-- What it moved. -/
  moved : Bytes
  result : Except IoError Outcome

/-- A wrapped stream with those who wait on it. -/
structure Session (σ : Type) where
  now : Nat
  stream : Deadlined (Metered σ)
  reading : Option Waiting := none
  writing : Option Waiting := none
  /-- The operations that are over, the last one first. -/
  ended : List Ended := []

namespace Session

variable {σ : Type}

/-- A stream that is wrapped now, and nobody waits. -/
def start (x : σ) (made : Nat) (read write : Duration) : Session σ :=
  { now := made, stream := Deadlined.wrap { inner := x } made read write }

/-- Who waits in one half. -/
def waiting (u : Session σ) : Half → Option Waiting
  | .reading => u.reading
  | .writing => u.writing

/-- From now on `w` waits in one half. -/
def wait (u : Session σ) (half : Half) (w : Option Waiting) : Session σ :=
  match half with
  | .reading => { u with reading := w }
  | .writing => { u with writing := w }

/-- What the operation for which `w` waits has moved. -/
def moved (u : Session σ) (half : Half) (w : Waiting) : Bytes :=
  Metered.bytes ((u.stream.inner.moved half).drop w.earlier)

/-- When a timer wakes `w`. -/
def alarm (u : Session σ) (w : Waiting) : Option Nat := (u.stream.timerOf w.op).bind Timer.alarm

/-- What can happen. -/
inductive Event (σ : Type) where
  /-- Somebody asks for an operation and waits for it. -/
  | ask (op : Operation)
  /-- Who waits is polled. -/
  | poll (half : Half)
  | giveUp (half : Half)
  /-- Who waits is woken, by the stream or for no reason. -/
  | wake (half : Half)
  /-- Somebody else changes what is behind the stream. -/
  | outside (change : σ → σ)
  | pass (nanos : Nat)

/-- Who waits in a half is not woken, and no timer wakes them before `time`. -/
def Still (u : Session σ) (time : Nat) (half : Half) : Bool :=
  (u.waiting half).all fun w => !w.woken && (u.alarm w).all (time ≤ ·)

/-- Nobody who waits is woken. -/
def Quiet (u : Session σ) : Prop := ∀ half w, u.waiting half = some w → w.woken = false

/-- Those who wait at `time`: a timer has woken some. -/
def ring (u : Session σ) (time : Nat) (half : Half) : Option Waiting :=
  (u.waiting half).map fun w => { w with woken := (u.alarm w).any (· ≤ time) }

/-- `w`, who waits in a half, has the result. -/
def finish (u : Session σ) (half : Half) (w : Waiting) (result : Except IoError Outcome) : Session σ :=
  { u.wait half none with ended := { who := w, time := u.now, moved := u.moved half w, result } :: u.ended }

/-- Poll `w`, who waits in a half. -/
def poll (s : Nat → Stream σ) (u : Session σ) (half : Half) (w : Waiting) : Session σ :=
  match (Deadlined.stream ((s u.now).metered u.now) u.now).poll w.op u.stream with
  | (.pending, op, stream) => { u with stream }.wait half (some { w with op, woken := false })
  | (.ready result, op, stream) => { u with stream }.finish half { w with op } result

/-- Perform an event, if it can happen. -/
def step (s : Nat → Stream σ) (u : Session σ) : Event σ → Option (Session σ)
  | .ask op =>
    if (u.waiting op.half).isSome then none
    else
      let earlier := (u.stream.inner.moved op.half).length
      some (u.wait op.half (some { asked := op, op, since := u.now, earlier }))
  | .poll half => ((u.waiting half).filter (·.woken)).map (u.poll s half)
  | .giveUp half => if (u.waiting half).isSome then some (u.wait half none) else none
  | .wake half => (u.waiting half).map fun w => u.wait half (some { w with woken := true })
  | .outside change =>
    let inner := { u.stream.inner with inner := change u.stream.inner.inner }
    some { u with stream := { u.stream with inner } }
  | .pass nanos =>
    let time := u.now + nanos
    if u.Still time .reading && u.Still time .writing then
      some { u with now := time, reading := u.ring time .reading, writing := u.ring time .writing }
    else none

end Session

/-- What is left of an operation once those bytes were moved. -/
inductive Moved : Operation → Bytes → Operation → Prop where
  | readExact (done : Bytes) (left : Nat) (b : Bytes) :
    Moved (.readExact done left) b (.readExact (done ++ b) (left - b.length))
  | writeAll (b rest : Bytes) : Moved (.writeAll (b ++ rest)) b (.writeAll rest)
  | nothing (op : Operation) : Moved op [] op

namespace Moved

variable {op op' op'' : Operation} {b c : Bytes}

theorem trans (h : Moved op b op') (k : Moved op' c op'') : Moved op (b ++ c) op'' := by
  cases h with
  | nothing => exact k
  | readExact done left =>
    cases k with
    | readExact =>
      rw [List.append_assoc, Nat.sub_sub, ← List.length_append]
      exact .readExact done left (b ++ c)
    | nothing =>
      rw [List.append_nil]
      exact .readExact done left b
  | writeAll rest =>
    cases k with
    | writeAll => exact List.append_assoc b c _ ▸ .writeAll (b ++ c) _
    | nothing =>
      rw [List.append_nil]
      exact .writeAll b _

/-- What is left of an operation is for the same half. -/
theorem half_eq (h : Moved op b op') : op'.half = op.half := by
  cases h <;> rfl

/-- What is left of an operation has its deadline. -/
theorem dueOf_eq {made : Nat} {read write : Duration} (h : Moved op b op') :
    Deadlined.dueOf made read write op' = Deadlined.dueOf made read write op := by
  cases h <;> rfl

end Moved

namespace Deadlined

variable {σ α : Type} {half : Half} {now : Nat} {op : Operation}

/-- The timer of one half, if there is one, tells whoever looked at it. -/
def Watched (d : Deadlined σ) (half : Half) : Prop := (d.timer half).all (·.watched) = true

/-- A poll at `now` moved those portions in one half, and nothing in the other. -/
structure Advance (now : Nat) (half : Half) (news : List (Nat × Bytes)) (d e : Deadlined (Metered σ)) :
    Prop where
  deadlines : e.deadline? = d.deadline?
  moved : e.inner.moved half = d.inner.moved half ++ news
  others : ∀ h, h ≠ half → e.inner.moved h = d.inner.moved h
  watched : ∀ h, d.Watched h → e.Watched h
  times : ∀ q ∈ news, q.1 = now ∧ d.expired half now = false

/-- The timer of the operation, if any, has not fired and tells whoever looked at it. -/
structure Parked (now : Nat) (op : Operation) (d : Deadlined σ) : Prop where
  open' : d.refuses now op = false
  watched : (d.timerOf op).all (·.watched) = true

section Parked

variable {d e : Deadlined σ}

/-- Who was parked stays so, wherever the timers are neither moved nor forgotten. -/
theorem Parked.mono (h : Parked now op d) (hd : e.deadline? = d.deadline?)
    (hwatched : ∀ k, d.Watched k → e.Watched k) : Parked now op e := by
  refine ⟨(refuses_congr hd).trans h.open', ?_⟩
  cases op with
  | shutdown => rfl
  | read _ | readExact _ _ => exact hwatched .reading h.watched
  | write _ | writeAll _ | flush => exact hwatched .writing h.watched

end Parked

variable {d e f : Deadlined (Metered σ)} {news news' : List (Nat × Bytes)}

namespace Advance

theorem refl (now : Nat) (half : Half) (d : Deadlined (Metered σ)) : Advance now half [] d d :=
  ⟨rfl, (List.append_nil _).symm, fun _ _ => rfl, fun _ => id, List.forall_mem_nil _⟩

theorem trans (h : Advance now half news d e) (k : Advance now half news' e f) :
    Advance now half (news ++ news') d f := by
  refine ⟨k.deadlines.trans h.deadlines, ?_, fun l hl => (k.others l hl).trans (h.others l hl),
    fun l => k.watched l ∘ h.watched l, fun q hq => ?_⟩
  · rw [k.moved, h.moved, List.append_assoc]
  · rcases List.mem_append.1 hq with hq | hq
    · exact h.times q hq
    · rw [← expired_congr h.deadlines]
      exact k.times q hq

end Advance

/-- What an operation of a metered stream moves is recorded. -/
structure Meters (now : Nat) (half : Half) (news : Poll (Except IoError α) → List (Nat × Bytes))
    (op : Metered σ → Poll (Except IoError α) × Metered σ) : Prop where
  moved : ∀ m, (op m).2.moved half = m.moved half ++ news (op m).1
  others : ∀ m h, h ≠ half → (op m).2.moved h = m.moved h
  times : ∀ p, ∀ q ∈ news p, q.1 = now
  error : ∀ e, news (.ready (.error e)) = []

theorem times_portion (now : Nat) (f : α → Bytes) (p : Poll (Except IoError α)) :
    ∀ q ∈ Metered.portion now f p, q.1 = now := by
  rcases p with ⟨e | a⟩ | _
  · nofun
  · intro q hq
    rw [List.mem_singleton.1 hq]
  · nofun

theorem meters_read (s : Stream σ) (now n : Nat) :
    Meters now .reading (Metered.portion now id) ((s.metered now).read n) := by
  refine ⟨fun _ => rfl, fun m h hne => ?_, times_portion now id, fun _ => rfl⟩
  cases h with
  | reading => exact absurd rfl hne
  | writing => rfl

theorem meters_write (s : Stream σ) (now : Nat) (bytes : Bytes) :
    Meters now .writing (Metered.portion now bytes.take) ((s.metered now).write bytes) := by
  refine ⟨fun _ => rfl, fun m h hne => ?_, times_portion now bytes.take, fun _ => rfl⟩
  cases h with
  | reading => rfl
  | writing => exact absurd rfl hne

theorem meters_flush (s : Stream σ) (now : Nat) :
    Meters now .writing (fun _ => []) (s.metered now).flush :=
  ⟨fun m => (List.append_nil m.sent).symm, fun m h _ => by cases h <;> rfl, fun _ => nofun, fun _ => rfl⟩

theorem watched_watch (d : Deadlined σ) (half : Half) : (d.watch half).Watched half := by
  cases half with
  | reading => cases hd : d.readTimer <;> simp [Watched, watch, timer, Timer.watch, hd]
  | writing => cases hd : d.writeTimer <;> simp [Watched, watch, timer, Timer.watch, hd]

/-- Looking at one timer leaves the other as it is. -/
theorem Watched.watch {k : Half} (h : d.Watched k) (half : Half) : (d.watch half).Watched k := by
  by_cases hk : k = half
  · subst hk
    exact watched_watch d k
  · cases k <;> cases half <;> first | exact h | exact absurd rfl hk

/-- What an operation moves is recorded, if it is not refused; where it has to wait its timer is watched. -/
theorem Meters.guarded {g : Poll (Except IoError α) → List (Nat × Bytes)}
    {op : Metered σ → Poll (Except IoError α) × Metered σ} (h : Meters now half g op)
    (d : Deadlined (Metered σ)) :
    Advance now half (g (guarded half now op d).1) d (guarded half now op d).2 ∧
      ((guarded half now op d).1 = .pending →
        d.expired half now = false ∧ (guarded half now op d).2.Watched half) := by
  cases hexpired : d.expired half now with
  | true =>
    rw [guarded_expired op hexpired, h.error]
    exact ⟨.refl now half d, nofun⟩
  | false =>
    rw [guarded_open op hexpired]
    have hadvance : Advance now half (g (op d.inner).1) d { d.watch half with inner := (op d.inner).2 } :=
      ⟨deadline?_watch d half, h.moved d.inner, h.others d.inner, fun _ hk => hk.watch half,
        fun q hq => ⟨h.times _ q hq, hexpired⟩⟩
    exact ⟨hadvance, fun _ => ⟨rfl, watched_watch d half⟩⟩

/-- The answer `r` to an operation that is polled at `now` came of moving those portions. -/
structure Polled (now : Nat) (op : Operation) (d : Deadlined (Metered σ)) (news : List (Nat × Bytes))
    (r : Poll (Except IoError Outcome) × Operation × Deadlined (Metered σ)) : Prop where
  advance : Advance now op.half news d r.2.2
  parked : r.1 = .pending → Moved op (Metered.bytes news) r.2.1 ∧ r.2.1.asks = true ∧ Parked now r.2.1 r.2.2

theorem polled_readExact (s : Stream σ) (now : Nat) (d : Deadlined (Metered σ)) (done : Bytes) (left : Nat) :
    ∃ news, Polled now (.readExact done left) d news
      ((stream (s.metered now) now).readExact done left d) := by
  induction left using Nat.strongRecOn generalizing done d with
  | _ left ih =>
    unfold Stream.readExact
    by_cases hleft : left = 0
    · rw [if_pos hleft]
      exact ⟨[], .refl now _ d, nofun⟩
    · rw [if_neg hleft]
      obtain ⟨hadvance, hparked⟩ := (meters_read s now left).guarded d
      have hread : (stream (s.metered now) now).read left d =
        guarded .reading now ((s.metered now).read left) d := rfl
      rw [hread]
      rcases hguarded : guarded .reading now ((s.metered now).read left) d with ⟨⟨_ | _ | ⟨b, bs⟩⟩ | _, e⟩
      · rw [hguarded] at hadvance
        exact ⟨_, hadvance, nofun⟩
      · rw [hguarded] at hadvance
        exact ⟨_, hadvance, nofun⟩
      · rw [hguarded] at hadvance
        obtain ⟨news, hnext⟩ := ih (left - (bs.length + 1)) (by omega) e (done ++ b :: bs)
        refine ⟨_, hadvance.trans hnext.advance, fun hpending => ?_⟩
        obtain ⟨hmoved, hasks, hrest⟩ := hnext.parked hpending
        have hfirst : Moved (.readExact done left) (b :: bs)
            (.readExact (done ++ b :: bs) (left - (bs.length + 1))) := .readExact done left (b :: bs)
        exact ⟨hfirst.trans hmoved, hasks, hrest⟩
      · rw [hguarded] at hadvance hparked
        obtain ⟨hopen, hwatched⟩ := hparked rfl
        refine ⟨_, hadvance, fun _ => ⟨.nothing _, ?_, (expired_congr hadvance.deadlines).trans hopen, hwatched⟩⟩
        cases left with
        | zero => exact absurd rfl hleft
        | succ => rfl

theorem polled_writeAll (s : Stream σ) (now : Nat) (d : Deadlined (Metered σ)) (rest : Bytes) :
    ∃ news, Polled now (.writeAll rest) d news ((stream (s.metered now) now).writeAll rest d) := by
  induction hlen : rest.length using Nat.strongRecOn generalizing rest d with
  | _ _ ih =>
    unfold Stream.writeAll
    cases rest with
    | nil => exact ⟨[], .refl now _ d, fun hpending => by cases hpending⟩
    | cons b bs =>
      obtain ⟨hadvance, hparked⟩ := (meters_write s now (b :: bs)).guarded d
      have hwrite : (stream (s.metered now) now).write (b :: bs) d =
        guarded .writing now ((s.metered now).write (b :: bs)) d := rfl
      simp only [hwrite]
      rcases hguarded : guarded .writing now ((s.metered now).write (b :: bs)) d with ⟨⟨_ | _ | n⟩ | _, e⟩
      · rw [hguarded] at hadvance
        exact ⟨_, hadvance, fun hpending => by cases hpending⟩
      · rw [hguarded] at hadvance
        exact ⟨_, hadvance, fun hpending => by cases hpending⟩
      · rw [hguarded] at hadvance
        have hshort : (bs.drop n).length < (b :: bs).length := by
          rw [List.length_drop, List.length_cons]
          omega
        obtain ⟨news, hnext⟩ := ih _ (hlen ▸ hshort) e (bs.drop n) rfl
        refine ⟨_, hadvance.trans hnext.advance, fun hpending => ?_⟩
        obtain ⟨hmoved, hasks, hrest⟩ := hnext.parked hpending
        have hfirst : Moved (.writeAll (b :: bs)) ((b :: bs).take (n + 1)) (.writeAll (bs.drop n)) := by
          have hsplit : b :: bs = (b :: bs).take (n + 1) ++ bs.drop n := by
            rw [List.take_succ_cons, List.cons_append, List.take_append_drop]
          have hmoved := Moved.writeAll ((b :: bs).take (n + 1)) (bs.drop n)
          rwa [← hsplit] at hmoved
        exact ⟨hfirst.trans hmoved, hasks, hrest⟩
      · rw [hguarded] at hadvance hparked
        obtain ⟨hopen, hwatched⟩ := hparked rfl
        exact ⟨_, hadvance, fun _ => ⟨.nothing _, rfl, (expired_congr hadvance.deadlines).trans hopen, hwatched⟩⟩

theorem outcome_eq_pending {f : α → Outcome} {p : Poll (Except IoError α)} :
    Stream.outcome f p = .pending ↔ p = .pending := by
  cases p <;> simp [Stream.outcome]

/-- An operation of one poll. -/
theorem Meters.polled {g : Poll (Except IoError α) → List (Nat × Bytes)}
    {op : Metered σ → Poll (Except IoError α) × Metered σ} (h : Meters now half g op)
    (d : Deadlined (Metered σ)) (f : α → Outcome) {asked : Operation} (hhalf : asked.half = half)
    (hasks : asked.asks = true) (hpending : g .pending = [])
    (htimer : ∀ e : Deadlined (Metered σ), e.timerOf asked = e.timer half) :
    ∃ news, Polled now asked d news
      (Stream.outcome f (Deadlined.guarded half now op d).1, asked, (Deadlined.guarded half now op d).2) := by
  obtain ⟨hadvance, hparked⟩ := h.guarded d
  subst hhalf
  refine ⟨_, hadvance, fun hp => ?_⟩
  rw [outcome_eq_pending] at hp
  obtain ⟨hopen, hwatched⟩ := hparked hp
  rw [hp, hpending]
  refine ⟨.nothing asked, hasks, ?_, ?_⟩
  · rw [refuses, htimer]
    exact (expired_congr hadvance.deadlines).trans hopen
  · rw [htimer]
    exact hwatched

/-- What one poll does. -/
theorem poll_spec (s : Stream σ) (now : Nat) (op : Operation) (d : Deadlined (Metered σ)) :
    ∃ news, Polled now op d news ((stream (s.metered now) now).poll op d) := by
  cases op with
  | read n => exact (meters_read s now n).polled d .bytes rfl rfl rfl fun _ => rfl
  | readExact done left => exact polled_readExact s now d done left
  | write bytes => exact (meters_write s now bytes).polled d .count rfl rfl rfl fun _ => rfl
  | writeAll rest => exact polled_writeAll s now d rest
  | flush => exact (meters_flush s now).polled d (fun _ => .done) rfl rfl rfl fun _ => rfl
  | shutdown =>
    refine ⟨[], ⟨rfl, (List.append_nil _).symm, fun h _ => by cases h <;> rfl, fun _ => id, nofun⟩, fun _ => ?_⟩
    exact ⟨.nothing _, rfl, rfl, rfl⟩

end Deadlined
end PooledTcp
