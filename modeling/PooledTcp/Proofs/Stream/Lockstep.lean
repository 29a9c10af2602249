import PooledTcp.Stream.Deadline

/-!
# Until its deadlines a wrapped stream is the bare one

A stream and its wrapping are polled side by side, while others change what is behind them, and the bare stream
is spared the polls that the wrapped one refuses. All the others are answered alike, and at the end the streams
are alike (`lockstep`). What is refused is known from the start: an operation from the moment on at which its
timeout fires, and no operation for any other reason.

A poll keeps the two together, whether it is done (`poll_open`) or refused (`poll_refused`), since looking at a
timer does not move it (`deadline?_watch`).
-/

namespace PooledTcp

/-- An operation with something left to do asks the stream. -/
def Operation.asks : Operation → Bool
  | .readExact _ 0 | .writeAll [] => false
  | _ => true

namespace Stream

variable {σ τ α : Type} {s : Stream σ} {t : Stream τ} {proj : τ → σ} {I : τ → Prop} {op : Operation}

/-- What a stream comes to, `p`, is what the one behind it does, `q`, and keeps `I`. -/
structure Mirrors (proj : τ → σ) (I : τ → Prop) (p : α × τ) (q : α × σ) : Prop where
  result : p.1 = q.1
  behind : proj p.2 = q.2
  kept : I p.2

/-- What an operation asks of a stream `t` comes to what it does on the stream `s` behind it, while `I` holds. -/
def Follows (t : Stream τ) (s : Stream σ) (proj : τ → σ) (I : τ → Prop) : Operation → Prop
  | .read _ | .readExact _ _ => ∀ n y, I y → Mirrors proj I (t.read n y) (s.read n (proj y))
  | .write _ | .writeAll _ => ∀ bytes y, I y → Mirrors proj I (t.write bytes y) (s.write bytes (proj y))
  | .flush => ∀ y, I y → Mirrors proj I (t.flush y) (s.flush (proj y))
  | .shutdown => ∀ y, I y → Mirrors proj I (t.shutdown y) (s.shutdown (proj y))

/-- A poll comes to what one of the stream behind does. -/
structure Same (proj : τ → σ) (I : τ → Prop) (p : Poll (Except IoError Outcome) × Operation × τ)
    (q : Poll (Except IoError Outcome) × Operation × σ) : Prop where
  result : p.1 = q.1
  left : p.2.1 = q.2.1
  behind : proj p.2.2 = q.2.2
  kept : I p.2.2

theorem Mirrors.outcome {p : Poll (Except IoError α) × τ} {q : Poll (Except IoError α) × σ}
    (h : Mirrors proj I p q) (f : α → Outcome) (op : Operation) :
    Same proj I (outcome f p.1, op, p.2) (outcome f q.1, op, q.2) :=
  ⟨congrArg (Stream.outcome f) h.result, rfl, h.behind, h.kept⟩

theorem readExact_follows (h : ∀ n y, I y → Mirrors proj I (t.read n y) (s.read n (proj y))) {y : τ} (hy : I y)
    (done : Bytes) (left : Nat) : Same proj I (t.readExact done left y) (s.readExact done left (proj y)) := by
  induction left using Nat.strongRecOn generalizing done y with
  | _ left ih =>
    unfold readExact
    by_cases hleft : left = 0
    · rw [if_pos hleft, if_pos hleft]
      exact ⟨rfl, rfl, rfl, hy⟩
    · rw [if_neg hleft, if_neg hleft]
      obtain ⟨hresult, hbehind, hkept⟩ := h left y hy
      generalize t.read left y = p at hresult hbehind hkept
      generalize s.read left (proj y) = q at hresult hbehind
      obtain ⟨p, z⟩ := p
      obtain ⟨q, x⟩ := q
      obtain rfl : p = q := hresult
      obtain rfl : proj z = x := hbehind
      rcases p with ⟨_ | _ | ⟨b, bs⟩⟩ | _
      · exact ⟨rfl, rfl, rfl, hkept⟩
      · exact ⟨rfl, rfl, rfl, hkept⟩
      · exact ih (left - (bs.length + 1)) (by omega) hkept (done ++ b :: bs)
      · exact ⟨rfl, rfl, rfl, hkept⟩

theorem writeAll_follows (h : ∀ bytes y, I y → Mirrors proj I (t.write bytes y) (s.write bytes (proj y))) {y : τ}
    (hy : I y) (rest : Bytes) : Same proj I (t.writeAll rest y) (s.writeAll rest (proj y)) := by
  induction hlen : rest.length using Nat.strongRecOn generalizing rest y with
  | _ _ ih =>
    unfold writeAll
    cases rest with
    | nil => exact ⟨rfl, rfl, rfl, hy⟩
    | cons b bs =>
      obtain ⟨hresult, hbehind, hkept⟩ := h (b :: bs) y hy
      dsimp only
      generalize t.write (b :: bs) y = p at hresult hbehind hkept
      generalize s.write (b :: bs) (proj y) = q at hresult hbehind
      obtain ⟨p, z⟩ := p
      obtain ⟨q, x⟩ := q
      obtain rfl : p = q := hresult
      obtain rfl : proj z = x := hbehind
      rcases p with ⟨_ | _ | n⟩ | _
      · exact ⟨rfl, rfl, rfl, hkept⟩
      · exact ⟨rfl, rfl, rfl, hkept⟩
      · have hshort : (bs.drop n).length < (b :: bs).length := by
          rw [List.length_drop, List.length_cons]
          omega
        exact ih _ (hlen ▸ hshort) hkept (bs.drop n) rfl
      · exact ⟨rfl, rfl, rfl, hkept⟩

/-- A stream that follows another one through each of its own operations does so through a poll. -/
theorem Follows.poll (h : Follows t s proj I op) {y : τ} (hy : I y) :
    Same proj I (t.poll op y) (s.poll op (proj y)) := by
  cases op with
  | read n => exact (h n y hy).outcome .bytes (.read n)
  | readExact done left => exact readExact_follows h hy done left
  | write bytes => exact (h bytes y hy).outcome .count (.write bytes)
  | writeAll rest => exact writeAll_follows h hy rest
  | flush => exact (h y hy).outcome (fun _ => .done) .flush
  | shutdown => exact (h y hy).outcome (fun _ => .done) .shutdown

/-- Where nothing is left to do the stream is not asked. -/
theorem poll_of_not_asks (t : Stream τ) (y : τ) (h : op.asks = false) :
    ∃ outcome, t.poll op y = (.ready (.ok outcome), op, y) := by
  cases op with
  | readExact done left =>
    cases left with
    | zero => exact ⟨.bytes done, by rw [poll, readExact, if_pos rfl]⟩
    | succ left => cases h
  | writeAll rest =>
    cases rest with
    | nil => exact ⟨.done, by rw [poll, writeAll]⟩
    | cons b bs => cases h
  | _ => cases h

end Stream

namespace Deadlined

/-- The timeout of one half. -/
def timeout (read write : Duration) : Half → Duration
  | .reading => read
  | .writing => write

/-- From when on a stream that was wrapped at `made` refuses what is done in one half; `none` is never. -/
def due (made : Nat) (read write : Duration) (half : Half) : Option Nat :=
  if (timeout read write half).isZero then none
  else some (Clock.tick (Clock.sleepEnd made (timeout read write half)))

/-- From when on it refuses an operation. Shutting down is never refused. -/
def dueOf (made : Nat) (read write : Duration) : Operation → Option Nat
  | .shutdown => none
  | op => due made read write op.half

/-- An operation is not refused at that moment. -/
def admits (made : Nat) (read write : Duration) (now : Nat) (op : Operation) : Bool :=
  (dueOf made read write op).all (now < ·)

/-- What happens to a stream over a `σ`. -/
inductive Call (σ : Type) where
  | poll (now : Nat) (op : Operation)
  /-- Somebody else changes what is behind the stream. -/
  | outside (change : σ → σ)

/-- A call that the wrapped stream is not going to refuse. -/
def Call.admitted {σ : Type} (made : Nat) (read write : Duration) : Call σ → Bool
  | .poll now op => admits made read write now op
  | .outside _ => true

/-- A poll with its answer, and what is left to do. -/
structure Answer where
  now : Nat
  op : Operation
  result : Poll (Except IoError Outcome)
  left : Operation

variable {σ τ : Type} {d : Deadlined σ} {half : Half} {now : Nat} {op : Operation}

/-- Make calls one after the other on a stream in state `x`, of which `reach` changes what is behind it: the
answers and the last state. -/
def answers (s : Nat → Stream τ) (reach : (σ → σ) → τ → τ) (x : τ) : List (Call σ) → List Answer × τ
  | [] => ([], x)
  | .poll now op :: calls =>
    let (result, left, x) := (s now).poll op x
    let (rest, x) := answers s reach x calls
    ({ now, op, result, left } :: rest, x)
  | .outside change :: calls => answers s reach (reach change x) calls

/-- The calls on the bare stream. -/
def bare (s : Nat → Stream σ) (x : σ) (calls : List (Call σ)) : List Answer × σ := answers s id x calls

/-- The calls on the wrapped stream. -/
def wrapped (s : Nat → Stream σ) (d : Deadlined σ) (calls : List (Call σ)) : List Answer × Deadlined σ :=
  answers (fun now => stream (s now) now) (fun change d => { d with inner := change d.inner }) d calls

/-- The deadline of one half. -/
def deadline? (d : Deadlined σ) (half : Half) : Option Nat := (d.timer half).map Timer.deadline

/-- An operation is refused, unless there is nothing left to do. -/
def refuses (d : Deadlined σ) (now : Nat) (op : Operation) : Bool := (d.timerOf op).any (·.fired now)

/-- A stream and its wrapping that was made at `made` are where they were left together. -/
structure Aligned (made : Nat) (read write : Duration) (d : Deadlined σ) (x : σ) : Prop where
  inner : d.inner = x
  deadlines : d.deadline? = (wrap x made read write).deadline?

/-- What the calls come to on a stream in state `x` and on its wrapping in state `d`. -/
structure Lockstep (s : Nat → Stream σ) (made : Nat) (read write : Duration) (d : Deadlined σ) (x : σ)
    (calls : List (Call σ)) : Prop where
  answers : ((wrapped s d calls).1.filter fun a => admits made read write a.now a.op) =
    (bare s x (calls.filter (·.admitted made read write))).1
  aligned : Aligned made read write (wrapped s d calls).2
    (bare s x (calls.filter (·.admitted made read write))).2
  refuses : ∀ now op, (wrapped s d calls).2.refuses now op = !admits made read write now op
  stays : ∀ now later op, now ≤ later → (wrapped s d calls).2.refuses now op = true →
    (wrapped s d calls).2.refuses later op = true

section Timers

/-- Looking at a timer does not move it. -/
@[simp] theorem deadline?_watch (d : Deadlined σ) (half : Half) : (d.watch half).deadline? = d.deadline? := by
  funext k
  cases half <;> cases k <;> simp [deadline?, timer, watch, Option.map_map] <;> rfl

theorem expired_eq (d : Deadlined σ) (half : Half) (now : Nat) :
    d.expired half now = (d.deadline? half).any (Clock.fired now) := by
  rw [expired, deadline?, Option.any_map]
  rfl

theorem refuses_eq (d : Deadlined σ) (now : Nat) (op : Operation) :
    d.refuses now op = (op != .shutdown && d.expired op.half now) := by
  cases op <;> rfl

theorem expired_congr {e : Deadlined τ} (h : d.deadline? = e.deadline?) :
    d.expired half now = e.expired half now := by
  rw [expired_eq, expired_eq, h]

theorem refuses_congr {e : Deadlined τ} (h : d.deadline? = e.deadline?) :
    d.refuses now op = e.refuses now op := by
  rw [refuses_eq, refuses_eq, expired_congr h]

theorem fired_eq (t now : Nat) : Clock.fired now t = !decide (now < Clock.tick t) := by
  rw [Clock.fired]
  rcases Nat.lt_or_ge now (Clock.tick t) with h | h
  · rw [decide_eq_true h, decide_eq_false (Nat.not_le.2 h)]
    rfl
  · rw [decide_eq_true h, decide_eq_false (Nat.not_lt.2 h)]
    rfl

/-- The deadlines of a new wrapping are those that its timeouts set. -/
theorem due_eq (x : σ) (made : Nat) (read write : Duration) (half : Half) :
    due made read write half = ((wrap x made read write).deadline? half).map Clock.tick := by
  have htimer : (wrap x made read write).timer half = timer? made (timeout read write half) := by
    cases half <;> rfl
  rw [deadline?, htimer, timer?, due]
  split <;> rfl

/-- When an operation is refused is read off its timer. -/
theorem dueOf_eq {x : σ} {made : Nat} {read write : Duration}
    (h : d.deadline? = (wrap x made read write).deadline?) (op : Operation) :
    dueOf made read write op = (d.timerOf op).map fun t => Clock.tick t.deadline := by
  have htimer (half : Half) :
      due made read write half = (d.timer half).map fun t => Clock.tick t.deadline := by
    rw [due_eq x, ← h, deadline?, Option.map_map]
    rfl
  cases op with
  | shutdown => rfl
  | read _ | readExact _ _ => exact htimer .reading
  | write _ | writeAll _ | flush => exact htimer .writing

/-- What a timer refuses is what was going to be refused. -/
theorem refuses_eq_not_admits {x : σ} {made : Nat} {read write : Duration}
    (h : d.deadline? = (wrap x made read write).deadline?) (now : Nat) (op : Operation) :
    d.refuses now op = !admits made read write now op := by
  rw [refuses, admits, dueOf_eq h]
  cases d.timerOf op with
  | none => rfl
  | some t => rw [Option.map_some, Option.any_some, Option.all_some, Timer.fired, fired_eq]

/-- What has not expired is not due. -/
theorem lt_due {x : σ} {made : Nat} {read write : Duration} {t : Nat}
    (h : d.deadline? = (wrap x made read write).deadline?) (hopen : d.expired half now = false)
    (ht : due made read write half = some t) : now < t := by
  rw [due_eq x, ← h] at ht
  obtain ⟨deadline, hdeadline, rfl⟩ := Option.map_eq_some_iff.1 ht
  rw [expired_eq, hdeadline, Option.any_some, fired_eq, Bool.not_eq_false', decide_eq_true_eq] at hopen
  exact hopen

/-- From its moment on an operation is refused. -/
theorem refuses_of_due {x : σ} {made : Nat} {read write : Duration} {t : Nat}
    (h : d.deadline? = (wrap x made read write).deadline?) (ht : dueOf made read write op = some t)
    (hle : t ≤ now) : d.refuses now op = true := by
  rw [refuses_eq_not_admits h, admits, ht, Option.all_some, decide_eq_false (Nat.not_lt.2 hle)]
  rfl

/-- What is refused once is refused from then on. -/
theorem admits_antitone {made : Nat} {read write : Duration} {later : Nat} (hle : now ≤ later)
    (h : admits made read write later op = true) : admits made read write now op = true := by
  rw [admits, Option.all_eq_true] at h ⊢
  intro t ht
  have := h t ht
  simp only [decide_eq_true_eq] at this ⊢
  omega

end Timers

section Polls

theorem guarded_expired {α : Type} (op : σ → Poll (Except IoError α) × σ) (h : d.expired half now = true) :
    guarded half now op d = (.ready (.error (exceeded half)), d) := by
  rw [guarded, if_pos h]

theorem guarded_open {α : Type} (op : σ → Poll (Except IoError α) × σ) (h : d.expired half now = false) :
    guarded half now op d = ((op d.inner).1, { d.watch half with inner := (op d.inner).2 }) := by
  rw [guarded, h]
  rfl

theorem mirrors_guarded {α : Type} {op : σ → Poll (Except IoError α) × σ} {e : Deadlined σ}
    (h : d.expired half now = false) (hd : e.deadline? = d.deadline?) :
    Stream.Mirrors inner (·.deadline? = d.deadline?) (guarded half now op e) (op e.inner) := by
  rw [guarded_open op ((expired_congr hd).trans h)]
  exact ⟨rfl, rfl, (deadline?_watch e half).trans hd⟩

/-- What is not refused is done as on the bare stream. -/
theorem poll_open (s : Stream σ) (h : d.refuses now op = false) :
    Stream.Same inner (·.deadline? = d.deadline?) ((stream s now).poll op d) (s.poll op d.inner) := by
  refine Stream.Follows.poll ?_ rfl
  cases op with
  | read _ | readExact _ _ => exact fun n e hd => mirrors_guarded h hd
  | write _ | writeAll _ => exact fun bytes e hd => mirrors_guarded h hd
  | flush => exact fun e hd => mirrors_guarded h hd
  | shutdown => exact fun e hd => ⟨rfl, rfl, hd⟩

/-- What is refused fails, and leaves the stream as it is. -/
theorem poll_refused (s : Stream σ) (h : d.refuses now op = true) (hasks : op.asks = true) :
    (stream s now).poll op d = (.ready (.error (exceeded op.half)), op, d) := by
  cases op with
  | read n =>
    have hread : (stream s now).read n d = _ := guarded_expired (s.read n) h
    simp only [Stream.poll, hread]
    rfl
  | readExact done left =>
    cases left with
    | zero => cases hasks
    | succ left =>
      have hread : (stream s now).read (left + 1) d = _ := guarded_expired (s.read (left + 1)) h
      simp only [Stream.poll]
      rw [Stream.readExact, if_neg (Nat.succ_ne_zero left), hread]
      rfl
  | write bytes =>
    have hwrite : (stream s now).write bytes d = _ := guarded_expired (s.write bytes) h
    simp only [Stream.poll, hwrite]
    rfl
  | writeAll rest =>
    cases rest with
    | nil => cases hasks
    | cons b bs =>
      have hwrite : (stream s now).write (b :: bs) d = _ := guarded_expired (s.write (b :: bs)) h
      simp only [Stream.poll]
      rw [Stream.writeAll, hwrite]
      rfl
  | flush =>
    have hflush : (stream s now).flush d = _ := guarded_expired s.flush h
    simp only [Stream.poll, hflush]
    rfl
  | shutdown => cases h

/-- What is refused does not move the stream, whatever is left to do. -/
theorem poll_refused_frame (s : Stream σ) (h : d.refuses now op = true) :
    ((stream s now).poll op d).2 = (op, d) := by
  cases hasks : op.asks with
  | false =>
    obtain ⟨outcome, heq⟩ := (stream s now).poll_of_not_asks d hasks
    rw [heq]
  | true => rw [poll_refused s h hasks]

end Polls

variable {made : Nat} {read write : Duration} {x : σ}

/-- Call after call the answers are the same, but for the polls that are refused. -/
theorem Aligned.calls (s : Nat → Stream σ) (h : Aligned made read write d x) (calls : List (Call σ)) :
    ((wrapped s d calls).1.filter fun a => admits made read write a.now a.op) =
        (bare s x (calls.filter (·.admitted made read write))).1 ∧
      Aligned made read write (wrapped s d calls).2
        (bare s x (calls.filter (·.admitted made read write))).2 := by
  induction calls generalizing d x with
  | nil => exact ⟨rfl, h⟩
  | cons call calls ih =>
    cases call with
    | outside change => exact ih ⟨congrArg change h.inner, h.deadlines⟩
    | poll now op =>
      have hrefuses := refuses_eq_not_admits h.deadlines now op
      cases hadmits : admits made read write now op with
      | true =>
        rw [hadmits] at hrefuses
        have hsame := h.inner ▸ poll_open (s now) hrefuses
        obtain ⟨hanswers, haligned⟩ := ih ⟨hsame.behind, hsame.kept.trans h.deadlines⟩
        rw [List.filter_cons_of_pos (by exact hadmits)]
        refine ⟨?_, haligned⟩
        simp only [wrapped, bare, answers, List.filter_cons, hadmits, if_true] at hanswers ⊢
        rw [hanswers, hsame.result, hsame.left]
      | false =>
        rw [hadmits] at hrefuses
        have hframe := poll_refused_frame (s now) hrefuses
        obtain ⟨hanswers, haligned⟩ := ih h
        rw [List.filter_cons_of_neg (by rw [Call.admitted, hadmits]; nofun)]
        simp only [wrapped, answers, List.filter_cons, hadmits, hframe] at hanswers haligned ⊢
        exact ⟨hanswers, haligned⟩

/-- Until its deadlines a wrapped stream is the bare one. -/
theorem lockstep (s : Nat → Stream σ) (x : σ) (made : Nat) (read write : Duration) (calls : List (Call σ)) :
    Lockstep s made read write (wrap x made read write) x calls := by
  have hnew : Aligned made read write (wrap x made read write) x := ⟨rfl, rfl⟩
  obtain ⟨hanswers, haligned⟩ := hnew.calls s calls
  have hrefuses := refuses_eq_not_admits haligned.deadlines
  refine ⟨hanswers, haligned, hrefuses, fun now later op hle hnow => ?_⟩
  rw [hrefuses, Bool.not_eq_true'] at hnow ⊢
  rw [Bool.eq_false_iff] at hnow ⊢
  exact fun hlater => hnow (admits_antitone hle hlater)

end Deadlined
end PooledTcp
