import PooledTcp.Run
import PooledTcp.Signal.Basic

/-!
# What an event does to signals

`Move` has one case for each kind of event: what it needs, and what it leaves behind. The lemmas before it say what
each of them changes in a signal, in a wait and in the answers; whatever is proved of the events goes by them.
-/

namespace PooledTcp.Signals

variable {b c : Signals} {s s' : SignalId} {t t' : TaskId} {w : SignalWait} {signal : Signal}
  {stage : WaitStage} {e : Event}

/-! ### What changes -/

theorem getElem?_change (b : Signals) (s : SignalId) (f : Signal → Signal) (s' : SignalId) :
    (b.change s f).signals[s']? = if s = s' then b.signals[s']?.map f else b.signals[s']? := by
  rw [change, List.getElem?_modify]
  split
  · rfl
  · exact congrFun Option.map_id _

@[simp] theorem length_change (b : Signals) (s : SignalId) (f : Signal → Signal) :
    (b.change s f).signals.length = b.signals.length :=
  List.length_modify ..

theorem getElem?_moveTo (b : Signals) (t : TaskId) (w : SignalWait) (stage : WaitStage) (s : SignalId) :
    (b.moveTo t w stage).signals[s]? =
      if w.signal = s then b.signals[s]?.map (·.attend t stage) else b.signals[s]? :=
  getElem?_change b w.signal _ s

@[simp] theorem length_moveTo : (b.moveTo t w stage).signals.length = b.signals.length :=
  length_change b w.signal _

theorem lookup_moveTo_self : (b.moveTo t w stage).waits.lookup t = some { w with stage } :=
  lookup_put_self t _ _

theorem lookup_moveTo_of_ne (h : t' ≠ t) :
    (b.moveTo t w stage).waits.lookup t' = b.waits.lookup t' :=
  lookup_put_of_ne h _ _

/-- What a trigger of signal `s` makes of a wait. -/
def wakened (s : SignalId) (w : SignalWait) : SignalWait :=
  if w.signal = s then { w with stage := w.stage.wake } else w

@[simp] theorem signal_wakened : (wakened s w).signal = w.signal := by
  unfold wakened
  split <;> rfl

theorem lookup_wake (b : Signals) (s : SignalId) (t : TaskId) :
    (b.wake s).waits.lookup t = (b.waits.lookup t).map (wakened s) :=
  lookup_map (wakened s) t b.waits

theorem getElem?_fire (b : Signals) (s : SignalId) (signal : Signal) (s' : SignalId) :
    (b.fire s signal).signals[s']? =
      if s = s' then b.signals[s']?.map fun g => { g with triggered := true } else b.signals[s']? := by
  rw [← getElem?_change, fire]
  dsimp only
  split <;> rfl

theorem lookup_fire (b : Signals) (s : SignalId) (signal : Signal) (t : TaskId) :
    (b.fire s signal).waits.lookup t =
      if signal.triggered then b.waits.lookup t else (b.waits.lookup t).map (wakened s) := by
  rw [fire, ← lookup_wake]
  cases hsignal : signal.triggered <;> simp [Signal.trigger, hsignal, wake, change]

/-- The answers to the triggers of a signal, latest first. -/
def answers (b : Signals) (s : SignalId) : List Bool := (b.triggers.filter (·.1 == s)).map (·.2)

theorem answers_fire (b : Signals) (s : SignalId) (signal : Signal) (s' : SignalId) :
    (b.fire s signal).answers s' =
      if s = s' then (!signal.triggered) :: b.answers s' else b.answers s' := by
  have htriggers : (b.fire s signal).triggers = (s, !signal.triggered) :: b.triggers := rfl
  rw [answers, htriggers, List.filter_cons]
  by_cases hs : s = s'
  · rw [if_pos (by simpa using hs), if_pos hs]
    rfl
  · rw [if_neg (by simpa using hs), if_neg hs]
    rfl

@[simp] theorem length_fire (b : Signals) (s : SignalId) (signal : Signal) :
    (b.fire s signal).signals.length = b.signals.length := by
  rw [fire]
  dsimp only
  split <;> exact length_change b s _

/-! ### Events -/

theorem getElem?_of_held (h : b.held? s = some signal) : b.signals[s]? = some signal :=
  (Option.filter_eq_some_iff.1 h).1

theorem isTriggered_iff : b.isTriggered s = true ↔ ∃ g, b.signals[s]? = some g ∧ g.triggered = true :=
  Option.any_eq_true ..

theorem isTriggered_append (b : Signals) (s : SignalId) :
    isTriggered { b with signals := b.signals ++ [{}] } s = b.isTriggered s := by
  simp only [isTriggered, List.getElem?_append]
  split
  · rfl
  · rename_i hge
    rw [List.getElem?_eq_none (Nat.le_of_not_lt hge)]
    cases s - b.signals.length <;> rfl

theorem isTriggered_change {f : Signal → Signal} (hf : ∀ g, (f g).triggered = g.triggered) :
    (b.change s f).isTriggered s' = b.isTriggered s' := by
  rw [isTriggered, getElem?_change]
  split
  · simp [isTriggered, Option.any_map, hf]
  · rfl

theorem triggered_attend (g : Signal) (t : TaskId) (stage : WaitStage) :
    (g.attend t stage).triggered = g.triggered := by
  cases stage <;> rfl

@[simp] theorem isTriggered_moveTo : (b.moveTo t w stage).isTriggered s = b.isTriggered s :=
  isTriggered_change (b := b) fun g => triggered_attend g t stage

theorem isTriggered_fire (h : b.held? s = some signal) :
    (b.fire s signal).isTriggered s' = true ↔ b.isTriggered s' = true ∨ s = s' := by
  rw [isTriggered, getElem?_fire]
  split
  · rename_i heq
    subst heq
    simp [getElem?_of_held h]
  · rename_i hne
    exact ⟨.inl, fun h => h.resolve_right hne⟩

theorem lookup_of_wait (h : b.step (.wait t s) = some c) : b.waits.lookup t = none := by
  simp only [step] at h
  split at h
  · cases h
  · rename_i hfree
    exact Option.not_isSome_iff_eq_none.1 hfree

theorem step_run_iff : b.step (.run t) = some c ↔ ∃ w stage, b.waits.lookup t = some w ∧
    w.stage.next? (b.isTriggered w.signal) = some stage ∧ b.moveTo t w stage = c := by
  simp only [step, Option.bind_eq_bind, Option.bind_eq_some_iff, Option.pure_def, Option.some.injEq,
    exists_and_left]

theorem step_abort_iff : b.step (.abort t) = some c ↔ ∃ w stage, b.waits.lookup t = some w ∧
    w.stage.cut? = some stage ∧ b.moveTo t w stage = c := by
  simp only [step, Option.bind_eq_bind, Option.bind_eq_some_iff, Option.pure_def, Option.some.injEq,
    exists_and_left]

/-- What comes of each event. -/
inductive Move (b : Signals) : Event → Signals → Prop where
  | create : Move b .create { b with signals := b.signals ++ [{}] }
  /-- A handle is made or dropped. -/
  | handle {s : SignalId} {signal : Signal} {e : Event} (count : Nat → Nat) :
    e = .clone s ∨ e = .drop s → b.held? s = some signal →
    Move b e (b.change s fun g => { g with handles := count g.handles })
  | trigger {s : SignalId} {signal : Signal} : b.held? s = some signal →
    Move b (.trigger s) (b.fire s signal)
  | wait {t : TaskId} {s : SignalId} {signal : Signal} : b.waits.lookup t = none →
    b.held? s = some signal →
    Move b (.wait t s) { b with waits := (t, { signal := s, stage := .begun }) :: b.waits }
  | run {t : TaskId} {w : SignalWait} {stage : WaitStage} : b.waits.lookup t = some w →
    w.stage.next? (b.isTriggered w.signal) = some stage → Move b (.run t) (b.moveTo t w stage)
  | abort {t : TaskId} {w : SignalWait} {stage : WaitStage} : b.waits.lookup t = some w →
    w.stage.cut? = some stage → Move b (.abort t) (b.moveTo t w stage)

theorem Move.of_step (h : b.step e = some c) : Move b e c := by
  cases e with
  | create =>
    cases h
    exact .create
  | clone s =>
    obtain ⟨signal, hheld, rfl⟩ := Option.map_eq_some_iff.1 h
    exact .handle (· + 1) (.inl rfl) hheld
  | drop s =>
    obtain ⟨signal, hheld, rfl⟩ := Option.map_eq_some_iff.1 h
    exact .handle (· - 1) (.inr rfl) hheld
  | trigger s =>
    obtain ⟨signal, hheld, rfl⟩ := Option.map_eq_some_iff.1 h
    exact .trigger hheld
  | wait t s =>
    have hfree := lookup_of_wait h
    simp only [step, hfree] at h
    obtain ⟨signal, hheld, rfl⟩ := Option.map_eq_some_iff.1 h
    exact .wait hfree hheld
  | run t =>
    obtain ⟨w, stage, hw, hnext, rfl⟩ := step_run_iff.1 h
    exact .run hw hnext
  | abort t =>
    obtain ⟨w, stage, hw, hcut, rfl⟩ := step_abort_iff.1 h
    exact .abort hw hcut

/-- What an event does to a task, given how it stood before and how it stands after. -/
inductive Turn (b : Signals) (e : Event) (t : TaskId) : Option SignalWait → Option SignalWait → Prop where
  | begins {s : SignalId} : e = .wait t s → Turn b e t none (some { signal := s, stage := .begun })
  /-- The event is none of its own; if it is a trigger of its signal it is not the first. -/
  | rests {o : Option SignalWait} : e ≠ .abort t → (∀ s, e ≠ .wait t s) →
    (∀ w, o = some w → e = .trigger w.signal → b.isTriggered w.signal = true) → Turn b e t o o
  | woken {w : SignalWait} : e = .trigger w.signal →
    Turn b e t (some w) (some { w with stage := w.stage.wake })
  | goesOn {w : SignalWait} {stage : WaitStage} : e = .run t →
    w.stage.next? (b.isTriggered w.signal) = some stage → Turn b e t (some w) (some { w with stage })
  | ends {w : SignalWait} {stage : WaitStage} : e = .abort t → w.stage.cut? = some stage →
    Turn b e t (some w) (some { w with stage })

theorem Move.turn (h : Move b e c) (t : TaskId) : Turn b e t (b.waits.lookup t) (c.waits.lookup t) := by
  cases h with
  | create => exact .rests nofun nofun nofun
  | handle count he _ => rcases he with rfl | rfl <;> exact .rests nofun nofun nofun
  | @trigger s signal hheld =>
    rw [lookup_fire]
    cases hsignal : signal.triggered with
    | true =>
      refine .rests nofun nofun fun w _ heq => ?_
      cases heq
      exact isTriggered_iff.2 ⟨signal, getElem?_of_held hheld, hsignal⟩
    | false =>
      cases hw : b.waits.lookup t with
      | none => exact .rests nofun nofun nofun
      | some w =>
        by_cases hs : w.signal = s
        · rw [if_neg Bool.false_ne_true, Option.map_some, wakened, if_pos hs]
          exact .woken (by rw [hs])
        · rw [if_neg Bool.false_ne_true, Option.map_some, wakened, if_neg hs]
          refine .rests nofun nofun fun w' hw' heq => ?_
          cases hw'
          cases heq
          exact absurd rfl hs
  | @wait t' s signal hfree _ =>
    by_cases ht : t = t'
    · subst ht
      rw [hfree, List.lookup_cons_self]
      exact .begins rfl
    · rw [List.lookup_cons, beq_false_of_ne ht]
      exact .rests nofun (fun s' heq => ht (by cases heq; rfl)) nofun
  | @run t' w stage hw hstage =>
    by_cases ht : t = t'
    · subst ht
      rw [hw, lookup_moveTo_self]
      exact .goesOn rfl hstage
    · rw [lookup_moveTo_of_ne ht]
      exact .rests nofun nofun nofun
  | @abort t' w stage hw hstage =>
    by_cases ht : t = t'
    · subst ht
      rw [hw, lookup_moveTo_self]
      exact .ends rfl hstage
    · rw [lookup_moveTo_of_ne ht]
      exact .rests (fun heq => ht (by cases heq; rfl)) nofun nofun

/-- A task is started for its signal, and keeps to it. -/
theorem Turn.started_or_was {before : Option SignalWait} (h : Turn b e t before (some w)) :
    e = .wait t w.signal ∨ ∃ w₀, before = some w₀ ∧ w₀.signal = w.signal := by
  cases h with
  | begins he => exact .inl he
  | rests | woken | goesOn | ends => exact .inr ⟨_, rfl, rfl⟩

theorem Turn.keeps_signal {after : Option SignalWait} (h : Turn b e t (some w) after) :
    ∃ w', after = some w' ∧ w'.signal = w.signal := by
  cases h with
  | rests | woken | goesOn | ends => exact ⟨_, rfl, rfl⟩

/-- Signals are not unmade. -/
theorem Move.length_le (h : Move b e c) : b.signals.length ≤ c.signals.length := by
  cases h with
  | create => simp
  | wait => exact Nat.le_refl _
  | handle => exact Nat.le_of_eq (length_change ..).symm
  | trigger => exact Nat.le_of_eq (length_fire ..).symm
  | run | abort => exact Nat.le_of_eq length_moveTo.symm

theorem lt_length_of_held (h : b.held? s = some signal) : s < b.signals.length :=
  (List.getElem?_eq_some_iff.1 (getElem?_of_held h)).1

/-- A signal is triggered by its trigger alone, and stays so. -/
theorem Move.isTriggered (h : Move b e c) (s : SignalId) :
    c.isTriggered s = true ↔ b.isTriggered s = true ∨ e = .trigger s := by
  cases h with
  | create =>
    rw [isTriggered_append]
    exact ⟨.inl, fun h => h.resolve_right nofun⟩
  | handle count he _ =>
    rw [isTriggered_change (by exact fun _ => rfl)]
    refine ⟨.inl, fun h => h.resolve_right ?_⟩
    rcases he with rfl | rfl <;> exact nofun
  | @trigger s' signal hheld =>
    rw [isTriggered_fire hheld, Event.trigger.injEq]
  | wait hfree _ => exact ⟨.inl, fun h => h.resolve_right nofun⟩
  | run hw hstage =>
    rw [isTriggered_moveTo]
    exact ⟨.inl, fun h => h.resolve_right nofun⟩
  | abort hw hstage =>
    rw [isTriggered_moveTo]
    exact ⟨.inl, fun h => h.resolve_right nofun⟩

theorem Move.isTriggered_eq (h : Move b e c) (hfirst : e = .trigger s → b.isTriggered s = true) :
    c.isTriggered s = b.isTriggered s := by
  rw [Bool.eq_iff_iff, h.isTriggered]
  exact ⟨fun h => h.elim id hfirst, .inl⟩

end PooledTcp.Signals
