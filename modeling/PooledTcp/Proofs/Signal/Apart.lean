import PooledTcp.Proofs.Signal.Moves

/-!
# Signals keep apart

What comes of a signal, of the waits for it and of its triggers is what would come of them if nothing ever happened
to the other signals: leaving out of a run all that is about others leaves a run, and it leads to the same
(`Run.apart`).
-/

namespace PooledTcp.Signals

variable {b c b' : Signals} {s : SignalId} {t : TaskId} {e : Event} {es : List Event}

/-- The signal that an event is about, if it is about one; the tasks tell for what they were started. -/
def about? (b : Signals) : Event → Option SignalId
  | .create => none
  | .clone s | .drop s | .trigger s | .wait _ s => some s
  | .run t | .abort t => (b.waits.lookup t).map (·.signal)

/-- What happens to signal `s`; that signals are made is left in, since it numbers them. -/
def own (b : Signals) (s : SignalId) (es : List Event) : List Event :=
  es.filter fun e => e == .create || b.about? e == some s

/-- As far as signal `s` goes, `c` stands as `b` does, and no other signal has waits in `c`. -/
structure Alike (s : SignalId) (b c : Signals) : Prop where
  length_eq : c.signals.length = b.signals.length
  signal_eq : c.signals[s]? = b.signals[s]?
  waits_eq : ∀ t, c.waits.lookup t = (b.waits.lookup t).filter (·.signal == s)
  answers_eq : c.answers s = b.answers s

theorem filter_map_signal {f : SignalWait → SignalWait} (hf : ∀ w, (f w).signal = w.signal)
    {o : Option SignalWait} :
    (o.filter (·.signal == s)).map f = (o.map f).filter (·.signal == s) := by
  cases o with
  | none => rfl
  | some w =>
    rw [Option.map_some, Option.filter_some, Option.filter_some, hf]
    split <;> rfl

namespace Alike

theorem initial : Alike s {} {} := ⟨rfl, rfl, fun _ => rfl, rfl⟩

variable (h : Alike s b c)
include h

theorem held_eq : c.held? s = b.held? s := by
  rw [held?, held?, h.signal_eq]

theorem isTriggered_eq : c.isTriggered s = b.isTriggered s := by
  rw [isTriggered, isTriggered, h.signal_eq]

theorem lookup_of_signal {w : SignalWait} (hw : b.waits.lookup t = some w) (hs : w.signal = s) :
    c.waits.lookup t = some w := by
  rw [h.waits_eq, hw, Option.filter_some, if_pos (beq_iff_eq.2 hs)]

theorem create : Alike s { b with signals := b.signals ++ [{}] } { c with signals := c.signals ++ [{}] } where
  length_eq := by simp [h.length_eq]
  signal_eq := by simp only [List.getElem?_append, h.length_eq, h.signal_eq]
  waits_eq := h.waits_eq
  answers_eq := h.answers_eq

theorem change (f : Signal → Signal) : Alike s (b.change s f) (c.change s f) where
  length_eq := by rw [length_change, length_change, h.length_eq]
  signal_eq := by rw [getElem?_change, getElem?_change, h.signal_eq]
  waits_eq := h.waits_eq
  answers_eq := h.answers_eq

theorem fire (signal : Signal) : Alike s (b.fire s signal) (c.fire s signal) where
  length_eq := by rw [length_fire, length_fire, h.length_eq]
  signal_eq := by rw [getElem?_fire, getElem?_fire, h.signal_eq]
  waits_eq t := by
    rw [lookup_fire, lookup_fire, h.waits_eq]
    split
    · rfl
    · exact filter_map_signal fun w => signal_wakened
  answers_eq := by rw [answers_fire, answers_fire, h.answers_eq]

theorem wait (t : TaskId) :
    Alike s { b with waits := (t, { signal := s, stage := .begun }) :: b.waits }
      { c with waits := (t, { signal := s, stage := .begun }) :: c.waits } where
  length_eq := h.length_eq
  signal_eq := h.signal_eq
  waits_eq t' := by
    by_cases ht : t' = t
    · subst ht
      rw [List.lookup_cons_self, List.lookup_cons_self, Option.filter_some, if_pos (beq_self_eq_true s)]
    · rw [List.lookup_cons, List.lookup_cons, beq_false_of_ne ht, h.waits_eq]
  answers_eq := h.answers_eq

theorem moveTo {w : SignalWait} (hs : w.signal = s) (stage : WaitStage) :
    Alike s (b.moveTo t w stage) (c.moveTo t w stage) where
  length_eq := by rw [length_moveTo, length_moveTo, h.length_eq]
  signal_eq := by rw [getElem?_moveTo, getElem?_moveTo, h.signal_eq]
  waits_eq t' := by
    by_cases ht : t' = t
    · subst ht
      rw [lookup_moveTo_self, lookup_moveTo_self, Option.filter_some, if_pos (beq_iff_eq.2 hs)]
    · rw [lookup_moveTo_of_ne ht, lookup_moveTo_of_ne ht, h.waits_eq]
  answers_eq := h.answers_eq

/-- What can happen to the signal in one can happen to it in the other. -/
theorem follow (hstep : b.step e = some b') (hown : e = .create ∨ b.about? e = some s) :
    ∃ c', c.step e = some c' ∧ Alike s b' c' := by
  cases e with
  | create =>
    cases hstep
    exact ⟨_, rfl, h.create⟩
  | clone s' | drop s' =>
    cases hown.resolve_left nofun
    obtain ⟨signal, hheld, rfl⟩ := Option.map_eq_some_iff.1 hstep
    exact ⟨_, Option.map_eq_some_iff.2 ⟨signal, h.held_eq.trans hheld, rfl⟩, h.change _⟩
  | trigger s' =>
    cases hown.resolve_left nofun
    obtain ⟨signal, hheld, rfl⟩ := Option.map_eq_some_iff.1 hstep
    exact ⟨_, Option.map_eq_some_iff.2 ⟨signal, h.held_eq.trans hheld, rfl⟩, h.fire signal⟩
  | wait t s' =>
    cases hown.resolve_left nofun
    have hfree : c.waits.lookup t = none := by
      rw [h.waits_eq, lookup_of_wait hstep]
      rfl
    simp only [step, lookup_of_wait hstep] at hstep
    obtain ⟨signal, hheld, rfl⟩ := Option.map_eq_some_iff.1 hstep
    refine ⟨_, ?_, h.wait t⟩
    simp only [step, hfree]
    exact Option.map_eq_some_iff.2 ⟨signal, h.held_eq.trans hheld, rfl⟩
  | run t =>
    obtain ⟨w, stage, hw, hnext, rfl⟩ := step_run_iff.1 hstep
    have hs : w.signal = s := by simpa [about?, hw] using hown
    refine ⟨_, step_run_iff.2 ⟨w, stage, h.lookup_of_signal hw hs, ?_, rfl⟩, h.moveTo hs stage⟩
    rw [hs] at hnext ⊢
    rwa [h.isTriggered_eq]
  | abort t =>
    obtain ⟨w, stage, hw, hcut, rfl⟩ := step_abort_iff.1 hstep
    have hs : w.signal = s := by simpa [about?, hw] using hown
    exact ⟨_, step_abort_iff.2 ⟨w, stage, h.lookup_of_signal hw hs, hcut, rfl⟩, h.moveTo hs stage⟩

/-- A task of another signal moves. -/
theorem moveTo_other {w : SignalWait} {stage : WaitStage} (hw : b.waits.lookup t = some w)
    (hs : w.signal ≠ s) : Alike s (b.moveTo t w stage) c where
  length_eq := by rw [length_moveTo, h.length_eq]
  signal_eq := by rw [getElem?_moveTo, if_neg hs, h.signal_eq]
  waits_eq t' := by
    by_cases ht : t' = t
    · subst ht
      simp [h.waits_eq, hw, lookup_moveTo_self, Option.filter_some, hs]
    · rw [lookup_moveTo_of_ne ht, h.waits_eq]
  answers_eq := h.answers_eq

/-- An event about another signal leaves a signal as it is. -/
theorem ignore (hstep : b.step e = some b') (hcreate : e ≠ .create) (hother : b.about? e ≠ some s) :
    Alike s b' c := by
  cases Move.of_step hstep with
  | create => exact absurd rfl hcreate
  | @handle s' _ _ count he _ =>
    have hs : s' ≠ s := by
      rintro rfl
      rcases he with rfl | rfl <;> exact hother rfl
    exact
      { length_eq := by rw [length_change, h.length_eq]
        signal_eq := by rw [getElem?_change, if_neg hs, h.signal_eq]
        waits_eq := h.waits_eq
        answers_eq := h.answers_eq }
  | @trigger s' signal _ =>
    have hs : s' ≠ s := by
      rintro rfl
      exact hother rfl
    refine
      { length_eq := by rw [length_fire, h.length_eq]
        signal_eq := by rw [getElem?_fire, if_neg hs, h.signal_eq]
        waits_eq := fun t => ?_
        answers_eq := by rw [answers_fire, if_neg hs, h.answers_eq] }
    rw [lookup_fire, h.waits_eq]
    split
    · rfl
    · cases hw : b.waits.lookup t with
      | none => rfl
      | some w =>
        by_cases hw' : w.signal = s
        · have hsame : wakened s' w = w := if_neg fun heq => hs (heq.symm.trans hw')
          rw [Option.map_some, hsame]
        · simp [Option.filter_some, hw']
  | @wait t s' signal hfree _ =>
    have hs : s' ≠ s := by
      rintro rfl
      exact hother rfl
    refine
      { length_eq := h.length_eq
        signal_eq := h.signal_eq
        waits_eq := fun t' => ?_
        answers_eq := h.answers_eq }
    by_cases ht : t' = t
    · subst ht
      rw [h.waits_eq, hfree, List.lookup_cons_self, Option.filter_some, if_neg (by simpa using hs)]
      rfl
    · rw [List.lookup_cons, beq_false_of_ne ht, h.waits_eq]
  | @run t w stage hw _ =>
    refine h.moveTo_other hw fun hs => hother ?_
    rw [about?, hw, Option.map_some, hs]
  | @abort t w stage hw _ =>
    refine h.moveTo_other hw fun hs => hother ?_
    rw [about?, hw, Option.map_some, hs]

end Alike

/-- A task waits for the same signal at the end of a run as at first. -/
theorem lookup_of_run {w : SignalWait} (h : Run step b es c) (hw : b.waits.lookup t = some w) :
    ∃ w', c.waits.lookup t = some w' ∧ w'.signal = w.signal := by
  refine h.keeps (P := fun x => ∃ w', x.waits.lookup t = some w' ∧ w'.signal = w.signal) ?_ ⟨w, hw, rfl⟩
  rintro x e y ⟨w', hw', hsignal⟩ hstep
  have hturn := (Move.of_step hstep).turn t
  rw [hw'] at hturn
  obtain ⟨w'', hw'', hsignal'⟩ := hturn.keeps_signal
  exact ⟨w'', hw'', hsignal'.trans hsignal⟩

/-- The last state of a run tells what its events were about. -/
theorem about?_of_run (hstep : b.step e = some b') (h : Run step b' es c) : c.about? e = b.about? e := by
  cases e with
  | create | clone s | drop s | trigger s | wait t s => rfl
  | run t =>
    obtain ⟨w, stage, hw, -⟩ := step_run_iff.1 hstep
    obtain ⟨w', hw', hsignal⟩ := lookup_of_run (.cons hstep h) hw
    rw [about?, about?, hw, hw', Option.map_some, Option.map_some, hsignal]
  | abort t =>
    obtain ⟨w, stage, hw, -⟩ := step_abort_iff.1 hstep
    obtain ⟨w', hw', hsignal⟩ := lookup_of_run (.cons hstep h) hw
    rw [about?, about?, hw, hw', Option.map_some, Option.map_some, hsignal]

/-- A signal goes its way by what happens to it alone. -/
theorem apart (h : Run step b es b') (halike : Alike s b c) :
    ∃ c', Run step c (b'.own s es) c' ∧ Alike s b' c' := by
  induction h generalizing c with
  | nil => exact ⟨c, .nil c, halike⟩
  | @cons x y z e es hstep hrun ih =>
    rw [own, List.filter_cons]
    split
    · rename_i hown
      obtain ⟨d, hd, halike'⟩ := halike.follow hstep (by simpa [about?_of_run hstep hrun] using hown)
      obtain ⟨c', hc', hlast⟩ := ih halike'
      exact ⟨c', .cons hd hc', hlast⟩
    · rename_i hnot
      rw [about?_of_run hstep hrun] at hnot
      simp only [Bool.or_eq_true, beq_iff_eq, not_or] at hnot
      exact ih (halike.ignore hstep hnot.1 hnot.2)

end PooledTcp.Signals
