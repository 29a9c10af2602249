import Mathlib.Data.List.Dedup
import PooledTcp.Proofs.Signal.Moves

/-!
# Who waits for a signal

A run tells who waits: a task that was started for a signal and not aborted (`waiting`). Three things hold
throughout. The tasks are those of the run (`Booked`). A task whose wait is over has seen its signal triggered,
and one that sleeps has not missed a trigger (`Awake`). And a signal sends to the tasks that are subscribed to it
and have not ended (`Attended`).
-/

namespace PooledTcp

namespace WaitStage

variable {stage stage' : WaitStage} {triggered : Bool}

/-- The wait has not ended. -/
def pending : WaitStage → Bool
  | begun | subscribed | listening _ => true
  | finished | aborted => false

/-- The wait is subscribed and has not ended. -/
def receives : WaitStage → Bool
  | subscribed | listening _ => true
  | begun | finished | aborted => false

theorem cases_of_next? (h : stage.next? triggered = some stage') :
    stage = begun ∧ stage' = subscribed ∨
      stage.receives = true ∧ (triggered = true ∧ stage' = finished ∨
        triggered = false ∧ stage' = listening false) := by
  match stage with
  | begun =>
    cases h
    exact .inl ⟨rfl, rfl⟩
  | subscribed | listening true => cases triggered <;> cases h <;> simp [receives]
  | listening false | finished | aborted => cases h

theorem ne_aborted_of_receives (h : stage.receives = true) : stage ≠ aborted := by
  rintro rfl
  cases h

theorem ne_aborted_of_next? (h : stage.next? triggered = some stage') :
    stage ≠ aborted ∧ stage' ≠ aborted := by
  rcases cases_of_next? h with ⟨rfl, rfl⟩ | ⟨hreceives, ⟨-, rfl⟩ | ⟨-, rfl⟩⟩
  · exact ⟨nofun, nofun⟩
  · exact ⟨ne_aborted_of_receives hreceives, nofun⟩
  · exact ⟨ne_aborted_of_receives hreceives, nofun⟩

theorem cases_of_cut? (h : stage.cut? = some stage') : stage'= aborted ∧ stage ≠ aborted := by
  match stage with
  | begun | listening _ => cases h; exact ⟨rfl, nofun⟩
  | subscribed | finished | aborted => cases h

/-- What a wait has seen of its signal agrees with how the signal stands. -/
def Heard (triggered : Bool) : WaitStage → Prop
  | finished => triggered = true
  | listening false => triggered = false
  | begun | subscribed | listening true | aborted => True

theorem heard_wake : stage.wake.Heard true := by
  cases stage <;> trivial

@[simp] theorem receives_wake : stage.wake.receives = stage.receives := by
  cases stage <;> rfl

@[simp] theorem wake_eq_aborted_iff : stage.wake = aborted ↔ stage = aborted := by
  cases stage <;> simp [wake]

end WaitStage

namespace Signal

variable {g : Signal} {t t' : TaskId} {stage : WaitStage}

theorem nodup_attend (h : g.receivers.Nodup) (hfresh : stage = .subscribed → t ∉ g.receivers) :
    (g.attend t stage).receivers.Nodup := by
  cases stage with
  | begun | listening _ => exact h
  | subscribed => exact List.nodup_cons.2 ⟨hfresh rfl, h⟩
  | finished | aborted => exact h.filter _

theorem mem_attend (hbegun : stage ≠ .begun)
    (hstays : stage.receives = true → stage = .subscribed ∨ t ∈ g.receivers) :
    t' ∈ (g.attend t stage).receivers ↔
      if t' = t then stage.receives = true else t' ∈ g.receivers := by
  by_cases ht : t' = t
  · subst ht
    cases stage with
    | begun => exact absurd rfl hbegun
    | subscribed => simp [attend, subscribe, WaitStage.receives]
    | listening woken => simp [attend, WaitStage.receives, (hstays rfl).resolve_left nofun]
    | finished | aborted => simp [attend, unsubscribe, WaitStage.receives]
  · cases stage <;> simp [attend, subscribe, unsubscribe, ht]

end Signal

namespace Signals

variable {b c : Signals} {s : SignalId} {t : TaskId} {w : SignalWait} {e : Event} {es : List Event}

/-! ### The tasks of a run -/

/-- The tasks of a run are those that its events started, and those of them are aborted that its events aborted. -/
structure Booked (es : List Event) (b : Signals) : Prop where
  started : ∀ t s, .wait t s ∈ es ↔ ∃ w, b.waits.lookup t = some w ∧ w.signal = s
  aborted : ∀ t, .abort t ∈ es ↔ ∃ w, b.waits.lookup t = some w ∧ w.stage = .aborted

theorem Booked.step (h : Booked es b) (hstep : b.step e = some c) : Booked (es ++ [e]) c := by
  constructor
  · intro t s
    have hturn := Move.turn (.of_step hstep) t
    simp only [List.mem_append, List.mem_singleton, h.started]
    generalize b.waits.lookup t = before, c.waits.lookup t = after at hturn ⊢
    cases hturn with
    | begins he => simp [he, eq_comm]
    | rests hcut hwait _ => simp [(hwait s).symm]
    | woken he => simp [he]
    | goesOn he _ => simp [he]
    | ends he _ => simp [he]
  · intro t
    have hturn := Move.turn (.of_step hstep) t
    simp only [List.mem_append, List.mem_singleton, h.aborted]
    generalize b.waits.lookup t = before, c.waits.lookup t = after at hturn ⊢
    cases hturn with
    | begins he => simp [he]
    | rests hcut _ _ => simp [hcut.symm]
    | woken he => simp [he]
    | goesOn he hnext => simp [he, WaitStage.ne_aborted_of_next? hnext]
    | ends he hcut => simp [he, (WaitStage.cases_of_cut? hcut).1]

theorem Booked.of_run (h : Run Signals.step {} es b) : Booked es b := by
  refine h.induction_last ⟨?_, ?_⟩ fun _ _ _ _ hbooked hstep => hbooked.step hstep
  · simp
  · simp

/-- The task that an event starts to wait for signal `s`. -/
def startedFor? (s : SignalId) : Event → Option TaskId
  | .wait t s' => if s' = s then some t else none
  | _ => none

/-- The tasks that were started to wait for signal `s` and not aborted. -/
def waiting (es : List Event) (s : SignalId) : List TaskId :=
  (es.filterMap (startedFor? s)).filter fun t => .abort t ∉ es

theorem startedFor?_eq_some_iff : startedFor? s e = some t ↔ e = .wait t s := by
  cases e <;> simp [startedFor?, and_comm]

theorem mem_waiting : t ∈ waiting es s ↔ .wait t s ∈ es ∧ .abort t ∉ es := by
  simp [waiting, List.mem_filterMap, startedFor?_eq_some_iff]

/-- No task is started twice. -/
theorem nodup_waiting (h : Run step {} es b) (s : SignalId) : (waiting es s).Nodup := by
  refine List.Nodup.filter _ ?_
  refine (h.induction_last (P := fun es b => Booked es b ∧ (es.filterMap (startedFor? s)).Nodup)
    ⟨.of_run (.nil _), List.nodup_nil⟩ ?_).2
  rintro fs e u v ⟨hbooked, hnodup⟩ hstep
  refine ⟨hbooked.step hstep, ?_⟩
  rw [List.filterMap_append]
  refine List.nodup_append.2 ⟨hnodup, ?_, ?_⟩
  · cases hstarted : startedFor? s e <;> simp [hstarted]
  · rintro t ht t' ht' rfl
    obtain ⟨e', he', hstarted'⟩ := List.mem_filterMap.1 ht'
    obtain ⟨e'', he'', hstarted''⟩ := List.mem_filterMap.1 ht
    cases startedFor?_eq_some_iff.1 hstarted''
    cases (List.mem_singleton.1 he').symm.trans (startedFor?_eq_some_iff.1 hstarted')
    obtain ⟨w, hw, -⟩ := (hbooked.started t s).1 he''
    cases (lookup_of_wait hstep).symm.trans hw

/-! ### No trigger is missed -/

/-- No task sleeps through a trigger, and none ends its wait without one. -/
def Awake (b : Signals) : Prop :=
  ∀ t w, b.waits.lookup t = some w → w.stage.Heard (b.isTriggered w.signal)

theorem Awake.step (h : Awake b) (hstep : b.step e = some c) : Awake c := by
  intro t w hw
  have hmove := Move.of_step hstep
  have hturn := hmove.turn t
  have hbefore := h t
  rw [hw] at hturn
  generalize b.waits.lookup t = before at hturn hbefore
  cases hturn with
  | begins => trivial
  | rests _ _ hfirst =>
    rw [hmove.isTriggered_eq (hfirst w rfl)]
    exact hbefore w rfl
  | @woken w he =>
    have htriggered : c.isTriggered w.signal = true := (hmove.isTriggered _).2 (.inr he)
    rw [htriggered]
    exact WaitStage.heard_wake
  | @goesOn w stage he hnext =>
    rw [hmove.isTriggered_eq (by rw [he]; exact nofun)]
    rcases WaitStage.cases_of_next? hnext with ⟨-, rfl⟩ | ⟨-, ⟨htriggered, rfl⟩ | ⟨htriggered, rfl⟩⟩
    · trivial
    · exact htriggered
    · exact htriggered
  | ends he hcut =>
    obtain ⟨rfl, -⟩ := WaitStage.cases_of_cut? hcut
    trivial

/-! ### Who receives -/

/-- The tasks that a signal sends to. -/
def receivers (b : Signals) (s : SignalId) : List TaskId := (b.signals[s]?.map (·.receivers)).getD []

/-- The task waits for the signal, is subscribed to it and has not ended. -/
def Receiving (b : Signals) (t : TaskId) (s : SignalId) : Prop :=
  ∃ w, b.waits.lookup t = some w ∧ w.signal = s ∧ w.stage.receives = true

/-- No task waits for a signal that was not made. -/
def Made (b : Signals) : Prop := ∀ t w, b.waits.lookup t = some w → w.signal < b.signals.length

theorem Made.step (h : Made b) (hstep : b.step e = some c) : Made c := by
  have hmove := Move.of_step hstep
  intro t w hw
  refine Nat.lt_of_lt_of_le ?_ hmove.length_le
  have hturn := hmove.turn t
  rw [hw] at hturn
  rcases hturn.started_or_was with rfl | ⟨w₀, hw₀, hsignal⟩
  · simp only [Signals.step, Option.ite_none_left_eq_some, Option.map_eq_some_iff] at hstep
    obtain ⟨-, signal, hheld, -⟩ := hstep
    exact lt_length_of_held hheld
  · rw [← hsignal]
    exact h t w₀ hw₀

/-- A signal sends to the tasks that receive from it. -/
structure Attended (b : Signals) : Prop where
  nodup : ∀ s, (b.receivers s).Nodup
  mem_iff : ∀ s t, t ∈ b.receivers s ↔ b.Receiving t s

theorem receiverCount_eq (b : Signals) (s : SignalId) : b.receiverCount s = (b.receivers s).length := by
  unfold receiverCount receivers
  cases b.signals[s]? <;> rfl

theorem receivers_change {f : Signal → Signal} (hf : ∀ g, (f g).receivers = g.receivers) (s' : SignalId) :
    (b.change s f).receivers s' = b.receivers s' := by
  rw [receivers, getElem?_change]
  split
  · simp [receivers, Function.comp_def, hf]
  · rfl

theorem receivers_append (b : Signals) (s : SignalId) :
    receivers { b with signals := b.signals ++ [{}] } s = b.receivers s := by
  simp only [receivers, List.getElem?_append]
  split
  · rfl
  · rename_i hge
    rw [List.getElem?_eq_none (Nat.le_of_not_lt hge)]
    cases s - b.signals.length <;> rfl

theorem receivers_fire (b : Signals) (s : SignalId) (signal : Signal) (s' : SignalId) :
    (b.fire s signal).receivers s' = b.receivers s' := by
  rw [receivers, getElem?_fire]
  split
  · simp [receivers, Function.comp_def]
  · rfl

theorem receivers_moveTo_of_ne (h : w.signal ≠ s) (stage : WaitStage) :
    (b.moveTo t w stage).receivers s = b.receivers s := by
  rw [receivers, getElem?_moveTo, if_neg h, receivers]

theorem receivers_moveTo {g : Signal} (h : b.signals[w.signal]? = some g) (stage : WaitStage) :
    (b.moveTo t w stage).receivers w.signal = (g.attend t stage).receivers := by
  rw [receivers, getElem?_moveTo, if_pos rfl, h]
  rfl

/-- Events that move no task leave who receives. -/
theorem Turn.receiving_iff {before after : Option SignalWait} (h : Turn b e t before after)
    (hrun : e ≠ .run t) (habort : e ≠ .abort t) (s : SignalId) :
    (∃ w, after = some w ∧ w.signal = s ∧ w.stage.receives = true) ↔
      ∃ w, before = some w ∧ w.signal = s ∧ w.stage.receives = true := by
  cases h with
  | begins => simp [WaitStage.receives]
  | rests => rfl
  | woken => simp
  | goesOn he => exact absurd he hrun
  | ends he => exact absurd he habort

/-- A task moves to a stage in which it receives, exactly if it has just subscribed or received before. -/
theorem Attended.moveTo {stage : WaitStage} (h : Attended b) (hmade : Made b) (hw : b.waits.lookup t = some w)
    (hbegun : stage ≠ .begun) (hfresh : stage = .subscribed → w.stage.receives = false)
    (hstays : stage.receives = true → stage = .subscribed ∨ w.stage.receives = true) :
    Attended (b.moveTo t w stage) := by
  obtain ⟨g, hg⟩ : ∃ g, b.signals[w.signal]? = some g :=
    ⟨_, List.getElem?_eq_getElem (hmade t w hw)⟩
  have hold : b.receivers w.signal = g.receivers := by
    rw [receivers, hg]
    rfl
  have hmem : t ∈ g.receivers ↔ w.stage.receives = true := by
    rw [← hold, h.mem_iff]
    simp [Receiving, hw]
  refine ⟨fun s => ?_, fun s t' => ?_⟩
  · by_cases hs : w.signal = s
    · subst hs
      rw [receivers_moveTo hg]
      refine Signal.nodup_attend (hold ▸ h.nodup w.signal) fun heq hin => ?_
      cases (hfresh heq).symm.trans (hmem.1 hin)
    · rw [receivers_moveTo_of_ne hs]
      exact h.nodup s
  · by_cases hs : w.signal = s
    · subst hs
      rw [receivers_moveTo hg, Signal.mem_attend hbegun fun hr => (hstays hr).imp_right hmem.2]
      by_cases ht : t' = t
      · subst ht
        simp [Receiving, lookup_moveTo_self]
      · rw [if_neg ht, ← hold, h.mem_iff, Receiving, Receiving, lookup_moveTo_of_ne ht]
    · rw [receivers_moveTo_of_ne hs, h.mem_iff]
      by_cases ht : t' = t
      · subst ht
        simp [Receiving, lookup_moveTo_self, hw, hs]
      · rw [Receiving, Receiving, lookup_moveTo_of_ne ht]

theorem Attended.step (h : Attended b) (hmade : Made b) (hstep : b.step e = some c) : Attended c := by
  have hmove := Move.of_step hstep
  have hsame (hrun : ∀ t, e ≠ .run t) (habort : ∀ t, e ≠ .abort t)
      (hreceivers : ∀ s, c.receivers s = b.receivers s) : Attended c := by
    refine ⟨fun s => hreceivers s ▸ h.nodup s, fun s t => ?_⟩
    rw [hreceivers, h.mem_iff]
    exact ((hmove.turn t).receiving_iff (hrun t) (habort t) s).symm
  cases hmove with
  | create => exact hsame nofun nofun (receivers_append b)
  | handle count he _ =>
    refine hsame ?_ ?_ (receivers_change (by exact fun _ => rfl))
    · rcases he with rfl | rfl <;> exact nofun
    · rcases he with rfl | rfl <;> exact nofun
  | trigger => exact hsame nofun nofun (receivers_fire b _ _)
  | wait => exact hsame nofun nofun fun _ => rfl
  | @run t w stage hw hnext =>
    rcases WaitStage.cases_of_next? hnext with ⟨hbegun, rfl⟩ | ⟨hreceives, ⟨-, rfl⟩ | ⟨-, rfl⟩⟩
    · exact h.moveTo hmade hw nofun (fun _ => by rw [hbegun]; rfl) fun _ => .inl rfl
    · exact h.moveTo hmade hw nofun nofun nofun
    · exact h.moveTo hmade hw nofun nofun fun _ => .inr hreceives
  | abort hw hcut =>
    obtain ⟨rfl, -⟩ := WaitStage.cases_of_cut? hcut
    exact h.moveTo hmade hw nofun nofun nofun

/-- What holds of the tasks and the signals after every run. -/
structure Sound (es : List Event) (b : Signals) : Prop where
  booked : Booked es b
  awake : Awake b
  made : Made b
  attended : Attended b

theorem Sound.of_run (h : Run Signals.step {} es b) : Sound es b := by
  refine h.induction_last (P := Sound) ⟨.of_run (.nil _), nofun, nofun, ⟨?_, ?_⟩⟩ ?_
  · exact fun _ => List.nodup_nil
  · simp [receivers, Receiving]
  · intro fs e u v hsound hstep
    exact ⟨hsound.booked.step hstep, hsound.awake.step hstep, hsound.made.step hstep,
      hsound.attended.step hsound.made hstep⟩

end Signals
end PooledTcp
