/-!
# Runs

What moves here is a state and a function that performs an event on it, or is `none` where the event cannot
happen. A run performs events one after the other. Whatever each event keeps, a run keeps (`Run.keeps`);
whatever a run ends with and did not begin with, one of its events brought about (`Run.turn`), and it holds since
the last such event (`Run.since`); and where each event keeps a property exactly when it is not of a bad kind, a
run has the property throughout exactly when none of its events is (`Run.throughout_iff`). What is found in the
events of a run, each one in the state in which it happens, is collected by `along`, and the last event adds its
part at the end (`Run.along_concat`). Where every event keeps two systems in step, the runs of the one are runs of the
other (`Run.follow`).
-/

namespace PooledTcp

variable {σ ε : Type} {step : σ → ε → Option σ}

/-- The events lead from the first state to the last one. -/
inductive Run (step : σ → ε → Option σ) : σ → List ε → σ → Prop where
  | nil (s : σ) : Run step s [] s
  | cons {s t u : σ} {e : ε} {es : List ε} :
    step s e = some t → Run step t es u → Run step s (e :: es) u

/-- What `f` finds in the events, each in the state in which it happens, first one first. -/
def along {α : Type} (step : σ → ε → Option σ) (f : σ → ε → List α) : σ → List ε → List α
  | _, [] => []
  | s, e :: es => f s e ++ (step s e).elim [] fun t => along step f t es

/-- An event of the run brought about that `P` holds, and it has held ever since. -/
def Since (step : σ → ε → Option σ) (P : σ → Prop) (s : σ) (es : List ε) (t : σ) : Prop :=
  ∃ es₁ e es₂ u v, es = es₁ ++ e :: es₂ ∧ Run step s es₁ u ∧ step u e = some v ∧ ¬P u ∧
    Run step v es₂ t ∧ ∀ fs w, fs <+: es₂ → Run step v fs w → P w

namespace Run

/-- One run after the other. -/
theorem append {s t u : σ} {es fs : List ε} (h : Run step s es t) (k : Run step t fs u) :
    Run step s (es ++ fs) u := by
  induction h with
  | nil => exact k
  | cons hstep _ ih => exact .cons hstep (ih k)

/-- What holds at first and is kept by every event holds at the end. -/
theorem keeps {P : σ → Prop} (hstep : ∀ s e t, P s → step s e = some t → P t) {s t : σ}
    {es : List ε} (h : Run step s es t) (hs : P s) : P t := by
  induction h with
  | nil => exact hs
  | cons he _ ih => exact ih (hstep _ _ _ hs he)

/-- What holds of a run, and not only of where it leads, is proved from its last event. -/
theorem induction_last {P : List ε → σ → Prop} {s t : σ} {es : List ε} (h : Run step s es t)
    (hnil : P [] s) (hlast : ∀ fs e u v, P fs u → step u e = some v → P (fs ++ [e]) v) : P es t := by
  suffices hfrom : ∀ fs, P fs s → P (fs ++ es) t from hfrom [] hnil
  clear hnil
  induction h with
  | nil =>
    intro fs hs
    rwa [List.append_nil]
  | @cons s u t e es he _ ih =>
    intro fs hs
    rw [List.append_cons]
    exact ih _ (hlast fs e s u hs he)

/-- Where every event keeps one system in step with another, a run of the one is a run of the other. -/
theorem follow {τ : Type} {other : τ → ε → Option τ} {R : σ → τ → Prop} {P : ε → Prop}
    (hstep : ∀ s u e t, R s u → P e → step s e = some t → ∃ v, other u e = some v ∧ R t v)
    {s t : σ} {u : τ} {es : List ε} (h : Run step s es t) (hes : ∀ e ∈ es, P e) (hs : R s u) :
    ∃ v, Run other u es v ∧ R t v := by
  induction h generalizing u with
  | nil => exact ⟨u, .nil u, hs⟩
  | cons he _ ih =>
    obtain ⟨hfirst, hrest⟩ := List.forall_mem_cons.1 hes
    obtain ⟨v, hv, htv⟩ := hstep _ _ _ _ hs hfirst he
    obtain ⟨w, hw, hend⟩ := ih hrest htv
    exact ⟨w, .cons hv hw, hend⟩

/-- The last state is computed event by event. -/
theorem of_foldlM {s t : σ} {es : List ε} (h : es.foldlM step s = some t) : Run step s es t := by
  induction es generalizing s with
  | nil => cases h; exact .nil _
  | cons e es ih =>
    obtain ⟨u, hu, ht⟩ := Option.bind_eq_some_iff.1 h
    exact .cons hu (ih ht)

/-- What a run leads to goes on, computed event by event. -/
theorem further {s t u : σ} {es : List ε} (_ : Run step s es t) (fs : List ε)
    (h : fs.foldlM step t = some u) : Run step t fs u :=
  of_foldlM h

/-- A run stops between any two of its events. -/
theorem split {s t : σ} {es fs : List ε} (h : Run step s (es ++ fs) t) :
    ∃ u, Run step s es u ∧ Run step u fs t := by
  induction es generalizing s with
  | nil => exact ⟨s, .nil s, h⟩
  | cons e es ih =>
    cases h with
    | cons he hrest =>
      obtain ⟨u, hu, ht⟩ := ih hrest
      exact ⟨u, .cons he hu, ht⟩

/-- A run stops before its last event. -/
theorem split_last {s t : σ} {es : List ε} {e : ε} (h : Run step s (es ++ [e]) t) :
    ∃ u, Run step s es u ∧ step u e = some t := by
  obtain ⟨u, hu, hlast⟩ := h.split
  cases hlast with
  | cons he hnil => cases hnil; exact ⟨u, hu, he⟩

/-- What is found in a run and in one event more. -/
theorem along_concat {α : Type} {s t : σ} {es : List ε} (h : Run step s es t) (f : σ → ε → List α)
    (e : ε) : along step f s (es ++ [e]) = along step f s es ++ f t e := by
  induction h with
  | nil s =>
    cases hstep : step s e with
    | none => simp [along, hstep]
    | some u => simp [along, hstep]
  | cons he _ ih => simp [along, he, ih]

/-- A run of one event. -/
theorem single {s t : σ} {e : ε} (h : Run step s [e] t) : step s e = some t := by
  cases h with
  | cons he hnil =>
    cases hnil
    exact he

/-- The events determine where a run ends. -/
theorem unique {s t u : σ} {es : List ε} (h : Run step s es t) (k : Run step s es u) : t = u := by
  induction h with
  | nil => cases k; rfl
  | cons he _ ih =>
    cases k with
    | cons ke krest =>
      obtain rfl := Option.some.inj (he.symm.trans ke)
      exact ih krest

/-- What does not hold at first and holds at the end was brought about by an event. -/
theorem turn {P : σ → Prop} {s t : σ} {es : List ε} (h : Run step s es t) (hs : ¬P s) (ht : P t) :
    ∃ es₁ e es₂ u v, es = es₁ ++ e :: es₂ ∧ Run step s es₁ u ∧ step u e = some v ∧ ¬P u ∧ P v := by
  induction h with
  | nil => exact absurd ht hs
  | @cons s u t e es he hrest ih =>
    by_cases hu : P u
    · exact ⟨[], e, es, s, u, rfl, .nil s, he, hs, hu⟩
    · obtain ⟨es₁, f, es₂, v, w, rfl, hv, hf, hnv, hw⟩ := ih hu ht
      exact ⟨e :: es₁, f, es₂, v, w, rfl, .cons he hv, hf, hnv, hw⟩

/-- One event more, after which `P` holds still. -/
theorem since_concat {P : σ → Prop} {s t u : σ} {es : List ε} {e : ε} (h : Since step P s es t)
    (he : step t e = some u) (hu : P u) : Since step P s (es ++ [e]) u := by
  obtain ⟨es₁, f, es₂, v, w, rfl, hv, hf, hnot, hw, hheld⟩ := h
  have hmore : Run step w (es₂ ++ [e]) u := hw.append (.cons he (.nil u))
  refine ⟨es₁, f, es₂ ++ [e], v, w, by simp, hv, hf, hnot, hmore, ?_⟩
  intro fs x hpre hx
  rcases List.prefix_concat_iff.1 hpre with rfl | hpre
  · rwa [hx.unique hmore]
  · exact hheld fs x hpre hx

/-- What does not hold at first and holds at the end has held since an event of the run. -/
theorem since {P : σ → Prop} {s t : σ} {es : List ε} (h : Run step s es t) (hs : ¬P s) (ht : P t) :
    Since step P s es t := by
  refine (h.induction_last (P := fun es t => Run step s es t ∧ (P t → Since step P s es t)) ?_ ?_).2 ht
  · exact ⟨.nil s, fun hnow => absurd hnow hs⟩
  · rintro es e u v ⟨hrun, ih⟩ he
    refine ⟨hrun.append (.cons he (.nil v)), fun hv => ?_⟩
    by_cases hu : P u
    · exact since_concat (ih hu) he hv
    · refine ⟨es, e, [], u, v, rfl, hrun, he, hu, .nil v, ?_⟩
      intro fs w hpre hw
      obtain rfl := List.prefix_nil.1 hpre
      cases hw
      exact hv

/-- Let every event that happens while `P` holds keep it exactly when it is not of the kind `B`.
Then `P` holds all the way exactly when no event on the way is of that kind. -/
theorem throughout_iff {I P : σ → Prop} {B : σ → ε → Prop}
    (hI : ∀ s e t, I s → step s e = some t → I t)
    (hP : ∀ s e t, I s → P s → step s e = some t → (P t ↔ ¬B s e))
    {s t : σ} {es : List ε} (h : Run step s es t) (hi : I s) (hp : P s) :
    (∀ es₁ u, es₁ <+: es → Run step s es₁ u → P u) ↔
      ∀ es₁ e u, es₁ ++ [e] <+: es → Run step s es₁ u → ¬B u e := by
  constructor
  · intro hall es₁ e u hpre hu
    obtain ⟨es₂, rfl⟩ := hpre
    obtain ⟨v, hv, -⟩ := h.split
    obtain ⟨u', hu', he⟩ := hv.split_last
    obtain rfl := hu.unique hu'
    have hPu := hall es₁ u (by simp) hu
    exact (hP u e v (hu.keeps hI hi) hPu he).1 (hall _ v (List.prefix_append _ _) hv)
  · intro hnone
    induction h with
    | nil =>
      intro es₁ u hpre hu
      obtain rfl := List.prefix_nil.1 hpre
      cases hu; exact hp
    | @cons s v t e es he _ ih =>
      have hPv : P v := (hP s e v hi hp he).2 (hnone [] e s (by simp) (.nil s))
      have hrest := ih (hI s e v hi he) hPv fun es₁ f u hpre hu =>
        hnone (e :: es₁) f u (by simpa using hpre) (.cons he hu)
      intro es₁ u hpre hu
      cases hu with
      | nil => exact hp
      | cons hf hu =>
        obtain ⟨rfl, htail⟩ := List.cons_prefix_cons.1 hpre
        obtain rfl := Option.some.inj (he.symm.trans hf)
        exact hrest _ u htail hu

end Run
end PooledTcp
