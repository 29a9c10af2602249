import PooledTcp.Proofs.Tracker.Moves

/-!
# What a tracker counts

The count of a tracker is the number of its guards: those that are numbered and not dropped, and those that are about
to be numbered (`Counted`). No two guards have one number, whichever trackers they are of, and a later guard has the
greater number (`Numbered`). The guards that are there are those that were made and that no event of the run dropped
(`Booked`).
-/

namespace PooledTcp.Trackers

variable {b c : Trackers} {i j : TrackerId} {g g' : GuardId} {e : Event} {es : List Event} {first : GuardId}

/-! ### Numbers -/

/-- The numbers of the guards that were made, latest first. -/
def numbers (b : Trackers) : List GuardId := b.made.map Prod.fst

/-- The guards that are there or were dropped and have yet to tell have distinct numbers, and no number was given
before a greater one. -/
structure Numbered (first : GuardId) (b : Trackers) : Prop where
  distinct : (b.guards.map Prod.fst ++ b.closing.map Prod.fst).Nodup
  below : ∀ g ∈ b.guards.map Prod.fst ++ b.closing.map Prod.fst, g < b.nextGuard
  given : ∀ g ∈ b.numbers, first ≤ g ∧ g < b.nextGuard
  decreasing : b.numbers.Pairwise (· > ·)
  started : first ≤ b.nextGuard

theorem Numbered.drop (h : Numbered first b) (hg : b.guards.lookup g = some i) :
    Numbered first (b.dropGuard g i) := by
  have hmem : g ∈ b.guards.map Prod.fst := List.mem_map_of_mem (mem_of_lookup hg)
  obtain ⟨hguards, hclosing, hapart⟩ := List.nodup_append.1 h.distinct
  have hsub : (b.guards.filter (·.1 != g)).map Prod.fst ⊆ b.guards.map Prod.fst :=
    (List.filter_sublist.map _).subset
  refine ⟨?_, ?_, h.given, h.decreasing, h.started⟩
  · refine List.nodup_append.2 ⟨nodup_keys_filter hguards _, List.nodup_cons.2 ⟨?_, hclosing⟩, ?_⟩
    · intro hin
      exact hapart g hmem g hin rfl
    · rintro x hx y hy rfl
      rcases List.mem_cons.1 hy with rfl | hy
      · obtain ⟨p, hp, hkey⟩ := List.mem_map.1 hx
        exact bne_iff_ne.1 (List.mem_filter.1 hp).2 hkey
      · exact hapart x (hsub hx) x hy rfl
  · intro x hx
    rcases List.mem_append.1 hx with hx | hx
    · exact h.below x (List.mem_append_left _ (hsub hx))
    · rcases List.mem_cons.1 hx with rfl | hx
      · exact h.below x (List.mem_append_left _ hmem)
      · exact h.below x (List.mem_append_right _ hx)

theorem Numbered.number (h : Numbered first b) (i : TrackerId) : Numbered first (b.giveNumber i) := by
  have hfresh : b.nextGuard ∉ b.guards.map Prod.fst ++ b.closing.map Prod.fst :=
    fun hin => Nat.lt_irrefl _ (h.below _ hin)
  refine ⟨List.nodup_cons.2 ⟨hfresh, h.distinct⟩, ?_, ?_, ?_, Nat.le_succ_of_le h.started⟩
  · intro x hx
    rcases List.mem_cons.1 hx with rfl | hx
    · exact Nat.lt_succ_self _
    · exact Nat.lt_succ_of_lt (h.below x hx)
  · rw [numbers, made_giveNumber]
    intro x hx
    rcases List.mem_cons.1 hx with rfl | hx
    · exact ⟨h.started, Nat.lt_succ_self _⟩
    · exact ⟨(h.given x hx).1, Nat.lt_succ_of_lt (h.given x hx).2⟩
  · rw [numbers, made_giveNumber]
    exact List.pairwise_cons.2 ⟨fun x hx => (h.given x hx).2, h.decreasing⟩

theorem Numbered.step (h : Numbered first b) (hstep : b.step e = some c) : Numbered first c := by
  cases Move.of_step hstep with
  | create | track _ | wait _ _ => exact ⟨h.distinct, h.below, h.given, h.decreasing, h.started⟩
  | number _ => exact h.number _
  | skip =>
    exact ⟨h.distinct, fun x hx => Nat.lt_succ_of_lt (h.below x hx),
      fun x hx => ⟨(h.given x hx).1, Nat.lt_succ_of_lt (h.given x hx).2⟩, h.decreasing,
      Nat.le_succ_of_le h.started⟩
  | drop hg => exact h.drop hg
  | @close g i remaining hg =>
    obtain ⟨-, -, hguards, hnext, hmade⟩ := closeGuard_frame b g i remaining
    have hsub : ((b.closing.filter (·.1 != g)).map Prod.fst).Sublist (b.closing.map Prod.fst) :=
      List.filter_sublist.map _
    refine ⟨?_, ?_, ?_, ?_, ?_⟩
    · rw [hguards, closing_closeGuard]
      exact h.distinct.sublist (hsub.append_left _)
    · rw [hguards, closing_closeGuard, hnext]
      exact fun x hx => h.below x ((hsub.append_left _).subset hx)
    · rw [numbers, hmade, hnext]
      exact h.given
    · rw [numbers, hmade]
      exact h.decreasing
    · rw [hnext]
      exact h.started
  | @run t w stage _ _ | @abort t w stage _ _ =>
    obtain ⟨-, -, hguards, hnext, hmade⟩ := moveTo_frame b t w stage
    refine ⟨?_, ?_, ?_, ?_, ?_⟩
    · rw [hguards, closing_moveTo]
      exact h.distinct
    · rw [hguards, closing_moveTo, hnext]
      exact h.below
    · rw [numbers, hmade, hnext]
      exact h.given
    · rw [numbers, hmade]
      exact h.decreasing
    · rw [hnext]
      exact h.started

/-! ### Counts -/

/-- The count of a tracker is the number of guards that it has or is about to have. -/
def Counted (b : Trackers) : Prop := ∀ i, b.count i = (b.guardsOf i).length + b.making.count i

theorem Counted.of_eq (h : Counted b) (hcounts : c.counts = b.counts) (hguards : c.guards = b.guards)
    (hmaking : c.making = b.making) : Counted c := by
  intro i
  rw [count, guardsOf, hcounts, hguards, hmaking]
  exact h i

theorem length_guardsOf_cons (b : Trackers) (g : GuardId) (i j : TrackerId) :
    (guardsOf { b with guards := (g, i) :: b.guards } j).length =
      (b.guardsOf j).length + if i = j then 1 else 0 := by
  rw [guardsOf, guardsOf, List.length_map, List.length_map, List.filter_cons]
  by_cases hij : i = j
  · rw [if_pos (beq_iff_eq.2 hij), if_pos hij, List.length_cons]
  · rw [if_neg (fun heq => hij (beq_iff_eq.1 heq)), if_neg hij, Nat.add_zero]

theorem Counted.number (h : Counted b) (hi : i ∈ b.making) : Counted (b.giveNumber i) := by
  intro j
  have hj := h j
  have hguards : ((b.giveNumber i).guardsOf j).length = _ := length_guardsOf_cons b b.nextGuard i j
  have hmaking : (b.giveNumber i).making.count j = b.making.count j - if i = j then 1 else 0 := by
    simp only [giveNumber, note, List.count_erase, beq_iff_eq]
  rw [hguards, hmaking]
  change b.count j = _
  split
  · rename_i hij
    have hpos : 0 < b.making.count j := List.count_pos_iff.2 (hij ▸ hi)
    omega
  · exact hj

/-- A guard that is there is counted, and counted no longer once it is dropped. -/
theorem Counted.drop (h : Counted b) (hdistinct : (b.guards.map Prod.fst).Nodup)
    (hg : b.guards.lookup g = some i) : 0 < b.count i ∧ Counted (b.dropGuard g i) := by
  have hlength (j : TrackerId) : (b.guardsOf j).length =
      ((b.dropGuard g i).guardsOf j).length + if i = j then 1 else 0 := by
    have hperm := (perm_cons_filter_of_lookup hdistinct hg).filter (·.2 == j)
    have hcons := length_guardsOf_cons (b.dropGuard g i) g i j
    rw [← hcons, guardsOf, guardsOf, List.length_map, List.length_map, hperm.length_eq]
    rfl
  have hpos : 0 < b.count i := by
    rw [h i, hlength i, if_pos rfl]
    omega
  refine ⟨hpos, fun j => ?_⟩
  have hj := h j
  rw [hlength j] at hj
  have hcount : (b.dropGuard g i).count j = if i = j then b.count i - 1 else b.count j :=
    count_setCount (lt_length_of_count hpos) _ j
  change _ = _ + b.making.count j
  rw [hcount]
  split
  · rename_i hij
    subst hij
    rw [if_pos rfl] at hj
    omega
  · rename_i hij
    rw [if_neg hij] at hj
    exact hj

theorem Counted.step (h : Counted b) (hdistinct : (b.guards.map Prod.fst).Nodup)
    (hstep : b.step e = some c) : Counted c := by
  cases Move.of_step hstep with
  | create => exact fun i => (count_create b i).trans (h i)
  | @track i hi =>
    intro j
    rw [count_setCount (b := { b with making := i :: b.making }) hi]
    change _ = (b.guardsOf j).length + (i :: b.making).count j
    have hj := h j
    rw [List.count_cons]
    by_cases hij : i = j
    · subst hij
      simp only [if_true, beq_self_eq_true]
      omega
    · rw [if_neg hij, if_neg (fun heq => hij (beq_iff_eq.1 heq))]
      exact hj
  | number hi => exact h.number hi
  | skip | wait _ _ => exact h.of_eq rfl rfl rfl
  | drop hg => exact (h.drop hdistinct hg).2
  | @close g i remaining _ =>
    obtain ⟨hcounts, hmaking, hguards, -, -⟩ := closeGuard_frame b g i remaining
    exact h.of_eq hcounts hguards hmaking
  | @run t w stage _ _ | @abort t w stage _ _ =>
    obtain ⟨hcounts, hmaking, hguards, -, -⟩ := moveTo_frame b t w stage
    exact h.of_eq hcounts hguards hmaking

/-! ### Guards -/

/-- The guards that are there were made, and no event dropped them. -/
structure Booked (es : List Event) (b : Trackers) : Prop where
  mem_guards : ∀ g i, (g, i) ∈ b.guards ↔ (g, i) ∈ b.made ∧ .drop g ∉ es
  dropped : ∀ g, .drop g ∈ es → g < b.nextGuard

theorem Booked.of_eq (h : Booked es b) (he : ∀ g, e ≠ .drop g) (hguards : c.guards = b.guards)
    (hmade : c.made = b.made) (hnext : b.nextGuard ≤ c.nextGuard) : Booked (es ++ [e]) c := by
  have hmem (g : GuardId) : .drop g ∈ es ++ [e] ↔ .drop g ∈ es := by
    simp [(he g).symm]
  constructor
  · intro g i
    rw [hguards, hmade, hmem]
    exact h.mem_guards g i
  · intro g hg
    exact Nat.lt_of_lt_of_le (h.dropped g ((hmem g).1 hg)) hnext

theorem Booked.number (h : Booked es b) (i : TrackerId) : Booked (es ++ [.number i]) (b.giveNumber i) := by
  have hmem (g : GuardId) : .drop g ∈ es ++ [Event.number i] ↔ .drop g ∈ es := by simp
  constructor
  · intro g j
    rw [made_giveNumber, hmem, List.mem_cons]
    change (g, j) ∈ (b.nextGuard, i) :: b.guards ↔ _
    rw [List.mem_cons, h.mem_guards]
    constructor
    · rintro (heq | ⟨hmade, hnot⟩)
      · cases heq
        exact ⟨.inl rfl, fun hin => Nat.lt_irrefl _ (h.dropped _ hin)⟩
      · exact ⟨.inr hmade, hnot⟩
    · rintro ⟨heq | hmade, hnot⟩
      · exact .inl heq
      · exact .inr ⟨hmade, hnot⟩
  · intro g hg
    exact Nat.lt_succ_of_lt (h.dropped g ((hmem g).1 hg))

theorem Booked.drop (h : Booked es b) (hnumbered : Numbered first b) (hg : b.guards.lookup g = some i) :
    Booked (es ++ [.drop g]) (b.dropGuard g i) := by
  constructor
  · intro g' j
    change (g', j) ∈ b.guards.filter (·.1 != g) ↔ (g', j) ∈ b.made ∧ _
    simp only [List.mem_filter, h.mem_guards, List.mem_append, List.mem_singleton, Event.drop.injEq,
      bne_iff_ne, not_or, and_assoc]
  · intro g' hin
    rcases List.mem_append.1 hin with hin | hin
    · exact h.dropped g' hin
    · cases List.mem_singleton.1 hin
      exact hnumbered.below g (List.mem_append_left _ (List.mem_map_of_mem (mem_of_lookup hg)))

theorem Booked.step (h : Booked es b) (hnumbered : Numbered first b) (hstep : b.step e = some c) :
    Booked (es ++ [e]) c := by
  cases Move.of_step hstep with
  | create | track _ | wait _ _ => exact h.of_eq nofun rfl rfl (Nat.le_refl _)
  | number _ => exact h.number _
  | skip => exact h.of_eq nofun rfl rfl (Nat.le_succ _)
  | drop hg => exact h.drop hnumbered hg
  | @close g i remaining _ =>
    obtain ⟨-, -, hguards, hnext, hmade⟩ := closeGuard_frame b g i remaining
    exact h.of_eq nofun hguards hmade (Nat.le_of_eq hnext.symm)
  | @run t w stage _ _ | @abort t w stage _ _ =>
    obtain ⟨-, -, hguards, hnext, hmade⟩ := moveTo_frame b t w stage
    exact h.of_eq nofun hguards hmade (Nat.le_of_eq hnext.symm)

end PooledTcp.Trackers
