import Mathlib.Data.List.Count
import PooledTcp.Keyed

/-!
# Counting the entries of lists

Where one list has each entry at most as often as another, it is no longer than the other one, and what is
left of the other one without it makes up the difference. The same holds of entries with keys, if it holds
of the values under each key.
-/

namespace PooledTcp

section Count

variable {α : Type} [BEq α] [LawfulBEq α] {xs ys : List α}

theorem length_le_of_count (h : ∀ x, xs.count x ≤ ys.count x) : xs.length ≤ ys.length :=
  (List.subperm_ext_iff.2 fun x _ => h x).length_le

theorem length_diff (h : ∀ x, xs.count x ≤ ys.count x) :
    (ys.diff xs).length + xs.length = ys.length := by
  have hlen := (List.subperm_append_diff_self_of_count_le fun x _ => h x).length_eq
  rw [List.length_append] at hlen
  omega

end Count

section Values

variable {α β : Type} [BEq α] [LawfulBEq α] {key other : α}

/-- The values under one key. -/
def valuesOf (key : α) (entries : List (α × β)) : List β :=
  (entries.filter (·.1 == key)).map (·.2)

theorem valuesOf_cons_self (key : α) (value : β) (entries : List (α × β)) :
    valuesOf key ((key, value) :: entries) = value :: valuesOf key entries := by
  simp [valuesOf]

theorem valuesOf_cons_of_ne (h : key ≠ other) (value : β) (entries : List (α × β)) :
    valuesOf key ((other, value) :: entries) = valuesOf key entries := by
  simp [valuesOf, h.symm]

theorem count_valuesOf [BEq β] (key : α) (value : β) (entries : List (α × β)) :
    (valuesOf key entries).count value = entries.count (key, value) := by
  induction entries with
  | nil => rfl
  | cons x entries ih =>
    obtain ⟨k, v⟩ := x
    have hboth : ((k, v) == (key, value)) = (k == key && v == value) := rfl
    rw [List.count_cons, ← ih, hboth]
    by_cases hk : k = key
    · subst hk
      rw [valuesOf_cons_self, List.count_cons, beq_self_eq_true, Bool.true_and]
    · rw [valuesOf_cons_of_ne (Ne.symm hk), beq_false_of_ne hk]
      rfl

/-- Where there are no more values under any key, there are no more entries. -/
theorem length_le_of_valuesOf [BEq β] [LawfulBEq β] {xs ys : List (α × β)}
    (h : ∀ key, (valuesOf key xs).Sublist (valuesOf key ys)) : xs.length ≤ ys.length := by
  refine length_le_of_count fun (key, value) => ?_
  rw [← count_valuesOf, ← count_valuesOf]
  exact (h key).count_le value

end Values

end PooledTcp
