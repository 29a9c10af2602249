/-!
# Lists of entries with keys

Entries are looked up by their keys with `List.lookup`, which finds the first. `put` keeps keys distinct: what is
put is found (`lookup_put_self`), and nothing else changes (`lookup_put_of_ne`). Where keys are distinct, a key that
is found is that of one entry (`length_filter_of_lookup`).
-/

namespace PooledTcp

variable {α β : Type} [BEq α]

/-- The entry of `key` replaced, or put in front. -/
def put (key : α) (value : β) (entries : List (α × β)) : List (α × β) :=
  (key, value) :: entries.filter (·.1 != key)

theorem lookup_put_self [LawfulBEq α] (key : α) (value : β) (entries : List (α × β)) :
    (put key value entries).lookup key = some value := by
  simp [put]

theorem lookup_cons_of_ne [LawfulBEq α] {key other : α} {value : β} {entries : List (α × β)}
    (h : other ≠ key) : ((key, value) :: entries).lookup other = entries.lookup other := by
  rw [List.lookup_cons, beq_false_of_ne h]

/-- Leaving one key out does not change what another one finds. -/
theorem lookup_filter_of_ne [LawfulBEq α] {key other : α} (h : other ≠ key)
    (entries : List (α × β)) : (entries.filter (·.1 != key)).lookup other = entries.lookup other := by
  induction entries with
  | nil => rfl
  | cons e es ih =>
    obtain ⟨k, v⟩ := e
    by_cases hk : k = key
    · subst hk
      rw [List.filter_cons_of_neg (by simp), lookup_cons_of_ne h, ih]
    · rw [List.filter_cons_of_pos (by simpa using hk), List.lookup_cons, List.lookup_cons, ih]

theorem lookup_put_of_ne [LawfulBEq α] {key other : α} (h : other ≠ key) (value : β)
    (entries : List (α × β)) : (put key value entries).lookup other = entries.lookup other := by
  rw [put, lookup_cons_of_ne h]
  exact lookup_filter_of_ne h entries

/-- A key that is left out is not found. -/
theorem lookup_filter_self [LawfulBEq α] (key : α) (entries : List (α × β)) :
    (entries.filter (·.1 != key)).lookup key = none := by
  refine List.lookup_eq_none_iff.2 fun e he => ?_
  have hne : e.1 ≠ key := bne_iff_ne.1 (List.mem_filter.1 he).2
  exact bne_iff_ne.2 hne.symm

theorem lookup_filter_eq_some [LawfulBEq α] {key other : α} {value : β} {entries : List (α × β)} :
    (entries.filter (·.1 != key)).lookup other = some value ↔
      other ≠ key ∧ entries.lookup other = some value := by
  by_cases h : other = key
  · simp [h, lookup_filter_self]
  · simp [h, lookup_filter_of_ne h]

theorem lookup_put_eq_none [LawfulBEq α] {key other : α} {value : β} {entries : List (α × β)} :
    (put key value entries).lookup other = none ↔ other ≠ key ∧ entries.lookup other = none := by
  by_cases h : other = key
  · simp [h, lookup_put_self]
  · simp [h, lookup_put_of_ne h]

/-- What is found is what was put, or was there under another key. -/
theorem lookup_put_eq_some [LawfulBEq α] {key other : α} {value found : β} {entries : List (α × β)} :
    (put key value entries).lookup other = some found ↔
      other = key ∧ value = found ∨ other ≠ key ∧ entries.lookup other = some found := by
  by_cases h : other = key
  · simp [h, lookup_put_self]
  · simp [h, lookup_put_of_ne h]

/-- Changing every value changes the value that is found. -/
theorem lookup_map {γ : Type} (f : β → γ) (key : α) (entries : List (α × β)) :
    (entries.map fun (k, v) => (k, f v)).lookup key = (entries.lookup key).map f := by
  induction entries with
  | nil => rfl
  | cons e es ih =>
    obtain ⟨k, v⟩ := e
    rw [List.map_cons, List.lookup_cons, List.lookup_cons, ih]
    cases key == k <;> rfl

/-- What is found is there. -/
theorem mem_of_lookup [LawfulBEq α] {key : α} {value : β} {entries : List (α × β)}
    (h : entries.lookup key = some value) : (key, value) ∈ entries := by
  obtain ⟨l₁, l₂, hentries, -⟩ := List.lookup_eq_some_iff.1 h
  rw [hentries]
  exact List.mem_append_right _ List.mem_cons_self

theorem ne_nil_of_lookup {key : α} {value : β} {entries : List (α × β)}
    (h : entries.lookup key = some value) : entries ≠ [] := by
  rintro rfl
  cases h

/-- Where keys are distinct, what is there is found. -/
theorem lookup_of_mem [LawfulBEq α] {key : α} {value : β} {entries : List (α × β)}
    (h : (entries.map Prod.fst).Nodup) (hmem : (key, value) ∈ entries) :
    entries.lookup key = some value := by
  induction entries with
  | nil => cases hmem
  | cons e es ih =>
    obtain ⟨hnot, hrest⟩ := List.nodup_cons.1 h
    rw [List.lookup_cons]
    rcases List.mem_cons.1 hmem with rfl | hmem
    · rw [beq_self_eq_true]
    · have hne : key ≠ e.1 := by
        rintro rfl
        exact hnot (List.mem_map.2 ⟨_, hmem, rfl⟩)
      rw [beq_false_of_ne hne]
      exact ih hrest hmem

theorem mem_keys_iff [LawfulBEq α] {key : α} {entries : List (α × β)} :
    key ∈ entries.map Prod.fst ↔ (entries.lookup key).isSome := by
  rw [List.lookup_isSome_iff, List.mem_map]
  exact exists_congr fun e => and_congr_right fun _ => by rw [beq_iff_eq, eq_comm]

omit [BEq α] in
/-- Leaving entries out keeps keys distinct. -/
theorem nodup_keys_filter {entries : List (α × β)} (h : (entries.map Prod.fst).Nodup)
    (f : α × β → Bool) : ((entries.filter f).map Prod.fst).Nodup :=
  h.sublist (List.filter_sublist.map _)

theorem nodup_keys_put [LawfulBEq α] {entries : List (α × β)} (h : (entries.map Prod.fst).Nodup)
    (key : α) (value : β) : ((put key value entries).map Prod.fst).Nodup := by
  refine List.nodup_cons.2 ⟨fun hmem => ?_, nodup_keys_filter h _⟩
  obtain ⟨e, he, hkey⟩ := List.mem_map.1 hmem
  exact bne_iff_ne.1 (List.mem_filter.1 he).2 hkey

/-- Leaving out a key that is not there leaves out nothing. -/
theorem filter_of_notMem_keys [LawfulBEq α] {key : α} {entries : List (α × β)}
    (h : key ∉ entries.map Prod.fst) : entries.filter (·.1 != key) = entries := by
  refine List.filter_eq_self.2 fun e he => bne_iff_ne.2 ?_
  rintro rfl
  exact h (List.mem_map_of_mem he)

/-- Where keys are distinct, leaving out a key that is found leaves out one entry. -/
theorem length_filter_of_lookup [LawfulBEq α] {entries : List (α × β)} {key : α} {value : β}
    (h : (entries.map Prod.fst).Nodup) (hfound : entries.lookup key = some value) :
    (entries.filter (·.1 != key)).length + 1 = entries.length := by
  induction entries with
  | nil => cases hfound
  | cons e es ih =>
    obtain ⟨k, v⟩ := e
    obtain ⟨hnot, hrest⟩ := List.nodup_cons.1 h
    by_cases hk : k = key
    · subst hk
      rw [List.filter_cons_of_neg (by simp), filter_of_notMem_keys hnot]
      rfl
    · have hfound' : es.lookup key = some value := by
        rwa [List.lookup_cons, show (key == k) = false by simpa using Ne.symm hk] at hfound
      rw [List.filter_cons_of_pos (by simpa using hk), List.length_cons, ih hrest hfound']
      rfl

/-- Where keys are distinct, an entry that is found can be taken to the front. -/
theorem perm_cons_filter_of_lookup [LawfulBEq α] {entries : List (α × β)} {key : α} {value : β}
    (h : (entries.map Prod.fst).Nodup) (hfound : entries.lookup key = some value) :
    entries.Perm ((key, value) :: entries.filter (·.1 != key)) := by
  induction entries with
  | nil => cases hfound
  | cons e es ih =>
    obtain ⟨k, v⟩ := e
    obtain ⟨hnot, hrest⟩ := List.nodup_cons.1 h
    by_cases hk : k = key
    · subst hk
      rw [List.lookup_cons_self] at hfound
      cases hfound
      rw [List.filter_cons_of_neg (by simp), filter_of_notMem_keys hnot]
    · have hfound' : es.lookup key = some value := by
        rwa [List.lookup_cons, show (key == k) = false by simpa using Ne.symm hk] at hfound
      rw [List.filter_cons_of_pos (by simpa using hk)]
      exact ((ih hrest hfound').cons _).trans (.swap _ _ _)

end PooledTcp
