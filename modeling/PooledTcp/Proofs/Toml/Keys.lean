import PooledTcp.Keyed
import PooledTcp.Toml.Document

/-!
# The tables of a document have distinct keys

A key is set once: whatever adds an entry to a table under construction looks first, and what changes an entry
keeps its key. So no table of a document has a key twice, neither the document itself nor any table inside of
it, be it under a header, made by dotted keys, or written in braces (`keyed_of_document`).
-/

namespace PooledTcp.Toml

/-- No table of the value has a key twice. -/
inductive Value.Keyed : Value → Prop where
  | string (text : String) : Keyed (.string text)
  | integer (n : Int) : Keyed (.integer n)
  | float (x : Binary64) : Keyed (.float x)
  | boolean (b : Bool) : Keyed (.boolean b)
  | moment : Keyed .moment
  | array {items : List Value} : (∀ v ∈ items, Keyed v) → Keyed (.array items)
  | table {entries : List (String × Value)} : (entries.map Prod.fst).Nodup →
    (∀ e ∈ entries, Keyed e.2) → Keyed (.table entries)

theorem Value.Keyed.nodup {es : List (String × Value)} (h : (Value.table es).Keyed) :
    (es.map Prod.fst).Nodup := by
  cases h with
  | table hnodup _ => exact hnodup

theorem Value.Keyed.of_lookup {es : List (String × Value)} {key : String} {v : Value}
    (h : (Value.table es).Keyed) (hv : es.lookup key = some v) : v.Keyed := by
  cases h with
  | table _ hinside => exact hinside _ (mem_of_lookup hv)

/-- No table of the draft has a key twice. -/
inductive Draft.Keyed : Draft → Prop where
  | value {v : Value} : v.Keyed → Keyed (.value v)
  | table {origin : Origin} {es : List (String × Draft)} : (es.map Prod.fst).Nodup →
    (∀ e ∈ es, Keyed e.2) → Keyed (.table origin es)
  | rows {earlier : List Value} {last : List (String × Draft)} : (∀ v ∈ earlier, v.Keyed) →
    (last.map Prod.fst).Nodup → (∀ e ∈ last, Keyed e.2) → Keyed (.rows earlier last)

/-- Neither have the entries, nor any table inside of them. -/
structure KeyedEntries (es : Entries) : Prop where
  nodup : (es.map Prod.fst).Nodup
  inside : ∀ e ∈ es, e.2.Keyed

variable {es es' : Entries} {k : String} {d : Draft} {v : Value} {s rest : List Char}

section Entries

theorem entriesToTable_eq_map (es : Entries) :
    entriesToTable es = es.map fun e => (e.1, e.2.toValue) := by
  induction es with
  | nil => rfl
  | cons e es ih => rw [entriesToTable, ih, List.map_cons]

theorem keyed_entriesToTable (hnodup : (es.map Prod.fst).Nodup)
    (hinside : ∀ e ∈ es, e.2.toValue.Keyed) : (Value.table (entriesToTable es)).Keyed := by
  rw [entriesToTable_eq_map]
  refine .table (by simpa [Function.comp_def] using hnodup) fun x hx => ?_
  obtain ⟨e, he, rfl⟩ := List.mem_map.1 hx
  exact hinside e he

theorem Draft.Keyed.toValue (h : d.Keyed) : d.toValue.Keyed := by
  induction h with
  | value h => simpa only [Draft.toValue] using h
  | table hnodup _ ih =>
    rw [Draft.toValue]
    exact keyed_entriesToTable hnodup ih
  | rows hearlier hnodup _ ih =>
    rw [Draft.toValue]
    refine .array fun v hv => ?_
    rcases List.mem_append.1 hv with hv | hv
    · exact hearlier v hv
    · obtain rfl := List.mem_singleton.1 hv
      exact keyed_entriesToTable hnodup ih

theorem KeyedEntries.toTable (h : KeyedEntries es) : (Value.table (entriesToTable es)).Keyed :=
  keyed_entriesToTable h.nodup fun e he => (h.inside e he).toValue

theorem KeyedEntries.nil : KeyedEntries [] := ⟨List.nodup_nil, nofun⟩

/-- A key that is not there yet goes to the end. -/
theorem KeyedEntries.concat (h : KeyedEntries es) (hnone : es.lookup k = none) (hd : d.Keyed) :
    KeyedEntries (es ++ [(k, d)]) := by
  have hnew : k ∉ es.map Prod.fst := by simp [mem_keys_iff, hnone]
  constructor
  · rw [List.map_append]
    refine List.nodup_append.2 ⟨h.nodup, by simp, ?_⟩
    rintro l hmem _ hk rfl
    obtain rfl := List.mem_singleton.1 hk
    exact hnew hmem
  · intro e he
    rcases List.mem_append.1 he with he | he
    · exact h.inside e he
    · obtain rfl := List.mem_singleton.1 he
      exact hd

theorem keys_replace (k : String) (d : Draft) (es : Entries) :
    (replace k d es).map Prod.fst = es.map Prod.fst := by
  induction es with
  | nil => rfl
  | cons e es ih =>
    obtain ⟨l, e⟩ := e
    rw [replace]
    split
    · rfl
    · rw [List.map_cons, List.map_cons, ih]

theorem mem_replace {e : String × Draft} (h : e ∈ replace k d es) : e = (k, d) ∨ e ∈ es := by
  induction es with
  | nil => cases h
  | cons x es ih =>
    obtain ⟨l, x⟩ := x
    rw [replace] at h
    split at h
    · rename_i hk
      subst hk
      exact (List.mem_cons.1 h).imp id (List.mem_cons_of_mem _)
    · rcases List.mem_cons.1 h with rfl | h
      · exact .inr List.mem_cons_self
      · exact (ih h).imp id (List.mem_cons_of_mem _)

/-- A key that is there keeps its place. -/
theorem KeyedEntries.replace (h : KeyedEntries es) (hd : d.Keyed) :
    KeyedEntries (replace k d es) := by
  refine ⟨keys_replace k d es ▸ h.nodup, fun e he => ?_⟩
  rcases mem_replace he with rfl | he
  · exact hd
  · exact h.inside e he

theorem KeyedEntries.without (h : KeyedEntries es) (k : String) : KeyedEntries (without k es) :=
  ⟨nodup_keys_filter h.nodup _, fun e he => h.inside e (List.mem_filter.1 he).1⟩

theorem KeyedEntries.of_lookup (h : KeyedEntries es) (hk : es.lookup k = some d) : d.Keyed :=
  h.inside _ (mem_of_lookup hk)

end Entries

section Changes

/-- What keeps the keys distinct in the table at the end of a path keeps them distinct in all. -/
theorem KeyedEntries.within {byDots : Bool} {change : Origin → Entries → Option Entries}
    (hchange : ∀ origin es es', KeyedEntries es → change origin es = some es' → KeyedEntries es')
    {path : List String} {origin : Origin} (h : KeyedEntries es)
    (hwithin : within byDots change path origin es = some es') : KeyedEntries es' := by
  induction path generalizing origin es es' with
  | nil => exact hchange origin es es' h hwithin
  | cons k path ih =>
    rw [Toml.within] at hwithin
    split at hwithin
    · rename_i hnone
      obtain ⟨inner, hinner, rfl⟩ := Option.map_eq_some_iff.1 hwithin
      have hkeyed := ih .nil hinner
      exact h.concat hnone (.table hkeyed.nodup hkeyed.inside)
    · cases hwithin
    · rename_i earlier last hrows
      obtain ⟨inner, hinner, rfl⟩ := Option.map_eq_some_iff.1 hwithin
      cases h.of_lookup hrows with
      | rows hearlier hnodup hlast =>
        have hkeyed := ih ⟨hnodup, hlast⟩ hinner
        exact h.replace (.rows hearlier hkeyed.nodup hkeyed.inside)
    · rename_i origin' inner htable
      split at hwithin
      · cases hwithin
      · obtain ⟨inner', hinner, rfl⟩ := Option.map_eq_some_iff.1 hwithin
        cases h.of_lookup htable with
        | table hnodup hinside =>
          have hkeyed := ih ⟨hnodup, hinside⟩ hinner
          exact h.replace (.table hkeyed.nodup hkeyed.inside)

theorem KeyedEntries.apply {a : Assignment} (h : KeyedEntries es) (ha : a.value.Keyed)
    (happly : a.apply es = some es') : KeyedEntries es' := by
  refine h.within (fun origin es es' hes hchange => ?_) happly
  split at hchange
  · rename_i hfree
    obtain rfl := Option.some.inj hchange
    simp only [Bool.and_eq_true, Option.isNone_iff_eq_none] at hfree
    exact hes.concat hfree.2 (.value ha)
  · cases hchange

theorem KeyedEntries.assignAll {as : List Assignment} (h : KeyedEntries es)
    (has : ∀ a ∈ as, a.value.Keyed) (hall : assignAll as es = some es') : KeyedEntries es' := by
  induction as generalizing es with
  | nil =>
    cases hall
    exact h
  | cons a as ih =>
    obtain ⟨mid, hmid, hrest⟩ := Option.bind_eq_some_iff.1 hall
    exact ih (h.apply (has a List.mem_cons_self) hmid)
      (fun b hb => has b (List.mem_cons_of_mem _ hb)) hrest

/-- A section keeps them distinct, whichever way its table came about. -/
theorem KeyedEntries.section {x : Section} (h : KeyedEntries es)
    (hx : ∀ a ∈ x.lines, a.value.Keyed) (happly : x.apply es = some es') : KeyedEntries es' := by
  refine h.within (fun _ es es' hes hchange => ?_) happly
  split at hchange
  · rename_i hnone
    obtain ⟨last, hlast, rfl⟩ := Option.map_eq_some_iff.1 hchange
    have hkeyed := KeyedEntries.nil.assignAll hx hlast
    exact hes.concat hnone (.rows nofun hkeyed.nodup hkeyed.inside)
  · rename_i earlier last hrows
    obtain ⟨next, hnext, rfl⟩ := Option.map_eq_some_iff.1 hchange
    have hkeyed := KeyedEntries.nil.assignAll hx hnext
    cases hes.of_lookup hrows with
    | rows hearlier hnodup hlast =>
      refine hes.replace (.rows (fun v hv => ?_) hkeyed.nodup hkeyed.inside)
      rcases List.mem_append.1 hv with hv | hv
      · exact hearlier v hv
      · obtain rfl := List.mem_singleton.1 hv
        exact KeyedEntries.toTable ⟨hnodup, hlast⟩
  · rename_i hnone
    obtain ⟨inner, hinner, rfl⟩ := Option.map_eq_some_iff.1 hchange
    have hkeyed := KeyedEntries.nil.assignAll hx hinner
    exact hes.concat hnone (.table hkeyed.nodup hkeyed.inside)
  · rename_i inner hpassed
    obtain ⟨inner', hinner, rfl⟩ := Option.map_eq_some_iff.1 hchange
    cases hes.of_lookup hpassed with
    | table hnodup hinside =>
      have hkeyed := KeyedEntries.assignAll ⟨hnodup, hinside⟩ hx hinner
      exact (hes.without x.key).concat (lookup_filter_self x.key es) (.table hkeyed.nodup hkeyed.inside)
  · cases hchange

theorem KeyedEntries.sectionAll {ss : List Section} (h : KeyedEntries es)
    (hss : ∀ x ∈ ss, ∀ a ∈ x.lines, a.value.Keyed) (hall : sectionAll ss es = some es') :
    KeyedEntries es' := by
  induction ss generalizing es with
  | nil =>
    cases hall
    exact h
  | cons x ss ih =>
    obtain ⟨mid, hmid, hrest⟩ := Option.bind_eq_some_iff.1 hall
    exact ih (h.section (hss x List.mem_cons_self) hmid)
      (fun y hy => hss y (List.mem_cons_of_mem _ hy)) hrest

end Changes

section Values

theorem keyed_of_integer? {n : Int} (h : integer? n = some v) : v.Keyed := by
  unfold integer? at h
  split at h
  · cases h
    exact .integer n
  · cases h

theorem keyed_of_float? {negative : Bool} {ds : List Nat} {exponent : Int}
    (h : float? negative ds exponent = some v) : v.Keyed := by
  unfold float? at h
  split at h
  · cases h
  · cases h
    exact .float _

theorem keyed_of_based? {base : Nat} (h : based? base s = some (v, rest)) : v.Keyed := by
  simp only [based?, Option.bind_eq_bind, Option.bind_eq_some_iff, Option.pure_def,
    Option.some.injEq, Prod.mk.injEq] at h
  obtain ⟨ds, -, n, hn, rfl, -⟩ := h
  exact keyed_of_integer? hn

/-- What is read behind an exponent. -/
theorem keyed_of_bind {α : Type} {o : Option α} {f : α → Option Value} {g : α → List Char}
    (hf : ∀ x v, f x = some v → v.Keyed)
    (h : (o.bind fun x => (f x).bind fun v => some (v, g x)) = some (v, rest)) : v.Keyed := by
  obtain ⟨x, -, h⟩ := Option.bind_eq_some_iff.1 h
  obtain ⟨w, hw, h⟩ := Option.bind_eq_some_iff.1 h
  cases h
  exact hf x _ hw

theorem keyed_of_decimal? {negative : Bool} (h : decimal? negative s = some (v, rest)) : v.Keyed := by
  simp only [decimal?, Option.bind_eq_bind, Option.pure_def] at h
  obtain ⟨⟨whole, t⟩, -, h⟩ := Option.bind_eq_some_iff.1 h
  dsimp only at h
  split at h
  · obtain ⟨⟨fraction, t⟩, -, h⟩ := Option.bind_eq_some_iff.1 h
    dsimp only at h
    split at h <;> exact keyed_of_bind (fun _ _ => keyed_of_float?) h
  · exact keyed_of_bind (fun _ _ => keyed_of_float?) h
  · exact keyed_of_bind (fun _ _ => keyed_of_float?) h
  · obtain ⟨w, hw, h⟩ := Option.bind_eq_some_iff.1 h
    cases h
    exact keyed_of_integer? hw

theorem keyed_of_number? (h : number? s = some (v, rest)) : v.Keyed := by
  unfold number? at h
  split at h
  · exact keyed_of_based? h
  · exact keyed_of_based? h
  · exact keyed_of_based? h
  · split at h
    · cases h
      exact .float _
    · cases h
      exact .float _
    · exact keyed_of_decimal? h

/-- A reader of values of which every table has distinct keys. -/
def ReadsKeyed (read? : List Char → Option (Value × List Char)) : Prop :=
  ∀ s v rest, read? s = some (v, rest) → v.Keyed

variable {read? : List Char → Option (Value × List Char)}

theorem keyed_of_assignment? {a : Assignment} (hread : ReadsKeyed read?)
    (h : assignment? read? s = some (a, rest)) : a.value.Keyed := by
  simp only [assignment?, Option.bind_eq_bind, Option.pure_def] at h
  obtain ⟨⟨⟨path, key⟩, t⟩, -, h⟩ := Option.bind_eq_some_iff.1 h
  obtain ⟨t, -, h⟩ := Option.bind_eq_some_iff.1 h
  obtain ⟨⟨v, t⟩, hv, h⟩ := Option.bind_eq_some_iff.1 h
  cases h
  exact hread _ v t hv

theorem keyed_of_items? {bound : Nat} {vs : List Value} (hread : ReadsKeyed read?)
    (h : items? read? bound s = some (vs, rest)) : ∀ v ∈ vs, v.Keyed := by
  induction bound generalizing s vs rest with
  | zero =>
    unfold items? at h
    split at h
    · cases h
      exact nofun
    · cases h
    · contradiction
  | succ bound ih =>
    unfold items? at h
    split at h
    · cases h
      exact nofun
    · contradiction
    · rename_i hbound _
      cases hbound
      simp only [Option.bind_eq_bind, Option.pure_def] at h
      obtain ⟨⟨v, t⟩, hv, h⟩ := Option.bind_eq_some_iff.1 h
      obtain ⟨t, -, h⟩ := Option.bind_eq_some_iff.1 h
      have hkeyed := hread _ v _ hv
      split at h
      · obtain ⟨t, -, h⟩ := Option.bind_eq_some_iff.1 h
        obtain ⟨⟨vs', t⟩, hvs, h⟩ := Option.bind_eq_some_iff.1 h
        cases h
        exact List.forall_mem_cons.2 ⟨hkeyed, ih hvs⟩
      · cases h
        exact List.forall_mem_singleton.2 hkeyed
      · cases h

theorem keyed_of_inlineLines? {bound : Nat} {as : List Assignment} (hread : ReadsKeyed read?)
    (h : inlineLines? read? bound s = some (as, rest)) : ∀ a ∈ as, a.value.Keyed := by
  induction bound generalizing s as rest with
  | zero => cases h
  | succ bound ih =>
    simp only [inlineLines?, Option.bind_eq_bind, Option.pure_def] at h
    obtain ⟨⟨a, t⟩, ha, h⟩ := Option.bind_eq_some_iff.1 h
    have hkeyed := keyed_of_assignment? hread ha
    dsimp only at h
    split at h
    · obtain ⟨⟨as', t⟩, has, h⟩ := Option.bind_eq_some_iff.1 h
      cases h
      exact List.forall_mem_cons.2 ⟨hkeyed, ih has⟩
    · cases h
      exact List.forall_mem_singleton.2 hkeyed
    · cases h

/-- What begins with neither a bracket nor a brace is no table and has none inside. -/
theorem keyed_of_plain {depth : Nat} {c : Char} (hc : c ≠ '[' ∧ c ≠ '\x7b')
    (h : value? depth (c :: s) = some (v, rest)) : v.Keyed := by
  unfold value? at h
  simp only [hc.1, hc.2, if_false] at h
  split at h
  · obtain ⟨⟨text, t⟩, -, h⟩ := Option.map_eq_some_iff.1 h
    cases h
    exact .string text
  · split at h
    · cases h
      exact .boolean true
    · cases h
      exact .boolean false
    · split at h
      · cases h
        exact .moment
      · exact keyed_of_number? h

/-- An array. -/
theorem value?_bracket (depth : Nat) (s : List Char) : value? (depth + 1) ('[' :: s) =
    (skipBlank? false s).bind fun s => (items? (value? depth) s.length s).bind fun x =>
      some (.array x.1, x.2) := rfl

/-- An inline table. -/
theorem value?_brace (depth : Nat) (s : List Char) : value? (depth + 1) ('\x7b' :: s) =
    match skipSpace s with
    | '\x7d' :: s => some (.table [], s)
    | s => (inlineLines? (value? depth) s.length s).bind fun x => (assignAll x.1 []).bind fun es =>
        some (.table (entriesToTable es), x.2) := rfl

theorem readsKeyed_value? (depth : Nat) : ReadsKeyed (value? depth) := by
  induction depth with
  | zero =>
    intro s v rest h
    cases s with
    | nil => cases h
    | cons c s =>
      by_cases hbracket : c = '['
      · subst hbracket
        cases h
      · by_cases hbrace : c = '\x7b'
        · subst hbrace
          cases h
        · exact keyed_of_plain ⟨hbracket, hbrace⟩ h
  | succ depth ih =>
    intro s v rest h
    cases s with
    | nil => cases h
    | cons c s =>
      by_cases hbracket : c = '['
      · subst hbracket
        rw [value?_bracket] at h
        obtain ⟨t, -, h⟩ := Option.bind_eq_some_iff.1 h
        obtain ⟨⟨vs, t⟩, hvs, h⟩ := Option.bind_eq_some_iff.1 h
        cases h
        exact .array (keyed_of_items? ih hvs)
      · by_cases hbrace : c = '\x7b'
        · subst hbrace
          rw [value?_brace] at h
          split at h
          · cases h
            exact .table List.nodup_nil nofun
          · obtain ⟨⟨as, t⟩, has, h⟩ := Option.bind_eq_some_iff.1 h
            obtain ⟨es, hes, h⟩ := Option.bind_eq_some_iff.1 h
            cases h
            exact (KeyedEntries.nil.assignAll (keyed_of_inlineLines? ih has) hes).toTable
        · exact keyed_of_plain ⟨hbracket, hbrace⟩ h

end Values

section Document

/-- No value in the line has a key twice. -/
def Line.Keyed : Line → Prop
  | .assign a => a.value.Keyed
  | .header _ _ _ => True

theorem keyed_of_line? {l : Line} (h : line? s = some (l, rest)) : l.Keyed := by
  unfold line? at h
  simp only [Option.bind_eq_bind, Option.pure_def] at h
  split at h
  · obtain ⟨⟨⟨path, key⟩, t⟩, -, h⟩ := Option.bind_eq_some_iff.1 h
    obtain ⟨t, -, h⟩ := Option.bind_eq_some_iff.1 h
    obtain ⟨t, -, h⟩ := Option.bind_eq_some_iff.1 h
    obtain ⟨t, -, h⟩ := Option.bind_eq_some_iff.1 h
    cases h
    trivial
  · obtain ⟨⟨⟨path, key⟩, t⟩, -, h⟩ := Option.bind_eq_some_iff.1 h
    obtain ⟨t, -, h⟩ := Option.bind_eq_some_iff.1 h
    obtain ⟨t, -, h⟩ := Option.bind_eq_some_iff.1 h
    cases h
    trivial
  · obtain ⟨⟨a, t⟩, ha, h⟩ := Option.bind_eq_some_iff.1 h
    obtain ⟨t, -, h⟩ := Option.bind_eq_some_iff.1 h
    cases h
    exact keyed_of_assignment? (readsKeyed_value? depthLimit) ha

theorem keyed_of_lines? {bound : Nat} {ls : List Line} (h : lines? bound s = some ls) :
    ∀ l ∈ ls, l.Keyed := by
  induction bound generalizing s ls with
  | zero =>
    unfold lines? at h
    split at h
    · cases h
    · cases h
      exact nofun
    · cases h
  | succ bound ih =>
    unfold lines? at h
    split at h
    · cases h
    · cases h
      exact nofun
    · simp only [Option.bind_eq_bind, Option.pure_def] at h
      obtain ⟨⟨l, t⟩, hl, h⟩ := Option.bind_eq_some_iff.1 h
      obtain ⟨ls', hls, h⟩ := Option.bind_eq_some_iff.1 h
      cases h
      exact List.forall_mem_cons.2 ⟨keyed_of_line? hl, ih hls⟩

theorem keyed_sections {ls : List Line} (h : ∀ l ∈ ls, l.Keyed) :
    (∀ a ∈ (sections ls).1, a.value.Keyed) ∧
      ∀ x ∈ (sections ls).2, ∀ a ∈ x.lines, a.value.Keyed := by
  induction ls with
  | nil => exact ⟨nofun, nofun⟩
  | cons l ls ih =>
    obtain ⟨hl, hls⟩ := List.forall_mem_cons.1 h
    obtain ⟨hfirst, hrest⟩ := ih hls
    cases l with
    | assign a => exact ⟨List.forall_mem_cons.2 ⟨hl, hfirst⟩, hrest⟩
    | header isRow path key => exact ⟨nofun, List.forall_mem_cons.2 ⟨hfirst, hrest⟩⟩

/-- No table of a document has a key twice. -/
theorem keyed_of_document? {text : String} {t : Table} (h : document? text = some t) :
    (Value.table t).Keyed := by
  obtain ⟨ls, hls, hassemble⟩ := Option.bind_eq_some_iff.1 h
  obtain ⟨es, hes, rfl⟩ := Option.map_eq_some_iff.1 hassemble
  obtain ⟨first, hfirst, hrest⟩ := Option.bind_eq_some_iff.1 hes
  obtain ⟨hlines, hsections⟩ := keyed_sections (keyed_of_lines? hls)
  exact ((KeyedEntries.nil.assignAll hlines hfirst).sectionAll hsections hrest).toTable

end Document

end PooledTcp.Toml
