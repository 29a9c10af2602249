import PooledTcp.Proofs.Config.Lookup

/-!
# Sections by position

A section that is an array gives its fields their values in the order of their declaration. It reads as the table
does that pairs the keys with the values, down to the error (`readSection_array`): where the values run out the
fields keep their defaults, as those do whose keys are missing, and where the fields run out nothing looks at what is
left. So in any document one form may stand for the other, wherever the section is and however the table is written
(`parse_array_iff_table`).
-/

namespace PooledTcp.Config

open Toml (Value)

variable {σ : Type}

section Reading

variable {fields : List (Field σ)} {f : Field σ} {vs : List Value} {es : List (String × Value)}

/-- Of fields with different keys, the one with a given key is found. -/
theorem find?_key {before after : List (Field σ)}
    (hkeys : ((before ++ f :: after).map (·.key)).Nodup) :
    (before ++ f :: after).find? (·.key == f.key) = some f := by
  have hbefore : ∀ g ∈ before, ¬(g.key == f.key) = true := by
    intro g hg hsame
    rw [List.map_append, List.nodup_append] at hkeys
    exact hkeys.2.2 g.key (List.mem_map_of_mem hg) f.key (by simp) (eq_of_beq hsame)
  rw [List.find?_append, List.find?_eq_none.2 hbefore, Option.none_or]
  exact List.find?_cons_of_pos (beq_self_eq_true f.key)

/-- Reading by position is reading the table that pairs the keys with the values. -/
theorem readPositional_eq (hkeys : (fields.map (·.key)).Nodup) (vs : List Value) (s : σ) :
    readPositional fields vs s = readKeyed fields ((fields.map (·.key)).zip vs) s := by
  -- the table is read with all fields, also with those that were read already
  suffices h : ∀ (before after : List (Field σ)) (vs : List Value) (s : σ),
      ((before ++ after).map (·.key)).Nodup →
        readPositional after vs s = readKeyed (before ++ after) ((after.map (·.key)).zip vs) s from
    h [] fields vs s hkeys
  intro before after
  induction after generalizing before with
  | nil =>
    intro vs s _
    rfl
  | cons f after ih =>
    intro vs s hkeys
    cases vs with
    | nil => rfl
    | cons v vs =>
      have hrest : readPositional after vs =
          readKeyed (before ++ f :: after) ((after.map (·.key)).zip vs) := by
        funext t
        have hsplit : before ++ f :: after = (before ++ [f]) ++ after := by simp
        rw [hsplit] at hkeys ⊢
        exact ih (before ++ [f]) vs t hkeys
      rw [readPositional, hrest, List.map_cons, List.zip_cons_cons, readKeyed, find?_key hkeys]

/-- A section reads the same as an array of values and as the table that gives them to the fields. -/
theorem readSection_array (hkeys : (fields.map (·.key)).Nodup) (kind : String) (initial : σ)
    (vs : List Value) : readSection kind fields initial (.array vs) =
      readSection kind fields initial (.table ((fields.map (·.key)).zip vs)) :=
  readPositional_eq hkeys vs initial

/-- Keys that differ do so beside values. -/
theorem nodup_zip {keys : List String} (h : keys.Nodup) (vs : List Value) :
    ((keys.zip vs).map Prod.fst).Nodup := by
  induction keys generalizing vs with
  | nil => exact List.nodup_nil
  | cons key keys ih =>
    obtain ⟨hnot, hkeys⟩ := List.nodup_cons.1 h
    cases vs with
    | nil => exact List.nodup_nil
    | cons v vs =>
      refine List.nodup_cons.2 ⟨fun hmem => hnot ?_, ih hkeys vs⟩
      obtain ⟨⟨k, w⟩, hpair, rfl⟩ := List.mem_map.1 hmem
      exact (List.of_mem_zip hpair).1

/-- The entries give the keys the values in their order; a key without a value is not there. Other keys may be. -/
def Gives (es : List (String × Value)) (keys : List String) (vs : List Value) : Prop :=
  ∀ key ∈ keys, es.lookup key = (keys.zip vs).lookup key

/-- An array of values and any table that gives them to the fields change a section in the same way. -/
theorem readSection_of_gives (hfields : Independent fields) (hes : (es.map Prod.fst).Nodup)
    (hgives : Gives es (fields.map (·.key)) vs) (kind : String) (initial : σ) :
    (readSection kind fields initial (.array vs)).toOption =
      (readSection kind fields initial (.table es)).toOption := by
  have hfound : ∀ f ∈ fields, ((fields.map (·.key)).zip vs).lookup f.key = es.lookup f.key :=
    fun f hf => (hgives f.key (List.mem_map_of_mem hf)).symm
  calc (readSection kind fields initial (.array vs)).toOption
      = (readKeyed fields ((fields.map (·.key)).zip vs) initial).toOption := by
        rw [readSection_array hfields.keys]
        rfl
    _ = readInOrder fields (((fields.map (·.key)).zip vs).lookup ·) initial :=
        readKeyed_eq hfields (nodup_zip hfields.keys vs) initial
    _ = readInOrder fields (es.lookup ·) initial := readInOrder_congr hfound initial
    _ = (readSection kind fields initial (.table es)).toOption := (readKeyed_eq hfields hes initial).symm

/-- What is read is the same where every field makes the same of what is found under its key. -/
theorem readInOrder_of_read {found found' : String → Option Value}
    (h : ∀ f ∈ fields, found f.key = found' f.key ∨
      ∃ v w, found f.key = some v ∧ found' f.key = some w ∧ ∀ s, f.read? v s = f.read? w s) (s : σ) :
    readInOrder fields found s = readInOrder fields found' s := by
  induction fields generalizing s with
  | nil => rfl
  | cons f fs ih =>
    obtain ⟨hf, hfs⟩ := List.forall_mem_cons.1 h
    have hrest : readInOrder fs found = readInOrder fs found' := funext (ih hfs)
    rw [readInOrder, readInOrder, hrest]
    rcases hf with heq | ⟨v, w, hv, hw, hread⟩
    · rw [heq]
    · rw [hv, hw]
      exact congrArg (Option.bind · _) (hread s)

end Reading

section Document

variable {name : String} {keys : List String} {vs : List Value} {es : List (String × Value)}
  {da db : Toml.Table} {a b : String}

/-- Every section takes an array of values for a table that gives them to its fields. -/
theorem section_read? (hname : (name, keys) ∈ knownKeys) (hes : (es.map Prod.fst).Nodup)
    (hgives : Gives es keys vs) {f : Field Settings} (hf : f ∈ sections) (hkey : f.key = name)
    (s : Settings) : f.read? (.array vs) s = f.read? (.table es) s := by
  -- one section at a time: the field with the name is the one that reads these keys
  have hread {τ : Type} {fields : List (Field τ)} {kind key : String} {initial : τ}
      {put : τ → Settings → Settings} (hfields : Independent fields)
      (hgives : Gives es (fields.map (·.key)) vs) :
      (field key (readSection kind fields initial) put).read? (.array vs) s =
        (field key (readSection kind fields initial) put).read? (.table es) s := by
    rw [read?_field, read?_field, readSection_of_gives hfields hes hgives]
  subst hkey
  simp only [sections, List.mem_cons, List.not_mem_nil, or_false] at hf
  simp only [knownKeys, List.mem_cons, Prod.mk.injEq, List.not_mem_nil, or_false] at hname
  rcases hf with rfl | rfl | rfl | rfl
  · obtain rfl : keys = serverFields.map (·.key) := by simpa [field] using hname
    exact hread independent_server hgives
  · obtain rfl : keys = poolFields.map (·.key) := by simpa [field] using hname
    exact hread independent_pool hgives
  · obtain rfl : keys = proxyFields.map (·.key) := by simpa [field] using hname
    exact hread independent_proxy hgives
  · obtain rfl : keys = observabilityFields.map (·.key) := by simpa [field] using hname
    exact hread independent_observability hgives

/-- What two documents hold is the same where the one gives a section as an array and the other as a table. -/
theorem read_array (hname : (name, keys) ∈ knownKeys) (ha : (Value.table da).Keyed)
    (hb : (Value.table db).Keyed) (harray : da.lookup name = some (.array vs))
    (htable : db.lookup name = some (.table es)) (hgives : Gives es keys vs)
    (hothers : ∀ other ∈ knownKeys.map Prod.fst, other ≠ name → da.lookup other = db.lookup other) :
    (read da).toOption = (read db).toOption := by
  have hes : (es.map Prod.fst).Nodup := (hb.of_lookup htable).nodup
  rw [read, read, readKeyed_eq independent_sections ha.nodup, readKeyed_eq independent_sections hb.nodup]
  refine readInOrder_of_read (fun f hf => ?_) _
  by_cases heq : f.key = name
  · refine .inr ⟨.array vs, .table es, heq ▸ harray, heq ▸ htable, fun s => ?_⟩
    exact section_read? hname hes hgives hf heq s
  · exact .inl (hothers f.key (List.mem_map_of_mem hf) heq)

/-- A document that gives a section as an array of values and one that gives it as a table, with the values under the
first keys in the order of declaration, are both accepted with the same settings or both not. So what the array does
not reach has the default that a missing key has, and what it has beyond the fields makes no difference. That both are
documents (`Toml.document?`) leaves out those that are nested deeper than `Toml.depthLimit`, which the reader
refuses. -/
theorem parse_array_iff_table (hname : (name, keys) ∈ knownKeys) (ha : Toml.document? a = some da)
    (hb : Toml.document? b = some db) (harray : da.lookup name = some (.array vs))
    (htable : db.lookup name = some (.table es)) (hgives : Gives es keys vs)
    (hothers : ∀ other ∈ knownKeys.map Prod.fst, other ≠ name → da.lookup other = db.lookup other)
    (s : Settings) : parse a = .ok s ↔ parse b = .ok s := by
  have hread := read_array hname (Toml.keyed_of_document? ha) (Toml.keyed_of_document? hb) harray
    htable hgives hothers
  rw [parse_eq_ok_iff_read ha, parse_eq_ok_iff_read hb, hread]

/-- A section of three fields that is given four values, and a section of five that is given two. -/
theorem parse_surplus_and_missing :
    (∃ s, parse "observability = ['warn', true, '1.2.3.4:5', [6]]\n" = .ok s ∧
      parse "[observability]\nmetrics_address = '1.2.3.4:5'\nmetrics_enabled = true\nlog_level = 'warn'\n" =
        .ok s ∧ s.observability.metricsAddress = "1.2.3.4:5") ∧
    ∃ s, parse "pool = [1, 20]\n" = .ok s ∧
      parse "pool.max_conn_num = 20\npool.init_conn_num = 1\n" = .ok s ∧
      s.pool.maxConnNum = 20 ∧ s.pool.connectTimeoutMs = 5000 := by
  constructor
  · have ha : Toml.document? "observability = ['warn', true, '1.2.3.4:5', [6]]\n" =
        some [("observability", .array [.string "warn", .boolean true, .string "1.2.3.4:5",
          .array [.integer 6]])] := (Toml.document?_ofList _).trans rfl
    have hb : Toml.document?
        "[observability]\nmetrics_address = '1.2.3.4:5'\nmetrics_enabled = true\nlog_level = 'warn'\n" =
        some [("observability", .table [("metrics_address", .string "1.2.3.4:5"),
          ("metrics_enabled", .boolean true), ("log_level", .string "warn")])] :=
      (Toml.document?_ofList _).trans rfl
    have hparse : parse "observability = ['warn', true, '1.2.3.4:5', [6]]\n" =
        .ok { observability := { logLevel := "warn", metricsEnabled := true, metricsAddress := "1.2.3.4:5" } } :=
      (parse_eq_ok_iff_read ha).2
        ⟨by decide +kernel, Settings.validate_eq_ok_iff.2 ⟨rfl, by decide +kernel⟩⟩
    have hname : ("observability", observabilityFields.map (·.key)) ∈ knownKeys := by simp [knownKeys]
    have hboth := parse_array_iff_table hname ha hb rfl rfl
      (by simp [Gives, observabilityFields, field, List.lookup_cons])
      fun other _ hne => (lookup_cons_of_ne hne).trans (lookup_cons_of_ne hne).symm
    exact ⟨_, hparse, (hboth _).1 hparse, rfl⟩
  · have ha : Toml.document? "pool = [1, 20]\n" =
        some [("pool", .array [.integer 1, .integer 20])] := (Toml.document?_ofList _).trans rfl
    have hb : Toml.document? "pool.max_conn_num = 20\npool.init_conn_num = 1\n" =
        some [("pool", .table [("max_conn_num", .integer 20), ("init_conn_num", .integer 1)])] :=
      (Toml.document?_ofList _).trans rfl
    have hparse : parse "pool = [1, 20]\n" = .ok { pool := { initConnNum := 1, maxConnNum := 20 } } :=
      (parse_eq_ok_iff_read ha).2
        ⟨by decide +kernel, Settings.validate_eq_ok_iff.2 ⟨rfl, by decide +kernel⟩⟩
    have hname : ("pool", poolFields.map (·.key)) ∈ knownKeys := by simp [knownKeys]
    have hboth := parse_array_iff_table hname ha hb rfl rfl
      (by simp [Gives, poolFields, field, List.lookup_cons])
      fun other _ hne => (lookup_cons_of_ne hne).trans (lookup_cons_of_ne hne).symm
    exact ⟨_, hparse, (hboth _).1 hparse, rfl, rfl⟩

end Document

end PooledTcp.Config
