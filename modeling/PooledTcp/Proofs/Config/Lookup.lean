import PooledTcp.Config.Load
import PooledTcp.Proofs.Toml.Keys

/-!
# Settings depend on the known keys alone

Reading goes through a document in its own order and changes what it has read so far, key by key. But no key
comes twice, and fields do not get in each other's way. So reading gives what looking up each field gives, in
the order of declaration, with the default of a field that is not there (`read_eq`). The order of sections and
keys, the way tables are written and keys that nobody knows make no difference (`parse_depends_on_known_keys`).
-/

namespace PooledTcp

namespace Toml

/-- Two values that differ at most in the order of the entries of their tables. -/
inductive Value.Alike : Value → Value → Prop where
  | string (text : String) : Alike (.string text) (.string text)
  | integer (n : Int) : Alike (.integer n) (.integer n)
  | float (x : Binary64) : Alike (.float x) (.float x)
  | boolean (b : Bool) : Alike (.boolean b) (.boolean b)
  | moment : Alike .moment .moment
  | array {items items' : List Value} : items.length = items'.length →
    (∀ (i : Nat) (v v' : Value), items[i]? = some v → items'[i]? = some v' → Alike v v') →
    Alike (.array items) (.array items')
  | table {es es' : List (String × Value)} :
    (∀ k, es.lookup k = none ↔ es'.lookup k = none) →
    (∀ k v v', es.lookup k = some v → es'.lookup k = some v' → Alike v v') →
    Alike (.table es) (.table es')

/-- The value under a key of a section, if there is one. -/
def valueAt? (document : Table) (name key : String) : Option Value :=
  match document.lookup name with
  | some (.table es) => es.lookup key
  | _ => none

/-- What is found in a document in which no table has a key twice. -/
theorem keyed_of_valueAt? {document : Table} {name key : String} {v : Value}
    (h : (Value.table document).Keyed) (hv : valueAt? document name key = some v) : v.Keyed := by
  unfold valueAt? at hv
  split at hv
  · rename_i es hname
    exact (h.of_lookup hname).of_lookup hv
  · cases hv

/-- The same value with distinct keys throughout. -/
def Value.Same (v w : Value) : Prop := v.Alike w ∧ v.Keyed ∧ w.Keyed

end Toml

namespace Config

open Toml (Value)

variable {σ α β : Type}

section Fields

/-- What a value changes, if it has the right shape. -/
def Field.read? (f : Field σ) (v : Value) (s : σ) : Option σ := (f.read v s).toOption

/-- The values of two fields can be read in either order. -/
def Field.Commute (f g : Field σ) : Prop :=
  ∀ v w s, (f.read? v s).bind (g.read? w) = (g.read? w s).bind (f.read? v)

/-- It makes no difference to the field how the value is written. -/
def Field.Respects (f : Field σ) : Prop := ∀ v w, v.Same w → ∀ s, f.read? v s = f.read? w s

/-- No key is that of two fields, and no field gets in the way of another one. -/
structure Independent (fields : List (Field σ)) : Prop where
  keys : (fields.map (·.key)).Nodup
  commute : fields.Pairwise Field.Commute

/-- Read the fields in the order of their declaration, each from what is found under its key. -/
def readInOrder : List (Field σ) → (String → Option Value) → σ → Option σ
  | [], _, s => some s
  | f :: fs, found, s =>
    match found f.key with
    | none => readInOrder fs found s
    | some v => (f.read? v s).bind (readInOrder fs found)

/-- What is found, or the default. -/
def valueOr (f : Value → Except ReadError α) (default : α) : Option Value → Option α
  | none => some default
  | some v => (f v).toOption

variable {fields : List (Field σ)} {found found' : String → Option Value} {key key' : String}
  {f : Value → Except ReadError α} {g : Value → Except ReadError β} {put : α → σ → σ}
  {put' : β → σ → σ}

theorem toOption_bind {ε : Type} (x : Except ε α) (f : α → Except ε β) :
    (x >>= f).toOption = x.toOption.bind fun y => (f y).toOption := by
  cases x <;> rfl

theorem read?_field (v : Value) (s : σ) :
    (field key f put).read? v s = (f v).toOption.map (put · s) := by
  unfold Field.read? field
  cases hf : f v <;> simp [hf, Except.map, Except.toOption]

/-- Fields that change different parts can be read in either order. -/
theorem commute_field (h : ∀ x y s, put' y (put x s) = put x (put' y s)) :
    (field key f put).Commute (field key' g put') := by
  intro v w s
  have hfirst (o : Option σ) : o.bind ((field key' g put').read? w) =
      o.bind fun t => (g w).toOption.map (put' · t) := congrArg o.bind (funext (read?_field w))
  have hsecond (o : Option σ) : o.bind ((field key f put).read? v) =
      o.bind fun t => (f v).toOption.map (put · t) := congrArg o.bind (funext (read?_field v))
  rw [hfirst, hsecond, read?_field, read?_field]
  cases (f v).toOption <;> cases (g w).toOption <;> simp [h]

theorem respects_field (h : ∀ v w, v.Same w → (f v).toOption = (f w).toOption) :
    (field key f put).Respects := by
  intro v w hvw s
  rw [read?_field, read?_field, h v w hvw]

theorem readInOrder_congr (h : ∀ f ∈ fields, found f.key = found' f.key) (s : σ) :
    readInOrder fields found s = readInOrder fields found' s := by
  induction fields generalizing s with
  | nil => rfl
  | cons f fs ih =>
    obtain ⟨hf, hfs⟩ := List.forall_mem_cons.1 h
    rw [readInOrder, readInOrder, hf, ih hfs, funext (ih hfs)]

/-- How the values are written makes no difference. -/
theorem readInOrder_same (hrespects : ∀ f ∈ fields, f.Respects)
    (h : ∀ f ∈ fields, Option.Rel Value.Same (found f.key) (found' f.key)) (s : σ) :
    readInOrder fields found s = readInOrder fields found' s := by
  induction fields generalizing s with
  | nil => rfl
  | cons f fs ih =>
    obtain ⟨hf, hfs⟩ := List.forall_mem_cons.1 h
    obtain ⟨hr, hrs⟩ := List.forall_mem_cons.1 hrespects
    rw [readInOrder, readInOrder, ih hrs hfs, funext (ih hrs hfs)]
    generalize found f.key = o, found' f.key = o' at hf
    cases hf with
    | none => rfl
    | some hvw => exact congrArg (Option.bind · _) (hr _ _ hvw s)

/-- A value that is found under one more key can as well be read before everything else. -/
theorem readInOrder_first {f : Field σ} {v : Value} (hfields : Independent fields)
    (hmem : f ∈ fields) (hnone : found f.key = none) (hsome : found' f.key = some v)
    (hrest : ∀ k, k ≠ f.key → found' k = found k) (s : σ) :
    readInOrder fields found' s = (f.read? v s).bind (readInOrder fields found) := by
  obtain ⟨hkeys, hcommute⟩ := hfields
  induction fields generalizing s with
  | nil => cases hmem
  | cons g gs ih =>
    obtain ⟨hnot, hkeys⟩ := List.nodup_cons.1 hkeys
    obtain ⟨hg, hcommute⟩ := List.pairwise_cons.1 hcommute
    rcases List.mem_cons.1 hmem with rfl | hmem
    · have hsame : ∀ h ∈ gs, found' h.key = found h.key := fun h hh =>
        hrest h.key fun heq => hnot (List.mem_map.2 ⟨h, hh, heq⟩)
      simp only [readInOrder, hnone, hsome, funext (readInOrder_congr hsame)]
    · have hne : g.key ≠ f.key := fun heq => hnot (List.mem_map.2 ⟨f, hmem, heq.symm⟩)
      have hih := fun s => ih hmem s hkeys hcommute
      simp only [readInOrder, hrest g.key hne]
      cases found g.key with
      | none => exact hih s
      | some w =>
        dsimp only
        calc (g.read? w s).bind (readInOrder gs found')
            = ((g.read? w s).bind (f.read? v)).bind (readInOrder gs found) := by
              rw [Option.bind_assoc, funext hih]
          _ = ((f.read? v s).bind (g.read? w)).bind (readInOrder gs found) := by
              rw [hg f hmem w v s]
          _ = (f.read? v s).bind fun t => (g.read? w t).bind (readInOrder gs found) :=
              Option.bind_assoc _ _ _

/-- Reading a table in its own order is looking up its fields. -/
theorem readKeyed_eq (hfields : Independent fields) {es : List (String × Value)}
    (hkeys : (es.map Prod.fst).Nodup) (s : σ) :
    (readKeyed fields es s).toOption = readInOrder fields (es.lookup ·) s := by
  induction es generalizing s with
  | nil =>
    rw [readKeyed]
    clear hfields
    induction fields with
    | nil => rfl
    | cons f fs ih => exact ih
  | cons e es ih =>
    obtain ⟨k, v⟩ := e
    obtain ⟨hnot, hkeys⟩ := List.nodup_cons.1 hkeys
    have hother (l : String) (hl : l ≠ k) : ((k, v) :: es).lookup l = es.lookup l := lookup_cons_of_ne hl
    rw [readKeyed]
    cases hfind : fields.find? (·.key == k) with
    | none =>
      have hunknown : ∀ f ∈ fields, ((k, v) :: es).lookup f.key = es.lookup f.key := fun f hf =>
        hother f.key fun heq => by
          have := List.find?_eq_none.1 hfind f hf
          simp [heq] at this
      exact (ih hkeys s).trans (readInOrder_congr hunknown s).symm
    | some f =>
      have hk : f.key = k := by simpa using List.find?_some hfind
      have hnone : es.lookup f.key = none :=
        Option.not_isSome_iff_eq_none.1 (mt mem_keys_iff.2 (hk ▸ hnot))
      have hsome : ((k, v) :: es).lookup f.key = some v := hk ▸ List.lookup_cons_self
      have hfirst := readInOrder_first hfields (List.mem_of_find?_eq_some hfind) hnone hsome
        (fun l hl => hother l (hk ▸ hl)) s
      refine (toOption_bind _ _).trans (.trans ?_ hfirst.symm)
      exact congrArg (Option.bind _) (funext (ih hkeys))

/-- The field is what is found under its key, or stays as it is; then come the others. -/
theorem readInOrder_field (get : σ → α) (hget : ∀ s, put (get s) s = s) {fs : List (Field σ)} {s : σ}
    {rest : α → Option σ} (h : ∀ x, readInOrder fs found (put x s) = rest x) :
    readInOrder (field key f put :: fs) found s = (valueOr f (get s) (found key)).bind rest := by
  have hkey : (field key f put).key = key := rfl
  rw [readInOrder, hkey, ← funext h]
  cases found key with
  | none => simp [valueOr, hget]
  | some v =>
    dsimp only
    rw [read?_field, valueOr]
    exact Option.bind_map

end Fields

section Found

/-- The server's settings, each from what is found under its key. -/
def serverFound (found : String → Option Value) : Option ServerSettings := do
  let bindAddress ← valueOr text "127.0.0.1:8000" (found "bind_address")
  let readTimeoutMs ← valueOr milliseconds 0 (found "read_timeout_ms")
  let writeTimeoutMs ← valueOr milliseconds 0 (found "write_timeout_ms")
  let keepAliveTimeoutMs ← valueOr milliseconds 0 (found "keep_alive_timeout_ms")
  let shutdownGraceMs ← valueOr milliseconds 5000 (found "shutdown_grace_ms")
  let handler ← valueOr handler .echo (found "handler")
  return { bindAddress, readTimeoutMs, writeTimeoutMs, keepAliveTimeoutMs, shutdownGraceMs, handler }

/-- The pool's settings, each from what is found under its key. -/
def poolFound (found : String → Option Value) : Option PoolSettings := do
  let initConnNum ← valueOr connections 10 (found "init_conn_num")
  let maxConnNum ← valueOr connections 10 (found "max_conn_num")
  let maxIdleNum ← valueOr connections 0 (found "max_idle_num")
  let idleTimeoutMs ← valueOr milliseconds 0 (found "idle_timeout_ms")
  let connectTimeoutMs ← valueOr milliseconds 5000 (found "connect_timeout_ms")
  return { initConnNum, maxConnNum, maxIdleNum, idleTimeoutMs, connectTimeoutMs }

/-- The proxy's settings. -/
def proxyFound (found : String → Option Value) : Option ProxySettings := do
  let backend ← valueOr (fun v => (text v).map some) none (found "upstream")
  return { backend }

/-- What is found of the log and the metrics. -/
def observabilityFound (found : String → Option Value) : Option ObservabilitySettings := do
  let logLevel ← valueOr text "info" (found "log_level")
  let metricsEnabled ← valueOr boolean false (found "metrics_enabled")
  let metricsAddress ← valueOr text "127.0.0.1:9090" (found "metrics_address")
  return { logLevel, metricsEnabled, metricsAddress }

/-- All settings, each from what is found under its key in its section. -/
def settingsFound (found : String → String → Option Value) : Option Settings := do
  let server ← serverFound (found "server")
  let pool ← poolFound (found "pool")
  let proxy ← proxyFound (found "proxy")
  let observability ← observabilityFound (found "observability")
  return { server, pool, proxy, observability }

theorem readInOrder_server (found : String → Option Value) :
    readInOrder serverFields found {} = serverFound found :=
  readInOrder_field ServerSettings.bindAddress (fun _ => rfl) fun _ =>
  readInOrder_field ServerSettings.readTimeoutMs (fun _ => rfl) fun _ =>
  readInOrder_field ServerSettings.writeTimeoutMs (fun _ => rfl) fun _ =>
  readInOrder_field ServerSettings.keepAliveTimeoutMs (fun _ => rfl) fun _ =>
  readInOrder_field ServerSettings.shutdownGraceMs (fun _ => rfl) fun _ =>
  readInOrder_field ServerSettings.handler (fun _ => rfl) fun _ => rfl

theorem readInOrder_pool (found : String → Option Value) :
    readInOrder poolFields found {} = poolFound found :=
  readInOrder_field PoolSettings.initConnNum (fun _ => rfl) fun _ =>
  readInOrder_field PoolSettings.maxConnNum (fun _ => rfl) fun _ =>
  readInOrder_field PoolSettings.maxIdleNum (fun _ => rfl) fun _ =>
  readInOrder_field PoolSettings.idleTimeoutMs (fun _ => rfl) fun _ =>
  readInOrder_field PoolSettings.connectTimeoutMs (fun _ => rfl) fun _ => rfl

theorem readInOrder_proxy (found : String → Option Value) :
    readInOrder proxyFields found {} = proxyFound found := by
  have hkey : (field "upstream" text fun x (s : ProxySettings) => { s with backend := some x }).key =
    "upstream" := rfl
  rw [proxyFields, readInOrder, proxyFound, hkey]
  cases found "upstream" with
  | none => rfl
  | some v => cases v <;> rfl

theorem readInOrder_observability (found : String → Option Value) :
    readInOrder observabilityFields found {} = observabilityFound found :=
  readInOrder_field ObservabilitySettings.logLevel (fun _ => rfl) fun _ =>
  readInOrder_field ObservabilitySettings.metricsEnabled (fun _ => rfl) fun _ =>
  readInOrder_field ObservabilitySettings.metricsAddress (fun _ => rfl) fun _ => rfl

theorem independent_server : Independent serverFields :=
  ⟨by decide, by simp [serverFields, commute_field]⟩

theorem independent_pool : Independent poolFields :=
  ⟨by decide, by simp [poolFields, commute_field]⟩

theorem independent_proxy : Independent proxyFields :=
  ⟨by decide, by simp [proxyFields]⟩

theorem independent_observability : Independent observabilityFields :=
  ⟨by decide, by simp [observabilityFields, commute_field]⟩

theorem independent_sections : Independent sections :=
  ⟨by decide, by simp [sections, commute_field]⟩

end Found

section Same

variable {v w : Value} {es es' : List (String × Value)}

/-- Tables with the same keys, none of them twice, are of one length. -/
theorem length_eq_of_keys (hkeys : ∀ k, es.lookup k = none ↔ es'.lookup k = none)
    (hes : (es.map Prod.fst).Nodup) (hes' : (es'.map Prod.fst).Nodup) : es.length = es'.length := by
  have hperm : (es.map Prod.fst).Perm (es'.map Prod.fst) := by
    refine (List.perm_ext_iff_of_nodup hes hes').2 fun k => ?_
    rw [mem_keys_iff, mem_keys_iff, Option.isSome_iff_ne_none, Option.isSome_iff_ne_none, ne_eq,
      ne_eq, hkeys k]
  simpa using hperm.length_eq

theorem text_same (h : v.Same w) : (text v).toOption = (text w).toOption := by
  cases h.1 <;> rfl

theorem boolean_same (h : v.Same w) : (boolean v).toOption = (boolean w).toOption := by
  cases h.1 <;> rfl

theorem natural_same (kind : String) (h : v.Same w) :
    (natural kind v).toOption = (natural kind w).toOption := by
  cases h.1 <;> rfl

theorem nothing_same (h : v.Same w) : (nothing v).toOption = (nothing w).toOption := by
  obtain ⟨halike, hv, hw⟩ := h
  cases halike with
  | array hlength _ =>
    rename_i items items' _
    cases items <;> cases items' <;> first | rfl | cases hlength
  | table hkeys _ =>
    have hlength := length_eq_of_keys hkeys hv.nodup hw.nodup
    rename_i es es' _
    cases es <;> cases es' <;> first | rfl | cases hlength
  | _ => rfl

theorem handler_table (name : String) (v : Value) : (handler (.table [(name, v)])).toOption =
    (handlerNamed name).toOption.bind fun h => (nothing v).toOption.map fun _ => h := by
  rw [handler, toOption_bind]
  congr
  funext h
  cases nothing v <;> rfl

theorem handler_same (h : v.Same w) : (handler v).toOption = (handler w).toOption := by
  obtain ⟨halike, hv, hw⟩ := h
  cases halike with
  | table hkeys hvalues =>
    have hlength := length_eq_of_keys hkeys hv.nodup hw.nodup
    rename_i es es'
    match es, es' with
    | [], [] => rfl
    | [(n, v)], [(m, w)] =>
      have hn : [(n, v)].lookup n = some v := List.lookup_cons_self
      have hm : n = m := Decidable.byContradiction fun hne => by
        cases hn.symm.trans ((hkeys n).2 (lookup_cons_of_ne hne))
      subst hm
      have hn' : [(n, w)].lookup n = some w := List.lookup_cons_self
      have hsame : v.Same w := ⟨hvalues n v w hn hn', hv.of_lookup hn, hw.of_lookup hn'⟩
      rw [handler_table, handler_table, nothing_same hsame]
    | _ :: _ :: _, _ :: _ :: _ => rfl
  | _ => rfl

theorem respects_server : ∀ f ∈ serverFields, f.Respects := by
  simp only [serverFields, List.forall_mem_cons]
  exact ⟨respects_field fun _ _ => text_same, respects_field fun _ _ => natural_same _,
    respects_field fun _ _ => natural_same _, respects_field fun _ _ => natural_same _,
    respects_field fun _ _ => natural_same _, respects_field fun _ _ => handler_same, nofun⟩

theorem respects_pool : ∀ f ∈ poolFields, f.Respects := by
  simp only [poolFields, List.forall_mem_cons]
  exact ⟨respects_field fun _ _ => natural_same _, respects_field fun _ _ => natural_same _,
    respects_field fun _ _ => natural_same _, respects_field fun _ _ => natural_same _,
    respects_field fun _ _ => natural_same _, nofun⟩

theorem respects_proxy : ∀ f ∈ proxyFields, f.Respects := by
  simp only [proxyFields, List.forall_mem_cons]
  exact ⟨respects_field fun _ _ => text_same, nofun⟩

theorem respects_observability : ∀ f ∈ observabilityFields, f.Respects := by
  simp only [observabilityFields, List.forall_mem_cons]
  exact ⟨respects_field fun _ _ => text_same, respects_field fun _ _ => boolean_same,
    respects_field fun _ _ => text_same, nofun⟩

end Same

section Read

/-- The keys of a section that are known, with its name. -/
def knownKeys : List (String × List String) :=
  [("server", serverFields.map (·.key)), ("pool", poolFields.map (·.key)),
   ("proxy", proxyFields.map (·.key)), ("observability", observabilityFields.map (·.key))]

/-- Every section that is there is a table. -/
def SectionsAreTables (document : Toml.Table) : Prop :=
  ∀ name ∈ knownKeys.map Prod.fst, ∀ v, document.lookup name = some v → ∃ es, v = .table es

variable {document : Toml.Table} {name : String} {fields : List (Field σ)}

/-- A section that is not there is read as an empty one. -/
theorem readSection_eq (hfields : Independent fields) (initial : σ) (kind : String)
    (hkeyed : (Value.table document).Keyed)
    (htable : ∀ v, document.lookup name = some v → ∃ es, v = .table es) :
    valueOr (readSection kind fields initial) initial (document.lookup name) =
      readInOrder fields (Toml.valueAt? document name) initial := by
  have hfound (key : String) : Toml.valueAt? document name key =
      match document.lookup name with
      | some (.table es) => es.lookup key
      | _ => none := rfl
  rw [funext hfound]
  cases hlookup : document.lookup name with
  | none =>
    have hnodup : (([] : List (String × Value)).map Prod.fst).Nodup := List.nodup_nil
    exact readKeyed_eq hfields hnodup initial
  | some v =>
    obtain ⟨es, rfl⟩ := htable v hlookup
    exact readKeyed_eq hfields (hkeyed.of_lookup hlookup).nodup initial

/-- Reading a document is looking up its settings. -/
theorem read_eq (hkeyed : (Value.table document).Keyed) (htables : SectionsAreTables document) :
    (read document).toOption = settingsFound (Toml.valueAt? document) := by
  rw [read, readKeyed_eq independent_sections hkeyed.nodup]
  simp only [SectionsAreTables, knownKeys, List.map_cons, List.forall_mem_cons] at htables
  obtain ⟨hserver, hpool, hproxy, hobservability, -⟩ := htables
  rw [settingsFound,
    ← (readSection_eq independent_server {} "ServerSettings" hkeyed hserver).trans
      (readInOrder_server _),
    ← (readSection_eq independent_pool {} "PoolSettings" hkeyed hpool).trans (readInOrder_pool _),
    ← (readSection_eq independent_proxy {} "ProxySettings" hkeyed hproxy).trans
      (readInOrder_proxy _),
    ← (readSection_eq independent_observability {} "ObservabilityConfig" hkeyed
      hobservability).trans (readInOrder_observability _)]
  exact readInOrder_field Settings.server (fun _ => rfl) fun _ =>
    readInOrder_field Settings.pool (fun _ => rfl) fun _ =>
    readInOrder_field Settings.proxy (fun _ => rfl) fun _ =>
    readInOrder_field Settings.observability (fun _ => rfl) fun _ => rfl

/-- What is found under known keys, written in whichever way, is all that matters. -/
theorem settingsFound_same {found found' : String → String → Option Value}
    (h : ∀ name keys, (name, keys) ∈ knownKeys → ∀ key ∈ keys,
      Option.Rel Value.Same (found name key) (found' name key)) :
    settingsFound found = settingsFound found' := by
  have hsection {σ : Type} {name : String} {fields : List (Field σ)}
      (hmem : (name, fields.map (·.key)) ∈ knownKeys) (hrespects : ∀ f ∈ fields, f.Respects) (s : σ) :
      readInOrder fields (found name) s = readInOrder fields (found' name) s :=
    readInOrder_same hrespects (fun f hf => h name _ hmem f.key (List.mem_map_of_mem hf)) s
  simp only [settingsFound, ← readInOrder_server, ← readInOrder_pool, ← readInOrder_proxy,
    ← readInOrder_observability]
  rw [hsection (by simp [knownKeys]) respects_server, hsection (by simp [knownKeys]) respects_pool,
    hsection (by simp [knownKeys]) respects_proxy,
    hsection (by simp [knownKeys]) respects_observability]

end Read

section Defaults

variable {found : String → Option Value}

/-- What is not found has its default. -/
structure DefaultServer (found : String → Option Value) (s : ServerSettings) : Prop where
  bindAddress : found "bind_address" = none → s.bindAddress = "127.0.0.1:8000"
  readTimeoutMs : found "read_timeout_ms" = none → s.readTimeoutMs = 0
  writeTimeoutMs : found "write_timeout_ms" = none → s.writeTimeoutMs = 0
  keepAliveTimeoutMs : found "keep_alive_timeout_ms" = none → s.keepAliveTimeoutMs = 0
  shutdownGraceMs : found "shutdown_grace_ms" = none → s.shutdownGraceMs = 5000
  handler : found "handler" = none → s.handler = .echo

structure DefaultPool (found : String → Option Value) (s : PoolSettings) : Prop where
  initConnNum : found "init_conn_num" = none → s.initConnNum = 10
  maxConnNum : found "max_conn_num" = none → s.maxConnNum = 10
  maxIdleNum : found "max_idle_num" = none → s.maxIdleNum = 0
  idleTimeoutMs : found "idle_timeout_ms" = none → s.idleTimeoutMs = 0
  connectTimeoutMs : found "connect_timeout_ms" = none → s.connectTimeoutMs = 5000

structure DefaultObservability (found : String → Option Value) (s : ObservabilitySettings) :
    Prop where
  logLevel : found "log_level" = none → s.logLevel = "info"
  metricsEnabled : found "metrics_enabled" = none → s.metricsEnabled = false
  metricsAddress : found "metrics_address" = none → s.metricsAddress = "127.0.0.1:9090"

/-- Every field that is not found has its default, whichever others are. -/
structure Defaults (found : String → String → Option Value) (s : Settings) : Prop where
  server : DefaultServer (found "server") s.server
  pool : DefaultPool (found "pool") s.pool
  proxy : found "proxy" "upstream" = none → s.proxy.backend = none
  observability : DefaultObservability (found "observability") s.observability

theorem eq_of_valueOr {f : Value → Except ReadError α} {default x : α} {o : Option Value}
    (h : valueOr f default o = some x) (hnone : o = none) : x = default := by
  subst hnone
  exact (Option.some.inj h).symm

theorem defaults_server {s : ServerSettings} (h : serverFound found = some s) :
    DefaultServer found s := by
  simp only [serverFound, Option.bind_eq_bind, Option.pure_def, Option.bind_eq_some_iff,
    Option.some.injEq] at h
  obtain ⟨a, ha, b, hb, c, hc, d, hd, e, he, f, hf, rfl⟩ := h
  exact ⟨eq_of_valueOr ha, eq_of_valueOr hb, eq_of_valueOr hc, eq_of_valueOr hd, eq_of_valueOr he,
    eq_of_valueOr hf⟩

theorem defaults_pool {s : PoolSettings} (h : poolFound found = some s) : DefaultPool found s := by
  simp only [poolFound, Option.bind_eq_bind, Option.pure_def, Option.bind_eq_some_iff,
    Option.some.injEq] at h
  obtain ⟨a, ha, b, hb, c, hc, d, hd, e, he, rfl⟩ := h
  exact ⟨eq_of_valueOr ha, eq_of_valueOr hb, eq_of_valueOr hc, eq_of_valueOr hd, eq_of_valueOr he⟩

theorem default_backend {s : ProxySettings} (h : proxyFound found = some s)
    (hnone : found "upstream" = none) : s.backend = none := by
  simp only [proxyFound, Option.bind_eq_bind, Option.pure_def, Option.bind_eq_some_iff,
    Option.some.injEq] at h
  obtain ⟨a, ha, rfl⟩ := h
  exact eq_of_valueOr ha hnone

theorem defaults_observability {s : ObservabilitySettings} (h : observabilityFound found = some s) :
    DefaultObservability found s := by
  simp only [observabilityFound, Option.bind_eq_bind, Option.pure_def, Option.bind_eq_some_iff,
    Option.some.injEq] at h
  obtain ⟨a, ha, b, hb, c, hc, rfl⟩ := h
  exact ⟨eq_of_valueOr ha, eq_of_valueOr hb, eq_of_valueOr hc⟩

theorem defaults_of_settingsFound {found : String → String → Option Value} {s : Settings}
    (h : settingsFound found = some s) : Defaults found s := by
  simp only [settingsFound, Option.bind_eq_bind, Option.pure_def, Option.bind_eq_some_iff,
    Option.some.injEq] at h
  obtain ⟨server, hserver, pool, hpool, proxy, hproxy, observability, hobservability, rfl⟩ := h
  exact ⟨defaults_server hserver, defaults_pool hpool, default_backend hproxy,
    defaults_observability hobservability⟩

end Defaults

section Parse

variable {a b : String} {da db : Toml.Table} {s : Settings}

/-- A text is accepted as the settings if they are what its document holds, and keep the rules. -/
theorem parse_eq_ok_iff_read (ha : Toml.document? a = some da) :
    parse a = .ok s ↔ (read da).toOption = some s ∧ s.validate = .ok s := by
  rw [parse, ha]
  dsimp only
  cases read da with
  | error e => simp [Except.toOption]
  | ok t =>
    rw [Settings.mapError_validate_eq_ok_iff, Except.toOption, Option.some.injEq,
      Settings.validate_eq_ok_iff, Settings.validate_eq_ok_iff]
    constructor
    · rintro ⟨rfl, hnone⟩
      exact ⟨rfl, rfl, hnone⟩
    · rintro ⟨rfl, -, hnone⟩
      exact ⟨rfl, hnone⟩

/-- The settings in a document are what is found there, if that keeps the rules. -/
theorem parse_eq_ok_iff (ha : Toml.document? a = some da) (htables : SectionsAreTables da) :
    parse a = .ok s ↔ settingsFound (Toml.valueAt? da) = some s ∧ s.validate = .ok s := by
  rw [parse_eq_ok_iff_read ha, read_eq (Toml.keyed_of_document? ha) htables]

/-- Two documents with the same values under the known keys, in whichever order and notation and with
whatever else, are both accepted with the same settings or both not; and a field that is not there has its
default. That both are documents (`Toml.document?`) leaves out those that are nested deeper than `Toml.depthLimit`,
which the reader refuses. -/
theorem parse_depends_on_known_keys (ha : Toml.document? a = some da)
    (hb : Toml.document? b = some db) (hta : SectionsAreTables da) (htb : SectionsAreTables db)
    (hsame : ∀ name keys, (name, keys) ∈ knownKeys → ∀ key ∈ keys,
      Option.Rel Value.Alike (Toml.valueAt? da name key) (Toml.valueAt? db name key)) :
    (∀ s, parse a = .ok s ↔ parse b = .ok s) ∧
      ∀ s, parse a = .ok s → Defaults (Toml.valueAt? da) s := by
  have hka := Toml.keyed_of_document? ha
  have hkb := Toml.keyed_of_document? hb
  have hfound : settingsFound (Toml.valueAt? da) = settingsFound (Toml.valueAt? db) := by
    refine settingsFound_same fun name keys hname key hkey => ?_
    have hrel := hsame name keys hname key hkey
    have hva : ∀ v, Toml.valueAt? da name key = some v → v.Keyed := fun _ =>
      Toml.keyed_of_valueAt? hka
    have hvb : ∀ v, Toml.valueAt? db name key = some v → v.Keyed := fun _ =>
      Toml.keyed_of_valueAt? hkb
    generalize Toml.valueAt? da name key = o, Toml.valueAt? db name key = o' at hrel hva hvb
    cases hrel with
    | none => exact .none
    | some halike => exact .some ⟨halike, hva _ rfl, hvb _ rfl⟩
  refine ⟨fun s => ?_, fun s hs => ?_⟩
  · rw [parse_eq_ok_iff ha hta, parse_eq_ok_iff hb htb, hfound]
  · exact defaults_of_settingsFound ((parse_eq_ok_iff ha hta).1 hs).1

/-- The same settings twice: under headers, and in another order with dots, braces and an unknown key. -/
theorem parse_mixed_eq_plain : ∃ s,
    parse "[server]\nhandler = \"pong\"\n[pool]\nmax_conn_num = 20\n" = .ok s ∧
    parse "pool.max_conn_num = 20\nserver = \x7b extra = 1, handler = 'pong' \x7d\n" = .ok s ∧
    s.pool.maxConnNum = 20 ∧ s.pool.initConnNum = 10 := by
  have ha : Toml.document? "[server]\nhandler = \"pong\"\n[pool]\nmax_conn_num = 20\n" =
      some [("server", .table [("handler", .string "pong")]),
        ("pool", .table [("max_conn_num", .integer 20)])] :=
    (Toml.document?_ofList _).trans rfl
  have hb : Toml.document?
      "pool.max_conn_num = 20\nserver = \x7b extra = 1, handler = 'pong' \x7d\n" =
      some [("pool", .table [("max_conn_num", .integer 20)]),
        ("server", .table [("extra", .integer 1), ("handler", .string "pong")])] :=
    (Toml.document?_ofList _).trans rfl
  have hta : SectionsAreTables [("server", .table [("handler", .string "pong")]),
      ("pool", .table [("max_conn_num", .integer 20)])] := by
    simp [SectionsAreTables, knownKeys, List.lookup_cons]
  have htb : SectionsAreTables [("pool", .table [("max_conn_num", .integer 20)]),
      ("server", .table [("extra", .integer 1), ("handler", .string "pong")])] := by
    simp [SectionsAreTables, knownKeys, List.lookup_cons]
  have hparse : parse "[server]\nhandler = \"pong\"\n[pool]\nmax_conn_num = 20\n" =
      .ok { server := { handler := .pong }, pool := { maxConnNum := 20 } } :=
    (parse_eq_ok_iff ha hta).2
      ⟨by decide +kernel, Settings.validate_eq_ok_iff.2 ⟨rfl, by decide +kernel⟩⟩
  have hboth := parse_depends_on_known_keys ha hb hta htb fun name keys hname key hkey => by
    simp only [knownKeys, List.mem_cons, Prod.mk.injEq, List.not_mem_nil, or_false] at hname
    obtain ⟨rfl, rfl⟩ | ⟨rfl, rfl⟩ | ⟨rfl, rfl⟩ | ⟨rfl, rfl⟩ := hname <;>
      simp only [serverFields, poolFields, proxyFields, observabilityFields, field, List.map_cons,
        List.map_nil, List.mem_cons, List.not_mem_nil, or_false] at hkey
    · obtain rfl | rfl | rfl | rfl | rfl | rfl := hkey <;>
        first | exact .none | exact .some (.string _)
    · obtain rfl | rfl | rfl | rfl | rfl := hkey <;>
        first | exact .none | exact .some (.integer _)
    · subst hkey
      exact .none
    · obtain rfl | rfl | rfl := hkey <;> exact .none
  exact ⟨_, hparse, (hboth.1 _).1 hparse, rfl, (hboth.2 _ hparse).pool.initConnNum rfl⟩

end Parse

end Config
end PooledTcp
