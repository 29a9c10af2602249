import PooledTcp.Config.Writing
import PooledTcp.Proofs.Config.Lookup
import PooledTcp.Proofs.Toml.Plain

/-!
# Settings that are written read back

Settings are written as a plain document (`toList_write`): every text with the escapes that it needs, every
number in decimal digits, every key under its section. So reading finds under each key what was written there,
and valid settings come back as they were (`parse_write`). Only numbers that no document can hold are out
of reach.
-/

namespace PooledTcp

/-- Every number in the settings. -/
def Settings.numbers (s : Settings) : List UInt64 :=
  [s.server.readTimeoutMs, s.server.writeTimeoutMs, s.server.keepAliveTimeoutMs,
   s.server.shutdownGraceMs, s.pool.initConnNum, s.pool.maxConnNum, s.pool.maxIdleNum,
   s.pool.idleTimeoutMs, s.pool.connectTimeoutMs]

namespace Config

open Toml (Value Entry Chapter IsBareKey)

/-- A document has room for the number: it is less than 2 to the power of 63. -/
def Fits (n : UInt64) : Prop := (n.toNat : Int) < Toml.integerBound

section Entries

def textEntry (key value : String) (h : IsBareKey key) : Entry where
  key
  text := String.ofList ('"' :: (Toml.escapedText value.toList ++ ['"']))
  value := .string value
  bare := h
  reads := by
    rw [String.toList_ofList]
    exact Toml.reads_string value

def numberEntry (key : String) (n : UInt64) (h : IsBareKey key) (hn : Fits n) : Entry where
  key
  text := toString n.toNat
  value := .integer n.toNat
  bare := h
  reads := Toml.reads_integer hn

def booleanEntry (key : String) (b : Bool) (h : IsBareKey key) : Entry where
  key
  text := if b then "true" else "false"
  value := .boolean b
  bare := h
  reads := Toml.reads_boolean b

variable {s : Settings}

def serverChapter (h : ∀ n ∈ s.numbers, Fits n) : Chapter where
  name := "server"
  entries :=
    [textEntry "bind_address" s.server.bindAddress (by decide),
     numberEntry "read_timeout_ms" s.server.readTimeoutMs (by decide) (h _ (by simp [Settings.numbers])),
     numberEntry "write_timeout_ms" s.server.writeTimeoutMs (by decide) (h _ (by simp [Settings.numbers])),
     numberEntry "keep_alive_timeout_ms" s.server.keepAliveTimeoutMs (by decide)
       (h _ (by simp [Settings.numbers])),
     numberEntry "shutdown_grace_ms" s.server.shutdownGraceMs (by decide)
       (h _ (by simp [Settings.numbers])),
     textEntry "handler" s.server.handler.name (by decide)]
  bare := by decide
  keys := by simp [textEntry, numberEntry]

def poolChapter (h : ∀ n ∈ s.numbers, Fits n) : Chapter where
  name := "pool"
  entries :=
    [numberEntry "init_conn_num" s.pool.initConnNum (by decide) (h _ (by simp [Settings.numbers])),
     numberEntry "max_conn_num" s.pool.maxConnNum (by decide) (h _ (by simp [Settings.numbers])),
     numberEntry "max_idle_num" s.pool.maxIdleNum (by decide) (h _ (by simp [Settings.numbers])),
     numberEntry "idle_timeout_ms" s.pool.idleTimeoutMs (by decide) (h _ (by simp [Settings.numbers])),
     numberEntry "connect_timeout_ms" s.pool.connectTimeoutMs (by decide)
       (h _ (by simp [Settings.numbers]))]
  bare := by decide
  keys := by simp [numberEntry]

def proxyChapter (s : ProxySettings) : Chapter where
  name := "proxy"
  entries := s.backend.toList.map fun backend => textEntry "upstream" backend (by decide)
  bare := by decide
  keys := by cases s.backend <;> simp [textEntry]

def observabilityChapter (s : ObservabilitySettings) : Chapter where
  name := "observability"
  entries :=
    [textEntry "log_level" s.logLevel (by decide),
     booleanEntry "metrics_enabled" s.metricsEnabled (by decide),
     textEntry "metrics_address" s.metricsAddress (by decide)]
  bare := by decide
  keys := by simp [textEntry, booleanEntry]

/-- The settings as a plain document. -/
def chapters (h : ∀ n ∈ s.numbers, Fits n) : List Chapter :=
  [serverChapter h, poolChapter h, proxyChapter s.proxy, observabilityChapter s.observability]

/-- The table that the document holds. -/
def writtenTable (h : ∀ n ∈ s.numbers, Fits n) : Toml.Table :=
  (chapters h).map fun c => (c.name, .table c.table)

end Entries

section Text

variable {key value : String} {n : UInt64} {b : Bool} {h : IsBareKey key} {s : Settings}

theorem toList_line (key value : String) :
    (line key value).toList = key.toList ++ ' ' :: '=' :: ' ' :: (value.toList ++ ['\n']) := by
  simp [line]

theorem chars_textEntry : (textEntry key value h).chars = (textLine key value).toList :=
  (toList_line _ _).symm

theorem chars_numberEntry {hn : Fits n} :
    (numberEntry key n h hn).chars = (numberLine key n).toList :=
  (toList_line _ _).symm

theorem chars_booleanEntry :
    (booleanEntry key b h).chars = (line key (if b then "true" else "false")).toList :=
  (toList_line _ _).symm

theorem toList_header (c : Chapter) : (header c.name).toList = c.header := by
  simp [header, Chapter.header]

theorem toList_writeServer (hs : ∀ n ∈ s.numbers, Fits n) :
    (writeServer s.server).toList = (serverChapter hs).chars := by
  rw [writeServer, String.toList_join, List.flatMap_cons, Chapter.chars, ← toList_header]
  simp only [serverChapter, List.flatMap_cons, List.flatMap_nil, chars_textEntry, chars_numberEntry]

theorem toList_writePool (hs : ∀ n ∈ s.numbers, Fits n) :
    (writePool s.pool).toList = (poolChapter hs).chars := by
  rw [writePool, String.toList_join, List.flatMap_cons, Chapter.chars, ← toList_header]
  simp only [poolChapter, List.flatMap_cons, List.flatMap_nil, chars_numberEntry]

theorem toList_writeProxy (s : ProxySettings) : (writeProxy s).toList = (proxyChapter s).chars := by
  rw [writeProxy, String.toList_append, Chapter.chars, ← toList_header]
  cases hbackend : s.backend with
  | none => simp [proxyChapter, hbackend]
  | some backend => simp [proxyChapter, hbackend, chars_textEntry]

theorem toList_writeObservability (s : ObservabilitySettings) :
    (writeObservability s).toList = (observabilityChapter s).chars := by
  rw [writeObservability, String.toList_join, List.flatMap_cons, Chapter.chars, ← toList_header]
  simp only [observabilityChapter, List.flatMap_cons, List.flatMap_nil, chars_textEntry,
    chars_booleanEntry]

/-- What is written is the text of the plain document. -/
theorem toList_write (hs : ∀ n ∈ s.numbers, Fits n) :
    (write s).toList = Toml.plainText (chapters hs) := by
  simp only [write, String.toList_append, toList_writeServer hs, toList_writePool hs,
    toList_writeProxy, toList_writeObservability, Toml.plainText, chapters, List.flatMap_cons,
    List.flatMap_nil, List.append_assoc, List.append_nil]

end Text

section RoundTrip

variable {s : Settings}

theorem document?_write (hs : ∀ n ∈ s.numbers, Fits n) :
    Toml.document? (write s) = some (writtenTable hs) := by
  rw [← String.ofList_toList (s := write s), toList_write hs]
  exact Toml.document?_plain (by simp [chapters, serverChapter, poolChapter, proxyChapter,
    observabilityChapter])

/-- A number without sign comes back as it was, whatever it counts. -/
theorem natural_toNat (kind : String) (n : UInt64) : natural kind (.integer n.toNat) = .ok n := by
  rw [natural, if_pos (Int.natCast_nonneg _), Int.toNat_natCast, UInt64.ofNat_toNat]

theorem handlerNamed_name (k : HandlerKind) : handlerNamed k.name = .ok k := by
  cases k <;> rfl

theorem serverFound_chapter (hs : ∀ n ∈ s.numbers, Fits n) :
    serverFound ((serverChapter hs).table.lookup ·) = some s.server := by
  simp [serverFound, serverChapter, Chapter.table, textEntry, numberEntry, List.lookup_cons, valueOr, text,
    milliseconds, natural_toNat, handler, handlerNamed_name, Except.toOption]

theorem poolFound_chapter (hs : ∀ n ∈ s.numbers, Fits n) :
    poolFound ((poolChapter hs).table.lookup ·) = some s.pool := by
  simp [poolFound, poolChapter, Chapter.table, numberEntry, List.lookup_cons, valueOr, milliseconds,
    connections, natural_toNat, Except.toOption]

theorem proxyFound_chapter (s : ProxySettings) :
    proxyFound ((proxyChapter s).table.lookup ·) = some s := by
  obtain ⟨backend⟩ := s
  cases backend <;> rfl

theorem observabilityFound_chapter (s : ObservabilitySettings) :
    observabilityFound ((observabilityChapter s).table.lookup ·) = some s := rfl

/-- Under each key is what was written there. -/
theorem settingsFound_written (hs : ∀ n ∈ s.numbers, Fits n) :
    settingsFound (Toml.valueAt? (writtenTable hs)) = some s := by
  have hserver : serverFound (Toml.valueAt? (writtenTable hs) "server") = some s.server :=
    serverFound_chapter hs
  have hpool : poolFound (Toml.valueAt? (writtenTable hs) "pool") = some s.pool :=
    poolFound_chapter hs
  have hproxy : proxyFound (Toml.valueAt? (writtenTable hs) "proxy") = some s.proxy :=
    proxyFound_chapter s.proxy
  have hobservability :
      observabilityFound (Toml.valueAt? (writtenTable hs) "observability") = some s.observability :=
    observabilityFound_chapter s.observability
  rw [settingsFound, hserver, hpool, hproxy, hobservability]
  rfl

/-- Valid settings that are written read back, whatever their texts, if a document has room for their
numbers. -/
theorem parse_write (hvalid : s.validate = .ok s) (hs : ∀ n ∈ s.numbers, Fits n) :
    parse (write s) = .ok s := by
  refine (parse_eq_ok_iff (document?_write hs) ?_).2 ⟨settingsFound_written hs, hvalid⟩
  intro name _ v hv
  obtain ⟨c, -, heq⟩ := List.mem_map.1 (mem_of_lookup hv)
  exact ⟨c.table, (Prod.mk.inj heq).2.symm⟩

/-- Texts with quotes, a backslash, a line break and a control character, and the greatest number. -/
theorem parse_write_escapes : ∃ s : Settings,
    s.server.bindAddress = "127.0.0.1:8000\n" ∧ s.server.readTimeoutMs = 9223372036854775807 ∧
    s.proxy.backend = some "backend:80" ∧ s.observability.logLevel = "\"a\\b\"\x01é" ∧
    parse (write s) = .ok s :=
  ⟨{ server := { bindAddress := "127.0.0.1:8000\n", readTimeoutMs := 9223372036854775807 }
     proxy := { backend := some "backend:80" }
     observability := { logLevel := "\"a\\b\"\x01é" } }, rfl, rfl, rfl, rfl,
    parse_write (Settings.validate_eq_ok_iff.2 ⟨rfl, by decide +kernel⟩)
      (by simp [Settings.numbers, Fits, Toml.integerBound])⟩

end RoundTrip

end Config
end PooledTcp
