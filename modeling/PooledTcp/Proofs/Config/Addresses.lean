import PooledTcp.Cli.ServerProgram
import PooledTcp.Proofs.Pool.Kept
import PooledTcp.Proofs.Server.Moves

/-!
# The addresses of accepted settings

An address is judged without the white space at its ends, and it is used as it is stored: a server keeps the
address that it was built with, and a pool the one that it was opened for (`binds_iff`, `dials_iff`). So
accepted settings may hold an address that cannot be used. They do not exactly if no host and no port has white
space at an end (`addresses_usable_iff`).
-/

namespace PooledTcp

namespace Address

/-- The text is a host, a colon and a port as it stands, with no white space at the ends of the host. -/
def Proper (s : String) : Prop :=
  ∃ host port, s.toList = host ++ ':' :: port ∧ host ≠ [] ∧ Text.trimChars host = host ∧
    (port? port).isSome

/-- Neither the host nor the port has white space at an end. -/
def Snug (s : String) : Prop :=
  ∀ host port, splitLastColon s.toList = some (host, port) →
    Text.trimChars host = host ∧ Text.trimChars port = port

variable {s : String} {port : List Char}

theorem isBlank_of_isDigit {c : Char} (h : c = '+' ∨ c.isDigit = true) : Text.isBlank c = false := by
  rcases h with rfl | h
  · decide
  · have hrange : 48 ≤ c.toNat ∧ c.toNat ≤ 57 := by
      simpa [Char.isDigit, UInt32.le_iff_toNat_le] using h
    simp [Text.isBlank]
    omega

theorem colon_notMem_port (h : (port? port).isSome) : ':' ∉ port := by
  intro hmem
  rcases eq_plus_or_isDigit_of_port? h _ hmem with heq | heq <;> simp at heq

theorem trimChars_port (h : (port? port).isSome) : Text.trimChars port = port :=
  Text.trimChars_of_not_blank fun c hc => isBlank_of_isDigit (eq_plus_or_isDigit_of_port? h c hc)

theorem Proper.snug (h : Proper s) : Snug s := by
  obtain ⟨host, port, hs, -, htrim, hport⟩ := h
  intro host' port' hsplit
  have hsplit' := splitLastColon_eq_some_iff.2 ⟨hs, colon_notMem_port hport⟩
  cases hsplit.symm.trans hsplit'
  exact ⟨htrim, trimChars_port hport⟩

/-- An address that is found good between blanks is good as it stands, if there are none. -/
theorem Snug.proper (h : Snug s) (hgood : isHostPort (Text.trim s).toList = true) : Proper s := by
  obtain ⟨lead, tail, hs, -, hblank⟩ := Text.trimChars_between s.toList
  rw [Text.trim, String.toList_ofList, isHostPort] at hgood
  split at hgood
  · rename_i host port hsplit
    simp only [Bool.and_eq_true, Bool.not_eq_true', List.isEmpty_eq_false_iff] at hgood
    obtain ⟨hhost, hport⟩ := hgood
    obtain ⟨htrimmed, -⟩ := splitLastColon_eq_some_iff.1 hsplit
    have hsplits : s.toList = (lead ++ host) ++ ':' :: (port ++ tail) := by
      rw [hs, htrimmed]
      simp
    have hnot : ':' ∉ port ++ tail := by
      intro hmem
      rcases List.mem_append.1 hmem with hmem | hmem
      · exact colon_notMem_port hport hmem
      · exact absurd (hblank _ hmem) (by decide)
    obtain ⟨hleft, hright⟩ := h _ _ (splitLastColon_eq_some_iff.2 ⟨hsplits, hnot⟩)
    -- a blank behind the port would be at an end of what stands behind the colon
    have htail : tail = [] := by
      rcases List.eq_nil_or_concat tail with hnil | ⟨init, c, rfl⟩
      · exact hnil
      · refine absurd (hright.trans ?_) (Text.trimChars_ne_concat (hblank c (by simp)) (port ++ init))
        simp
    rw [htail, List.append_nil] at hsplits
    exact ⟨lead ++ host, port, hsplits, by simp [hhost], hleft, hport⟩
  · cases hgood

end Address

namespace Settings

/-- Settings that were found to keep the rules, however they came about: as they stand, as a text or a file
holds them, or as the program runs with them. -/
inductive Accepted : Settings → Prop where
  | checked {s u : Settings} : s.validate = .ok u → Accepted u
  | parsed {text : String} {u : Settings} : Config.parse text = .ok u → Accepted u
  | loaded {file : Option Bytes} {u : Settings} : Config.load file = .ok u → Accepted u
  | run {files : String → Option Bytes} {given : Cli.Given} {u : Settings} :
    Cli.ServerProgram.settings files given = .ok u → Accepted u

/-- A server that is built from the settings listens on the address, whatever has happened to it. -/
inductive Binds (s : Settings) : String → Prop where
  | intro {η : Type} {handler handler' : η} {server t : Server} {es : List Server.Event} :
    ((ServerBuilder.ofSettings s.server).withHandler handler).build = .ok (server, handler') →
    Run Server.step server es t → Binds s t.addr

/-- A backend is there, and not blank. -/
def Backend (s : Settings) (backend : String) : Prop :=
  s.proxy.backend = some backend ∧ Text.trim backend ≠ ""

/-- A pool that is opened as the settings say is opened for the address, or dials it, whatever has happened. -/
inductive Dials (s : Settings) : String → Prop where
  | opened {backend : String} : s.Backend backend → Dials s backend
  | opening {backend : String} {entryBytes now : Nat} {o o' : Pool.Opening}
      {es : List Pool.Opening.Event} : s.Backend backend →
    Pool.Opening.start backend s.pool.toRequest true entryBytes now = .ok o →
    Run Pool.Opening.step o es o' → Dials s o'.addr
  | pool {backend : String} {entryBytes now : Nat} {o o' : Pool.Opening}
      {es : List Pool.Opening.Event} {p q : Pool} {fs : List Pool.Event} : s.Backend backend →
    Pool.Opening.start backend s.pool.toRequest true entryBytes now = .ok o →
    Run Pool.Opening.step o es o' → o'.pool? = some p → Run Pool.step p fs q → Dials s q.addr

end Settings

/-- An event leaves the address of a server as it is. -/
theorem Server.addr_step {s t : Server} {e : Server.Event} (h : s.step e = some t) :
    t.addr = s.addr := by
  cases Move.of_step h <;> rfl

namespace Pool

theorem Kept.addr (addr : String) : Kept (fun p => p.addr = addr) where
  note _ h := h
  listen _ h := h
  finish _ _ h := h
  notifyAll h := h
  giveBack h := h
  pass _ h := h
  hold _ h _ := h
  park _ _ h _ _ := h
  dial _ _ h _ _ := h
  take _ _ h _ _ := h
  store _ h _ _ _ := h
  restore h _ _ _ := h
  close h := h

namespace Opening

variable {o o' : Opening}

theorem addr_goOn (o : Opening) (left : Nat) : (o.goOn left).addr = o.addr := by
  cases left <;> rfl

theorem addr_closeNext (o : Opening) (cause : IoError) (rest : List IdleEntry) :
    (o.closeNext cause rest).addr = o.addr := by
  cases rest <;> rfl

theorem addr_start {addr : String} {r : PoolRequest} {hasFactory : Bool} {entryBytes now : Nat}
    (h : start addr r hasFactory entryBytes now = .ok o) : o.addr = addr := by
  simp only [start] at h
  split at h
  · cases h
  · split at h
    · cases h
    · split at h
      · cases h
      · cases h
        exact addr_goOn _ _

theorem addr_step {e : Event} (h : o.step e = some o') : o'.addr = o.addr := by
  cases e with
  | dialed result =>
    simp only [step, dialed] at h
    split at h
    · cases result with
      | ok conn =>
        cases h
        exact addr_goOn _ _
      | error cause =>
        cases h
        exact addr_closeNext _ _ _
    · cases h
  | closed =>
    simp only [step, closed] at h
    split at h
    · cases h
      exact addr_closeNext _ _ _
    · cases h
  | pass nanos =>
    cases h
    rfl

theorem addr_run {es : List Event} (h : Run step o es o') : o'.addr = o.addr :=
  h.keeps (P := fun x => x.addr = o.addr) (fun _ _ _ hx hstep => (addr_step hstep).trans hx) rfl

theorem addr_pool? {p : Pool} (h : o.pool? = some p) : p.addr = o.addr := by
  simp only [pool?] at h
  split at h
  · cases h
    rfl
  · cases h

end Opening
end Pool

namespace Settings

variable {s u : Settings} {a : String}

/-- Checking hands the settings back as they are. -/
theorem violations_of_mapError {ε : Type} {f : List Violation → ε}
    (h : s.validate.mapError f = .ok u) : u.violations = [] := by
  obtain ⟨rfl, hnone⟩ := validate_eq_ok_iff.1 (mapError_validate_eq_ok_iff.1 h)
  exact hnone

theorem violations_of_parse {text : String} (h : Config.parse text = .ok u) : u.violations = [] := by
  simp only [Config.parse] at h
  split at h
  · cases h
  · split at h
    · cases h
    · exact violations_of_mapError h

theorem Accepted.violations (h : s.Accepted) : s.violations = [] := by
  cases h with
  | checked h =>
    obtain ⟨rfl, hnone⟩ := validate_eq_ok_iff.1 h
    exact hnone
  | parsed h => exact violations_of_parse h
  | loaded h =>
    simp only [Config.load] at h
    split at h
    · cases h
    · split at h
      · cases h
      · exact violations_of_parse h
  | @run files given _ h =>
    -- the settings of a run are checked last, whatever they were read from
    suffices hread : ∀ read : Except ConfigError Settings,
        (read.bind fun t => (Cli.ServerProgram.override given t).validate.mapError .invalid) = .ok s →
          s.violations = [] by
      unfold Cli.ServerProgram.settings at h
      split at h
      · exact hread _ h
      · exact hread _ h
    rintro (e | t) hread
    · cases hread
    · simp only [Except.bind] at hread
      exact violations_of_mapError hread

theorem isHostPort_of_addressViolation {field text : String}
    (h : addressViolation field text = []) :
    Address.isHostPort (Text.trim text).toList = true := by
  unfold addressViolation at h
  split at h
  · assumption
  · cases h

/-- The bind address of accepted settings is good between blanks. -/
theorem Accepted.bindAddress (h : s.Accepted) :
    Address.isHostPort (Text.trim s.server.bindAddress).toList = true := by
  have hnone : s.server.bindViolations = [] := by
    have := h.violations
    simp only [Settings.violations, List.append_eq_nil_iff] at this
    exact this.1.1.1.1
  unfold ServerSettings.bindViolations at hnone
  split at hnone
  · cases hnone
  · exact isHostPort_of_addressViolation hnone

/-- The backend of accepted settings is good between blanks. -/
theorem Accepted.backend (h : s.Accepted) (ha : s.Backend a) :
    Address.isHostPort (Text.trim a).toList = true := by
  have hnone : s.backendViolations = [] := by
    have := h.violations
    simp only [Settings.violations, List.append_eq_nil_iff] at this
    exact this.1.2
  obtain ⟨hbackend, hne⟩ := ha
  simp only [Settings.backendViolations, hbackend, Option.getD_some, if_neg hne] at hnone
  exact isHostPort_of_addressViolation hnone

/-- A server listens on the address as it is stored. -/
theorem binds_iff : s.Binds a ↔ a = s.server.bindAddress := by
  constructor
  · rintro ⟨hbuild, hrun⟩
    cases hbuild
    exact hrun.keeps (P := fun x : Server => x.addr = s.server.bindAddress)
      (fun _ _ _ hx hstep => (Server.addr_step hstep).trans hx) rfl
  · rintro rfl
    exact @Binds.intro s Unit () () _ _ [] rfl (.nil _)

/-- A pool is opened for the address as it is stored, and dials it so. -/
theorem dials_iff : s.Dials a ↔ s.Backend a := by
  constructor
  · intro h
    cases h with
    | opened h => exact h
    | opening h hstart hrun =>
      rwa [Pool.Opening.addr_run hrun, Pool.Opening.addr_start hstart]
    | @pool _ _ _ _ o' _ p q _ h hstart hrun hpool hlater =>
      have hkept : q.addr = p.addr := hlater.keeps (P := fun x : Pool => x.addr = p.addr)
        (fun _ _ _ hx hstep => (Pool.Kept.addr p.addr).step hx hstep) rfl
      rwa [hkept, Pool.Opening.addr_pool? hpool, Pool.Opening.addr_run hrun,
        Pool.Opening.addr_start hstart]
  · exact .opened

/-- What accepted settings hold can be used as it is stored exactly if no host and no port has white space at
an end. -/
theorem addresses_usable_iff (h : s.Accepted) :
    (∀ a, s.Binds a ∨ s.Dials a → Address.Proper a) ↔
      Address.Snug s.server.bindAddress ∧ ∀ backend, s.Backend backend → Address.Snug backend := by
  simp only [binds_iff, dials_iff]
  constructor
  · intro hproper
    exact ⟨(hproper _ (.inl rfl)).snug, fun backend hb => (hproper _ (.inr hb)).snug⟩
  · rintro ⟨hbind, hbackend⟩ a (rfl | ha)
    · exact hbind.proper h.bindAddress
    · exact (hbackend a ha).proper (h.backend ha)

/-- An address that is split as it is written, without blanks, is snug. -/
theorem snug_of_split {a : String} (host port : List Char)
    (hsplit : Address.splitLastColon a.toList = some (host, port))
    (hhost : Text.trimChars host = host) (hport : Text.trimChars port = port) : Address.Snug a := by
  intro host' port' hsplit'
  cases hsplit.symm.trans hsplit'
  exact ⟨hhost, hport⟩

/-- A proxy for one backend. -/
def proxyForBackend : Settings :=
  { server := { bindAddress := "0.0.0.0:8000", handler := .proxy },
    proxy := { backend := some "db.internal:9000" } }

/-- A proxy listens on and dials what its settings say, and can do both. -/
theorem addresses_usable_for_proxy :
    proxyForBackend.Accepted ∧ proxyForBackend.Binds "0.0.0.0:8000" ∧
      proxyForBackend.Dials "db.internal:9000" ∧
      ∀ a, proxyForBackend.Binds a ∨ proxyForBackend.Dials a → Address.Proper a := by
  have haccepted : proxyForBackend.Accepted :=
    .checked (validate_eq_ok_iff.2 ⟨rfl, by decide +kernel⟩)
  have hbind : Address.Snug proxyForBackend.server.bindAddress :=
    snug_of_split "0.0.0.0".toList "8000".toList (by decide +kernel) (by decide +kernel)
      (by decide +kernel)
  have hbackend : Address.Snug "db.internal:9000" :=
    snug_of_split "db.internal".toList "9000".toList (by decide +kernel) (by decide +kernel)
      (by decide +kernel)
  refine ⟨haccepted, binds_iff.2 rfl, dials_iff.2 ⟨rfl, by decide +kernel⟩,
    (addresses_usable_iff haccepted).2 ⟨hbind, ?_⟩⟩
  rintro backend ⟨hstored, -⟩
  cases hstored
  exact hbackend

/-- A server that is to listen on an address with a blank at its end. -/
def blankBehindPort : Settings := { server := { bindAddress := "127.0.0.1:0 " } }

/-- Checking finds nothing wrong with a blank behind the port, which is not looked at; the server then gets the
address with the blank, which is none, and the program ends. -/
theorem blank_behind_port_accepted :
    Cli.ServerProgram.settings (fun _ => none) [("bind", "127.0.0.1:0 ")] = .ok blankBehindPort ∧
      blankBehindPort.Accepted ∧ blankBehindPort.Binds "127.0.0.1:0 " ∧
      ¬ Address.Proper "127.0.0.1:0 " ∧
      (Cli.ServerProgram.run {} (fun _ => none) ["-b", "127.0.0.1:0 "]).outcome =
        .failed (some ("Bind \x7b addr: \"127.0.0.1:0 \", source: " ++
          "Error \x7b kind: InvalidInput, message: \"invalid port value\" \x7d \x7d")) := by
  refine ⟨rfl, .checked (validate_eq_ok_iff.2 ⟨rfl, by decide +kernel⟩), binds_iff.2 rfl, ?_,
    by decide +kernel⟩
  intro hproper
  have hsplit : Address.splitLastColon "127.0.0.1:0 ".toList =
      some ("127.0.0.1".toList, "0 ".toList) := by decide +kernel
  exact absurd (hproper.snug _ _ hsplit).2 (by decide +kernel)

end Settings
end PooledTcp
