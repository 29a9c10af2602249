import PooledTcp.Config.Validation
import PooledTcp.Proofs.Net.KeepAlive
import PooledTcp.Proofs.Server.Tracked

/-!
# Keep-alive from the settings to the sockets

A server switches keep-alive on for each connection that it accepts, and warns where that fails (`dispatch_eq_said`).
Nothing else touches the options of a connection or warns of keep-alive, so that after every run each connection has
the options that it was accepted with, and there is a warning for each accept or for none (`KeptAlive`). Which of the
two depends on the span in the settings alone, and checking settings does not look at it: a keep-alive that is
accepted takes effect exactly if it is for a span for probes (`keep_alive_effective_iff`).
-/

namespace PooledTcp

namespace Server

/-- A warning that keep-alive could not be switched on. -/
def Note.isKeepAliveFailed : Note → Bool
  | .keepAliveFailed _ _ => true
  | _ => false

/-- The log entry that warns of keep-alive. -/
def tellsKeepAliveFailed (x : LogEntry) : Bool :=
  x.level == .warn && x.message == "Failed to enable keep-alive"

/-- A connection is accepted in the event. -/
def Event.accepts : Event → Bool
  | .accept _ _ => true
  | _ => false

/-- What is said of switching keep-alive on. -/
def keepAliveSaid (peer : String) : Except IoError Unit → List Note
  | .ok () => []
  | .error cause => [.keepAliveFailed peer cause]

/-- The options of a new socket with keep-alive switched on, as far as that goes. -/
def acceptedOptions (idle : Duration) : SocketOptions := (({} : SocketOptions).setKeepAlive idle).1

/-- After the events of a server with that keep-alive. -/
structure KeptAlive (idle : Duration) (es : List Event) (s : Server) : Prop where
  timeout : s.timeouts.keepAlive = idle
  options : ∀ x ∈ s.conns, x.2.options = acceptedOptions idle
  warned : s.history.countP (·.isKeepAliveFailed) = if idle.ProbeSpan then 0 else es.countP (·.accepts)

variable {s t : Server} {e : Event} {es : List Event} {idle : Duration}

/-- A connection that is accepted gets its options, and what there is to say of them is said. -/
theorem dispatch_eq_said (hidle : s.timeouts.keepAlive.isZero = false) (address peer : String) :
    s.dispatch address peer = { s with
      active := s.active + 1
      nextConn := s.nextConn + 1
      conns := (s.nextConn, { address, peer, acceptedAt := s.now, options := acceptedOptions s.timeouts.keepAlive }) ::
        s.conns
      history := .dispatched s.nextConn peer ::
        (keepAliveSaid peer (({} : SocketOptions).setKeepAlive s.timeouts.keepAlive).2 ++
          .tracked s.nextConn (s.active + 1) :: s.history) } := by
  unfold dispatch
  dsimp only [note]
  rw [hidle]
  by_cases hspan : s.timeouts.keepAlive.ProbeSpan
  · simp [SocketOptions.setKeepAlive_of_probeSpan _ hspan, acceptedOptions, keepAliveSaid]
  · simp [SocketOptions.setKeepAlive_of_not _ hspan, acceptedOptions, keepAliveSaid]

theorem countP_keepAliveSaid (peer : String) (idle : Duration) :
    (keepAliveSaid peer (({} : SocketOptions).setKeepAlive idle).2).countP (·.isKeepAliveFailed) =
      if idle.ProbeSpan then 0 else 1 := by
  by_cases hspan : idle.ProbeSpan
  · rw [SocketOptions.setKeepAlive_of_probeSpan _ hspan, if_pos hspan]
    rfl
  · rw [SocketOptions.setKeepAlive_of_not _ hspan, if_neg hspan]
    rfl

/-- An accept warns of keep-alive if the span is not one for probes. -/
theorem countP_failed_dispatch (hidle : s.timeouts.keepAlive.isZero = false) (address peer : String) :
    (s.dispatch address peer).history.countP (·.isKeepAliveFailed) =
      s.history.countP (·.isKeepAliveFailed) + if s.timeouts.keepAlive.ProbeSpan then 0 else 1 := by
  rw [dispatch_eq_said hidle]
  change (keepAliveSaid peer (({} : SocketOptions).setKeepAlive s.timeouts.keepAlive).2 ++
    .tracked s.nextConn (s.active + 1) :: s.history).countP (·.isKeepAliveFailed) = _
  rw [List.countP_append, countP_keepAliveSaid, Nat.add_comm]
  rfl

theorem timeouts_step (h : s.step e = some t) : t.timeouts = s.timeouts := by
  cases Move.of_step h <;> rfl

/-- Only an accept warns of keep-alive. -/
theorem countP_failed_of_ne_accept (hstep : s.step e = some t) (hnot : ∀ id peer, e ≠ .accept id peer) :
    t.history.countP (·.isKeepAliveFailed) = s.history.countP (·.isKeepAliveFailed) := by
  cases Move.of_step hstep with
  | accepted _ _ _ _ _ => exact absurd rfl (hnot _ _)
  | close _ | shutdown _ => split <;> rfl
  | @finished conn c ending _ _ _ _ =>
    have hsaid : (ending.said conn c.peer).countP (·.isKeepAliveFailed) = 0 := by
      refine List.countP_eq_zero.2 fun n hn => ?_
      rcases panicked_or_forced_of_said hn with ⟨text, rfl⟩ | rfl <;> exact Bool.false_ne_true
    change (ending.said conn c.peer ++ s.history).countP (·.isKeepAliveFailed) = _
    rw [List.countP_append, hsaid, Nat.zero_add]
  | _ => rfl

/-- Only an accept sets the options of a connection. -/
theorem options_of_ne_accept {P : SocketOptions → Prop} (hstep : s.step e = some t)
    (hnot : ∀ id peer, e ≠ .accept id peer) (hall : ∀ x ∈ s.conns, P x.2.options) :
    ∀ x ∈ t.conns, P x.2.options := by
  change ∀ x ∈ t.table.conns, P x.2.options
  have hmove := tableMove_step hstep
  generalize t.table = tb at hmove
  cases hmove with
  | stays => exact hall
  | accepted _ => exact absurd rfl (hnot _ _)
  | begun hconn _ =>
    intro x hx
    rcases List.mem_cons.1 hx with rfl | hx
    · have hbefore := hall _ (mem_of_lookup hconn)
      exact hbefore
    · exact hall x (List.mem_filter.1 hx).1
  | finished _ _ _ => exact fun x hx => hall x (List.mem_filter.1 hx).1

theorem Built.keptAlive (hs : Built s) : KeptAlive s.timeouts.keepAlive [] s := by
  rw [hs.eq]
  exact ⟨rfl, List.forall_mem_nil _, by simp⟩

theorem KeptAlive.accept {id : CallId} {peer : String} (hs : KeptAlive idle es s) (hidle : idle.isZero = false)
    (hstep : s.step (.accept id peer) = some t) : KeptAlive idle (es ++ [.accept id peer]) t := by
  obtain ⟨htimeout, hoptions, hwarned⟩ := hs
  subst htimeout
  simp only [Server.step] at hstep
  split at hstep
  · rename_i address backoff _
    simp only [Option.ite_none_left_eq_some, Option.some.injEq] at hstep
    obtain ⟨-, rfl⟩ := hstep
    have hsaid := dispatch_eq_said (s := s.note .accepted) hidle address peer
    refine ⟨?_, ?_, (countP_failed_dispatch (s := s.note .accepted) hidle address peer).trans ?_⟩
    · rw [hsaid]
      rfl
    · rw [hsaid]
      intro x hx
      rcases List.mem_cons.1 hx with rfl | hx
      · rfl
      · exact hoptions x hx
    · change s.history.countP (·.isKeepAliveFailed) + (if s.timeouts.keepAlive.ProbeSpan then 0 else 1) = _
      rw [hwarned, List.countP_append, List.countP_singleton]
      split <;> rfl
  · cases hstep

theorem KeptAlive.step (hs : KeptAlive idle es s) (hidle : idle.isZero = false) (hstep : s.step e = some t) :
    KeptAlive idle (es ++ [e]) t := by
  have hother (hnot : ∀ id peer, e ≠ .accept id peer) (hquiet : e.accepts = false) :
      KeptAlive idle (es ++ [e]) t := by
    refine ⟨?_, options_of_ne_accept (P := (· = acceptedOptions idle)) hstep hnot hs.options, ?_⟩
    · rw [timeouts_step hstep]
      exact hs.timeout
    · rw [countP_failed_of_ne_accept hstep hnot, hs.warned, List.countP_append, List.countP_singleton, hquiet]
      rfl
  cases e with
  | accept id peer => exact hs.accept hidle hstep
  | _ => exact hother (fun _ _ h => by cases h) rfl

theorem Built.keptAlive_run (hs : Built s) (hidle : s.timeouts.keepAlive.isZero = false)
    (hrun : Run Server.step s es t) : KeptAlive s.timeouts.keepAlive es t :=
  hrun.induction_last hs.keptAlive fun _ _ _ _ h hstep => h.step hidle hstep

theorem countP_tellsKeepAliveFailed (s : Server) :
    s.log.countP tellsKeepAliveFailed = s.history.countP (·.isKeepAliveFailed) := by
  rw [log, List.countP_filterMap, List.countP_reverse]
  refine List.countP_congr fun n _ => ?_
  cases n with
  | shutSocket _ failure => cases failure <;> simp [Note.line?, Note.isKeepAliveFailed, tellsKeepAliveFailed]
  | _ => simp [Note.line?, Note.isKeepAliveFailed, tellsKeepAliveFailed]

/-- After the events probes are sent on each connection that there is, and nothing was warned of; or else they are
sent on none as they should, and each accept was warned of. -/
structure KeepsAlive (idle : Duration) (es : List Event) (t : Server) : Prop where
  probes : ∀ x ∈ t.conns, x.2.options.Probes idle ↔ idle.ProbeSpan
  logged : t.log.countP tellsKeepAliveFailed = if idle.ProbeSpan then 0 else es.countP (·.accepts)

theorem KeptAlive.keepsAlive (h : KeptAlive idle es t) : KeepsAlive idle es t := by
  refine ⟨fun x hx => ?_, (countP_tellsKeepAliveFailed t).trans h.warned⟩
  rw [h.options x hx]
  exact SocketOptions.probes_new_iff

end Server

namespace Settings

/-- A server that is built from the settings gets there by the events. -/
inductive Serves (s : Settings) : List Server.Event → Server → Prop where
  | intro {η : Type} {handler handler' : η} {server t : Server} {es : List Server.Event} :
    ((ServerBuilder.ofSettings s.server).withHandler handler).build = .ok (server, handler') →
    Run Server.step server es t → Serves s es t

variable {s : Settings} {es : List Server.Event} {t : Server}

theorem Serves.keepsAlive (h : s.Serves es t) (hon : s.server.keepAliveTimeout.isZero = false) :
    Server.KeepsAlive s.server.keepAliveTimeout es t := by
  cases h with
  | intro hbuild hrun =>
    have hbuilt : Server.Built _ := .intro hbuild
    cases hbuild
    exact (hbuilt.keptAlive_run hon hrun).keepsAlive

/-- The same settings with another keep-alive. -/
def withKeepAlive (s : Settings) (ms : UInt64) : Settings :=
  { s with server := { s.server with keepAliveTimeoutMs := ms } }

/-- Checking does not look at the keep-alive. -/
theorem violations_withKeepAlive (s : Settings) (ms : UInt64) : (s.withKeepAlive ms).violations = s.violations :=
  rfl

/-- When a keep-alive takes effect: on a socket, on the sockets that a factory opens, and on the connections that a
server accepts, exactly if it is for a span for probes. In the milliseconds of settings this is from a second to just
below 32768 seconds, and they are accepted with any other keep-alive as well. -/
theorem keep_alive_effective_iff (idle : Duration) (hidle : idle.isZero = false) :
    (∀ o : SocketOptions, o.TakesEffect idle ↔ idle.ProbeSpan) ∧
      (∀ f : TcpFactory, f.keepAlive = some idle → ∀ addr attempt, f.KeepsAlive idle addr attempt) ∧
      ∀ s : Settings, s.server.keepAliveTimeout = idle →
        (∀ es t, s.Serves es t → Server.KeepsAlive idle es t) ∧
        (idle.ProbeSpan ↔ 1000 ≤ s.server.keepAliveTimeoutMs ∧ s.server.keepAliveTimeoutMs < 32768000) ∧
        ∀ ms, (s.withKeepAlive ms).validate = .ok (s.withKeepAlive ms) ↔ s.validate = .ok s := by
  refine ⟨fun o => o.takesEffect_iff idle, fun f => TcpFactory.keepsAlive, ?_⟩
  rintro s rfl
  refine ⟨fun es t hserves => hserves.keepsAlive hidle, Duration.probeSpan_ofMillis_iff _, fun ms => ?_⟩
  rw [validate_eq_ok_iff, validate_eq_ok_iff, violations_withKeepAlive]
  exact and_congr_left fun _ => ⟨fun _ => rfl, fun _ => rfl⟩

/-- A second and a half is kept as one second, on the connection that a server accepts and on the one that a factory
opens. -/
theorem keep_alive_of_a_second_and_a_half : (Duration.ofMillis 1500).isZero = false ∧
    (∃ t, (({} : Settings).withKeepAlive 1500).Serves [.serve 0 (.ok "front"), .accept 0 "peer"] t ∧
      t.active = 1 ∧ (∀ x ∈ t.conns, x.2.options.Probes (.ofMillis 1500)) ∧
      t.log.countP Server.tellsKeepAliveFailed = 0) ∧
    ∃ o, ({ keepAlive := some (.ofMillis 1500) } : TcpFactory).newConnection "db:9000" .connected = .ok o ∧
      o.Probes (.ofMillis 1500) := by
  have hidle : (Duration.ofMillis 1500).isZero = false := by decide
  have hspan : (Duration.ofMillis 1500).ProbeSpan := by decide
  obtain ⟨-, hfactory, hsettings⟩ := keep_alive_effective_iff (.ofMillis 1500) hidle
  refine ⟨hidle, ?_, ?_⟩
  · have hserves := @Serves.intro (({} : Settings).withKeepAlive 1500) Unit () () _ _
      [.serve 0 (.ok "front"), .accept 0 "peer"] rfl (.of_foldlM rfl)
    have hset : (({} : Settings).withKeepAlive 1500).server.keepAliveTimeout = .ofMillis 1500 := rfl
    obtain ⟨hprobes, hlogged⟩ := (hsettings (({} : Settings).withKeepAlive 1500) hset).1 _ _ hserves
    exact ⟨_, hserves, rfl, fun x hx => (hprobes x hx).2 hspan, hlogged.trans (if_pos hspan)⟩
  · obtain ⟨hopens, hprobes, -⟩ := hfactory { keepAlive := some (.ofMillis 1500) } rfl "db:9000" .connected
    obtain ⟨o, ho⟩ := hopens.2 ⟨⟨_, rfl⟩, hspan⟩
    exact ⟨o, ho, hprobes o ho⟩

/-- Settings with a keep-alive of half a second are accepted. It is refused on a socket, a server that is built from
them warns of the first connection that it accepts, and a factory opens no socket with it. Nor does a keep-alive of
32768 seconds take effect. -/
theorem half_second_refused :
    (({} : Settings).withKeepAlive 500).validate = .ok (({} : Settings).withKeepAlive 500) ∧
      ({} : SocketOptions).setKeepAlive (.ofMillis 500) =
        ({ keepAlive := true }, .error (.system .invalidArgument)) ∧
      (∃ t, (({} : Settings).withKeepAlive 500).Serves [.serve 0 (.ok "front"), .accept 0 "peer"] t ∧
        t.log.countP Server.tellsKeepAliveFailed = 1) ∧
      ({ keepAlive := some (.ofMillis 500) } : TcpFactory).newConnection "db:9000" .connected =
        .error (.system .invalidArgument) ∧
      ¬({} : SocketOptions).TakesEffect (.ofMillis 32768000) := by
  have hshort : ¬(Duration.ofMillis 500).ProbeSpan := by decide
  have hlong : ¬(Duration.ofMillis 32768000).ProbeSpan := by decide
  have haccepted : (({} : Settings).withKeepAlive 500).validate = .ok (({} : Settings).withKeepAlive 500) :=
    validate_eq_ok_iff.2 ⟨rfl, by decide +kernel⟩
  have hserves := @Serves.intro (({} : Settings).withKeepAlive 500) Unit () () _ _
    [.serve 0 (.ok "front"), .accept 0 "peer"] rfl (.of_foldlM rfl)
  exact ⟨haccepted, SocketOptions.setKeepAlive_of_not _ hshort, ⟨_, hserves, rfl⟩, rfl,
    fun h => hlong ((SocketOptions.takesEffect_iff _ _).1 h)⟩

end Settings
end PooledTcp
