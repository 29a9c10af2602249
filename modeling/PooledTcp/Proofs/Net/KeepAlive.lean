import PooledTcp.Net.TcpFactory

/-!
# Which spans keep-alive takes

The system counts the spans of keep-alive in whole seconds and takes from 1 to 32767 of them. What is less than a
second comes to none, and nothing raises it to one or keeps a longer span below the most. So switching keep-alive on
leaves probes on, the span in whole seconds apart, exactly for a `ProbeSpan`: at least a second, and short of 32768
(`takesEffect_iff`). With any other span it fails, and a factory that is to send probes then opens no socket that it
would open without them (`TcpFactory.keepsAlive`).
-/

namespace PooledTcp

/-- Probes can be that far apart. -/
def Duration.ProbeSpan (d : Duration) : Prop :=
  nanosPerSec ≤ d.nanos ∧ d.nanos < (SocketOptions.greatestSeconds + 1) * nanosPerSec

instance (d : Duration) : Decidable d.ProbeSpan := inferInstanceAs (Decidable (_ ∧ _))

namespace Duration

/-- The whole seconds of a span for probes are those that the system takes. -/
theorem probeSpan_iff_secs (d : Duration) :
    d.ProbeSpan ↔ 1 ≤ d.secs ∧ d.secs ≤ SocketOptions.greatestSeconds := by
  have hpos : 0 < nanosPerSec := by decide
  rw [ProbeSpan, secs, Nat.le_div_iff_mul_le hpos, Nat.one_mul, ← Nat.lt_succ_iff (m := d.nanos / nanosPerSec),
    Nat.div_lt_iff_lt_mul hpos]

/-- In milliseconds a span for probes is at least 1000 and below 32768000. -/
theorem probeSpan_ofMillis_iff (ms : UInt64) : (ofMillis ms).ProbeSpan ↔ 1000 ≤ ms ∧ ms < 32768000 := by
  rw [UInt64.le_iff_toNat_le, UInt64.lt_iff_toNat_lt]
  simp only [ProbeSpan, ofMillis, nanosPerSec, nanosPerMilli, SocketOptions.greatestSeconds]
  have hleast : (1000 : UInt64).toNat = 1000 := rfl
  have hmost : (32768000 : UInt64).toNat = 32768000 := rfl
  omega

end Duration

namespace SocketOptions

variable {o : SocketOptions} {idle : Duration}

/-- Probes are sent, the first after the span in whole seconds, but at least one, and the others as far apart. -/
structure Probes (o : SocketOptions) (idle : Duration) : Prop where
  on : o.keepAlive = true
  after : o.probeAfter = max 1 idle.secs
  every : o.probeEvery = max 1 idle.secs

/-- Switching keep-alive on succeeds, and probes are sent. -/
def TakesEffect (o : SocketOptions) (idle : Duration) : Prop :=
  (o.setKeepAlive idle).2 = .ok () ∧ (o.setKeepAlive idle).1.Probes idle

/-- The options with keep-alive switched on, or why it cannot be. -/
def probing (o : SocketOptions) (idle : Duration) : Except IoError SocketOptions :=
  (o.setKeepAlive idle).2.map fun _ => (o.setKeepAlive idle).1

theorem setKeepAlive_of_probeSpan (o : SocketOptions) (h : idle.ProbeSpan) : o.setKeepAlive idle =
    ({ o with keepAlive := true, probeAfter := idle.secs, probeEvery := idle.secs }, .ok ()) :=
  if_pos (idle.probeSpan_iff_secs.1 h)

/-- Keep-alive stays switched on, at the spans that the system has chosen. -/
theorem setKeepAlive_of_not (o : SocketOptions) (h : ¬idle.ProbeSpan) :
    o.setKeepAlive idle = ({ o with keepAlive := true }, .error (.system .invalidArgument)) :=
  if_neg fun hsecs => h (idle.probeSpan_iff_secs.2 hsecs)

theorem probes_of_probeSpan (o : SocketOptions) (h : idle.ProbeSpan) : (o.setKeepAlive idle).1.Probes idle := by
  have hsecs : idle.secs = max 1 idle.secs := (Nat.max_eq_right (idle.probeSpan_iff_secs.1 h).1).symm
  rw [setKeepAlive_of_probeSpan o h]
  exact ⟨rfl, hsecs, hsecs⟩

theorem takesEffect_iff (o : SocketOptions) (idle : Duration) : o.TakesEffect idle ↔ idle.ProbeSpan := by
  constructor
  · rintro ⟨hdone, -⟩
    by_cases hspan : idle.ProbeSpan
    · exact hspan
    · rw [setKeepAlive_of_not o hspan] at hdone
      cases hdone
  · intro hspan
    exact ⟨by rw [setKeepAlive_of_probeSpan o hspan], probes_of_probeSpan o hspan⟩

theorem probing_of_probeSpan (o : SocketOptions) (h : idle.ProbeSpan) :
    o.probing idle = .ok (o.setKeepAlive idle).1 := by
  rw [probing, setKeepAlive_of_probeSpan o h]
  rfl

theorem probing_of_not (o : SocketOptions) (h : ¬idle.ProbeSpan) :
    o.probing idle = .error (.system .invalidArgument) := by
  rw [probing, setKeepAlive_of_not o h]
  rfl

/-- On a new socket the spans of the system are not those that were asked for. -/
theorem probes_new_iff : (({} : SocketOptions).setKeepAlive idle).1.Probes idle ↔ idle.ProbeSpan := by
  refine ⟨fun hprobes => ?_, probes_of_probeSpan _⟩
  by_cases hspan : idle.ProbeSpan
  · exact hspan
  · rw [setKeepAlive_of_not _ hspan] at hprobes
    have hafter : 7200 = max 1 idle.secs := hprobes.after
    rw [Duration.probeSpan_iff_secs, greatestSeconds] at hspan
    omega

end SocketOptions

namespace TcpFactory

variable {f : TcpFactory} {idle : Duration}

/-- The same factory without probes. -/
def withoutProbes (f : TcpFactory) : TcpFactory := { f with keepAlive := none }

/-- A socket is opened exactly if it is without probes and they can be that far apart. Then they are, and otherwise
the failure is that without probes, or that of the system to take the span. -/
structure KeepsAlive (f : TcpFactory) (idle : Duration) (addr : String) (attempt : Attempt) : Prop where
  opens : (∃ o, f.newConnection addr attempt = .ok o) ↔
    (∃ o, f.withoutProbes.newConnection addr attempt = .ok o) ∧ idle.ProbeSpan
  probes : ∀ o, f.newConnection addr attempt = .ok o → o.Probes idle
  fails : ∀ cause, f.newConnection addr attempt = .error cause →
    f.withoutProbes.newConnection addr attempt = .error cause ∨
      cause = .system .invalidArgument ∧ ¬idle.ProbeSpan

/-- A socket is opened as without probes, and then they are switched on. -/
theorem newConnection_eq (h : f.keepAlive = some idle) (addr : String) (attempt : Attempt) :
    f.newConnection addr attempt = (f.withoutProbes.newConnection addr attempt).bind (·.probing idle) := by
  have hconfigure : f.configure = ({ noDelay := f.noDelay } : SocketOptions).probing idle := by
    unfold configure
    rw [h]
    dsimp only
    by_cases hspan : idle.ProbeSpan
    · rw [SocketOptions.probing_of_probeSpan _ hspan, SocketOptions.setKeepAlive_of_probeSpan _ hspan]
    · rw [SocketOptions.probing_of_not _ hspan, SocketOptions.setKeepAlive_of_not _ hspan]
  unfold newConnection
  split
  · rfl
  · cases attempt with
    | connected => exact hconfigure
    | failed _ | tooLate => rfl

theorem keepsAlive (h : f.keepAlive = some idle) (addr : String) (attempt : Attempt) :
    f.KeepsAlive idle addr attempt := by
  have hnew := newConnection_eq h addr attempt
  cases hplain : f.withoutProbes.newConnection addr attempt with
  | error cause =>
    have hfails : f.newConnection addr attempt = .error cause := by
      rw [hnew, hplain]
      rfl
    exact ⟨by simp [hfails, hplain], by simp [hfails], by simp [hfails, hplain]⟩
  | ok plain =>
    have hopens : f.newConnection addr attempt = plain.probing idle := by
      rw [hnew, hplain]
      rfl
    by_cases hspan : idle.ProbeSpan
    · have hprobes := SocketOptions.probes_of_probeSpan plain hspan
      rw [SocketOptions.probing_of_probeSpan plain hspan] at hopens
      exact ⟨by simp [hopens, hplain, hspan], by simpa [hopens] using hprobes, by simp [hopens]⟩
    · rw [SocketOptions.probing_of_not plain hspan] at hopens
      exact ⟨by simp [hopens, hspan], by simp [hopens], by simp [hopens, hspan]⟩

end TcpFactory
end PooledTcp
