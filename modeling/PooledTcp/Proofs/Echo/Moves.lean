import PooledTcp.Handler.Echo
import PooledTcp.Proofs.Server.Tracked
import PooledTcp.Proofs.Stream.Lockstep
import PooledTcp.Run

/-!
# What an echo server can do next

`EchoServer.step` refuses most events in most states; `Move` lists what is left. `Turn` lists what one poll of a
handler comes to, by what the handler does and what its stream answers. What each of them keeps of a single handler
is kept of every handler throughout a run (`Each.step`). Where nothing comes of the polls of a handler, there are
three things that it can wait for (`waits_iff`).
-/

namespace PooledTcp

/-- A handler is dropped only where connections are forced. -/
theorem Server.force_of_forced {s t : Server} {conn : GuardId} {failure : Option IoError}
    (h : s.step (.finish conn .forced failure) = some t) : t.force = true := by
  cases Move.of_step h with
  | finished _ _ hforce => exact hforce rfl

/-- What is read into the buffer is what is written out of it, whatever was in it before. -/
theorem Echo.stage_afterRead (e : Echo) (b : UInt8) (bs : Bytes) :
    (e.afterRead (.ok (b :: bs))).stage = .writing (b :: bs) := by
  simp [Echo.afterRead]

namespace EchoSession

variable {σ : Type} {s : Stream σ} {now : Nat} {cancelled : Bool} {x : EchoSession σ}

/-- The stream of a session once its handler has looked at a deadline that has not passed, and at what is behind. -/
def looked (x : EchoSession σ) (half : Half) (inner : σ) : Deadlined σ := { x.stream.watch half with inner }

/-- What a poll comes to. -/
inductive Turn (s : Stream σ) (now : Nat) (cancelled : Bool) (x : EchoSession σ) : EchoSession σ → Prop where
  /-- The cancellation is looked at first. -/
  | cancelled : x.echo.stage = .reading → cancelled = true →
    Turn s now cancelled x { x with echo := x.echo.finish .cancelled }
  | readLate : x.echo.stage = .reading → x.stream.expired .reading now = true →
    Turn s now cancelled x { x with echo := x.echo.finish (.readFailed (Deadlined.exceeded .reading)) }
  | read {r : Except IoError Bytes} {inner : σ} : x.echo.stage = .reading →
    s.read Echo.bufferSize x.stream.inner = (.ready r, inner) →
    Turn s now cancelled x { echo := x.echo.afterRead r, stream := x.looked .reading inner }
  /-- Nothing is there to be read, and the connection is cancelled. -/
  | interrupted {inner : σ} : x.echo.stage = .reading → cancelled = true →
    s.read Echo.bufferSize x.stream.inner = (.pending, inner) →
    Turn s now cancelled x { echo := x.echo.finish .cancelled, stream := x.looked .reading inner }
  | reading {inner : σ} : x.echo.stage = .reading → cancelled = false →
    x.stream.expired .reading now = false →
    s.read Echo.bufferSize x.stream.inner = (.pending, inner) →
    Turn s now cancelled x { x with stream := x.looked .reading inner }
  | writtenLate {rest : Bytes} : x.echo.stage = .writing rest → x.stream.expired .writing now = true →
    Turn s now cancelled x { x with echo := x.echo.finish (.writeFailed (Deadlined.exceeded .writing)) }
  | written {rest : Bytes} {r : Except IoError Nat} {inner : σ} : x.echo.stage = .writing rest →
    s.write rest x.stream.inner = (.ready r, inner) →
    Turn s now cancelled x { echo := x.echo.afterWrite rest r, stream := x.looked .writing inner }
  | writing {rest : Bytes} {inner : σ} : x.echo.stage = .writing rest →
    x.stream.expired .writing now = false →
    s.write rest x.stream.inner = (.pending, inner) →
    Turn s now cancelled x { x with stream := x.looked .writing inner }

theorem turn_of_reading (readFirst : Bool) (hstage : x.echo.stage = .reading) :
    Turn s now cancelled x (x.poll s now cancelled readFirst) := by
  simp only [poll, Echo.poll, hstage]
  by_cases hfirst : cancelled && !readFirst
  · rw [if_pos hfirst]
    exact .cancelled hstage (Bool.and_eq_true_iff.1 hfirst).1
  · rw [if_neg hfirst]
    simp only [Deadlined.stream]
    cases hexpired : x.stream.expired .reading now with
    | true =>
      rw [Deadlined.guarded_expired _ hexpired]
      exact .readLate hstage hexpired
    | false =>
      rw [Deadlined.guarded_open _ hexpired]
      rcases hread : s.read Echo.bufferSize x.stream.inner with ⟨r | _, inner⟩
      · exact .read hstage hread
      · cases cancelled with
        | true => exact .interrupted hstage rfl hread
        | false => exact .reading hstage rfl hexpired hread

theorem turn_of_writing {rest : Bytes} (readFirst : Bool) (hstage : x.echo.stage = .writing rest) :
    Turn s now cancelled x (x.poll s now cancelled readFirst) := by
  simp only [poll, Echo.poll, hstage, Deadlined.stream]
  cases hexpired : x.stream.expired .writing now with
  | true =>
    rw [Deadlined.guarded_expired _ hexpired]
    exact .writtenLate hstage hexpired
  | false =>
    rw [Deadlined.guarded_open _ hexpired]
    rcases hwrite : s.write rest x.stream.inner with ⟨r | _, inner⟩
    · exact .written hstage hwrite
    · exact .writing hstage hexpired hwrite

/-- A poll comes to nothing else. -/
theorem Turn.of_poll (s : Stream σ) (now : Nat) (cancelled readFirst : Bool) (hover : x.echo.isOver = false) :
    Turn s now cancelled x (x.poll s now cancelled readFirst) := by
  cases hstage : x.echo.stage with
  | reading => exact turn_of_reading readFirst hstage
  | writing rest => exact turn_of_writing readFirst hstage
  | ended why =>
    rw [Echo.isOver, hstage] at hover
    cases hover

/-- Nothing comes of a poll, whichever of the stream and the cancellation is looked at first. -/
def Waits (s : Stream σ) (now : Nat) (cancelled : Bool) (x : EchoSession σ) : Prop :=
  ∀ readFirst, (x.echo.poll (Deadlined.stream s now) cancelled readFirst x.stream).1 = .pending

/-- What a handler waits for. -/
inductive WaitsFor (s : Stream σ) (now : Nat) (cancelled : Bool) (x : EchoSession σ) : Prop where
  /-- It is over. -/
  | nothing : x.echo.isOver = true → WaitsFor s now cancelled x
  /-- For bytes, or for the cancellation. -/
  | bytes : x.echo.stage = .reading → cancelled = false → x.stream.expired .reading now = false →
    (s.read Echo.bufferSize x.stream.inner).1 = .pending → WaitsFor s now cancelled x
  /-- For room, and for nothing else. -/
  | room {rest : Bytes} : x.echo.stage = .writing rest → x.stream.expired .writing now = false →
    (s.write rest x.stream.inner).1 = .pending → WaitsFor s now cancelled x

theorem waitsFor_of_reading (h : x.Waits s now cancelled) (hstage : x.echo.stage = .reading) :
    x.WaitsFor s now cancelled := by
  have hnot : cancelled = false := by
    have hpoll := h false
    rw [Echo.poll, hstage] at hpoll
    cases cancelled with
    | true => cases hpoll
    | false => rfl
  subst hnot
  have hpoll := h true
  simp only [Echo.poll, hstage, Deadlined.stream, Bool.false_and, Bool.false_eq_true, if_false] at hpoll
  cases hexpired : x.stream.expired .reading now with
  | true =>
    rw [Deadlined.guarded_expired _ hexpired] at hpoll
    cases hpoll
  | false =>
    rw [Deadlined.guarded_open _ hexpired] at hpoll
    refine .bytes hstage rfl hexpired ?_
    rcases hread : s.read Echo.bufferSize x.stream.inner with ⟨r | _, inner⟩
    · rw [hread] at hpoll
      cases hpoll
    · rfl

theorem waitsFor_of_writing {rest : Bytes} (h : x.Waits s now cancelled) (hstage : x.echo.stage = .writing rest) :
    x.WaitsFor s now cancelled := by
  have hpoll := h true
  simp only [Echo.poll, hstage, Deadlined.stream] at hpoll
  cases hexpired : x.stream.expired .writing now with
  | true =>
    rw [Deadlined.guarded_expired _ hexpired] at hpoll
    cases hpoll
  | false =>
    rw [Deadlined.guarded_open _ hexpired] at hpoll
    refine .room hstage hexpired ?_
    rcases hwrite : s.write rest x.stream.inner with ⟨r | _, inner⟩
    · rw [hwrite] at hpoll
      cases hpoll
    · rfl

theorem WaitsFor.waits (h : x.WaitsFor s now cancelled) : x.Waits s now cancelled := by
  intro readFirst
  cases h with
  | nothing hover =>
    cases hstage : x.echo.stage with
    | ended why => rw [Echo.poll, hstage]
    | reading | writing _ =>
      rw [Echo.isOver, hstage] at hover
      cases hover
  | bytes hstage hnot hexpired hread =>
    subst hnot
    simp only [Echo.poll, hstage, Deadlined.stream, Bool.false_and, Bool.false_eq_true, if_false,
      Deadlined.guarded_open _ hexpired]
    rw [hread]
  | room hstage hexpired hwrite =>
    simp only [Echo.poll, hstage, Deadlined.stream, Deadlined.guarded_open _ hexpired]
    rw [hwrite]

/-- Nothing comes of the polls of a handler for one of three reasons. -/
theorem waits_iff : x.Waits s now cancelled ↔ x.WaitsFor s now cancelled := by
  refine ⟨fun h => ?_, WaitsFor.waits⟩
  cases hstage : x.echo.stage with
  | ended why => exact .nothing (by rw [Echo.isOver, hstage])
  | reading => exact waitsFor_of_reading h hstage
  | writing rest => exact waitsFor_of_writing h hstage

end EchoSession

namespace EchoServer

variable {σ : Type} {s : Nat → Stream σ} {u v : EchoServer σ} {e : Event σ} {es : List (Event σ)}
  {conn : GuardId} {x : EchoSession σ}

/-- What an event can do to an echo server. -/
inductive Move (s : Nat → Stream σ) (u : EchoServer σ) : Event σ → EchoServer σ → Prop where
  | server {e : Server.Event} {server : Server} : ProxyServer.isHandlers e = false →
    u.server.step e = some server → Move s u (.server e) { u with server }
  | begins {conn : GuardId} {socket : σ} {c : Server.Connection} {server : Server} :
    u.server.conns.lookup conn = some c → u.server.step (.begin conn) = some server →
    Move s u (.begin conn socket) ({ u with server }.hold conn (.start server.timeouts c.acceptedAt socket))
  | polled {conn : GuardId} {readFirst : Bool} {x : EchoSession σ} : u.sessions.lookup conn = some x →
    x.echo.isOver = false → Move s u (.poll conn readFirst) (u.hold conn
      (x.poll (s u.server.now) u.server.now u.server.cancelledResolves readFirst))
  | finished {conn : GuardId} {failure : Option IoError} {x : EchoSession σ} {server : Server} :
    u.sessions.lookup conn = some x → x.echo.isOver = true →
    u.server.step (.finish conn .returned failure) = some server →
    Move s u (.finish conn failure) { u with server }
  | dropped {conn : GuardId} {failure : Option IoError} {x : EchoSession σ} {server : Server} :
    u.sessions.lookup conn = some x → x.echo.isOver = false →
    u.server.step (.finish conn .forced failure) = some server →
    Move s u (.forced conn failure)
      ({ u with server }.hold conn { x with echo := x.echo.finish .dropped })
  | neverBegun {conn : GuardId} {failure : Option IoError} {begun server : Server} :
    u.sessions.lookup conn = none → u.server.step (.begin conn) = some begun →
    begun.step (.finish conn .forced failure) = some server →
    Move s u (.forced conn failure) { u with server }
  | outside {conn : GuardId} {change : σ → σ} {x : EchoSession σ} : u.sessions.lookup conn = some x →
    Move s u (.outside conn change) (u.hold conn (x.under (change x.stream.inner)))

/-- Nothing but a move happens. -/
theorem Move.of_step (h : u.step s e = some v) : Move s u e v := by
  cases e with
  | server e =>
    simp only [step, Option.ite_none_left_eq_some, Option.map_eq_some_iff] at h
    obtain ⟨hnot, server, hserver, rfl⟩ := h
    exact .server (Bool.eq_false_iff.2 hnot) hserver
  | «begin» conn socket =>
    simp only [step] at h
    split at h
    · rename_i c server hconn hserver
      cases h
      exact .begins hconn hserver
    · cases h
  | poll conn readFirst =>
    simp only [step] at h
    split at h
    · rename_i x hx
      simp only [Option.ite_none_left_eq_some, Bool.not_eq_true, Option.some.injEq] at h
      obtain ⟨hover, rfl⟩ := h
      exact .polled hx hover
    · cases h
  | finish conn failure =>
    simp only [step] at h
    split at h
    · rename_i x hx
      simp only [Option.ite_none_right_eq_some, Option.map_eq_some_iff] at h
      obtain ⟨hover, server, hserver, rfl⟩ := h
      exact .finished hx hover hserver
    · cases h
  | forced conn failure =>
    simp only [step] at h
    split at h
    · rename_i x hx
      simp only [Option.ite_none_left_eq_some, Bool.not_eq_true, Option.map_eq_some_iff] at h
      obtain ⟨hover, server, hserver, rfl⟩ := h
      exact .dropped hx hover hserver
    · rename_i hx
      obtain ⟨begun, hbegun, hended⟩ := Option.bind_eq_some_iff.1 h
      obtain ⟨server, hserver, rfl⟩ := Option.map_eq_some_iff.1 hended
      exact .neverBegun hx hbegun hserver
  | outside conn change =>
    obtain ⟨x, hx, rfl⟩ := Option.map_eq_some_iff.1 h
    exact .outside hx

/-- Nothing was done with the server yet. -/
inductive Begins : EchoServer σ → Prop where
  | intro (addr : String) (timeouts : Timeouts) : Begins { server := { addr, timeouts } }

/-- The run in which nothing has happened yet. -/
theorem Begins.start {ε : Type} {f : EchoServer σ → ε → Option (EchoServer σ)} (_ : Begins u) : Run f u [] u :=
  .nil u

/-- Something holds of every handler, whether it is over or not. -/
def Each (P : Server → EchoSession σ → Prop) (u : EchoServer σ) : Prop :=
  ∀ conn x, u.sessions.lookup conn = some x → P u.server x

section Each

variable {P : Server → EchoSession σ → Prop} {server : Server}

theorem Begins.each (h : Begins u) (P : Server → EchoSession σ → Prop) : Each P u := by
  obtain ⟨addr, timeouts⟩ := h
  intro conn x hx
  cases hx

theorem Each.onServer (h : Each P u) (hserver : ∀ x, P u.server x → P server x) :
    Each P { u with server } :=
  fun conn x hx => hserver x (h conn x hx)

theorem Each.hold (h : Each P u) (hx : P u.server x) (conn : GuardId) : Each P (u.hold conn x) := by
  intro other y hy
  rcases lookup_put_eq_some.1 hy with ⟨-, rfl⟩ | ⟨-, hy⟩
  · exact hx
  · exact h other y hy

/-- What a new handler has, and what every turn of a handler, every end and every change from outside keep, each
handler has after an event. -/
theorem Each.step (h : Each P u) (hstep : u.step s e = some v)
    (hserver : ∀ {t t' : Server} {e' x}, t.step e' = some t' → P t x → P t' x)
    (hbegin : ∀ conn socket t made, e = .begin conn socket → P t (.start t.timeouts made socket))
    (hturn : ∀ {x y}, P u.server x →
      EchoSession.Turn (s u.server.now) u.server.now u.server.cancelledResolves x y → P u.server y)
    (hdrop : ∀ {t : Server} {x}, t.force = true → P t x → P t { x with echo := x.echo.finish .dropped })
    (houtside : ∀ conn change x, e = .outside conn change → P u.server x →
      P u.server (x.under (change x.stream.inner))) : Each P v := by
  cases Move.of_step hstep with
  | server _ hmoved => exact h.onServer fun _ => hserver hmoved
  | begins _ hmoved => exact (h.onServer fun _ => hserver hmoved).hold (hbegin _ _ _ _ rfl) _
  | polled hx hover => exact h.hold (hturn (h _ _ hx) (.of_poll _ _ _ _ hover)) _
  | finished _ _ hmoved => exact h.onServer fun _ => hserver hmoved
  | dropped hx _ hmoved =>
    have hforce := Server.force_of_forced hmoved
    exact (h.onServer fun _ => hserver hmoved).hold (hdrop hforce (hserver hmoved (h _ _ hx))) _
  | neverBegun _ hbegun hmoved => exact h.onServer fun _ hx => hserver hmoved (hserver hbegun hx)
  | outside hx => exact h.hold (houtside _ _ _ rfl (h _ _ hx)) _

end Each

end EchoServer
end PooledTcp
