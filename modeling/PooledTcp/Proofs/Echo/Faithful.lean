import PooledTcp.Proofs.Echo.Moves
import PooledTcp.Proofs.Echo.Wire
import PooledTcp.Proofs.Server.Lifecycle
import PooledTcp.Proofs.Stream.Session

/-!
# An echo is faithful

What an echo has written is the beginning of what it has read, whatever its stream does: in which pieces the bytes
come, how many of them a write takes, when an operation fails, a deadline passes, or the connection is cancelled or
forced. What it has read and not written is what it is about to write, or what was left when a write failed or when
it was dropped (`Echo.Stage.Owes`).

What was read and written is known where the sockets keep a record of it. The record changes nothing: with it the server
does what it does without (`run_bare_iff`).
-/

namespace PooledTcp

/-- What an echo may have read and not written. -/
def Echo.Stage.Owes (server : Server) : Echo.Stage → Bytes → Prop
  | .reading, rest => rest = []
  | .writing left, rest => rest = left ∧ left ≠ []
  | .ended .peerEnded, rest => rest = []
  | .ended .cancelled, rest => rest = [] ∧ server.cancelledResolves = true
  | .ended (.readFailed _), rest => rest = []
  | .ended (.writeFailed _), _ => True
  | .ended .dropped, _ => server.force = true

/-- What a poll has moved is added to the record. -/
theorem Metered.bytes_portion {α : Type} (portions : List (Nat × Bytes)) (now : Nat) (f : α → Bytes)
    (p : Poll (Except IoError α)) :
    bytes (portions ++ portion now f p) = bytes portions ++ p.moved f := by
  rcases p with (_ | _) | _ <;> simp [bytes, portion, Poll.moved]

namespace EchoSession

variable {σ : Type} {s : Stream σ} {now : Nat} {server server' : Server} {x y : EchoSession (Metered σ)}

/-- Every byte that the handler has read. -/
def received (x : EchoSession (Metered σ)) : Bytes := Metered.bytes x.stream.inner.received

/-- Every byte that the handler has written. -/
def sent (x : EchoSession (Metered σ)) : Bytes := Metered.bytes x.stream.inner.sent

/-- What was read is what was written and what the handler owes. -/
def Faithful (server : Server) (x : EchoSession (Metered σ)) : Prop :=
  ∃ rest, x.received = x.sent ++ rest ∧ x.echo.stage.Owes server rest

/-- A handler that has written whatever it read. -/
theorem Faithful.of_eq (h : x.received = x.sent) (howes : x.echo.stage.Owes server []) : Faithful server x :=
  ⟨[], h.trans (List.append_nil _).symm, howes⟩

theorem Faithful.of_reading (h : Faithful server x) (hstage : x.echo.stage = .reading) :
    x.received = x.sent := by
  obtain ⟨rest, hsplit, howes⟩ := h
  rw [hstage] at howes
  rw [hsplit, show rest = [] from howes, List.append_nil]

theorem Faithful.of_writing {left : Bytes} (h : Faithful server x) (hstage : x.echo.stage = .writing left) :
    x.received = x.sent ++ left := by
  obtain ⟨rest, hsplit, howes⟩ := h
  rw [hstage] at howes
  rw [hsplit, howes.1]

theorem Faithful.ne_nil {left : Bytes} (h : Faithful server x) (hstage : x.echo.stage = .writing left) :
    left ≠ [] := by
  obtain ⟨rest, -, howes⟩ := h
  rw [hstage] at howes
  exact howes.2

/-- What a handler owes it owes in every later state of the server. -/
theorem Faithful.mono {e : Server.Event} (hstep : server.step e = some server') (h : Faithful server x) :
    Faithful server' x := by
  obtain ⟨rest, hsplit, howes⟩ := h
  refine ⟨rest, hsplit, ?_⟩
  cases hstage : x.echo.stage with
  | reading | writing _ => rwa [hstage] at howes
  | ended why =>
    rw [hstage] at howes
    cases why with
    | cancelled => exact howes.imp id (Server.Onward.of_step hstep).resolves
    | dropped => exact (Server.clock_step hstep).2 howes
    | _ => exact howes

section Turn

variable {n : Nat} {echo : Echo} {m : Metered σ}

theorem received_of_read {p : Poll (Except IoError Bytes)}
    (h : (s.metered now).read n x.stream.inner = (p, m)) (echo : Echo) :
    received { echo, stream := x.looked .reading m } = x.received ++ p.moved id := by
  cases h
  exact Metered.bytes_portion _ _ _ _

theorem sent_of_write {p : Poll (Except IoError Nat)} {rest : Bytes}
    (h : (s.metered now).write rest x.stream.inner = (p, m)) (echo : Echo) :
    sent { echo, stream := x.looked .writing m } = x.sent ++ p.moved rest.take := by
  cases h
  exact Metered.bytes_portion _ _ _ _

theorem sent_of_read {p : Poll (Except IoError Bytes)}
    (h : (s.metered now).read n x.stream.inner = (p, m)) (echo : Echo) :
    sent { echo, stream := x.looked .reading m } = x.sent := by
  cases h
  rfl

theorem received_of_write {p : Poll (Except IoError Nat)} {rest : Bytes}
    (h : (s.metered now).write rest x.stream.inner = (p, m)) (echo : Echo) :
    received { echo, stream := x.looked .writing m } = x.received := by
  cases h
  rfl

/-- A handler that had written whatever it read owes what a read brings. -/
theorem Faithful.read {p : Poll (Except IoError Bytes)} (h : Faithful server x)
    (hstage : x.echo.stage = .reading) (hread : (s.metered now).read n x.stream.inner = (p, m))
    (howes : echo.stage.Owes server (p.moved id)) :
    Faithful server { echo, stream := x.looked .reading m } := by
  refine ⟨_, ?_, howes⟩
  rw [received_of_read hread, sent_of_read hread, h.of_reading hstage]

/-- A handler owes what a write leaves. -/
theorem Faithful.write {p : Poll (Except IoError Nat)} {rest : Bytes} (h : Faithful server x)
    (left : Bytes) (hstage : x.echo.stage = .writing rest) (hwrite : (s.metered now).write rest x.stream.inner = (p, m))
    (hleft : rest = p.moved rest.take ++ left)
    (howes : echo.stage.Owes server left) :
    Faithful server { echo, stream := x.looked .writing m } := by
  refine ⟨left, ?_, howes⟩
  rw [received_of_write hwrite, sent_of_write hwrite, h.of_writing hstage, List.append_assoc, ← hleft]

/-- A turn reads into what the handler owes, or writes out of it. -/
theorem Faithful.turn (h : Faithful server x)
    (hturn : Turn (s.metered now) now server.cancelledResolves x y) : Faithful server y := by
  cases hturn with
  | cancelled hstage hc => exact .of_eq (h.of_reading hstage) ⟨rfl, hc⟩
  | readLate hstage _ => exact .of_eq (h.of_reading hstage) rfl
  | @read r inner hstage hread =>
    refine h.read hstage hread ?_
    rcases r with cause | _ | ⟨b, bs⟩
    · exact rfl
    · exact rfl
    · rw [Echo.stage_afterRead]
      exact ⟨rfl, List.cons_ne_nil b bs⟩
  | interrupted hstage hc hread => exact h.read hstage hread ⟨rfl, hc⟩
  | reading hstage _ _ hread =>
    refine h.read hstage hread ?_
    rw [hstage]
    exact rfl
  | @writtenLate rest hstage _ => exact ⟨rest, h.of_writing hstage, trivial⟩
  | @written rest r inner hstage hwrite =>
    rcases r with cause | _ | n
    · exact h.write rest hstage hwrite rfl trivial
    · exact h.write rest hstage hwrite rfl trivial
    · refine h.write (rest.drop (n + 1)) hstage hwrite ?_ ?_
      · exact (List.take_append_drop (n + 1) rest).symm
      · simp only [Echo.afterWrite]
        split
        · rename_i hempty
          exact List.isEmpty_iff.1 hempty
        · rename_i hsome
          exact ⟨rfl, mt List.isEmpty_iff.2 hsome⟩
  | @writing rest inner hstage _ hwrite =>
    refine h.write rest hstage hwrite rfl ?_
    rw [hstage]
    exact ⟨rfl, h.ne_nil hstage⟩

end Turn

section Bare

/-- The wrapped stream without the record. -/
def unmetered (d : Deadlined (Metered σ)) : Deadlined σ := { d with inner := d.inner.inner }

/-- The session without the record. -/
def bare (x : EchoSession (Metered σ)) : EchoSession σ := { echo := x.echo, stream := unmetered x.stream }

/-- An operation that keeps a record does what it does without one, also behind a deadline. -/
theorem guarded_unmetered {α : Type} {op : Metered σ → Poll (Except IoError α) × Metered σ}
    {bareOp : σ → Poll (Except IoError α) × σ} (half : Half) (d : Deadlined (Metered σ))
    (h : bareOp d.inner.inner = ((op d.inner).1, (op d.inner).2.inner)) :
    Deadlined.guarded half now bareOp (unmetered d) =
      ((Deadlined.guarded half now op d).1, unmetered (Deadlined.guarded half now op d).2) := by
  have hexpired : (unmetered d).expired half now = d.expired half now := by
    cases half <;> rfl
  cases hlate : d.expired half now with
  | true =>
    rw [Deadlined.guarded_expired _ hlate, Deadlined.guarded_expired _ (hexpired.trans hlate)]
  | false =>
    rw [Deadlined.guarded_open _ hlate, Deadlined.guarded_open _ (hexpired.trans hlate)]
    have hinner : (unmetered d).inner = d.inner.inner := rfl
    rw [hinner, h]
    cases half <;> rfl

/-- The record of what is read and written changes no poll. -/
theorem bare_poll (s : Stream σ) (now : Nat) (cancelled readFirst : Bool) (x : EchoSession (Metered σ)) :
    (x.poll (s.metered now) now cancelled readFirst).bare = x.bare.poll s now cancelled readFirst := by
  have hread : (Deadlined.stream s now).read Echo.bufferSize (unmetered x.stream) =
      (((Deadlined.stream (s.metered now) now).read Echo.bufferSize x.stream).1,
        unmetered ((Deadlined.stream (s.metered now) now).read Echo.bufferSize x.stream).2) :=
    guarded_unmetered .reading x.stream rfl
  have hwrite (rest : Bytes) : (Deadlined.stream s now).write rest (unmetered x.stream) =
      (((Deadlined.stream (s.metered now) now).write rest x.stream).1,
        unmetered ((Deadlined.stream (s.metered now) now).write rest x.stream).2) :=
    guarded_unmetered .writing x.stream rfl
  simp only [poll, Echo.poll, bare]
  cases x.echo.stage with
  | ended why => rfl
  | reading =>
    simp only [hread]
    rcases (Deadlined.stream (s.metered now) now).read Echo.bufferSize x.stream with ⟨_ | _, d⟩
    · cases cancelled && !readFirst <;> rfl
    · cases cancelled <;> cases readFirst <;> rfl
  | writing rest =>
    simp only [hwrite]
    rcases (Deadlined.stream (s.metered now) now).write rest x.stream with ⟨_ | _, d⟩
    · rfl
    · rfl

end Bare

section Wire

variable {x y : EchoSession (Metered Wire)} {n : Nat} {echo : Echo} {m : Metered Wire}

/-- The pipe of the session and its peer. -/
def wire (x : EchoSession (Metered Wire)) : Wire := x.stream.inner.inner

/-- What a handler may have ended for. -/
def Grounds (server : Server) (x : EchoSession (Metered Wire)) : Echo.End → Prop
  -- everything that the peer sent before that was read
  | .peerEnded => x.wire.pipe.inward.queue = [] ∧ x.wire.Ended
  | .cancelled => server.cancelledResolves = true
  | .readFailed _ => x.stream.expired .reading server.now = true
  | .writeFailed _ => x.stream.expired .writing server.now = true ∨ x.wire.pipe.outward.closed = true
  | .dropped => server.force = true

/-- Between the handler and its peer nothing is lost, and the handler does not end without a reason. -/
structure Joined (server : Server) (x : EchoSession (Metered Wire)) : Prop where
  faithful : x.Faithful server
  arriving : x.wire.sent = x.received ++ x.wire.pipe.inward.queue
  returning : x.sent = x.wire.got ++ x.wire.pipe.outward.queue
  ended : ∀ why, x.echo.stage = .ended why → x.Grounds server why

/-- A deadline that has passed has passed for good. -/
theorem expired_mono {σ : Type} {d : Deadlined σ} {half : Half} {later : Nat} (hle : now ≤ later)
    (h : d.expired half now = true) : d.expired half later = true := by
  rw [Deadlined.expired_eq, Option.any_eq_true] at h ⊢
  obtain ⟨t, ht, hfired⟩ := h
  exact ⟨t, ht, decide_eq_true (Nat.le_trans (of_decide_eq_true hfired) hle)⟩

theorem Joined.mono {e : Server.Event} (hstep : server.step e = some server') (h : Joined server x) :
    Joined server' x := by
  refine ⟨h.faithful.mono hstep, h.arriving, h.returning, fun why hwhy => ?_⟩
  have hgrounds := h.ended why hwhy
  have hclock := Server.clock_step hstep
  cases why with
  | peerEnded => exact hgrounds
  | cancelled => exact (Server.Onward.of_step hstep).resolves hgrounds
  | readFailed _ => exact expired_mono hclock.1 hgrounds
  | writeFailed _ => exact hgrounds.imp (expired_mono hclock.1) id
  | dropped => exact hclock.2 hgrounds

/-- The handler ends, and leaves the stream alone. -/
theorem Joined.finish {why : Echo.End} (h : Joined server x) (hgrounds : x.Grounds server why)
    (hfaithful : Faithful server { x with echo := x.echo.finish why }) :
    Joined server { x with echo := x.echo.finish why } := by
  refine ⟨hfaithful, h.arriving, h.returning, fun why' hwhy => ?_⟩
  cases hwhy
  exact hgrounds

theorem inward_of_read {p : Poll (Except IoError Bytes)}
    (h : (Wire.near.metered now).read n x.stream.inner = (p, m)) :
    x.wire.pipe.inward.read n = (p, m.inner.pipe.inward) := by
  cases h
  rfl

theorem outward_of_write {p : Poll (Except IoError Nat)} {rest : Bytes}
    (h : (Wire.near.metered now).write rest x.stream.inner = (p, m)) :
    x.wire.pipe.outward.write rest = (p, m.inner.pipe.outward) := by
  cases h
  rfl

theorem Joined.read {p : Poll (Except IoError Bytes)} (h : Joined server x)
    (hread : (Wire.near.metered now).read n x.stream.inner = (p, m))
    (hfaithful : Faithful server { echo, stream := x.looked .reading m })
    (hended : ∀ why, echo.stage = .ended why →
      Grounds server { echo, stream := x.looked .reading m } why) :
    Joined server { echo, stream := x.looked .reading m } := by
  have hreceived := received_of_read hread echo
  have hsent := sent_of_read hread echo
  cases hread
  refine ⟨hfaithful, ?_, hsent.trans h.returning, hended⟩
  rw [hreceived, List.append_assoc]
  exact h.arriving.trans (congrArg (x.received ++ ·) (Channel.queue_of_read n x.wire.pipe.inward).1)

theorem Joined.write {p : Poll (Except IoError Nat)} {rest : Bytes} (h : Joined server x)
    (hwrite : (Wire.near.metered now).write rest x.stream.inner = (p, m))
    (hfaithful : Faithful server { echo, stream := x.looked .writing m })
    (hended : ∀ why, echo.stage = .ended why →
      Grounds server { echo, stream := x.looked .writing m } why) :
    Joined server { echo, stream := x.looked .writing m } := by
  have hreceived := received_of_write hwrite echo
  have hsent := sent_of_write hwrite echo
  cases hwrite
  refine ⟨hfaithful, h.arriving.trans (congrArg (· ++ _) hreceived.symm), ?_, hended⟩
  rw [hsent, h.returning, List.append_assoc]
  exact congrArg (x.wire.got ++ ·) (Channel.queue_of_write rest x.wire.pipe.outward).1.symm

/-- A turn moves bytes between the pipe and the handler, and the handler ends only with a reason. -/
theorem Joined.turn (h : Joined server x)
    (hturn : Turn (Wire.near.metered server.now) server.now server.cancelledResolves x y) :
    Joined server y := by
  have hfaithful := h.faithful.turn hturn
  cases hturn with
  | cancelled _ hc => exact h.finish hc hfaithful
  | readLate _ hexpired => exact h.finish hexpired hfaithful
  | writtenLate _ hexpired => exact h.finish (.inl hexpired) hfaithful
  | @read r inner _ hread =>
    have hinward := inward_of_read hread
    refine h.read hread hfaithful fun why hwhy => ?_
    rcases r with cause | _ | ⟨b, bs⟩
    · exact absurd (congrArg Prod.fst hinward) (Channel.read_ne_error _ x.wire.pipe.inward cause)
    · cases hwhy
      obtain ⟨hqueue, hclosed⟩ := Channel.queue_of_read Echo.bufferSize x.wire.pipe.inward
      have hdrained := Channel.drained_of_read_nil (congrArg Prod.fst hinward) (by decide)
      rw [hinward] at hqueue hclosed
      rw [hdrained.1] at hqueue
      exact ⟨(List.append_eq_nil_iff.1 hqueue.symm).2, hclosed.trans hdrained.2⟩
    · rw [Echo.stage_afterRead] at hwhy
      cases hwhy
  | interrupted _ hc hread =>
    refine h.read hread hfaithful fun why hwhy => ?_
    cases hwhy
    exact hc
  | reading hstage _ _ hread =>
    refine h.read hread hfaithful fun why hwhy => ?_
    rw [hstage] at hwhy
    cases hwhy
  | @written rest r inner hstage hwrite =>
    have houtward := outward_of_write hwrite
    refine h.write hwrite hfaithful fun why hwhy => ?_
    rcases r with cause | _ | n
    · cases hwhy
      have hclosed := (Channel.queue_of_write rest x.wire.pipe.outward).2
      rw [houtward] at hclosed
      exact .inr (hclosed.trans (Channel.closed_of_write_error (congrArg Prod.fst houtward)))
    · exact absurd (congrArg Prod.fst houtward) (Channel.write_ne_zero (h.faithful.ne_nil hstage))
    · simp only [Echo.afterWrite] at hwhy
      split at hwhy
      · cases hwhy
      · cases hwhy
  | writing hstage _ hwrite =>
    refine h.write hwrite hfaithful fun why hwhy => ?_
    rw [hstage] at hwhy
    cases hwhy

/-- What the peer does puts bytes into one direction, takes them from the other, or ends a direction. -/
theorem Joined.perform (h : Joined server x) (act : Wire.Act) :
    Joined server (x.under { x.stream.inner with inner := x.wire.perform act }) := by
  obtain ⟨hfaithful, harriving, hreturning, hended⟩ := h
  cases act with
  | send bytes =>
    obtain ⟨hqueue, hclosed⟩ := Channel.queue_of_write bytes x.wire.pipe.inward
    refine ⟨hfaithful, ?_, hreturning, fun why hwhy => ?_⟩
    · have hmore := congrArg (· ++ (x.wire.pipe.inward.write bytes).1.moved bytes.take) harriving
      exact (hmore.trans (List.append_assoc _ _ _)).trans (congrArg (x.received ++ ·) hqueue.symm)
    · have hgrounds := hended why hwhy
      cases why with
      | peerEnded =>
        have hsame := congrArg Channel.queue (Channel.write_of_closed hgrounds.2 bytes)
        exact ⟨hsame.trans hgrounds.1, hclosed.trans hgrounds.2⟩
      | _ => exact hgrounds
  | read n =>
    obtain ⟨hqueue, hclosed⟩ := Channel.queue_of_read n x.wire.pipe.outward
    refine ⟨hfaithful, harriving, ?_, fun why hwhy => ?_⟩
    · exact (hreturning.trans (congrArg (x.wire.got ++ ·) hqueue)).trans (List.append_assoc _ _ _).symm
    · have hgrounds := hended why hwhy
      cases why with
      | writeFailed _ => exact hgrounds.imp id hclosed.trans
      | _ => exact hgrounds
  | finish =>
    refine ⟨hfaithful, harriving, hreturning, fun why hwhy => ?_⟩
    have hgrounds := hended why hwhy
    cases why with
    | peerEnded => exact ⟨hgrounds.1, rfl⟩
    | _ => exact hgrounds
  | drop =>
    refine ⟨hfaithful, harriving, hreturning, fun why hwhy => ?_⟩
    have hgrounds := hended why hwhy
    cases why with
    | peerEnded => exact ⟨hgrounds.1, rfl⟩
    | writeFailed _ => exact .inr rfl
    | _ => exact hgrounds

/-- Where the peer has ended its side and the handler waits, everything was read, or the peer leaves it no room. -/
theorem over_of_ended {cancelled : Bool} (h : x.Waits (Wire.near.metered now) now cancelled)
    (hended : x.wire.Ended) (hroom : ¬x.wire.Full) : x.echo.isOver = true := by
  cases waits_iff.1 h with
  | nothing hover => exact hover
  | bytes _ _ _ hread => exact absurd hended (Wire.near_read_pending (n := Echo.bufferSize) (w := x.wire) hread).2.2
  | room _ _ hwrite => exact absurd (Wire.near_write_pending (w := x.wire) hwrite).2 hroom

end Wire

end EchoSession

namespace EchoServer

variable {σ : Type} {s : Nat → Stream σ}

/-- The event on sockets that keep a record. -/
def Event.metered : Event σ → Event (Metered σ)
  | .server e => .server e
  | .begin conn socket => .begin conn { inner := socket }
  | .poll conn readFirst => .poll conn readFirst
  | .finish conn failure => .finish conn failure
  | .forced conn failure => .forced conn failure
  | .outside conn change => .outside conn fun m => { m with inner := change m.inner }

/-- Perform an event, and keep a record of what the handlers read and write. -/
def stepMetered (s : Nat → Stream σ) (u : EchoServer (Metered σ)) (e : Event σ) :
    Option (EchoServer (Metered σ)) :=
  u.step (fun now => (s now).metered now) e.metered

/-- The server without the record. -/
def bare (u : EchoServer (Metered σ)) : EchoServer σ :=
  { server := u.server, sessions := u.sessions.map fun (conn, x) => (conn, x.bare) }

theorem bare_hold (u : EchoServer (Metered σ)) (conn : GuardId) (x : EchoSession (Metered σ)) :
    (u.hold conn x).bare = u.bare.hold conn x.bare := by
  simp only [bare, hold, put, List.map_cons, List.filter_map]
  rfl

/-- The record changes nothing. -/
theorem step_bare (u : EchoServer (Metered σ)) (e : Event σ) :
    u.bare.step s e = (stepMetered s u e).map bare := by
  have hlookup (conn : GuardId) : u.bare.sessions.lookup conn = (u.sessions.lookup conn).map (·.bare) :=
    lookup_map _ conn u.sessions
  have hserver : u.bare.server = u.server := rfl
  cases e with
  | server e =>
    simp only [stepMetered, Event.metered, step, hserver]
    split
    · rfl
    · rw [Option.map_map]
      rfl
  | «begin» conn socket =>
    simp only [stepMetered, Event.metered, step, hserver]
    cases u.server.conns.lookup conn with
    | none => rfl
    | some c =>
      cases u.server.step (.begin conn) with
      | none => rfl
      | some server =>
        exact congrArg some (bare_hold { u with server } conn
          (.start server.timeouts c.acceptedAt { inner := socket })).symm
  | poll conn readFirst =>
    simp only [stepMetered, Event.metered, step, hserver, hlookup]
    cases u.sessions.lookup conn with
    | none => rfl
    | some x =>
      simp only [Option.map_some, ← EchoSession.bare_poll, ← bare_hold, apply_ite (Option.map bare)]
      rfl
  | finish conn failure =>
    simp only [stepMetered, Event.metered, step, hserver, hlookup]
    cases u.sessions.lookup conn with
    | none => rfl
    | some x =>
      simp only [Option.map_some, apply_ite (Option.map bare), Option.map_map]
      rfl
  | forced conn failure =>
    simp only [stepMetered, Event.metered, step, hserver, hlookup]
    cases u.sessions.lookup conn with
    | none =>
      cases u.server.step (.begin conn) with
      | none => rfl
      | some begun =>
        simp only [Option.map_none, Option.bind_some, Option.map_map]
        rfl
    | some x =>
      simp only [Option.map_some, apply_ite (Option.map bare), Option.map_map]
      cases u.server.step (.finish conn .forced failure) with
      | none => rfl
      | some server =>
        have hheld := bare_hold { u with server } conn { x with echo := x.echo.finish .dropped }
        simp only [Option.map_some, Function.comp_apply, hheld]
        rfl
  | outside conn change =>
    simp only [stepMetered, Event.metered, step, hlookup]
    cases u.sessions.lookup conn with
    | none => rfl
    | some x =>
      have hheld := bare_hold u conn (x.under { x.stream.inner with inner := change x.stream.inner.inner })
      exact congrArg some hheld.symm

/-- The server does what it does while the record is kept. -/
theorem run_bare_iff {u : EchoServer (Metered σ)} {w : EchoServer σ} {es : List (Event σ)} :
    Run (step s) u.bare es w ↔ ∃ v, Run (stepMetered s) u es v ∧ v.bare = w := by
  constructor
  · intro h
    refine h.follow (P := fun _ => True) (R := fun w (v : EchoServer (Metered σ)) => v.bare = w) ?_
      (fun _ _ => trivial) rfl
    rintro _ u e w rfl - hstep
    rwa [step_bare, Option.map_eq_some_iff] at hstep
  · rintro ⟨v, h, rfl⟩
    obtain ⟨w, hw, rfl⟩ := h.follow (P := fun _ => True) (R := fun (v : EchoServer (Metered σ)) w => v.bare = w)
      (fun u _ e v hu _ hstep => ⟨v.bare, hu ▸ (step_bare u e).trans (congrArg (Option.map bare) hstep), rfl⟩)
      (fun _ _ => trivial) rfl
    exact hw

/-- A connection is a pipe, and what happens to it is what its peer does. -/
def Event.ByPeer : Event Wire → Prop
  | .begin _ socket => ∃ capacity, socket = .fresh capacity
  | .outside _ change => ∃ act : Wire.Act, change = (·.perform act)
  | _ => True

theorem faithful_step {u v : EchoServer (Metered σ)} {e : Event σ} (h : Each EchoSession.Faithful u)
    (hstep : stepMetered s u e = some v) : Each EchoSession.Faithful v := by
  refine Each.step h hstep (fun hserver hx => hx.mono hserver) (fun conn socket t made he => ?_)
    (fun hx hturn => hx.turn hturn) (fun hforce hx => ?_) (fun conn change x he hx => ?_)
  · cases e with
    | «begin» _ _ =>
      cases he
      exact .of_eq rfl rfl
    | _ => cases he
  · obtain ⟨rest, hsplit, -⟩ := hx
    exact ⟨rest, hsplit, hforce⟩
  · cases e with
    | outside _ _ =>
      cases he
      exact hx
    | _ => cases he

theorem joined_step {u v : EchoServer (Metered Wire)} {e : Event Wire} (h : Each EchoSession.Joined u)
    (hstep : stepMetered (fun _ => Wire.near) u e = some v) (hpeer : e.ByPeer) :
    Each EchoSession.Joined v := by
  refine Each.step h hstep (fun hserver hx => hx.mono hserver) (fun conn socket t made he => ?_)
    (fun hx hturn => hx.turn hturn) (fun hforce hx => ?_) (fun conn change x he hx => ?_)
  · cases e with
    | «begin» _ _ =>
      obtain ⟨capacity, rfl⟩ := hpeer
      cases he
      exact ⟨.of_eq rfl rfl, rfl, rfl, fun why hwhy => by cases hwhy⟩
    | _ => cases he
  · obtain ⟨rest, hsplit, -⟩ := hx.faithful
    exact hx.finish hforce ⟨rest, hsplit, hforce⟩
  · cases e with
    | outside _ _ =>
      obtain ⟨act, rfl⟩ := hpeer
      cases he
      exact hx.perform act
    | _ => cases he

/-- The peer has its bytes back in the order in which it sent them: some of them at any moment, and all of them
where the handler has ended for its peer. So it does, wherever it has gone as far as it can, if the peer has ended its
side and reads, and there is no failure, deadline, cancellation or force. -/
structure Returned (server : Server) (x : EchoSession (Metered Wire)) : Prop where
  joined : x.Joined server
  got : x.wire.got <+: x.wire.sent
  all : x.echo.stage = .ended .peerEnded → x.sent = x.received ∧ x.received = x.wire.sent
  ends : x.wire.Ended → x.Waits (Wire.near.metered server.now) server.now server.cancelledResolves →
    ¬x.wire.Full → x.wire.pipe.outward.closed = false → (∀ half, x.stream.expired half server.now = false) →
    server.cancelledResolves = false → server.force = false → x.echo.stage = .ended .peerEnded

theorem Returned.of_joined {server : Server} {x : EchoSession (Metered Wire)} (h : x.Joined server) :
    Returned server x := by
  obtain ⟨rest, hsplit, howes⟩ := h.faithful
  refine ⟨h, ?_, fun hstage => ?_, fun hended hwaits hroom hopen hearly hlively hkept => ?_⟩
  · refine ⟨x.wire.pipe.outward.queue ++ rest ++ x.wire.pipe.inward.queue, ?_⟩
    rw [h.arriving, hsplit, h.returning]
    simp only [List.append_assoc]
  · rw [hstage] at howes
    obtain rfl : rest = [] := howes
    have hempty : x.wire.pipe.inward.queue = [] := (h.ended _ hstage).1
    have harriving := h.arriving
    rw [hempty, List.append_nil] at harriving
    exact ⟨((List.append_nil _).symm.trans hsplit.symm), harriving.symm⟩
  · obtain ⟨why, hwhy⟩ : ∃ why, x.echo.stage = .ended why := by
      have hover := EchoSession.over_of_ended hwaits hended hroom
      rw [Echo.isOver] at hover
      cases hstage : x.echo.stage with
      | ended why => exact ⟨why, rfl⟩
      | reading | writing _ => simp [hstage] at hover
    have hgrounds := h.ended why hwhy
    cases why with
    | peerEnded => exact hwhy
    | cancelled => cases hlively.symm.trans hgrounds
    | readFailed cause => cases (hearly .reading).symm.trans hgrounds
    | writeFailed cause =>
      rcases hgrounds with hexpired | hclosed
      · cases (hearly .writing).symm.trans hexpired
      · cases hopen.symm.trans hclosed
    | dropped => cases hkept.symm.trans hgrounds

/-- Whatever happens to an echo server, it happens also where a record is kept, and there, at every point, what a
handler has written is the beginning of what it has read; what is missing is about to be written, or was left when a
write failed or the handler was dropped. Over a pipe, in whichever pieces its peer sends and reads, the peer has its
bytes back in order, and all of them in the end. -/
theorem echo_faithful :
    (∀ {σ : Type} {s : Nat → Stream σ} {u : EchoServer (Metered σ)} {w : EchoServer σ} {es : List (Event σ)},
      Begins u → Run (step s) u.bare es w → ∃ v, Run (stepMetered s) u es v ∧ v.bare = w ∧
        ∀ conn x, v.sessions.lookup conn = some x → x.sent <+: x.received ∧ x.Faithful v.server) ∧
    ∀ {u : EchoServer (Metered Wire)} {w : EchoServer Wire} {es : List (Event Wire)}, Begins u →
      Run (step fun _ => Wire.near) u.bare es w → (∀ e ∈ es, e.ByPeer) →
        ∃ v, Run (stepMetered fun _ => Wire.near) u es v ∧ v.bare = w ∧
          ∀ conn x, v.sessions.lookup conn = some x → Returned v.server x := by
  constructor
  · intro σ s u w es hbegin hbare
    obtain ⟨v, hrun, hv⟩ := run_bare_iff.1 hbare
    refine ⟨v, hrun, hv, fun conn x hx => ?_⟩
    have hfaithful : Each EchoSession.Faithful v := hrun.keeps (fun _ _ _ => faithful_step) (hbegin.each _)
    obtain ⟨rest, hsplit, howes⟩ := hfaithful conn x hx
    exact ⟨⟨rest, hsplit.symm⟩, rest, hsplit, howes⟩
  · intro u w es hbegin hbare hpeer
    obtain ⟨v, hrun, hv⟩ := run_bare_iff.1 hbare
    refine ⟨v, hrun, hv, fun conn x hx => ?_⟩
    have hjoined := hrun.induction_last (P := fun es v => (∀ e ∈ es, Event.ByPeer e) → Each EchoSession.Joined v)
      (fun _ => hbegin.each _) fun es e v w ih hstep hpeer => by
        rw [List.forall_mem_append] at hpeer
        exact joined_step (ih hpeer.1) hstep (hpeer.2 e List.mem_cons_self)
    exact .of_joined (hjoined hpeer conn x hx)

/-- Three bytes through a pipe of two: they come in two reads, and the last one waits until the peer has read. -/
theorem three_bytes_returned : ∃ (u v : EchoServer (Metered Wire)) (x : EchoSession (Metered Wire)), Begins u ∧
    Run (step fun _ => Wire.near) u.bare
      [.server (.serve 1 (.ok "front")), .server (.accept 1 "client"), .begin 1 (.fresh 2),
        .outside 1 (·.perform (.send [1, 2, 3])), .poll 1 true, .outside 1 (·.perform (.send [3])), .poll 1 false,
        .poll 1 true, .poll 1 true, .outside 1 (·.perform (.read 1)), .poll 1 true, .outside 1 (·.perform .finish),
        .poll 1 false, .finish 1 none, .outside 1 (·.perform (.read 5))] v.bare ∧
    v.sessions.lookup 1 = some x ∧ x.sent = [1, 2, 3] ∧ x.wire.got = [1, 2, 3] ∧
    v.server.active = 0 ∧ x.Faithful v.server ∧ Returned v.server x := by
  have hbegin : Begins (σ := Metered Wire) { server := { addr := "front", timeouts := {} } } := .intro "front" {}
  have hstart : Run (stepMetered fun _ => Wire.near) _ [] _ := hbegin.start
  have hkept := hstart.further [.server (.serve 1 (.ok "front")), .server (.accept 1 "client"), .begin 1 (.fresh 2),
    .outside 1 (·.perform (.send [1, 2, 3])), .poll 1 true, .outside 1 (·.perform (.send [3])), .poll 1 false,
    .poll 1 true, .poll 1 true, .outside 1 (·.perform (.read 1)), .poll 1 true, .outside 1 (·.perform .finish),
    .poll 1 false, .finish 1 none, .outside 1 (·.perform (.read 5))] rfl
  have hrun := run_bare_iff.2 ⟨_, hkept, rfl⟩
  obtain ⟨v, hv, -, hfaithful⟩ := echo_faithful.1 hbegin hrun
  obtain ⟨v', hv', -, hreturned⟩ := echo_faithful.2 hbegin hrun (by
    simp only [List.forall_mem_cons]
    exact ⟨trivial, trivial, ⟨2, rfl⟩, ⟨_, rfl⟩, trivial, ⟨_, rfl⟩, trivial, trivial, trivial, ⟨_, rfl⟩, trivial,
      ⟨_, rfl⟩, trivial, trivial, ⟨_, rfl⟩, List.forall_mem_nil _⟩)
  obtain rfl := hv.unique hkept
  obtain rfl := hv'.unique hkept
  exact ⟨_, _, _, hbegin, hrun, rfl, rfl, rfl, rfl, (hfaithful 1 _ rfl).2, hreturned 1 _ rfl⟩

end EchoServer
end PooledTcp
