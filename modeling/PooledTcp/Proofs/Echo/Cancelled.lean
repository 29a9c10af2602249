import PooledTcp.Proofs.Echo.Wire
import PooledTcp.Proofs.Server.Lifecycle
import PooledTcp.Proofs.Echo.Moves

/-!
# When a cancelled echo ends

A handler that is cancelled ends by itself where it reads. Where it writes it listens for nothing but room, so it
stays for as long as its peer leaves it none (`Stuck`), and a shutdown whose grace is over then forces it. That is all
that keeps a cancelled handler (`cancelled_ends_iff`).

The handler of every counted connection has a session once it has begun, and a session that is not over is that of a
counted connection (`Seated`). Left alone by its peer, a handler over a pipe goes on for a number of polls that is known
beforehand, since every byte is read once and written once (`fuel`).
-/

namespace PooledTcp

namespace Server

variable {s t : Server} {e : Event} {conn : GuardId}

/-- A handler that runs has begun before. -/
theorem running_of_step (hstep : s.step e = some t) (h : t.table.Running conn) (hnot : e ≠ .begin conn) :
    s.table.Running conn := by
  obtain ⟨c, hfound, hbegun⟩ := h
  have hmove := tableMove_step hstep
  generalize t.table = tb at hmove hfound
  cases hmove with
  | stays => exact ⟨c, hfound, hbegun⟩
  | @accepted _ _ new hnew =>
    rw [List.lookup_cons] at hfound
    split at hfound
    · cases hfound
      cases hnew.symm.trans hbegun
    · exact ⟨c, hfound, hbegun⟩
  | @begun other _ _ _ =>
    rcases lookup_put_eq_some.1 hfound with ⟨rfl, -⟩ | ⟨-, hfound⟩
    · exact absurd rfl hnot
    · exact ⟨c, hfound, hbegun⟩
  | finished _ _ _ => exact ⟨c, (lookup_filter_eq_some.1 hfound).2, hbegun⟩

end Server

namespace EchoServer

variable {σ : Type} {s : Nat → Stream σ} {u v : EchoServer σ} {e : Event σ} {es : List (Event σ)}
  {conn : GuardId} {x : EchoSession σ}

/-- The sessions are those of the handlers that have begun, and run until they are over. -/
structure Seated (u : EchoServer σ) : Prop where
  reachable : u.server.Reachable
  tracked : Server.Tracked u.server.table
  begun : ∀ conn, u.server.table.Running conn → (u.sessions.lookup conn).isSome
  running : ∀ conn x, u.sessions.lookup conn = some x → x.echo.isOver = false → u.server.table.Running conn

section Seated

theorem Begins.seated (h : Begins u) : u.Seated := by
  obtain ⟨addr, timeouts⟩ := h
  have hbuilt := Server.Built.of_addr addr timeouts
  refine ⟨hbuilt.reachable hbuilt.start, ⟨rfl, List.nodup_nil, fun _ hc => by cases hc⟩, ?_, ?_⟩
  · rintro conn ⟨c, hc, -⟩
    cases hc
  · intro conn x hx
    cases hx

/-- The server moves, and no handler begins or ends. -/
theorem Seated.onServer {e : Server.Event} {server : Server} (h : u.Seated)
    (hstep : u.server.step e = some server) (hbegin : ∀ conn, e = .begin conn → (u.sessions.lookup conn).isSome)
    (hfinish : ∀ conn ending failure x, e = .finish conn ending failure →
      u.sessions.lookup conn = some x → x.echo.isOver = true) : Seated { u with server } := by
  refine ⟨h.reachable.step hstep, h.tracked.step hstep, fun conn hrun => ?_, fun conn x hx hover => ?_⟩
  · by_cases hnew : e = .begin conn
    · exact hbegin conn hnew
    · exact h.begun conn (Server.running_of_step hstep hrun hnew)
  · refine (h.running conn x hx hover).step h.tracked hstep fun ending failure he => ?_
    cases hover.symm.trans (hfinish conn ending failure x he hx)

/-- A handler of which there is a session, or that begins, goes on. -/
theorem Seated.hold (h : u.Seated) (hx : x.echo.isOver = false → u.server.table.Running conn) :
    (u.hold conn x).Seated := by
  refine ⟨h.reachable, h.tracked, fun other hrun => ?_, fun other y hy hover => ?_⟩
  · by_cases hconn : other = conn
    · subst hconn
      exact Option.isSome_of_eq_some (lookup_put_self _ _ _)
    · have hsame : (u.hold conn x).sessions.lookup other = u.sessions.lookup other := lookup_put_of_ne hconn _ _
      rw [hsame]
      exact h.begun other hrun
  · rcases lookup_put_eq_some.1 hy with ⟨rfl, rfl⟩ | ⟨-, hy⟩
    · exact hx hover
    · exact h.running other y hy hover

/-- The server begins or ends the handler of a connection, whose session is then another one. -/
theorem Seated.replace {e : Server.Event} {server : Server} (h : u.Seated)
    (hstep : u.server.step e = some server)
    (hothers : ∀ other ≠ conn, e ≠ .begin other ∧ ∀ ending failure, e ≠ .finish other ending failure)
    (hx : x.echo.isOver = false → server.table.Running conn) : ({ u with server }.hold conn x).Seated := by
  refine ⟨h.reachable.step hstep, h.tracked.step hstep, fun other hrun => ?_, fun other y hy hover => ?_⟩
  · by_cases hconn : other = conn
    · subst hconn
      exact Option.isSome_of_eq_some (lookup_put_self _ _ _)
    · have hsame : ({ u with server }.hold conn x).sessions.lookup other = u.sessions.lookup other :=
        lookup_put_of_ne hconn _ _
      rw [hsame]
      exact h.begun other (Server.running_of_step hstep hrun (hothers other hconn).1)
  · rcases lookup_put_eq_some.1 hy with ⟨rfl, rfl⟩ | ⟨hconn, hy⟩
    · exact hx hover
    · exact (h.running other y hy hover).step h.tracked hstep (hothers other hconn).2

/-- A handler that is dropped before it begins has no session. -/
theorem Seated.without {begun server : Server} {failure : Option IoError} (h : u.Seated)
    (hnone : u.sessions.lookup conn = none) (hbegun : u.server.step (.begin conn) = some begun)
    (hended : begun.step (.finish conn .forced failure) = some server) : Seated { u with server } := by
  have htracked := h.tracked.step hbegun
  refine ⟨(h.reachable.step hbegun).step hended, htracked.step hended, fun other hrun => ?_,
    fun other y hy hover => ?_⟩
  · have hne : other ≠ conn := by
      rintro rfl
      obtain ⟨c, hc, -⟩ := hrun
      cases (Server.gone_of_finish htracked hended).2.symm.trans hc
    have hrunning := Server.running_of_step hended hrun fun he => by cases he
    exact h.begun other (Server.running_of_step hbegun hrunning fun he => by cases he; exact hne rfl)
  · have hne : other ≠ conn := by
      rintro rfl
      cases hnone.symm.trans hy
    have hrunning := (h.running other y hy hover).step h.tracked hbegun fun _ _ he => by cases he
    exact hrunning.step htracked hended fun _ _ he => by cases he; exact hne rfl

theorem Seated.step (h : u.Seated) (hstep : u.step s e = some v) : v.Seated := by
  cases Move.of_step hstep with
  | @server e _ hnot hmoved =>
    refine h.onServer hmoved (fun conn he => ?_) fun conn ending failure x he => ?_
    · subst he
      cases hnot
    · subst he
      cases hnot
  | begins _ hmoved =>
    refine h.replace hmoved (fun other hne => ⟨?_, fun _ _ he => by cases he⟩) fun _ =>
      (Server.running_of_begin hmoved).2.2
    rintro ⟨⟩
    exact hne rfl
  | @polled conn _ x hx hover => exact h.hold fun _ => h.running conn x hx hover
  | finished hx hover hmoved =>
    refine h.onServer hmoved (fun _ he => by cases he) fun other ending failure y he hy => ?_
    cases he
    cases hx.symm.trans hy
    exact hover
  | dropped _ _ hmoved =>
    refine h.replace hmoved (fun other hne => ⟨(fun he => by cases he), ?_⟩) fun hover => by cases hover
    rintro _ _ ⟨⟩
    exact hne rfl
  | neverBegun hx hbegun hmoved => exact h.without hx hbegun hmoved
  | @outside conn _ x hx => exact h.hold fun hover => h.running conn x hx hover

end Seated

/-- No handler gets any further: none can begin, none that is over can be left, and nothing comes of a poll. -/
structure Quiet (s : Nat → Stream σ) (u : EchoServer σ) : Prop where
  begun : ∀ conn, u.server.step (.begin conn) = none
  left : ∀ conn failure, u.step s (.finish conn failure) = none
  waits : ∀ conn x, u.sessions.lookup conn = some x →
    x.Waits (s u.server.now) u.server.now u.server.cancelledResolves

/-- The handler of the connection has bytes to write, and there is no room for them. -/
def Stuck (s : Nat → Stream σ) (u : EchoServer σ) (conn : GuardId) : Prop :=
  ∃ x rest, u.sessions.lookup conn = some x ∧ x.echo.stage = .writing rest ∧
    ((s u.server.now).write rest x.stream.inner).1 = .pending

section Quiet

theorem Seated.stuck_iff (h : u.Seated) (hquiet : u.Quiet s) (hcancelled : u.server.cancelledResolves = true)
    (conn : GuardId) : (u.server.conns.lookup conn).isSome ↔ u.Stuck s conn := by
  constructor
  · intro hcounted
    obtain ⟨c, hc⟩ := Option.isSome_iff_exists.1 hcounted
    have hbegun : c.begun = true := by
      have hnone := hquiet.begun conn
      simp only [Server.step, hc] at hnone
      cases hb : c.begun with
      | true => rfl
      | false => simp [hb] at hnone
    obtain ⟨x, hx⟩ := Option.isSome_iff_exists.1 (h.begun conn ⟨c, hc, hbegun⟩)
    cases EchoSession.waits_iff.1 (hquiet.waits conn x hx) with
    | nothing hover =>
      have hnone := hquiet.left conn none
      simp [EchoServer.step, hx, hover, Server.step, hc, hbegun] at hnone
    | bytes _ hnot _ _ => cases hcancelled.symm.trans hnot
    | room hstage _ hwrite => exact ⟨x, _, hx, hstage, hwrite⟩
  · rintro ⟨x, rest, hx, hstage, -⟩
    obtain ⟨c, hc, -⟩ := h.running conn x hx (by rw [Echo.isOver, hstage])
    exact Option.isSome_of_eq_some hc

/-- A server counts no connection if there is none. -/
theorem Seated.active_eq_zero (h : u.Seated) :
    u.server.active = 0 ↔ ∀ conn, u.server.conns.lookup conn = none := by
  constructor
  · exact h.tracked.lookup_eq_none
  · intro hnone
    refine h.tracked.active.trans (List.length_eq_zero_iff.2 ?_)
    cases hconns : u.server.conns with
    | nil => exact hconns
    | cons x conns =>
      have hfound := hnone x.1
      rw [hconns, List.lookup_cons_self] at hfound
      cases hfound

/-- The grace of a shutdown is over: it forces connections exactly if one is left. -/
theorem Seated.forces_iff {id : CallId} {grace : Duration} {deadline : Nat} {told : Bool} {server : Server}
    (h : u.Seated) (hid : u.server.stops.lookup id = some (.draining grace deadline told))
    (hfired : Clock.fired u.server.now deadline = true) (hforce : u.server.force = false)
    (hstep : u.server.step (.proceed id) = some server) :
    server.force = true ↔ ∃ conn, (u.server.conns.lookup conn).isSome := by
  have hbusy : (∃ conn, (u.server.conns.lookup conn).isSome) ↔ u.server.active ≠ 0 := by
    rw [ne_eq, h.active_eq_zero]
    simp [Option.isSome_iff_ne_none]
  rw [hbusy]
  simp only [Server.step, hid, hfired, if_true] at hstep
  by_cases hzero : u.server.active = 0
  · refine iff_of_false (fun hgiven => ?_) (not_not_intro hzero)
    have hsame : server.force = u.server.force := by
      rw [Server.forceAll, if_pos hzero] at hstep
      split at hstep
      · cases hstep
        rfl
      · cases hstep
        rfl
    cases (hsame.symm.trans hgiven).symm.trans hforce
  · refine iff_of_true ?_ hzero
    rw [if_neg (by simp [hzero]), Server.forceAll, if_neg hzero] at hstep
    cases hstep
    rfl

/-- What there is to look at. -/
theorem quiet_of_mem (hbegun : ∀ c ∈ u.server.conns, c.2.begun = true)
    (hleft : ∀ x ∈ u.sessions, x.2.echo.isOver = true → u.server.conns.lookup x.1 = none)
    (hwaits : ∀ x ∈ u.sessions, x.2.Waits (s u.server.now) u.server.now u.server.cancelledResolves) :
    u.Quiet s := by
  refine ⟨fun conn => ?_, fun conn failure => ?_, fun conn x hx => hwaits _ (mem_of_lookup hx)⟩
  · simp only [Server.step]
    cases hc : u.server.conns.lookup conn with
    | none => rfl
    | some c =>
      have hrunning : c.begun = true := hbegun _ (mem_of_lookup hc)
      simp [hrunning]
  · simp only [step]
    cases hx : u.sessions.lookup conn with
    | none => rfl
    | some x =>
      by_cases hover : x.echo.isOver = true
      · have hnone : u.server.conns.lookup conn = none := hleft _ (mem_of_lookup hx) hover
        simp [hover, Server.step, hnone]
      · simp [hover]

end Quiet

end EchoServer

namespace EchoSession

variable {x y : EchoSession Wire} {now : Nat} {cancelled : Bool}

/-- For how many polls a handler over a pipe has work at most, if its peer does nothing more. -/
def fuel (x : EchoSession Wire) : Nat :=
  match x.echo.stage with
  | .ended _ => 0
  | .reading => 3 * x.stream.inner.pipe.inward.queue.length + 1
  | .writing rest => 3 * x.stream.inner.pipe.inward.queue.length + rest.length + 2

/-- Polls one after the other, while nobody else does anything. -/
def polls (now : Nat) (cancelled : Bool) (x : EchoSession Wire) (choices : List Bool) : EchoSession Wire :=
  choices.foldl (fun x readFirst => x.poll Wire.near now cancelled readFirst) x

theorem fuel_finish (why : Echo.End) (stream : Deadlined Wire) : fuel { echo := x.echo.finish why, stream } = 0 := rfl

theorem fuel_of_reading (hstage : x.echo.stage = .reading) :
    x.fuel = 3 * x.stream.inner.pipe.inward.queue.length + 1 := by
  rw [fuel, hstage]

theorem fuel_of_writing {rest : Bytes} (hstage : x.echo.stage = .writing rest) :
    x.fuel = 3 * x.stream.inner.pipe.inward.queue.length + rest.length + 2 := by
  rw [fuel, hstage]

/-- A turn uses up some of the work, unless the handler waits. -/
theorem fuel_turn (hturn : Turn Wire.near now cancelled x y) :
    y.fuel < x.fuel ∨ x.Waits Wire.near now cancelled := by
  cases hturn with
  | cancelled hstage _ | readLate hstage _ | interrupted hstage _ _ =>
    left
    rw [fuel_finish, fuel_of_reading hstage]
    omega
  | @read r inner hstage hread =>
    left
    rw [fuel_of_reading hstage]
    rcases r with cause | _ | ⟨b, bs⟩
    · exact Nat.succ_pos _
    · exact Nat.succ_pos _
    · have hqueue := (Channel.queue_of_read Echo.bufferSize x.stream.inner.pipe.inward).1
      rw [Wire.near_read hread] at hqueue
      have hlength : x.stream.inner.pipe.inward.queue.length = bs.length + 1 + inner.pipe.inward.queue.length :=
        (congrArg List.length hqueue).trans List.length_append
      rw [@fuel_of_writing _ (b :: bs) (Echo.stage_afterRead _ _ _), hlength, List.length_cons]
      show 3 * inner.pipe.inward.queue.length + (bs.length + 1) + 2 < _
      omega
  | reading hstage hnot hexpired hread =>
    exact .inr (waits_iff.2 (.bytes hstage hnot hexpired (congrArg Prod.fst hread)))
  | writtenLate hstage _ =>
    left
    rw [fuel_finish, fuel_of_writing hstage]
    omega
  | @written rest r inner hstage hwrite =>
    left
    rw [fuel_of_writing hstage, ← (Wire.near_write hwrite).2]
    rcases r with cause | _ | n
    · exact Nat.succ_pos _
    · exact Nat.succ_pos _
    · cases hleft : rest.drop (n + 1) with
      | nil =>
        rw [fuel_of_reading (by simp [Echo.afterWrite, hleft])]
        show 3 * inner.pipe.inward.queue.length + 1 < _
        omega
      | cons b bs =>
        have hlength := congrArg List.length hleft
        rw [List.length_drop, List.length_cons] at hlength
        rw [@fuel_of_writing _ (b :: bs) (by simp [Echo.afterWrite, hleft]), List.length_cons]
        show 3 * inner.pipe.inward.queue.length + (bs.length + 1) + 2 < _
        omega
  | writing hstage hexpired hwrite =>
    exact .inr (waits_iff.2 (.room hstage hexpired (congrArg Prod.fst hwrite)))

/-- Looking at a deadline does not end the waiting. -/
theorem WaitsFor.look (h : x.WaitsFor Wire.near now cancelled) (half : Half) :
    { x with stream := x.looked half x.stream.inner }.WaitsFor Wire.near now cancelled := by
  have hsame (k : Half) : (x.looked half x.stream.inner).expired k now = x.stream.expired k now :=
    Deadlined.expired_congr (Deadlined.deadline?_watch x.stream half)
  cases h with
  | nothing hover => exact .nothing hover
  | bytes hstage hnot hexpired hread => exact .bytes hstage hnot ((hsame _).trans hexpired) hread
  | room hstage hexpired hwrite => exact .room hstage ((hsame _).trans hexpired) hwrite

/-- Who waits goes on waiting. -/
theorem Waits.poll (h : x.Waits Wire.near now cancelled) (readFirst : Bool) :
    (x.poll Wire.near now cancelled readFirst).Waits Wire.near now cancelled := by
  have hfor := waits_iff.1 h
  suffices heq : x.poll Wire.near now cancelled readFirst = x ∨
      ∃ half, x.poll Wire.near now cancelled readFirst = { x with stream := x.looked half x.stream.inner } by
    rcases heq with heq | ⟨half, heq⟩
    · rw [heq]
      exact h
    · rw [heq]
      exact waits_iff.2 (hfor.look half)
  cases hfor with
  | nothing hover =>
    left
    cases hstage : x.echo.stage with
    | ended why => simp only [EchoSession.poll, Echo.poll, hstage]
    | reading | writing _ =>
      rw [Echo.isOver, hstage] at hover
      cases hover
  | bytes hstage hnot hexpired hread =>
    refine .inr ⟨.reading, ?_⟩
    simp only [EchoSession.poll, Echo.poll, hstage, hnot, Bool.false_and, Bool.false_eq_true, if_false,
      Deadlined.stream, Deadlined.guarded_open _ hexpired, (Wire.near_read_pending hread).1]
    rfl
  | room hstage hexpired hwrite =>
    refine .inr ⟨.writing, ?_⟩
    simp only [EchoSession.poll, Echo.poll, hstage, Deadlined.stream, Deadlined.guarded_open _ hexpired,
      (Wire.near_write_pending hwrite).1]
    rfl

theorem Waits.polls (h : x.Waits Wire.near now cancelled) (choices : List Bool) :
    (x.polls now cancelled choices).Waits Wire.near now cancelled := by
  induction choices generalizing x with
  | nil => exact h
  | cons readFirst choices ih => exact ih (h.poll readFirst)

/-- By induction on the polls: each of them uses up some of the work, or the handler waits from then on. -/
theorem waits_of_fuel {choices : List Bool} (h : x.fuel ≤ choices.length) :
    (x.polls now cancelled choices).Waits Wire.near now cancelled := by
  induction choices generalizing x with
  | nil =>
    refine waits_iff.2 (.nothing ?_)
    have hnone : x.fuel = 0 := Nat.le_zero.1 h
    show x.echo.isOver = true
    cases hstage : x.echo.stage with
    | ended why => rw [Echo.isOver, hstage]
    | reading => cases (fuel_of_reading hstage).symm.trans hnone
    | writing rest => cases (fuel_of_writing hstage).symm.trans hnone
  | cons readFirst choices ih =>
    cases hover : x.echo.isOver with
    | true => exact (waits_iff.2 (.nothing hover)).polls _
    | false =>
      rcases fuel_turn (Turn.of_poll Wire.near now cancelled readFirst hover) with hless | hwaits
      · rw [List.length_cons] at h
        exact ih (Nat.le_of_lt_succ (Nat.lt_of_lt_of_le hless h))
      · exact hwaits.polls _

/-- A handler that is cancelled and left alone by its peer ends, or fills the direction of its replies. -/
theorem over_or_full {choices : List Bool} (h : x.fuel ≤ choices.length) :
    (x.polls now true choices).echo.isOver = true ∨
      ∃ rest, (x.polls now true choices).echo.stage = .writing rest ∧
        (x.polls now true choices).stream.inner.Full := by
  have hwaits : (x.polls now true choices).Waits Wire.near now true := waits_of_fuel h
  cases waits_iff.1 hwaits with
  | nothing hover => exact .inl hover
  | bytes _ hnot _ _ => cases hnot
  | room hstage _ hwrite => exact .inr ⟨_, hstage, (Wire.near_write_pending hwrite).2⟩

end EchoSession

namespace EchoServer

/-- Where no handler of a cancelled connection gets any further, the ones that still run are those that have bytes to
write and no room for them, whatever the streams are and whatever happened to them; and a shutdown whose grace is over
then forces connections exactly if there is such a handler. A handler over a pipe gets there by itself: it ends within
a number of polls that only depends on what its peer has sent, unless the direction of its replies is full. -/
theorem cancelled_ends_iff {s : Nat → Stream σ} {u v : EchoServer σ} {es : List (Event σ)} (hbegin : Begins u)
    (hrun : Run (step s) u es v) (hcancelled : v.server.isCancelled = true) (hquiet : v.Quiet s) :
    (∀ conn, (v.server.conns.lookup conn).isSome ↔ v.Stuck s conn) ∧
      (∀ {id : CallId} {grace : Duration} {deadline : Nat} {told : Bool} {server : Server},
        v.server.stops.lookup id = some (.draining grace deadline told) →
        Clock.fired v.server.now deadline = true → v.server.force = false →
        v.server.step (.proceed id) = some server → (server.force = true ↔ ∃ conn, v.Stuck s conn)) ∧
      ∀ {x : EchoSession Wire} {now : Nat} {choices : List Bool}, x.fuel ≤ choices.length →
        (x.polls now true choices).echo.isOver = true ∨
          ∃ rest, (x.polls now true choices).echo.stage = .writing rest ∧
            (x.polls now true choices).stream.inner.Full := by
  have hseated : v.Seated := hrun.keeps (fun _ _ _ => Seated.step) hbegin.seated
  have hresolves : v.server.cancelledResolves = true := by
    rw [Server.isCancelled_iff] at hcancelled
    rw [Server.cancelledResolves_iff]
    exact hcancelled.imp hseated.reachable.done_iff.2 id
  have hstuck := hseated.stuck_iff hquiet hresolves
  refine ⟨hstuck, fun hid hfired hforce hstep => ?_, EchoSession.over_or_full⟩
  rw [hseated.forces_iff hid hfired hforce hstep]
  exact exists_congr hstuck

/-- Two connections, each with a byte of room for the replies. The peer of the first one has sent two bytes and reads
nothing; the handler of the second one waits for bytes. After the close the second one ends, and the first one is forced
when the grace is over. -/
theorem cancelled_ends_with_room : ∃ u v, Begins u ∧ Run (step fun _ => Wire.near) u
      [.server (.serve 1 (.ok "front")), .server (.accept 1 "slow"), .server (.accept 1 "idle"), .begin 1 (.fresh 1),
        .begin 2 (.fresh 1), .outside 1 (·.perform (.send [1])), .poll 1 true, .poll 1 true,
        .outside 1 (·.perform (.send [2])), .poll 1 true, .poll 1 true, .poll 2 true,
        .server (.shutdown 2 (.ofMillis 200)), .server (.resume 1), .server (.proceed 2), .poll 2 false,
        .finish 2 none, .server (.pass 201000000)] v ∧
    v.server.isCancelled = true ∧ v.Quiet (fun _ => Wire.near) ∧ v.Stuck (fun _ => Wire.near) 1 ∧
    ¬v.Stuck (fun _ => Wire.near) 2 ∧ (∃ w, v.server.step (.proceed 2) = some w ∧ w.force = true) ∧
    ∃ x, v.sessions.lookup 1 = some x ∧ x.fuel = 3 ∧
      ((x.polls v.server.now true [true, true, false]).echo.isOver = true ∨ ∃ rest,
        (x.polls v.server.now true [true, true, false]).echo.stage = .writing rest ∧
        (x.polls v.server.now true [true, true, false]).stream.inner.Full) := by
  have hbegin : Begins (σ := Wire) { server := { addr := "front", timeouts := {} } } := .intro "front" {}
  have hstart : Run (step fun _ => Wire.near) _ [] _ := hbegin.start
  have hrun := hstart.further [.server (.serve 1 (.ok "front")), .server (.accept 1 "slow"),
    .server (.accept 1 "idle"), .begin 1 (.fresh 1), .begin 2 (.fresh 1),
    .outside 1 (·.perform (.send [1])), .poll 1 true, .poll 1 true, .outside 1 (·.perform (.send [2])),
    .poll 1 true, .poll 1 true, .poll 2 true, .server (.shutdown 2 (.ofMillis 200)), .server (.resume 1),
    .server (.proceed 2), .poll 2 false, .finish 2 none, .server (.pass 201000000)] rfl
  have hkey := cancelled_ends_iff hbegin hrun rfl
  have hall := fun hquiet => And.intro hquiet (hkey hquiet)
  obtain ⟨hquiet, hstuck, hforces, hends⟩ := hall (quiet_of_mem
    (List.forall_mem_cons.2 ⟨rfl, List.forall_mem_nil _⟩)
    (List.forall_mem_cons.2 ⟨fun _ => rfl, List.forall_mem_cons.2 ⟨nofun, List.forall_mem_nil _⟩⟩)
    (List.forall_mem_cons.2 ⟨fun readFirst => by cases readFirst <;> rfl, List.forall_mem_cons.2
      ⟨fun readFirst => by cases readFirst <;> rfl, List.forall_mem_nil _⟩⟩))
  have hfirst := (hstuck 1).1 rfl
  have hforced := fun w => @hforces 2 _ _ _ w rfl (by decide +kernel) rfl
  refine ⟨_, _, hbegin, hrun, rfl, hquiet, hfirst, fun h => ?_,
    (Option.isSome_iff_exists.1 (by decide +kernel)).imp fun w hw => ⟨hw, (hforced w hw).2 ⟨1, hfirst⟩⟩,
    _, rfl, rfl, ?_⟩
  · cases (hstuck 2).2 h
  · exact hends (Nat.le_refl 3)

/-- The peer has sent two bytes, reads nothing, and there is room for one byte. After the close the handler waits for
room, nothing else can happen to it by itself, and when the grace is over it is forced. -/
theorem running_after_cancel : ∃ u v w x, Begins u ∧ u.server.timeouts = {} ∧ Run (step fun _ => Wire.near) u
      [.server (.serve 1 (.ok "front")), .server (.accept 1 "slow"), .begin 1 (.fresh 1),
        .outside 1 (·.perform (.send [1])), .poll 1 true, .poll 1 true, .outside 1 (·.perform (.send [2])),
        .poll 1 true, .poll 1 true, .server (.shutdown 2 (.ofMillis 200)), .server (.resume 1),
        .server (.proceed 2)] v ∧
    v.server.isCancelled = true ∧ v.Quiet (fun _ => Wire.near) ∧ v.sessions.lookup 1 = some x ∧
    x.echo.stage = .writing [2] ∧ v.server.active = 1 ∧
    Run (step fun _ => Wire.near) v [.server (.pass 201000000), .server (.proceed 2)] w ∧ w.server.force = true := by
  have hbegin : Begins (σ := Wire) { server := { addr := "front", timeouts := {} } } := .intro "front" {}
  have hstart : Run (step fun _ => Wire.near) _ [] _ := hbegin.start
  have hrun := hstart.further [.server (.serve 1 (.ok "front")), .server (.accept 1 "slow"), .begin 1 (.fresh 1),
    .outside 1 (·.perform (.send [1])), .poll 1 true, .poll 1 true, .outside 1 (·.perform (.send [2])),
    .poll 1 true, .poll 1 true, .server (.shutdown 2 (.ofMillis 200)), .server (.resume 1),
    .server (.proceed 2)] rfl
  have hforced := hrun.further [.server (.pass 201000000), .server (.proceed 2)] rfl
  refine ⟨_, _, _, _, hbegin, rfl, hrun, rfl, ?_, rfl, rfl, rfl, hforced, rfl⟩
  refine quiet_of_mem ?_ ?_ ?_
  · exact List.forall_mem_cons.2 ⟨rfl, List.forall_mem_nil _⟩
  · exact List.forall_mem_cons.2 ⟨nofun, List.forall_mem_nil _⟩
  · exact List.forall_mem_cons.2 ⟨fun readFirst => by cases readFirst <;> rfl, List.forall_mem_nil _⟩

end EchoServer
end PooledTcp
