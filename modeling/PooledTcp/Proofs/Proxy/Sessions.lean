import PooledTcp.Proofs.Pool.Handing
import PooledTcp.Proofs.Proxy.Moves
import PooledTcp.Proofs.Server.Tracked

/-!
# The life of a proxied connection

A proxy has a session for a connection only while the handler of the connection runs (`Seated`). In its
session the handler calls for a backend connection, is refused one or gets one, copies, and discards it;
then the connection is gone (`Life`). Only where the handler is dropped while it copies does the connection
go without the discard.

What happens to the pool, as long as it is not about the call of the handler, leaves the handler at its
point or answers the call (`Life.step`, `Life.handed_step`).
-/

namespace PooledTcp

/-- A session is that of a running handler. -/
structure ProxyServer.Seated (p : ProxyServer) : Prop where
  tracked : Server.Tracked p.server.table
  running : ∀ conn session, p.sessions.lookup conn = some session → p.server.table.Running conn

/-- What the handler of a connection took and what it discarded, by the point at which it waits. The
connection is counted no longer if `gone`; its handler was dropped with a backend connection only if
`dropped`. -/
inductive Life (p : Pool) (gone dropped : Prop) :
    Option ProxySession → List ConnId → List ConnId → Prop where
  | empty : Life p gone dropped none [] []
  | calling {call : CallId} {w : Option Pool.Patience} {stage : Pool.AcquireStage} :
    p.call? call = some (.acquire w stage) → p.answer? call = none →
    Life p gone dropped (some (.acquiring call)) [] []
  | refused {call : CallId} {err : PoolError} : p.Ended call (.acquired (.error err)) →
    Life p gone dropped (some (.acquiring call)) [] []
  | handed {call : CallId} {backend : ConnId} : p.Ended call (.acquired (.ok backend)) →
    Life p gone dropped (some (.acquiring call)) [backend] []
  | copying {backend : ConnId} : Life p gone dropped (some (.copying backend)) [backend] []
  | discarding {call : CallId} {backend : ConnId} :
    Life p gone dropped (some (.discarding call)) [backend] [backend]
  | finished {backend : ConnId} : gone → Life p gone dropped none [backend] [backend]
  | lost {backend : ConnId} : gone → dropped → Life p gone dropped none [backend] []

namespace ProxyServer

/-- The event drops the handler of the connection, with the backend connection that it copies from. -/
def Drops (p : ProxyServer) (conn : GuardId) : Event → Prop
  | .forced c _ _ _ => c = conn ∧ ∃ backend, p.sessions.lookup conn = some (.copying backend)
  | _ => False

variable {p q : ProxyServer} {e : Event} {conn : GuardId} {server : Server}

theorem lookup_hold_self (p : ProxyServer) (conn : GuardId) (session : ProxySession) :
    (p.hold conn session).sessions.lookup conn = some session :=
  lookup_put_self _ _ _

theorem lookup_hold_of_ne {other : GuardId} (h : other ≠ conn) (session : ProxySession) :
    (p.hold conn session).sessions.lookup other = p.sessions.lookup other :=
  lookup_put_of_ne h _ _

theorem lookup_without_self (p : ProxyServer) (conn : GuardId) (server : Server) :
    (p.without conn server).sessions.lookup conn = none :=
  lookup_filter_self _ _

theorem lookup_without_of_ne {other : GuardId} (h : other ≠ conn) (server : Server) :
    (p.without conn server).sessions.lookup other = p.sessions.lookup other :=
  lookup_filter_of_ne h _

/-- A connection that is gone does not come back. -/
theorem gone_step (h : p.server.table.Gone conn) (hmove : Move p e q) : q.server.table.Gone conn := by
  cases hmove with
  | server _ hserver => exact h.step hserver
  | begins _ hserver _ => exact h.step hserver
  | refused _ _ hserver | discarded _ hserver | givenUp _ _ hserver _ | dropped _ hserver
  | unheard _ hserver => exact h.step hserver
  | neverBegun _ hbegun hserver => exact (h.step hbegun).step hserver
  | pool _ | served _ _ | copied _ _ _ => exact h

/-- When the handler of a connection is over, the others go on. -/
theorem Seated.without {ending : Server.Ending} {failure : Option IoError} (h : p.Seated)
    (hserver : p.server.step (.finish conn ending failure) = some server) :
    (p.without conn server).Seated := by
  refine ⟨h.tracked.step hserver, fun c session hc => ?_⟩
  have hne : c ≠ conn := by
    rintro rfl
    cases (p.lookup_without_self c server).symm.trans hc
  rw [lookup_without_of_ne hne] at hc
  refine (h.running c session hc).step h.tracked hserver fun _ _ heq => ?_
  cases heq
  exact hne rfl

/-- When a handler moves on, it runs. -/
theorem Seated.hold {session : ProxySession} (h : p.Seated) (hrun : p.server.table.Running conn) :
    (p.hold conn session).Seated := by
  refine ⟨h.tracked, fun c other hc => ?_⟩
  by_cases hconn : c = conn
  · exact hconn ▸ hrun
  · rw [lookup_hold_of_ne hconn] at hc
    exact h.running c other hc

theorem Seated.onServer {e : Server.Event} (h : p.Seated) (hserver : p.server.step e = some server)
    (hnot : ∀ conn ending failure, e ≠ .finish conn ending failure) :
    Seated { p with server } :=
  ⟨h.tracked.step hserver, fun c session hc =>
    (h.running c session hc).step h.tracked hserver (hnot c)⟩

theorem Seated.onPool (h : p.Seated) (pool : Pool) : Seated { p with pool } :=
  ⟨h.tracked, h.running⟩

theorem Seated.step (h : p.Seated) (hmove : Move p e q) : q.Seated := by
  cases hmove with
  | @server e _ hnot hserver =>
    refine h.onServer hserver fun _ _ _ heq => ?_
    rw [heq] at hnot
    cases hnot
  | pool _ => exact h.onPool _
  | @begins _ _ _ pool _ hserver _ =>
    have hbegun := h.onServer hserver fun _ _ _ heq => by cases heq
    have hseated := hbegun.onPool pool
    exact hseated.hold (Server.running_of_begin hserver).2.2
  | served hsession _ => exact h.hold (h.running _ _ hsession)
  | copied hsession _ _ => exact (h.onPool _).hold (h.running _ _ hsession)
  | refused _ _ hserver | discarded _ hserver | dropped _ hserver | unheard _ hserver =>
    exact h.without hserver
  | givenUp _ _ hserver _ => exact (h.without hserver).onPool _
  | neverBegun _ hbegun hserver =>
    have hseated := h.onServer hbegun fun _ _ _ heq => by cases heq
    exact hseated.without hserver

end ProxyServer

namespace Life

variable {p q : Pool} {e : Pool.Event} {gone gone' dropped dropped' : Prop}
  {session : Option ProxySession} {taken given : List ConnId} {call : CallId} {backend : ConnId}

theorem mono (h : Life p gone dropped session taken given) (hgone : gone → gone')
    (hdropped : dropped → dropped') : Life p gone' dropped' session taken given := by
  cases h with
  | empty => exact .empty
  | calling hcall hanswer => exact .calling hcall hanswer
  | refused hend => exact .refused hend
  | handed hend => exact .handed hend
  | copying => exact .copying
  | discarding => exact .discarding
  | finished hg => exact .finished (hgone hg)
  | lost hg hd => exact .lost (hgone hg) (hdropped hd)

/-- A handler that calls waits, or is refused at once. -/
theorem of_acquire (hfresh : p.isFresh call = true) (hstep : p.step (.acquire call none) = some q) :
    Life q gone dropped (some (.acquiring call)) [] [] := by
  cases Pool.Move.of_step hstep with
  | acquire _ =>
    rcases Pool.turn_of_look p call none with ⟨stage, hcall, hanswer⟩ | ⟨err, hend⟩
    · exact .calling hcall (hanswer.trans (Pool.of_isFresh hfresh).2)
    · exact .refused hend

/-- What happens to the pool leaves a handler at its point, unless it is about the call of the handler. -/
theorem step (h : Life p gone dropped session taken given) (hstep : p.step e = some q)
    (hnot : ∀ call, session = some (.acquiring call) →
      call ∉ e.mentions ∧ ∀ backend, p.hands? e ≠ some (call, backend)) :
    Life q gone dropped session taken given := by
  cases h with
  | empty => exact .empty
  | calling hcall hanswer =>
    obtain ⟨hmention, hhands⟩ := hnot _ rfl
    cases Pool.turn_of_acquire hstep hcall hmention with
    | waits hcall' hsame _ => exact .calling hcall' (hsame.trans hanswer)
    | fails hend _ => exact .refused hend
    | gets _ hhand => exact absurd hhand (hhands _)
  | refused hend => exact .refused (hend.step hstep (hnot _ rfl).1)
  | handed hend => exact .handed (hend.step hstep (hnot _ rfl).1)
  | copying => exact .copying
  | discarding => exact .discarding
  | finished hg => exact .finished hg
  | lost hg hd => exact .lost hg hd

/-- A call that is handed a connection was in flight, and is answered with it. -/
theorem handed_step (h : Life p gone dropped (some (.acquiring call)) taken given)
    (hstep : p.step e = some q) (hnot : call ∉ e.mentions)
    (hhands : p.hands? e = some (call, backend)) :
    taken = [] ∧ given = [] ∧ q.Ended call (.acquired (.ok backend)) := by
  have hops := Pool.mem_ops_of_hands hhands
  cases h with
  | calling hcall _ =>
    cases Pool.turn_of_acquire hstep hcall hnot with
    | waits _ _ hno => exact absurd hhands (hno _)
    | fails _ hno => exact absurd hhands (hno _)
    | gets hend hhand =>
      cases hhands.symm.trans hhand
      exact ⟨rfl, rfl, hend⟩
  | refused hend | handed hend => exact absurd (Pool.mem_mentions hstep hops hend.1) hnot

/-- A call that is answered is in flight no more. -/
theorem call?_eq_none {a : Pool.Answer} (h : Life p gone dropped (some (.acquiring call)) taken given)
    (ha : p.answer? call = some a) : p.call? call = none := by
  cases h with
  | calling _ hanswer => cases hanswer.symm.trans ha
  | refused hend | handed hend => exact hend.1

/-- What a call is answered with was taken. -/
theorem of_handed (h : Life p gone dropped (some (.acquiring call)) taken given)
    (ha : p.answer? call = some (.acquired (.ok backend))) : taken = [backend] ∧ given = [] := by
  cases h with
  | calling _ hanswer => cases hanswer.symm.trans ha
  | refused hend => cases hend.2.symm.trans ha
  | handed hend =>
    cases hend.2.symm.trans ha
    exact ⟨rfl, rfl⟩

/-- A call that is refused took nothing. -/
theorem of_refused {err : PoolError} (h : Life p gone dropped (some (.acquiring call)) taken given)
    (ha : p.answer? call = some (.acquired (.error err))) : taken = [] ∧ given = [] := by
  cases h with
  | calling _ hanswer => cases hanswer.symm.trans ha
  | refused _ => exact ⟨rfl, rfl⟩
  | handed hend => cases hend.2.symm.trans ha

/-- A call in flight took nothing. -/
theorem of_calling (h : Life p gone dropped (some (.acquiring call)) taken given)
    (hflight : p.call? call ≠ none) : taken = [] ∧ given = [] := by
  cases h with
  | calling _ _ => exact ⟨rfl, rfl⟩
  | refused hend | handed hend => exact absurd hend.1 hflight

theorem of_copying (h : Life p gone dropped (some (.copying backend)) taken given) :
    taken = [backend] ∧ given = [] := by
  cases h with
  | copying => exact ⟨rfl, rfl⟩

/-- A handler that discards has given back what it took. -/
theorem of_discarding (h : Life p gone dropped (some (.discarding call)) taken given) :
    ∃ backend, taken = [backend] ∧ given = [backend] := by
  cases h with
  | discarding => exact ⟨_, rfl, rfl⟩

/-- A connection that is not gone, and for which no handler runs, took nothing. -/
theorem of_not_gone (h : Life p gone dropped none taken given) (hnot : ¬gone) :
    taken = [] ∧ given = [] := by
  cases h with
  | empty => exact ⟨rfl, rfl⟩
  | finished hg => exact absurd hg hnot
  | lost hg _ => exact absurd hg hnot

/-- What is discarded was taken. -/
theorem sublist (h : Life p gone dropped session taken given) : given.Sublist taken := by
  cases h with
  | lost _ _ | handed _ | copying => exact List.nil_sublist _
  | _ => exact List.Sublist.refl _

/-- Once a handler that was not dropped is over, what it took is what it discarded. -/
theorem eq_of_none (h : Life p gone False none taken given) : taken = given := by
  cases h with
  | empty => rfl
  | finished _ => rfl
  | lost _ hd => exact hd.elim

/-- Where a connection that is gone lost nothing, no handler was dropped with a backend connection. -/
theorem of_eq (h : Life p gone dropped session taken given) (heq : gone → taken = given) :
    Life p gone dropped' session taken given := by
  cases h with
  | empty => exact .empty
  | calling hcall hanswer => exact .calling hcall hanswer
  | refused hend => exact .refused hend
  | handed hend => exact .handed hend
  | copying => exact .copying
  | discarding => exact .discarding
  | finished hg => exact .finished hg
  | lost hg _ => cases heq hg

end Life
end PooledTcp
