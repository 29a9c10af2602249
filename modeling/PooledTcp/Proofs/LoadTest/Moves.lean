import PooledTcp.LoadTest.Basic

/-!
# What a load test can do next

`LoadTest.step` refuses most events in most states. `Move` lists what is left, one constructor for each event
and each point at which its client can wait for it; `Move.of_step` says that nothing else happens. A client
goes through one request after the other, and each way out of a request is a constructor of its own.
-/

namespace PooledTcp.LoadTest

/-- What an event can do to a load test, by the point at which its client is. -/
inductive Move (t : LoadTest) : Event → LoadTest → Prop where
  | pool {e : Pool.Event} {pool : Pool} : e.mentions = [] → t.pool.step e = some pool →
    Move t (.pool e) { t with pool }
  | begins {i : ClientId} {c : Client} {call : CallId} {pool : Pool} :
    t.clients.lookup i = some c → c.stage = .ready → 0 < c.left → t.pool.isFresh call = true →
    t.pool.step (.acquire call t.plan.patience) = some pool →
    Move t (.begin i call)
      ({ t with pool }.hold i { left := c.left, begunAt := t.pool.now } (.acquiring call))
  | got {i : ClientId} {c : Client} {call : CallId} {conn : ConnId} :
    t.clients.lookup i = some c → c.stage = .acquiring call →
    t.pool.answer? call = some (.acquired (.ok conn)) →
    Move t (.acquired i) (t.hold i c (.exchanging conn))
  | refused {i : ClientId} {c : Client} {call : CallId} {err : PoolError} :
    t.clients.lookup i = some c → c.stage = .acquiring call →
    t.pool.answer? call = some (.acquired (.error err)) →
    Move t (.acquired i) (t.finish i c (.ofPoolError err))
  /-- The exchange failed. -/
  | discards {i : ClientId} {c : Client} {call : CallId} {conn : ConnId} {cause : IoError}
      {pool : Pool} : t.clients.lookup i = some c → c.stage = .exchanging conn →
    t.pool.isFresh call = true → t.pool.step (.discard call conn) = some pool →
    Move t (.exchanged i call (.error cause)) ({ t with pool }.hold i c (.discarding call))
  /-- As many bytes came back as were sent. -/
  | releases {i : ClientId} {c : Client} {call : CallId} {conn : ConnId} {bytes : Bytes}
      {pool : Pool} : t.clients.lookup i = some c → c.stage = .exchanging conn →
    t.pool.isFresh call = true → bytes.length = t.plan.payload.length →
    t.pool.step (.release call conn) = some pool →
    Move t (.exchanged i call (.ok bytes))
      ({ t with pool }.hold i c (.releasing call (bytes == t.plan.payload)))
  | released {i : ClientId} {c : Client} {call : CallId} {matched : Bool} :
    t.clients.lookup i = some c → c.stage = .releasing call matched →
    t.pool.answer? call = some (.released (.ok ())) →
    Move t (.gaveAway i) (t.finish i c (.ofExchange matched))
  | releaseFailed {i : ClientId} {c : Client} {call : CallId} {matched : Bool} {err : PoolError} :
    t.clients.lookup i = some c → c.stage = .releasing call matched →
    t.pool.answer? call = some (.released (.error err)) →
    Move t (.gaveAway i) (t.finish i c (.ofPoolError err))
  | discarded {i : ClientId} {c : Client} {call : CallId} :
    t.clients.lookup i = some c → c.stage = .discarding call →
    t.pool.answer? call = some .discarded → Move t (.gaveAway i) (t.finish i c .failed)

/-- Nothing but a move happens. -/
theorem Move.of_step {t u : LoadTest} {e : Event} (h : t.step e = some u) : Move t e u := by
  cases e with
  | pool e =>
    simp only [step, Option.ite_none_right_eq_some, Option.map_eq_some_iff] at h
    obtain ⟨hnone, pool, hpool, rfl⟩ := h
    exact .pool (List.isEmpty_iff.1 hnone) hpool
  | «begin» i call =>
    simp only [step] at h
    split at h
    · rename_i left begunAt hfound
      simp only [Option.ite_none_right_eq_some, Option.map_eq_some_iff] at h
      obtain ⟨hfresh, pool, hpool, rfl⟩ := h
      exact .begins hfound rfl left.succ_pos hfresh hpool
    · cases h
  | acquired i =>
    simp only [step] at h
    split at h
    · rename_i c hfound
      split at h
      · rename_i call hstage
        split at h
        · rename_i conn hanswer
          cases h
          exact .got hfound hstage hanswer
        · rename_i err hanswer
          cases h
          exact .refused hfound hstage hanswer
        · cases h
      · cases h
    · cases h
  | exchanged i call reply =>
    simp only [step] at h
    split at h
    · rename_i c hfound
      split at h
      · rename_i conn hstage
        simp only [Option.ite_none_right_eq_some] at h
        obtain ⟨hfresh, h⟩ := h
        cases reply with
        | error cause =>
          obtain ⟨pool, hpool, rfl⟩ := Option.map_eq_some_iff.1 h
          exact .discards hfound hstage hfresh hpool
        | ok bytes =>
          simp only [Option.ite_none_right_eq_some, Option.map_eq_some_iff] at h
          obtain ⟨hlength, pool, hpool, rfl⟩ := h
          exact .releases hfound hstage hfresh hlength hpool
      · cases h
    · cases h
  | gaveAway i =>
    simp only [step] at h
    split at h
    · rename_i c hfound
      split at h
      · rename_i call matched hstage
        split at h
        · rename_i hanswer
          cases h
          exact .released hfound hstage hanswer
        · rename_i err hanswer
          cases h
          exact .releaseFailed hfound hstage hanswer
        · cases h
      · rename_i call hstage
        split at h
        · rename_i hanswer
          cases h
          exact .discarded hfound hstage hanswer
        · cases h
      · cases h
    · cases h

end PooledTcp.LoadTest
