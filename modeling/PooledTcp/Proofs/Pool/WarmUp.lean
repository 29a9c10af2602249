import PooledTcp.Proofs.Pool.Opened

/-!
# All first connections, or none

A new pool dials its first connections one after the other. Where all dials end well it is built with these
connections, in the order in which they were dialled. Where one does not, no further dial begins, every
connection opened so far is closed once, in the same order, and the failure is what the opening comes to.

`Stands` says what an opening has asked of the factory and at which stage it is, from what its dials came to and
how many of its closes have ended. It is kept by every answer (`Stands.dialed`, `Stands.closed`), so it holds at
every point of every opening (`stands_run`), and `CameTo` is what it says of one that has ended.
-/

namespace PooledTcp.Pool.Opening

/-- What a dial came to, if the event is the end of one. -/
def Event.dialResult? : Event → Option (Except IoError ConnId)
  | .dialed result => some result
  | _ => none

def Event.isClosed : Event → Bool
  | .closed => true
  | _ => false

/-- What the dials came to, first one first. -/
def dialResults (es : List Event) : List (Except IoError ConnId) := es.filterMap (·.dialResult?)

/-- How many closes have ended. -/
def closesIn (es : List Event) : Nat := es.countP (·.isClosed)

/-- The connection that an event brings, with the moment at which its dial ended. -/
def brings (o : Opening) : Event → List IdleEntry
  | .dialed (.ok conn) => [⟨conn, o.now⟩]
  | _ => []

/-- What was asked of the factory, first call first. -/
def asked (o : Opening) : List FactoryCall := o.history.reverse.filterMap fun n => n.call?.map (·.2)

/-- The pool, or why there is none, once the opening has ended. -/
def outcome? (o : Opening) : Option (Except PoolError Pool) :=
  match o.stage with
  | .failed cause => some (.error (.factory cause))
  | _ => o.pool?.map .ok

/-- Where an opening of `w` connections stands, if its dials brought `opened` and came to `results` and that many
of its closes have ended: what it asked, and its stage. -/
inductive Stands (w : Nat) (opened : List IdleEntry) :
    List (Except IoError ConnId) → Nat → List FactoryCall → OpeningStage → Prop where
  | dialing {left : Nat} : opened.length + (left + 1) = w →
    Stands w opened (opened.map (.ok ·.conn)) 0 (List.replicate (opened.length + 1) .dial)
      (.dialing left)
  | ready : opened.length = w →
    Stands w opened (opened.map (.ok ·.conn)) 0 (List.replicate w .dial) .ready
  | closing {done rest : List IdleEntry} {x : IdleEntry} {cause : IoError} :
    opened = done ++ x :: rest → opened.length < w →
    Stands w opened (opened.map (.ok ·.conn) ++ [.error cause]) done.length
      (List.replicate (opened.length + 1) .dial ++ (done ++ [x]).map (.close ·.conn))
      (.closing (x :: rest) cause)
  | failed {cause : IoError} : opened.length < w →
    Stands w opened (opened.map (.ok ·.conn) ++ [.error cause]) opened.length
      (List.replicate (opened.length + 1) .dial ++ opened.map (.close ·.conn)) (.failed cause)

/-- What an opening of `w` connections comes to, if its dials brought `opened` and came to `results`, and what it
asked for it. -/
inductive CameTo (w : Nat) (opened : List IdleEntry) :
    List (Except IoError ConnId) → List FactoryCall → Except PoolError Pool → Prop where
  | built {p : Pool} : opened.length = w → p.checkedOut = 0 → p.idle = some opened →
    opened.Pairwise (fun a b => a.returnedAt ≤ b.returnedAt) →
    CameTo w opened (opened.map (.ok ·.conn)) (List.replicate w .dial) (.ok p)
  | failed {cause : IoError} : opened.length < w →
    CameTo w opened (opened.map (.ok ·.conn) ++ [.error cause])
      (List.replicate (opened.length + 1) .dial ++ opened.map (.close ·.conn)) (.error (.factory cause))

variable {r : PoolRequest} {o o' : Opening} {w closes : Nat} {opened : List IdleEntry}
  {results : List (Except IoError ConnId)} {es : List Event} {cause : IoError}

section Answers

theorem asked_note (o : Opening) (n : Note) :
    (o.note n).asked = o.asked ++ (n.call?.map (·.2)).toList := by
  simp only [asked, note, List.reverse_cons, List.filterMap_append]
  cases hcall : n.call? <;> simp [hcall]

@[simp] theorem opened_goOn (o : Opening) (left : Nat) : (o.goOn left).opened = o.opened := by
  cases left <;> rfl

@[simp] theorem opened_closeNext (o : Opening) (cause : IoError) (rest : List IdleEntry) :
    (o.closeNext cause rest).opened = o.opened := by
  cases rest <;> rfl

/-- With `left` dials to make it begins the next one, or is ready. -/
theorem stands_goOn {left : Nat} (hlen : o.opened.length + left = w)
    (hasked : o.asked = List.replicate o.opened.length .dial) :
    Stands w o.opened (o.opened.map (.ok ·.conn)) 0 (o.goOn left).asked (o.goOn left).stage := by
  cases left with
  | zero =>
    have hsame : (o.goOn 0).asked = o.asked := by
      rw [goOn, complete, asked_note, asked_note]
      exact (List.append_nil _).trans (List.append_nil _)
    obtain rfl : o.opened.length = w := hlen
    rw [hsame, hasked]
    exact .ready rfl
  | succ left =>
    have hmore : (o.goOn (left + 1)).asked = List.replicate (o.opened.length + 1) .dial := by
      rw [goOn, dial, asked_note, List.replicate_succ', ← hasked]
      rfl
    rw [hmore]
    exact .dialing hlen

/-- With `rest` to close it begins the next close, or has failed. -/
theorem stands_closeNext (cause : IoError) {done rest : List IdleEntry} (hsplit : o.opened = done ++ rest)
    (hlen : o.opened.length < w)
    (hasked : o.asked = List.replicate (o.opened.length + 1) .dial ++ done.map (.close ·.conn)) :
    Stands w o.opened (o.opened.map (.ok ·.conn) ++ [.error cause]) done.length
      (o.closeNext cause rest).asked (o.closeNext cause rest).stage := by
  cases rest with
  | nil =>
    obtain rfl : done = o.opened := by rw [hsplit, List.append_nil]
    have hsame : (o.closeNext cause []).asked = o.asked := rfl
    rw [hsame, hasked]
    exact .failed hlen
  | cons x rest =>
    have hmore : (o.closeNext cause (x :: rest)).asked =
        List.replicate (o.opened.length + 1) .dial ++ (done ++ [x]).map (.close ·.conn) := by
      rw [closeNext, asked_note, List.map_append, ← List.append_assoc, ← hasked]
      rfl
    rw [hmore]
    exact .closing hsplit hlen

theorem Stands.dialed {result : Except IoError ConnId}
    (h : Stands w o.opened results closes o.asked o.stage) (hstep : o.dialed result = some o') :
    Stands w o'.opened (results ++ [result]) closes o'.asked o'.stage ∧
      o'.opened = o.opened ++ o.brings (.dialed result) := by
  unfold Opening.dialed at hstep
  split at hstep
  · rename_i left hstage
    -- what was asked so far, kept as an equation for the next call to extend
    generalize hasked : o.asked = asked at h
    rw [hstage] at h
    cases h with
    | dialing hlen =>
      cases result with
      | ok conn =>
        cases hstep
        generalize hgrown : { o with opened := o.opened ++ [IdleEntry.mk conn o.now] } = u
        have hopened : u.opened = o.opened ++ [⟨conn, o.now⟩] := by rw [← hgrown]
        have hsame : u.asked = List.replicate u.opened.length .dial := by
          rw [hopened, List.length_append, ← hgrown]
          exact hasked
        have hgrows : u.opened.length + left = w := by
          rw [hopened, List.length_append, List.length_singleton]
          omega
        have hstands := stands_goOn hgrows hsame
        rw [opened_goOn]
        refine ⟨?_, hopened⟩
        simpa [hopened] using hstands
      | error cause =>
        cases hstep
        have hsame : (o.note (.logged (.warmUpFailed cause o.opened.length))).asked =
            List.replicate (o.opened.length + 1) .dial ++ ([] : List IdleEntry).map (.close ·.conn) := by
          rw [asked_note, hasked]
          rfl
        have hless : o.opened.length < w := by omega
        have hsplit : (o.note (.logged (.warmUpFailed cause o.opened.length))).opened = [] ++ o.opened := rfl
        rw [opened_closeNext]
        exact ⟨stands_closeNext cause hsplit hless hsame, (List.append_nil _).symm⟩
  · cases hstep

theorem Stands.closed (h : Stands w o.opened results closes o.asked o.stage)
    (hstep : o.closed = some o') :
    Stands w o'.opened results (closes + 1) o'.asked o'.stage ∧ o'.opened = o.opened := by
  unfold Opening.closed at hstep
  split at hstep
  · rename_i x rest cause hstage
    generalize hasked : o.asked = asked at h
    rw [hstage] at h
    cases h with
    | @closing done _ _ _ hsplit hlen =>
      cases hstep
      have hmore : o.opened = (done ++ [x]) ++ rest := by simp [hsplit]
      have hnext := stands_closeNext cause hmore hlen hasked
      rw [opened_closeNext]
      exact ⟨by simpa using hnext, rfl⟩
  · cases hstep

/-- Every event leads from where an opening stands to where it stands next. -/
theorem Stands.step {e : Event} (h : Stands w o.opened results closes o.asked o.stage)
    (hstep : o.step e = some o') :
    Stands w o'.opened (results ++ e.dialResult?.toList) (closes + [e].countP (·.isClosed)) o'.asked
      o'.stage ∧ o'.opened = o.opened ++ o.brings e := by
  cases e with
  | dialed result => exact h.dialed hstep
  | closed =>
    obtain ⟨hnext, hsame⟩ := h.closed hstep
    refine ⟨?_, by rw [hsame]; exact (List.append_nil _).symm⟩
    simpa [Event.dialResult?, Event.isClosed] using hnext
  | pass nanos =>
    cases hstep
    have hsame : Stands w (o.pass nanos).opened results closes (o.pass nanos).asked
      (o.pass nanos).stage := h
    refine ⟨?_, (List.append_nil _).symm⟩
    simpa [Event.dialResult?, Event.isClosed] using hsame

end Answers

section Openings

/-- With an address, a factory and room for the queue an opening begins. -/
theorem start_eq_ok {addr : String} {entryBytes : Nat} (now : Nat) (haddr : addr ≠ "")
    (hroom : r.limits.maxIdle * entryBytes ≤ maxAllocation) :
    start addr r true entryBytes now = .ok (goOn
      { addr, limits := r.limits, now, opened := [], stage := .ready, history := [] } r.limits.warm) := by
  have hnonempty : ¬addr.isEmpty = true := by simpa using haddr
  simp only [start, if_neg hnonempty, PoolRequest.normalize, if_true, if_neg (Nat.not_lt.2 hroom)]

/-- An opening that begins has opened nothing. -/
theorem stands_start {addr : String} {hasFactory : Bool} {entryBytes now : Nat}
    (h : start addr r hasFactory entryBytes now = .ok o) :
    Stands r.limits.warm o.opened [] 0 o.asked o.stage ∧ o.opened = [] := by
  simp only [start, PoolRequest.normalize] at h
  split at h
  · cases h
  · cases hasFactory with
    | false => cases h
    | true =>
      simp only [if_true] at h
      split at h
      · cases h
      · cases h
        rw [opened_goOn]
        exact ⟨stands_goOn (Nat.zero_add _) rfl, rfl⟩

/-- At every point of an opening. -/
theorem stands_run {addr : String} {hasFactory : Bool} {entryBytes now : Nat}
    (h : start addr r hasFactory entryBytes now = .ok o) (hrun : Run step o es o') :
    Stands r.limits.warm o'.opened (dialResults es) (closesIn es) o'.asked o'.stage ∧
      o'.opened = along step brings o es := by
  refine (hrun.induction_last (P := fun es o' => Run step o es o' ∧
    Stands r.limits.warm o'.opened (dialResults es) (closesIn es) o'.asked o'.stage ∧
      o'.opened = along step brings o es) ⟨.nil o, stands_start h⟩ ?_).2
  rintro fs e u v ⟨hu, hstands, hopened⟩ hstep
  obtain ⟨hnext, hgrown⟩ := hstands.step hstep
  refine ⟨hu.append (.cons hstep (.nil v)), ?_, ?_⟩
  · rw [dialResults, closesIn, List.filterMap_append, List.countP_append]
    have hone : [e].filterMap (·.dialResult?) = e.dialResult?.toList := by
      cases hres : e.dialResult? <;> simp [hres]
    rw [hone]
    exact hnext
  · rw [hgrown, hopened, hu.along_concat]

/-- A dial is answered once for each connection wanted at most, and fewer closes follow. -/
theorem Stands.answers_le {asked : List FactoryCall} {stage : OpeningStage}
    (h : Stands w opened results closes asked stage) : results.length + closes ≤ 2 * w := by
  cases h with
  | dialing _ | ready _ | failed _ =>
    simp only [List.length_append, List.length_map, List.length_singleton]
    omega
  | closing hsplit _ =>
    have hlen := congrArg List.length hsplit
    simp only [List.length_append, List.length_map, List.length_cons, List.length_nil] at hlen ⊢
    omega

/-- An opening that has not ended waits for a dial or for a close, and goes on with any answer. -/
theorem Stands.goes_on (h : Stands w opened results closes o.asked o.stage) (hout : o.outcome? = none) :
    (∀ result, (o.step (.dialed result)).isSome) ∨ (o.step .closed).isSome := by
  generalize o.asked = asked at h
  generalize hstage : o.stage = stage at h
  cases h with
  | dialing _ =>
    refine .inl fun result => ?_
    cases result <;> simp [Opening.step, Opening.dialed, hstage]
  | closing _ _ => exact .inr (by simp [Opening.step, Opening.closed, hstage])
  | ready _ | failed _ => simp [outcome?, pool?, hstage] at hout

/-- What an opening that has ended came to. -/
theorem Stands.cameTo {res : Except PoolError Pool}
    (h : Stands w o.opened results closes o.asked o.stage) (hord : InOrder o.now o.opened)
    (hout : o.outcome? = some res) : CameTo w o.opened results o.asked res := by
  generalize o.asked = asked at h
  generalize hstage : o.stage = stage at h
  cases h with
  | ready hlen =>
    simp only [outcome?, pool?, hstage, Option.map_some, Option.some.injEq] at hout
    obtain rfl := hout
    exact .built (p := { o with .. }) hlen rfl rfl hord.1
  | failed hlen =>
    simp only [outcome?, hstage, Option.some.injEq] at hout
    subst hout
    exact .failed hlen
  | dialing _ | closing _ _ => simp [outcome?, pool?, hstage] at hout

end Openings

/-- Without an address or without a factory an opening does not even begin. With both, and with room for the
queue, it begins, and at any point of it, whatever the dials and the closes come to and however long they take,
it has made the dials and then the closes that `Stands` lists. What it comes to is the failure of the first dial
that failed, or the pool with exactly the connections that were dialled, none of them checked out. It gets there:
until then it goes on with any answer, and there are no more answers than twice the connections wanted. -/
theorem warm_up_all_or_nothing (r : PoolRequest) (entryBytes now : Nat) :
    (∀ addr hasFactory, addr = "" ∨ hasFactory = false →
      ∃ reason, start addr r hasFactory entryBytes now = .error (.refused (.config reason))) ∧
    ∀ addr, addr ≠ "" → r.limits.maxIdle * entryBytes ≤ maxAllocation →
      ∃ o, start addr r true entryBytes now = .ok o ∧ ∀ es o', Run step o es o' →
        Stands r.limits.warm (along step brings o es) (dialResults es) (closesIn es) o'.asked o'.stage ∧
        (∀ res, o'.outcome? = some res →
          CameTo r.limits.warm (along step brings o es) (dialResults es) o'.asked res) ∧
        (o'.outcome? = none →
          (∀ result, (o'.step (.dialed result)).isSome) ∨ (o'.step .closed).isSome) ∧
        (dialResults es).length + closesIn es ≤ 2 * r.limits.warm := by
  constructor
  · intro addr hasFactory hmissing
    by_cases haddr : addr = ""
    · exact ⟨_, by simp [start, haddr]; rfl⟩
    · have hnone : hasFactory = false := hmissing.resolve_left haddr
      exact ⟨_, by simp [start, haddr, hnone, PoolRequest.normalize]; rfl⟩
  · intro addr haddr hroom
    refine ⟨_, start_eq_ok now haddr hroom, fun es o' hrun => ?_⟩
    have hstart := start_eq_ok now haddr hroom
    obtain ⟨hstands, hopened⟩ := stands_run hstart hrun
    have hsound := hrun.keeps (P := Sound r) (fun _ _ _ => sound_step) (sound_start hstart)
    rw [← hopened]
    exact ⟨hstands, fun res => hstands.cameTo hsound.inOrder, hstands.goes_on, hstands.answers_le⟩

/-- Three connections are wanted. The third dial fails, and the two that are open are closed in order. -/
theorem warm_up_undone_at_third_dial : ∃ o o', "mem" ≠ "" ∧
    (PoolRequest.limits ⟨3, 3, 3, .zero⟩).maxIdle * 24 ≤ maxAllocation ∧
    start "mem" ⟨3, 3, 3, .zero⟩ true 24 0 = .ok o ∧
    Run step o [.dialed (.ok 0), .pass 5, .dialed (.ok 1), .dialed (.error (.raised .other "refused")), .closed,
      .closed] o' ∧
    o'.asked = [.dial, .dial, .dial, .close 0, .close 1] ∧
    o'.outcome? = some (.error (.factory (.raised .other "refused"))) ∧
    CameTo 3 [⟨0, 0⟩, ⟨1, 5⟩] [.ok 0, .ok 1, .error (.raised .other "refused")] o'.asked
      (.error (.factory (.raised .other "refused"))) := by
  have haddr : "mem" ≠ "" := by decide
  have hroom : (PoolRequest.limits ⟨3, 3, 3, .zero⟩).maxIdle * 24 ≤ maxAllocation := by decide
  obtain ⟨o, hstart, hall⟩ := (warm_up_all_or_nothing ⟨3, 3, 3, .zero⟩ 24 0).2 "mem" haddr hroom
  cases hstart
  have hrun : Run step (goOn ⟨"mem", PoolRequest.limits ⟨3, 3, 3, .zero⟩, 0, [], .ready, []⟩ 3)
      [.dialed (.ok 0), .pass 5, .dialed (.ok 1), .dialed (.error (.raised .other "refused")), .closed,
        .closed] _ := .of_foldlM rfl
  obtain ⟨-, hcame, -, -⟩ := hall _ _ hrun
  exact ⟨_, _, haddr, hroom, rfl, hrun, rfl, rfl, hcame _ rfl⟩

end PooledTcp.Pool.Opening
