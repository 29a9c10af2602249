import PooledTcp.Proofs.Pool.Counters
import PooledTcp.Proofs.Pool.Fates

/-!
# The books of a pool

Against what was decided about the entries that acquires took (`verdicts`) stand the counters and the answers
of the pool, the closes that its operations began, and what is still pinged or left to a task. One event adds
to both sides alike (`booked_step`), so the books agree after any run (`books_run`): the counters tell the
truth, and no entry is lost (`counters_truthful`). The entries that come to a bad end are those that are
dropped (`entry_dropped`).
-/

namespace PooledTcp.Pool

/-- The connection that an event brings to the acquire that dialled it. -/
def brings (_ : Pool) : Event → List (CallId × ConnId)
  | .dialed id (.ok conn) => [(id, conn)]
  | _ => []

/-- The operation that begins to close a connection, and the connection. -/
def Note.closer? : Note → Option (CallId × ConnId)
  | .called id (.close conn) => some (id, conn)
  | _ => none

/-- The closes that operations began, latest first. -/
def closings (p : Pool) : List (CallId × ConnId) := p.history.filterMap (·.closer?)

/-- The close that an event begins for an operation that is no acquire: a release with no room or with
nothing checked out, a discard, a shutdown, or a task. -/
def closesElse (p : Pool) : Event → List (CallId × ConnId)
  | .release id conn => if p.hasRoom ∧ p.checkedOut ≠ 0 then [] else [(id, conn)]
  | .discard id conn => [(id, conn)]
  | .shutdown id => (p.front id).map fun t => (t.1, t.2.conn)
  | .closed id _ =>
    match p.call? id with
    | some (.shutdown _ (x :: _)) => [(id, x.conn)]
    | _ => []
  | .tidy id =>
    match p.call? id with
    | some (.abandoned conn) => [(id, conn)]
    | _ => []
  | _ => []

/-- The connection that a task has yet to close. -/
def leaving (_ : CallId) : Call → List ConnId
  | .abandoned conn => [conn]
  | _ => []

/-- The connections that tasks have yet to close. -/
def leavings (p : Pool) : List ConnId := gather leaving p

/-- The connection that a task begins to close. -/
def tidies (p : Pool) : Event → List ConnId
  | .tidy id => gatherOf leaving p id
  | _ => []

/-- The counters are what was decided, and nothing that was taken is lost. -/
structure Truthful (p : Pool) (es : List Event) (q : Pool) : Prop where
  total : q.acquireTotal .idle + q.acquireTotal .new = q.returns.length
  new : q.acquireTotal .new = (along step brings p es).length
  idle : q.acquireTotal .idle = (withFate .reused (along step verdicts p es)).length
  evicted : ∀ r, q.evictedTotal r = (withFate (.evicted r) (along step verdicts p es)).length
  returns : q.returns.Perm (along step brings p es ++
    (withFate .reused (along step verdicts p es)).map (·.conn))
  closings : q.closings.Perm ((evictions (along step verdicts p es)).map (·.conn) ++
    along step closesElse p es)
  taken : (along step takes p es).Perm ((along step verdicts p es).map (·.taken) ++ q.pings)
  left : ((withFate .left (along step verdicts p es)).map (·.conn.2)).Perm
    (along step tidies p es ++ q.leavings)

variable {r : PoolRequest} {p q : Pool} {id task : CallId} {e : Event} {es : List Event}

theorem withFate_append (f : Fate) (l l' : List Verdict) :
    withFate f (l ++ l') = withFate f l ++ withFate f l' :=
  List.filter_append l l'

theorem evictions_append (l l' : List Verdict) :
    evictions (l ++ l') = evictions l ++ evictions l' :=
  List.filter_append l l'

theorem pinging_notify (id : CallId) (c : Call) : pinging id c.notify = pinging id c := by
  rw [pinging, pinging, Call.pinged?_notify]

theorem pinging_of_kind {c : Call} (h : c.kind ≠ .acquire) : pinging id c = [] := by
  cases c with
  | acquire w stage => exact absurd rfl h
  | _ => rfl

theorem leaving_notify (id : CallId) (c : Call) : leaving id c.notify = leaving id c := by
  cases c with
  | acquire w stage => cases w <;> rfl
  | _ => rfl

theorem leaving_of_kind {c : Call} (h : c.kind ≠ .leftover) : leaving id c = [] := by
  cases c with
  | abandoned conn => exact absurd rfl h
  | _ => rfl

section Told

/-- What notes say of connections that were brought and of verdicts. -/
structure Told (notes : List Note) (brought : List (CallId × ConnId)) (verdicts : List Verdict) :
    Prop where
  new : notes.countP (·.isAcquired .new) = brought.length
  idle : notes.countP (·.isAcquired .idle) = (withFate .reused verdicts).length
  evicted : ∀ r, notes.countP (·.isEvicted r) = (withFate (.evicted r) verdicts).length
  returned : (notes.filterMap (·.returned?)).Perm
    (brought ++ (withFate .reused verdicts).map (·.conn))

theorem Told.nil : Told [] [] [] := ⟨rfl, rfl, fun _ => rfl, .refl _⟩

/-- Later notes stand before earlier ones. -/
theorem Told.append {notes notes' : List Note} {brought brought' : List (CallId × ConnId)}
    {verdicts verdicts' : List Verdict} (h : Told notes brought verdicts)
    (h' : Told notes' brought' verdicts') :
    Told (notes' ++ notes) (brought ++ brought') (verdicts ++ verdicts') where
  new := by rw [List.countP_append, h.new, h'.new, List.length_append, Nat.add_comm]
  idle := by
    rw [List.countP_append, h.idle, h'.idle, withFate_append, List.length_append, Nat.add_comm]
  evicted r := by
    rw [List.countP_append, h.evicted, h'.evicted, withFate_append, List.length_append, Nat.add_comm]
  returned := by
    refine List.perm_iff_count.2 fun a => ?_
    have hcount := h.returned.count_eq a
    have hcount' := h'.returned.count_eq a
    simp only [List.filterMap_append, withFate_append, List.map_append, List.count_append]
      at hcount hcount' ⊢
    omega

end Told

section Looking

/-- What an acquire that looks takes, it evicts or pings. -/
theorem front_eq (p : Pool) (id : CallId) (w : Option Patience) :
    p.front id = (p.stales id).map (·.taken) ++ gatherOf pinging (p.look id w) id := by
  have h := p.looked id w
  generalize p.look id w = q at h ⊢
  cases h with
  | refused hidle => simp only [front, stales, hidle, gatherOf_finish]; rfl
  | rejected hidle _ => simp only [front, stales, hidle, gatherOf_finish]; rfl
  | parked hidle _ | dials hidle _ => simp only [front, stales, hidle, gatherOf_hold]; rfl
  | evicts hidle hstale | pings hidle hstale =>
    simp [front, stales, hidle, hstale, gatherOf_hold, pinging, Call.pinged?]

/-- An acquire that looks closes what it evicts. -/
theorem closings_look (p : Pool) (id : CallId) (w : Option Patience) :
    (p.look id w).closings = (p.stales id).map (·.conn) ++ p.closings := by
  have h := p.looked id w
  generalize p.look id w = q at h ⊢
  cases h with
  | refused hidle | rejected hidle _ | parked hidle _ | dials hidle _ =>
    simp [closings, Note.closer?, stales, front, hidle]
  | evicts hidle hstale | pings hidle hstale =>
    simp [closings, Note.closer?, stales, front, hidle, hstale, took, Verdict.conn]

theorem told_stales (p : Pool) (id : CallId) (patient : Bool) :
    Told (p.lookMarks id patient) [] (p.stales id) := by
  cases hidle : p.idle with
  | none => simpa [lookMarks, stales, front, hidle] using Told.nil
  | some queue =>
    cases queue with
    | nil =>
      simp only [lookMarks, stales, front, hidle]
      split
      · cases patient
        · exact ⟨rfl, rfl, fun _ => rfl, .refl _⟩
        · exact ⟨rfl, rfl, fun _ => rfl, .refl _⟩
      · exact .nil
    | cons x rest =>
      cases hstale : p.isStale x with
      | false => simpa [lookMarks, stales, front, hidle, hstale] using Told.nil
      | true =>
        have hmarks : p.lookMarks id patient = [.evicted .stale] := by
          simp [lookMarks, hidle, hstale]
        have hstales : p.stales id = [⟨(id, x), .evicted .stale⟩] := by
          simp [stales, front, hidle, hstale]
        rw [hmarks, hstales]
        exact ⟨rfl, rfl, fun r => by cases r <;> rfl, .refl _⟩

/-- Whoever finds an entry too old evicts it, and decides nothing else. -/
theorem evictions_stales (p : Pool) (id : CallId) : evictions (p.stales id) = p.stales id := by
  refine List.filter_eq_self.2 fun v hv => ?_
  obtain ⟨t, -, rfl⟩ := List.mem_map.1 hv
  rfl

theorem left_stales (p : Pool) (id : CallId) : withFate .left (p.stales id) = [] := by
  refine List.filter_eq_nil_iff.2 fun v hv => ?_
  obtain ⟨t, -, rfl⟩ := List.mem_map.1 hv
  simp

end Looking

section Booked

theorem pinging_eq_nil {k : Kind} (h : p.Serves id k) (hk : k ≠ .acquire) :
    gatherOf pinging p id = [] :=
  h.gatherOf_eq_nil fun _ hkind => pinging_of_kind (hkind ▸ hk)

theorem leaving_eq_nil {k : Kind} (h : p.Serves id k) (hk : k ≠ .leftover) :
    gatherOf leaving p id = [] :=
  h.gatherOf_eq_nil fun _ hkind => leaving_of_kind (hkind ▸ hk)

/-- What an event tells, closes, takes and leaves, against what it decides. -/
structure Booked (p : Pool) (e : Event) (q : Pool) : Prop where
  told : Told (p.marksOf e) (p.brings e) (p.verdicts e)
  closings : q.closings = (evictions (p.verdicts e)).map (·.conn) ++ p.closesElse e ++ p.closings
  taken : p.takes e ++ e.ops.flatMap (gatherOf pinging p) =
    (p.verdicts e).map (·.taken) ++ e.ops.flatMap (gatherOf pinging q)
  left : (withFate .left (p.verdicts e)).map (·.conn.2) ++ e.ops.flatMap (gatherOf leaving p) =
    p.tidies e ++ e.ops.flatMap (gatherOf leaving q)

theorem closings_giveBack (p : Pool) : p.giveBack.closings = p.closings := by
  simp [closings]

theorem closings_sayCloseFailed (p : Pool) (failure : Option IoError) :
    (p.sayCloseFailed failure).closings = p.closings := by
  cases failure <;> rfl

/-- An event in which an acquire looks brings and tidies nothing, and closes nothing for anybody else. -/
theorem nothing_else_of_looker (h : p.looker? e = some id) :
    p.brings e = [] ∧ p.closesElse e = [] ∧ p.tidies e = [] := by
  cases e with
  | acquire i _ | retry i => exact ⟨rfl, rfl, rfl⟩
  | closed i failure =>
    simp only [looker?] at h
    split at h
    · rename_i hid
      exact ⟨rfl, by simp [closesElse, hid], rfl⟩
    · cases h
  | _ => cases h

/-- An acquire that looks in a pool which differs from `p` at most in its slots and in who was told. -/
theorem booked_look {s : Pool} {w : Option Patience} (hlooker : p.looker? e = some id)
    (hmarks : p.marksOf e = s.lookMarks id w.isSome) (hidle : s.idle = p.idle)
    (hnow : s.now = p.now) (hlimits : s.limits = p.limits) (hclosings : s.closings = p.closings)
    (hpinging : gatherOf pinging p id = []) (hleaving : gatherOf leaving p id = []) :
    Booked p e (s.look id w) := by
  obtain ⟨hops, hverdicts⟩ := of_looker hlooker
  obtain ⟨hbrings, helse, htidies⟩ := nothing_else_of_looker hlooker
  have hstales : s.stales id = p.stales id := stales_congr hidle hnow hlimits id
  have hleaving' := leaving_eq_nil (serves_look s id w) (by decide)
  constructor
  · rw [hmarks, hbrings, hverdicts, ← hstales]
    exact told_stales s id w.isSome
  · rw [closings_look, hverdicts, evictions_stales, helse, hclosings, hstales, List.append_nil]
  · have hfront := front_eq s id w
    rw [front_congr hidle, hstales] at hfront
    simpa [takes, hlooker, hops, hpinging, hverdicts] using hfront
  · simp [hops, hleaving, hleaving', hverdicts, left_stales, htidies]

/-- An event for one operation that decides nothing and has nothing to do with what was taken. -/
theorem booked_quiet (hops : e.ops = [id]) (htakes : p.takes e = []) (hverdicts : p.verdicts e = [])
    (hmarks : Told (p.marksOf e) (p.brings e) []) (htidies : p.tidies e = [])
    (hclosings : q.closings = p.closesElse e ++ p.closings)
    (hpinging : gatherOf pinging p id = [] ∧ gatherOf pinging q id = [])
    (hleaving : gatherOf leaving p id = [] ∧ gatherOf leaving q id = []) : Booked p e q := by
  constructor
  · rwa [hverdicts]
  · rw [hclosings, hverdicts]
    rfl
  · simp [hops, htakes, hverdicts, hpinging]
  · simp [hops, hverdicts, hleaving, htidies, withFate]

theorem closings_drain (p : Pool) (id : CallId) (rest : List IdleEntry) :
    (p.drain id rest).closings = (rest.head?.toList.map fun x => (id, x.conn)) ++ p.closings := by
  cases rest <;> simp [drain, closings, Note.closer?]

theorem closings_release (p : Pool) (id : CallId) (conn : ConnId) :
    (p.release id conn).closings = p.closesElse (.release id conn) ++ p.closings := by
  cases hidle : p.idle with
  | none => simp [release, closesElse, hasRoom, closings, Note.closer?, hidle]
  | some idle =>
    by_cases hout : p.checkedOut = 0
    · simp [release, closesElse, hasRoom, closings, Note.closer?, hidle, hout]
    · by_cases hroom : idle.length < p.limits.maxIdle
      · simp [release, closesElse, hasRoom, closings, Note.closer?, hidle, hout, hroom]
      · simp [release, closesElse, hasRoom, closings, Note.closer?, hidle, hout, hroom]

theorem closings_shutdown (p : Pool) (id : CallId) :
    (p.shutdown id).closings = p.closesElse (.shutdown id) ++ p.closings := by
  cases hidle : p.idle with
  | none => simp [shutdown, closesElse, front, closings, Note.closer?, hidle]
  | some idle =>
    simp only [shutdown, hidle, closings_drain]
    cases idle <;> simp [closesElse, front, closings, Note.closer?, hidle]

theorem closings_leave (p : Pool) (conn : ConnId) (canSpawn : Bool) (task : CallId) :
    (p.leave conn canSpawn task).closings = p.closings := by
  cases canSpawn <;> simp [leave, closings, Note.closer?]

theorem closings_cancel (p : Pool) (id task : CallId) (canSpawn : Bool) (stage : AcquireStage) :
    (p.cancel id canSpawn task stage).closings = p.closings := by
  cases stage with
  | pinging x =>
    rw [cancel, reclaim_eq]
    split
    · simp [closings, Note.closer?]
    · rw [closings_leave]
      simp [closings, Note.closer?]
  | _ => simp [cancel, closings, Note.closer?]

/-- The entry of an acquire that is given up goes to a task exactly where this is its fate. -/
theorem leaving_cancel (hne : id ≠ task) (hnone : p.call? task = none) (canSpawn : Bool)
    (w : Option Patience) (stage : AcquireStage) :
    gatherOf leaving (p.cancel id canSpawn task stage) task =
      if p.fateOfGivenUp canSpawn = .left then (pinging id (.acquire w stage)).map (·.2.conn)
      else [] := by
  have hend : (p.finish id .cancelled).call? task = none :=
    (call?_finish_of_ne hne.symm _).trans hnone
  have hfreed : (p.finish id .cancelled).giveBack.call? task = none := by
    rw [giveBack, call?_notifyAll]
    exact congrArg (Option.map Call.notify) hend
  have hroom : (p.finish id .cancelled).hasRoom = p.hasRoom := rfl
  cases stage with
  | pinging x =>
    rw [cancel, reclaim_eq, hroom, fateOfGivenUp]
    cases p.hasRoom with
    | true => exact gatherOf_of_none hfreed
    | false =>
      cases canSpawn with
      | true => exact gatherOf_hold _ _ _
      | false => exact gatherOf_of_none hfreed
  | parked => exact (gatherOf_of_none hend).trans (ite_self []).symm
  | _ => exact (gatherOf_of_none hfreed).trans (ite_self []).symm

theorem fateOfGivenUp_eq (p : Pool) (canSpawn : Bool) : p.fateOfGivenUp canSpawn = .restored ∨
    p.fateOfGivenUp canSpawn = .left ∨ p.fateOfGivenUp canSpawn = .dropped := by
  unfold fateOfGivenUp
  cases p.hasRoom <;> cases canSpawn <;> simp

theorem booked_cancel {w : Option Patience} {stage : AcquireStage}
    (hid : p.call? id = some (.acquire w stage)) (htask : p.call? task = none) (canSpawn : Bool) :
    Booked p (.cancel id canSpawn task) (p.cancel id canSpawn task stage) := by
  have hne : id ≠ task := by
    rintro rfl
    cases hid.symm.trans htask
  have hend := (ended_cancel hne p canSpawn stage).1
  have hpinging : gatherOf pinging (p.cancel id canSpawn task stage) task = [] := by
    cases hcall : (p.cancel id canSpawn task stage).call? task with
    | none => exact gatherOf_of_none hcall
    | some c =>
      rw [gatherOf_of_call? hcall]
      exact pinging_of_kind (kind_of_cancel hne htask hcall ▸ by decide)
  have hverdicts : p.verdicts (.cancel id canSpawn task) =
      (pinging id (.acquire w stage)).map (⟨·, p.fateOfGivenUp canSpawn⟩) := by
    rw [verdicts, gatherOf_of_call? hid]
  have hdecided : Told [] [] (p.verdicts (.cancel id canSpawn task)) ∧
      evictions (p.verdicts (.cancel id canSpawn task)) = [] ∧
      (withFate .left (p.verdicts (.cancel id canSpawn task))).map (·.conn.2) =
        gatherOf leaving (p.cancel id canSpawn task stage) task := by
    rw [hverdicts, leaving_cancel hne htask canSpawn w]
    rcases fateOfGivenUp_eq p canSpawn with h | h | h <;> rw [h] <;> cases stage <;>
      exact ⟨⟨rfl, rfl, fun _ => rfl, .refl _⟩, rfl, rfl⟩
  obtain ⟨htold, hevictions, hleft⟩ := hdecided
  constructor
  · exact htold
  · rw [closings_cancel, hevictions]
    rfl
  · simp [Event.ops, takes, looker?, hverdicts, hpinging, gatherOf_of_call? hid, gatherOf_of_none htask,
      gatherOf_of_none hend, Function.comp_def]
  · simp [Event.ops, tidies, hleft, gatherOf_of_call? hid, gatherOf_of_none htask,
      gatherOf_of_none hend, leaving]

/-- The health check tells whether the entry is handed out or closed. -/
theorem booked_pinged {w : Option Patience} {x : IdleEntry}
    (hid : p.call? id = some (.acquire w (.pinging x))) (failure : Option IoError) :
    Booked p (.pinged id failure) (p.afterPing id w x failure) := by
  have hone : gatherOf pinging p id = [(id, x)] := gatherOf_of_call? hid
  have hnone : gatherOf leaving p id = [] := gatherOf_of_call? hid
  have hleaving := leaving_eq_nil (serves_afterPing p id w x failure) (by decide)
  cases failure with
  | none =>
    have hend : gatherOf pinging (p.afterPing id w x none) id = [] := gatherOf_finish _ _ _
    constructor
    · rw [marksOf, hid, verdicts, hone]
      exact ⟨rfl, rfl, fun _ => rfl, .refl _⟩
    · rw [verdicts, hone]
      rfl
    · simp [takes, looker?, Event.ops, verdicts, hone, hend]
    · simp [Event.ops, verdicts, hone, hnone, hleaving, tidies, withFate]
  | some cause =>
    have hend : gatherOf pinging (p.afterPing id w x (some cause)) id = [] := gatherOf_hold _ _ _
    constructor
    · rw [marksOf, verdicts, hone]
      exact ⟨rfl, rfl, fun r => by cases r <;> rfl, .refl _⟩
    · rw [verdicts, hone]
      rfl
    · simp [takes, looker?, Event.ops, verdicts, hone, hend]
    · simp [Event.ops, verdicts, hone, hnone, hleaving, tidies, withFate]

/-- The task of an acquire that was given up closes what was left to it. -/
theorem booked_tidy {conn : ConnId} (hid : p.call? id = some (.abandoned conn)) :
    Booked p (.tidy id) ((p.request id (.close conn)).hold id (.tidying conn)) := by
  have hleaving : gatherOf leaving p id = [conn] := gatherOf_of_call? hid
  have hnone : gatherOf pinging p id = [] := gatherOf_of_call? hid
  have hpinging : gatherOf pinging ((p.request id (.close conn)).hold id (.tidying conn)) id = [] :=
    gatherOf_hold _ _ _
  have hend : gatherOf leaving ((p.request id (.close conn)).hold id (.tidying conn)) id = [] :=
    gatherOf_hold _ _ _
  constructor
  · exact .nil
  · rw [closesElse, hid]
    rfl
  · rw [Event.ops, List.flatMap_singleton, List.flatMap_singleton, hnone, hpinging]
    rfl
  · rw [Event.ops, List.flatMap_singleton, List.flatMap_singleton, hleaving, hend, tidies, hleaving]
    rfl

theorem booked_step (hstep : p.step e = some q) : Booked p e q := by
  cases Move.of_step hstep with
  | acquire hid =>
    exact booked_look rfl rfl rfl rfl rfl rfl (gatherOf_of_none hid) (gatherOf_of_none hid)
  | acquirePatiently hid =>
    exact booked_look rfl (lookMarks_listen p _ _ _).symm rfl rfl rfl rfl (gatherOf_of_none hid)
      (gatherOf_of_none hid)
  | retry hid _ =>
    exact booked_look rfl (lookMarks_listen p _ _ _).symm rfl rfl rfl rfl (gatherOf_of_call? hid)
      (gatherOf_of_call? hid)
  | @evicted id failure w conn hid =>
    have hpatient := isSome_patienceOf_giveBack ((call?_sayCloseFailed p failure id).trans hid)
    have hframe := sayCloseFailed_eq p failure
    refine booked_look (by simp [looker?, hid]) ?_ (by simp [hframe]) (by simp [hframe])
      (by simp [hframe]) ?_ (gatherOf_of_call? hid) (gatherOf_of_call? hid)
    · rw [hpatient, lookMarks_sayCloseFailed, marksOf, hid]
    · rw [closings_giveBack, closings_sayCloseFailed]
  | @release id conn hid =>
    have hserves := serves_release p id conn
    exact booked_quiet rfl rfl rfl .nil rfl (closings_release p id conn)
      ⟨gatherOf_of_none hid, pinging_eq_nil hserves (by decide)⟩
      ⟨gatherOf_of_none hid, leaving_eq_nil hserves (by decide)⟩
  | discard hid =>
    exact booked_quiet rfl rfl rfl .nil rfl (by simp [closings, Note.closer?, closesElse])
      ⟨gatherOf_of_none hid, gatherOf_hold _ _ _⟩ ⟨gatherOf_of_none hid, gatherOf_hold _ _ _⟩
  | @shutdown id hid =>
    have hserves := serves_shutdown p id
    exact booked_quiet rfl rfl rfl .nil rfl (closings_shutdown p id)
      ⟨gatherOf_of_none hid, pinging_eq_nil hserves (by decide)⟩
      ⟨gatherOf_of_none hid, leaving_eq_nil hserves (by decide)⟩
  | @dialed id result w hid =>
    have hserves := serves_afterDial p id result
    refine booked_quiet rfl rfl rfl ?_ rfl ?_ ⟨gatherOf_of_call? hid, ?_⟩
      ⟨gatherOf_of_call? hid, leaving_eq_nil hserves (by decide)⟩
    · cases result with
      | ok conn => exact ⟨rfl, rfl, fun _ => rfl, .refl _⟩
      | error cause => exact .nil
    · cases result <;> simp [afterDial, closings, Note.closer?, closesElse]
    · cases result with
      | ok conn => exact gatherOf_finish _ _ _
      | error cause =>
        exact (gatherOf_notifyAll pinging_notify _ id).trans
          (gatherOf_finish (p.say (.dialFailed cause)) id (.acquired (.error (.factory cause))))
  | pinged hid => exact booked_pinged hid _
  | @released id failure _ _ hid | @discarded id failure _ hid =>
    refine booked_quiet rfl (by simp [takes, looker?, hid]) (by simp [verdicts, takes, looker?, hid])
      ?_ rfl ?_ ⟨gatherOf_of_call? hid, gatherOf_finish _ _ _⟩
      ⟨gatherOf_of_call? hid, gatherOf_finish _ _ _⟩
    · simpa [marksOf, brings, hid] using Told.nil
    · have hsame := closings_sayCloseFailed p failure
      simpa [closesElse, hid, closings, Note.closer?] using hsame
  | tidied hid | tidiedBadly hid =>
    refine booked_quiet rfl (by simp [takes, looker?, hid]) (by simp [verdicts, takes, looker?, hid])
      ?_ rfl (by simp [closesElse, hid, closings, Note.closer?])
      ⟨gatherOf_of_call? hid, gatherOf_finish _ _ _⟩ ⟨gatherOf_of_call? hid, gatherOf_finish _ _ _⟩
    simpa [marksOf, brings, hid] using Told.nil
  | @drained id failure _ rest hid =>
    have hserves := serves_drain (p.sayCloseFailed failure) id rest
    refine booked_quiet rfl (by simp [takes, looker?, hid]) (by simp [verdicts, takes, looker?, hid])
      ?_ rfl ?_ ⟨gatherOf_of_call? hid, pinging_eq_nil hserves (by decide)⟩
      ⟨gatherOf_of_call? hid, leaving_eq_nil hserves (by decide)⟩
    · simpa [marksOf, brings, hid] using Told.nil
    · rw [closings_drain, closings_sayCloseFailed, closesElse, hid]
      cases rest <;> rfl
  | @expire id w hid _ _ =>
    exact booked_quiet rfl rfl rfl ⟨rfl, rfl, fun _ => rfl, .refl _⟩ rfl
      (by simp [closesElse, closings, Note.closer?]) ⟨gatherOf_of_call? hid, gatherOf_finish _ _ _⟩
      ⟨gatherOf_of_call? hid, gatherOf_finish _ _ _⟩
  | cancel hid htask => exact booked_cancel hid htask _
  | tidy hid => exact booked_tidy hid
  | pass => exact ⟨.nil, rfl, rfl, rfl⟩

end Booked

section Books

/-- What a run tells, closes, takes and leaves, against what it decides. -/
structure Books (p : Pool) (es : List Event) (q : Pool) : Prop where
  told : Told q.marks (along step brings p es) (along step verdicts p es)
  closings : q.closings.Perm ((evictions (along step verdicts p es)).map (·.conn) ++
    along step closesElse p es)
  taken : (along step takes p es).Perm ((along step verdicts p es).map (·.taken) ++ q.pings)
  left : ((withFate .left (along step verdicts p es)).map (·.conn.2)).Perm
    (along step tidies p es ++ q.leavings)

theorem Fresh.books {idle : List IdleEntry} (h : Fresh r p idle) : Books p [] p where
  told := by
    rw [h.marks]
    exact .nil
  closings := by simp [closings, h.history, along, evictions, Note.closer?]
  taken := by simp [along, pings, gather, h.calls]
  left := by simp [along, withFate, leavings, gather, h.calls]

/-- One event more. -/
theorem Books.concat {t : Pool} (h : Books p es q) (hd : q.Distinct) (hrun : Run step p es q)
    (hstep : q.step e = some t) : Books p (es ++ [e]) t := by
  have hbooked := booked_step hstep
  constructor
  · rw [marks_step hstep, hrun.along_concat, hrun.along_concat]
    exact h.told.append hbooked.told
  · refine List.perm_iff_count.2 fun a => ?_
    have hcount := h.closings.count_eq a
    simp only [hbooked.closings, hrun.along_concat, evictions_append, List.map_append,
      List.count_append] at hcount ⊢
    omega
  · refine List.perm_iff_count.2 fun a => ?_
    have hcount := h.taken.count_eq a
    have hevent := congrArg (List.count a) hbooked.taken
    have hgather := (gather_step pinging_notify hd hstep).count_eq a
    simp only [pings, hrun.along_concat, List.map_append, List.count_append]
      at hcount hevent hgather ⊢
    omega
  · refine List.perm_iff_count.2 fun a => ?_
    have hcount := h.left.count_eq a
    have hevent := congrArg (List.count a) hbooked.left
    have hgather := (gather_step leaving_notify hd hstep).count_eq a
    simp only [leavings, hrun.along_concat, withFate_append, List.map_append, List.count_append]
      at hcount hevent hgather ⊢
    omega

theorem books_run (hopen : Opened r p) (hrun : Run step p es q) : Books p es q := by
  obtain ⟨idle, hfresh⟩ := hopen.fresh
  refine (hrun.induction_last (P := fun es q => Run step p es q ∧ q.Distinct ∧ Books p es q)
    ⟨.nil p, hfresh.distinct, hfresh.books⟩ ?_).2.2
  intro fs e u v ⟨hu, hd, hbooks⟩ hstep
  exact ⟨hu.append (.cons hstep (.nil v)), Distinct.kept.step hd hstep, hbooks.concat hd hu hstep⟩

end Books

/-- The counters of an opened pool, after any run of any events. What an acquire takes from the queue is
reused, evicted, put back, left to a task, dropped, or still with an acquire in flight; the evictions counted
are those that were decided, each of which is the one close that its acquire begins; and the checkouts counted
are the acquires that returned a connection, those from a dial with the connection that they dialled. -/
theorem counters_truthful (hopen : Opened r p) (hrun : Run step p es q) :
    Truthful p es q ∧ ∀ s e t, s.step e = some t → Moved s e t := by
  have hbooks := books_run hopen hrun
  have hnew : q.acquireTotal .new = (along step brings p es).length :=
    (acquireTotal_eq_marks q .new).trans hbooks.told.new
  have hidle : q.acquireTotal .idle = (withFate .reused (along step verdicts p es)).length :=
    (acquireTotal_eq_marks q .idle).trans hbooks.told.idle
  have hreturns := hbooks.told.returned
  rw [← returns_eq_marks] at hreturns
  refine ⟨⟨?_, hnew, hidle, fun r => ?_, hreturns, hbooks.closings, hbooks.taken, hbooks.left⟩,
    fun _ _ _ => moved_step⟩
  · rw [hreturns.length_eq, List.length_append, List.length_map]
    omega
  · exact (evictedTotal_eq_marks q r).trans (hbooks.told.evicted r)

/-- An idle connection is too old and closed, a new one is dialled and given back, and handed out once more. -/
theorem counters_truthful_after_eviction : ∃ p q, Opened ⟨1, 2, 1, .ofMillis 10⟩ p ∧
    Run step p [.pass 20000000, .acquire 1 none, .closed 1 none, .dialed 1 (.ok 1), .release 2 1,
      .acquire 3 none, .pinged 3 none] q ∧
    q.acquireTotal .idle = 1 ∧ q.acquireTotal .new = 1 ∧ q.evictedTotal .stale = 1 := by
  have hopen := Opened.of_foldlM (r := ⟨1, 2, 1, .ofMillis 10⟩) [.dialed (.ok 0)] rfl
  have hrun := hopen.start.further [.pass 20000000, .acquire 1 none, .closed 1 none,
    .dialed 1 (.ok 1), .release 2 1, .acquire 3 none, .pinged 3 none] rfl
  obtain ⟨htruth, -⟩ := counters_truthful hopen hrun
  exact ⟨_, _, hopen, hrun, htruth.idle, htruth.new, htruth.evicted .stale⟩

/-- An acquire is given up during its ping where the queue is full and no task can be started: its entry is
neither reused, evicted, put back nor left to a task, and no acquire has it. -/
theorem entry_dropped : ∃ p q, Opened ⟨1, 2, 1, .zero⟩ p ∧
    Run step p [.acquire 1 none, .acquire 2 none, .dialed 2 (.ok 1), .release 3 1,
      .cancel 1 false 4] q ∧ q.calls = [] ∧ q.closings = [] ∧
    ¬(along step takes p [.acquire 1 none, .acquire 2 none, .dialed 2 (.ok 1), .release 3 1,
      .cancel 1 false 4]).Perm
        (((along step verdicts p [.acquire 1 none, .acquire 2 none, .dialed 2 (.ok 1), .release 3 1,
          .cancel 1 false 4]).filter (·.fate ≠ .dropped)).map (·.taken) ++ q.pings) := by
  have hopen := Opened.of_foldlM (r := ⟨1, 2, 1, .zero⟩) [.dialed (.ok 0)] rfl
  have hrun := hopen.start.further [.acquire 1 none, .acquire 2 none, .dialed 2 (.ok 1),
    .release 3 1, .cancel 1 false 4] rfl
  exact ⟨_, _, hopen, hrun, rfl, rfl, by decide⟩

end PooledTcp.Pool
