/-!
# Counters and gauges

A metric is named and labelled. A counter holds how often it was raised, a gauge the number it was
last set to; a metric that was never touched is absent.
-/

namespace PooledTcp

/-- What is measured, and of what. Labels are in the order of their names. -/
structure Metric where
  name : String
  labels : List (String × String) := []
  deriving DecidableEq, Repr

/-- `name{label=value,label=value}`. -/
def Metric.text (m : Metric) : String :=
  m.name ++ "\x7b" ++ ",".intercalate (m.labels.map fun (k, v) => k ++ "=" ++ v) ++ "\x7d"

/-- What an observation does to its metric. -/
inductive Measurement where
  | raise (metric : Metric)
  | set (metric : Metric) (value : Nat)
  deriving DecidableEq, Repr

namespace Measurement

def metric : Measurement → Metric
  | raise m => m
  | set m _ => m

/-- The value after the measurement, from the value before it. -/
def next : Measurement → Option Nat → Nat
  | raise _, before => before.getD 0 + 1
  | set _ v, _ => v

end Measurement

/-- The touched metrics and their values. -/
abbrev Metrics := List (Metric × Nat)

namespace Metrics

def get? (ms : Metrics) (m : Metric) : Option Nat := (ms.find? (·.1 == m)).map (·.2)

/-- Take one measurement in. -/
def record (ms : Metrics) (c : Measurement) : Metrics :=
  ms.filter (·.1 != c.metric) ++ [(c.metric, c.next (ms.get? c.metric))]

/-- The metrics after all of the measurements, in order. -/
def ofList (cs : List Measurement) : Metrics := cs.foldl record []

/-- A measurement changes its own metric alone. -/
theorem get?_record (ms : Metrics) (c : Measurement) (m : Metric) : (ms.record c).get? m =
    if c.metric = m then some (c.next (ms.get? c.metric)) else ms.get? m := by
  unfold record get?
  rw [List.find?_append]
  by_cases hm : c.metric = m
  · subst hm
    have hnone : (ms.filter (·.1 != c.metric)).find? (·.1 == c.metric) = none := by
      refine List.find?_eq_none.2 fun x hx => ?_
      simpa using (List.mem_filter.1 hx).2
    rw [hnone]
    simp
  · have hsame : (ms.filter (·.1 != c.metric)).find? (·.1 == m) = ms.find? (·.1 == m) := by
      rw [List.find?_filter]
      refine congrArg (ms.find? ·) (funext fun x => ?_)
      by_cases hx : x.1 = m
      · simp [hx, Ne.symm hm]
      · simp [hx]
    rw [hsame]
    simp [hm]

theorem ofList_concat (cs : List Measurement) (c : Measurement) :
    ofList (cs ++ [c]) = (ofList cs).record c := by
  simp [ofList]

/-- A counter holds how often it was raised. -/
theorem get?_ofList_of_raised {m : Metric} {cs : List Measurement}
    (h : ∀ c ∈ cs, c.metric = m → c = .raise m) :
    ((ofList cs).get? m).getD 0 = cs.count (.raise m) := by
  suffices hfold : ∀ ms : Metrics, ((cs.foldl record ms).get? m).getD 0 =
      (ms.get? m).getD 0 + cs.count (.raise m) by
    simpa [ofList, get?] using hfold []
  induction cs with
  | nil => simp
  | cons c cs ih =>
    intro ms
    obtain ⟨hc, hrest⟩ := List.forall_mem_cons.1 h
    rw [List.foldl_cons, ih hrest, get?_record, List.count_cons]
    by_cases hm : c.metric = m
    · rw [hc hm]
      simp [Measurement.metric, Measurement.next]
      omega
    · have hne : c ≠ .raise m := by
        rintro rfl
        exact hm rfl
      simp [hm, hne]

/-- A counter that is raised with every note of a kind, and not measured otherwise, counts these notes. -/
theorem get?_ofList_notes {ν : Type} {measure : ν → Option Measurement} {kind : ν → Bool} {m : Metric}
    (notes : List ν) (hkind : ∀ n, measure n = some (.raise m) ↔ kind n = true)
    (honly : ∀ n c, measure n = some c → c.metric = m → c = .raise m) :
    ((ofList (notes.reverse.filterMap measure)).get? m).getD 0 = notes.countP kind := by
  rw [get?_ofList_of_raised, List.count_filterMap, List.countP_reverse]
  · refine List.countP_congr fun n _ => ?_
    rw [beq_iff_eq, hkind]
  · intro c hc hmetric
    obtain ⟨n, -, hn⟩ := List.mem_filterMap.1 hc
    exact honly n c hn hmetric

end Metrics
end PooledTcp
