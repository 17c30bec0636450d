import Gochoreo.L6Client.Dragonfly.Metrics
import Mathlib.Algebra.BigOperators.Group.List
import Mathlib.Algebra.Ring.Int.Defs

/-!
# Latency of the Dragonfly metrics

`updateLatency` (src/unnamed/part_006:302-327) keeps a wrapped total and
count, a maximum, and a minimum in which a stored 0 reads as unset; the
latency part of `Snapshot` (lines 201-208) reports them.

**Results.**
* `latencyOf_updateLatency`: one `updateLatency` moves the latency fields
  from the durations `ds` to `ds ++ [d]` (`LatencyOf`): the total and the
  count wrap, the maximum is the greatest duration, and the minimum is the
  least duration after the last zero one.
* `latencyOf_run`: after any run, the latency fields are `LatencyOf` the
  durations recorded since the last `Reset`, when those are non-negative.
* `snapshot_latency_run`: what `Snapshot` reports from them, for any run;
  the integer mean, the least and the greatest duration when none is zero
  and the total fits in `int64`.
-/
namespace Gochoreo.Dragonfly

/-- The latency fields after the durations `ds` were recorded: the total and
the count wrap, the maximum is the greatest duration, and the minimum is the
least of those after the last zero one (0 if there are none), since a stored
0 reads as unset. -/
structure LatencyOf (l : Latency) (ds : List Int) : Prop where
  total : l.totalLatency = wrap64 ds.sum
  count : l.latencyCount = wrap64 ds.length
  max : l.maxLatency = ds.max?.getD 0
  min : l.minLatency = (ds.reverse.takeWhile (· ≠ 0)).min?.getD 0

theorem latencyOf_nil : LatencyOf {} [] := ⟨rfl, rfl, rfl, rfl⟩

theorem max?_getD_append {ds : List Int} (hds : ∀ x ∈ ds, 0 ≤ x) {d : Int} (hd : 0 ≤ d) :
    (ds ++ [d]).max?.getD 0 = max (ds.max?.getD 0) d := by
  cases ds with
  | nil => simp; omega
  | cons a l => rw [List.cons_append, List.max?_cons', List.max?_cons', List.foldl_append]; rfl

theorem min_update {t : List Int} (ht : ∀ x ∈ t, 0 < x) (d : Int) :
    (if t.min?.getD 0 ≠ 0 ∧ t.min?.getD 0 ≤ d then t.min?.getD 0 else d) =
      (if d ≠ 0 then d :: t else []).min?.getD 0 := by
  cases h : t.min? with
  | none => by_cases hd0 : d = 0 <;> simp [hd0, h]
  | some a =>
    have ha : 0 < a := ht a (List.min?_mem (fun a b => by omega) h)
    by_cases hd0 : d = 0
    · simp [hd0]; omega
    · rw [if_pos hd0, List.min?_cons, h, Option.getD_some]
      simp only [Option.elim, Option.getD_some]
      split_ifs <;> omega

/-- One `updateLatency` records one more duration. -/
theorem latencyOf_updateLatency {l : Latency} {ds : List Int} (h : LatencyOf l ds) (hds : ∀ x ∈ ds, 0 ≤ x)
    {d : Int} (hd : 0 ≤ d) : LatencyOf (updateLatency l d) (ds ++ [d]) where
  total := by rw [updateLatency, h.total, add64_wrap64, List.sum_append, List.sum_singleton]
  count := by rw [updateLatency, h.count, add64_wrap64, List.length_append, List.length_singleton]; rfl
  max := by
    rw [updateLatency, h.max, max?_getD_append hds hd]
    simp only [ge_iff_le]
    omega
  min := by
    have ht : ∀ x ∈ ds.reverse.takeWhile (· ≠ 0), 0 < x := fun x hx => by
      have h0 : x ≠ 0 := by simpa using List.mem_takeWhile_imp hx
      have := hds x (List.mem_reverse.mp ((List.takeWhile_prefix _).subset hx))
      omega
    rw [updateLatency, h.min, min_update ht d, List.reverse_append, List.reverse_singleton, List.singleton_append,
      List.takeWhile_cons]
    by_cases hd0 : d = 0 <;> simp [hd0]

namespace Metrics

theorem latency_apply (m : Metrics) (x : MetricsCall) :
    (m.apply x).latency = if x.isReset then {} else x.duration?.elim m.latency (updateLatency m.latency) := by
  cases x with
  | recordCommand command duration err =>
    cases err <;> by_cases h : command ∈ m.commandCounts <;>
      simp [apply, recordCommand, h, MetricsCall.isReset, MetricsCall.duration?]
  | recordConnection success | recordHealthCheck success now =>
    cases success <;> rfl
  | _ => rfl

/-- After any run, the latency fields hold the durations recorded since the
last `Reset`, when those are non-negative. -/
theorem latencyOf_run (calls : List MetricsCall) (hds : ∀ d ∈ durationsSinceReset calls, 0 ≤ d) :
    LatencyOf (newMetrics.run calls).latency (durationsSinceReset calls) := by
  induction calls using List.reverseRecOn with
  | nil => exact latencyOf_nil
  | append_singleton calls x ih =>
    rw [run_append, latency_apply]
    rw [durationsSinceReset_append] at hds ⊢
    by_cases hr : x.isReset
    · rw [if_pos hr, if_pos hr]
      exact latencyOf_nil
    rw [if_neg hr, if_neg hr] at *
    cases hx : x.duration? with
    | none =>
      rw [hx, Option.toList_none, List.append_nil] at hds
      rw [Option.toList_none, List.append_nil]
      exact ih hds
    | some d =>
      rw [hx, Option.toList_some] at hds
      have hds' := fun y hy => hds y (List.mem_append_left _ hy)
      exact latencyOf_updateLatency (ih hds') hds' (hds d (List.mem_append_right _ (List.mem_singleton_self d)))

theorem latencyReport_run (calls : List MetricsCall) (hds : ∀ d ∈ durationsSinceReset calls, 0 ≤ d) :
    ((newMetrics.run calls).snapshot.averageLatency, (newMetrics.run calls).snapshot.minLatency,
        (newMetrics.run calls).snapshot.maxLatency) =
      if 0 < wrap64 (durationsSinceReset calls).length then
        ((wrap64 (durationsSinceReset calls).sum).tdiv (wrap64 (durationsSinceReset calls).length),
          ((durationsSinceReset calls).reverse.takeWhile (· ≠ 0)).min?.getD 0,
          (durationsSinceReset calls).max?.getD 0)
      else (0, 0, 0) := by
  have h := latencyOf_run calls hds
  show latencyReport _ = _
  rw [latencyReport, h.total, h.count, h.min, h.max]

end Metrics

/-! ## Where the snapshot is the plain statistics -/

theorem min?_eq_some_iff_int {xs : List Int} {a : Int} : xs.min? = some a ↔ a ∈ xs ∧ ∀ b ∈ xs, a ≤ b :=
  @List.min?_eq_some_iff Int a _ _ ⟨Int.le_antisymm⟩ Int.le_refl (fun _ _ => by omega)
    (fun _ _ _ => Int.le_min) xs

theorem min?_reverse (l : List Int) : l.reverse.min? = l.min? :=
  Option.ext fun _ => by simp only [Option.mem_def, min?_eq_some_iff_int, List.mem_reverse]

theorem length_le_sum {l : List Int} (h : ∀ x ∈ l, 0 < x) : (l.length : Int) ≤ l.sum := by
  induction l with
  | nil => simp
  | cons a l ih =>
    simp only [List.length_cons, List.sum_cons, List.mem_cons] at *
    have := h a (.inl rfl)
    have := ih fun x hx => h x (.inr hx)
    omega

namespace Metrics

/-- With no zero-length duration since the last `Reset` and a total below
2^63, `Snapshot` reports the integer mean, the least and the greatest
duration. -/
theorem snapshot_latency_of_pos (calls : List MetricsCall) (hpos : ∀ d ∈ durationsSinceReset calls, 0 < d)
    (hsum : (durationsSinceReset calls).sum < 2 ^ 63) (hne : durationsSinceReset calls ≠ []) :
    ((newMetrics.run calls).snapshot.averageLatency, (newMetrics.run calls).snapshot.minLatency,
        (newMetrics.run calls).snapshot.maxLatency) =
      ((durationsSinceReset calls).sum / (durationsSinceReset calls).length,
        (durationsSinceReset calls).min?.getD 0, (durationsSinceReset calls).max?.getD 0) := by
  have hn := length_le_sum hpos
  have hn0 : 0 < (durationsSinceReset calls).length := List.length_pos.mpr hne
  have hsum0 : 0 ≤ (durationsSinceReset calls).sum := by omega
  have hall : ∀ x ∈ (durationsSinceReset calls).reverse, decide (x ≠ 0) = true := fun x hx => by
    have := hpos x (List.mem_reverse.mp hx)
    simp only [decide_eq_true_eq]; omega
  rw [latencyReport_run calls fun d hd => (hpos d hd).le, wrap64_of_lt (by omega) hsum,
    wrap64_of_lt (by omega) (by omega), if_pos (by omega), Int.tdiv_eq_ediv hsum0 (by omega),
    List.takeWhile_eq_self_iff.mpr hall, min?_reverse]

/-- What `Snapshot` reports for the latency after any run with non-negative
durations since the last `Reset`: the quotient of the wrapped total by the
wrapped count, the least duration after the last zero one, and the greatest
duration; zeros while the count is not positive. With no zero-length
duration and a total below 2^63, that is the integer mean, the least and the
greatest duration. -/
theorem snapshot_latency_run (calls : List MetricsCall) (hds : ∀ d ∈ durationsSinceReset calls, 0 ≤ d) :
    ((newMetrics.run calls).snapshot.averageLatency, (newMetrics.run calls).snapshot.minLatency,
        (newMetrics.run calls).snapshot.maxLatency) =
      (if 0 < wrap64 (durationsSinceReset calls).length then
        ((wrap64 (durationsSinceReset calls).sum).tdiv (wrap64 (durationsSinceReset calls).length),
          ((durationsSinceReset calls).reverse.takeWhile (· ≠ 0)).min?.getD 0,
          (durationsSinceReset calls).max?.getD 0)
      else (0, 0, 0)) ∧
    ((∀ d ∈ durationsSinceReset calls, 0 < d) → (durationsSinceReset calls).sum < 2 ^ 63 →
      durationsSinceReset calls ≠ [] →
      ((newMetrics.run calls).snapshot.averageLatency, (newMetrics.run calls).snapshot.minLatency,
          (newMetrics.run calls).snapshot.maxLatency) =
        ((durationsSinceReset calls).sum / (durationsSinceReset calls).length,
          (durationsSinceReset calls).min?.getD 0, (durationsSinceReset calls).max?.getD 0)) :=
  ⟨latencyReport_run calls hds, snapshot_latency_of_pos calls⟩

/-- A zero-length command resets the minimum to unset, and the total wraps:
after durations 0 and 5 the minimum is 5, not 0; after two of 2^62 the
average is -2^62. -/
theorem snapshot_latency_divergent :
    durationsSinceReset [.recordCommand "GET" 0 none, .recordCommand "GET" 5 none] = [0, 5] ∧
    (∀ d ∈ durationsSinceReset [.recordCommand "GET" 0 none, .recordCommand "GET" 5 none], 0 ≤ d) ∧
    ((newMetrics.run [.recordCommand "GET" 0 none, .recordCommand "GET" 5 none]).snapshot.averageLatency,
      (newMetrics.run [.recordCommand "GET" 0 none, .recordCommand "GET" 5 none]).snapshot.minLatency,
      (newMetrics.run [.recordCommand "GET" 0 none, .recordCommand "GET" 5 none]).snapshot.maxLatency) =
      (2, 5, 5) ∧
    (∀ d ∈ durationsSinceReset [.recordCommand "GET" (2 ^ 62) none, .recordCommand "GET" (2 ^ 62) none], 0 ≤ d) ∧
    (newMetrics.run [.recordCommand "GET" (2 ^ 62) none, .recordCommand "GET" (2 ^ 62) none]).snapshot.averageLatency =
      -2 ^ 62 := by
  have hds : ∀ d ∈ durationsSinceReset [.recordCommand "GET" 0 none, .recordCommand "GET" 5 none], 0 ≤ d := by
    decide
  have hds' : ∀ d ∈ durationsSinceReset [.recordCommand "GET" (2 ^ 62) none, .recordCommand "GET" (2 ^ 62) none],
      0 ≤ d := by
    decide
  exact ⟨rfl, hds, (snapshot_latency_run _ hds).1.trans (by decide), hds',
    (congrArg Prod.fst (snapshot_latency_run _ hds').1).trans (by decide)⟩

end Metrics

end Gochoreo.Dragonfly
