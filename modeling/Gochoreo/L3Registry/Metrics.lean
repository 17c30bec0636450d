import Gochoreo.L1Value.Errors
import Mathlib.Algebra.BigOperators.Group.List
import Mathlib.Algebra.Order.Ring.Nat
import Mathlib.Data.String.Basic

/-!
# The metrics collector

`DefaultMetricsCollector` (src/pkg/version/metrics.go): per component, a
request counter and a last-access time per version string, and an error
counter per version string. Every method body runs under the collector's
mutex, so any interleaving of calls is a sequence of whole calls: a run is a
list of `MetricsCall`s. `time.Now()` is the `now` argument. Counters are Go
`int64`s: `++` wraps from 2^63 - 1 to -2^63 (`add64`), and `GetUsageStats`
sums them with the same wrap.

**Results.**
* `requestCount_recordRequest`, `errorCount_recordError` and their
  neighbours: what one call does to every counter; `entry_apply_counts`,
  `entry_apply_resets`: the same for the record of one component.
* `entry_run`, `metrics_counts_since_reset`: after any run from a fresh
  collector, each counter is the number of matching record calls since the
  last reset of its component (`sinceReset`), wrapped to `int64`
  (`int64Count`), and the totals of `GetUsageStats` are the wrapped numbers
  of record calls of the component; `requestCount_wraps`: 2^63 requests
  leave the counter at -2^63.
* `usageStatsOf_totals`: the totals of `GetUsageStats` are the wrapped sums
  of the counters, in any iteration order.
* `recordRequest_same_counter_iff`: two versions share a counter exactly
  when they print the same text.
* `valid_run`: every record of a reachable collector has non-empty keys and
  a last-access time exactly for its counted versions; from it,
  `usageStats_selection`: while every version has had fewer than 2^63
  requests since the reset, in any iteration order the most-used,
  least-used and last-activity fields of `GetUsageStats` are a greatest, a
  least and a latest; `usageStats_mostUsed_wraps`: a counter wrapped
  negative is never the most used.
-/
namespace Gochoreo

/-- mirrors src/pkg/version/interfaces.go:214-219 (`ComponentMetrics`) -/
structure ComponentMetrics where
  component : String
  versionMetrics : GoMap Int
  lastAccessed : GoMap String
  errorCounts : GoMap Int

/-- mirrors src/pkg/version/metrics.go:9-12 (`DefaultMetricsCollector`) -/
structure DefaultMetricsCollector where
  metrics : GoMap ComponentMetrics

/-- mirrors src/pkg/version/metrics.go:15-19 (`NewDefaultMetricsCollector`) -/
def newDefaultMetricsCollector : DefaultMetricsCollector := ⟨∅⟩

/-- `m[k]++` on a map of `int64` counters. -/
def GoMap.incr (m : GoMap Int) (k : String) : GoMap Int := m.insert k (add64 (m.count k) 1)

theorem GoMap.lookup_incr (m : GoMap Int) (k k' : String) :
    (m.incr k).lookup k' = if k' = k then some (add64 (m.count k) 1) else m.lookup k' := by
  by_cases h : k' = k
  · subst h; simp [GoMap.incr, AList.lookup_insert]
  · simp [GoMap.incr, AList.lookup_insert_ne h, h]

theorem GoMap.count_incr (m : GoMap Int) (k k' : String) :
    (m.incr k).count k' = if k' = k then add64 (m.count k) 1 else m.count k' := by
  rw [GoMap.count, GoMap.lookup_incr]; split <;> rfl

/-- The sum of a map of counters. -/
def GoMap.total (m : GoMap Int) : Int := (m.entries.map (·.2)).sum

theorem sum_kerase (k : String) :
    ∀ l : List (Σ _ : String, Int), (l.map (·.2)).sum = (l.dlookup k).getD 0 + ((l.kerase k).map (·.2)).sum
  | [] => by simp
  | ⟨k', v⟩ :: l => by
    by_cases h : k = k'
    · subst h; simp [List.kerase_cons_eq, List.dlookup_cons_eq]
    · simp only [List.kerase_cons_ne, List.dlookup_cons_ne, h, ne_eq, not_false_eq_true,
        List.map_cons, List.sum_cons, sum_kerase k l]
      omega

theorem GoMap.wrap64_total_incr (m : GoMap Int) (k : String) :
    wrap64 (m.incr k).total = wrap64 (m.total + 1) := by
  have h := sum_kerase k m.entries
  simp only [GoMap.total, GoMap.incr, AList.insert_entries, List.map_cons, List.sum_cons, GoMap.count,
    AList.lookup] at h ⊢
  unfold add64 wrap64; omega

theorem wrap64_add_of_eq {a b : Int} (h : wrap64 a = wrap64 b) (d : Int) : wrap64 (a + d) = wrap64 (b + d) := by
  unfold wrap64 at *; omega

theorem add64_one_ne (x : Int) : add64 x 1 ≠ x := by
  unfold add64 wrap64; omega

@[simp] theorem GoMap.total_empty : (∅ : GoMap Int).total = 0 := rfl

@[simp] theorem GoMap.count_empty (k : String) : (∅ : GoMap Int).count k = 0 := rfl

theorem GoMap.pairs_sum (m : GoMap Int) : (m.pairs.map Prod.snd).sum = m.total := by
  simp [GoMap.pairs, GoMap.total, Function.comp_def]

/-- The entry of a counter that `++` has bumped `n` times from absent:
none for `n = 0`, else `n` wrapped to `int64`. -/
def int64Count (n : Nat) : Option Int := if n = 0 then none else some (wrap64 n)

theorem int64Count_succ (n : Nat) : int64Count (n + 1) = some (add64 ((int64Count n).getD 0) 1) := by
  unfold int64Count
  rw [if_neg n.succ_ne_zero]
  split
  · subst_vars; simp [add64]
  · rw [Option.getD_some, add64_wrap64]; push_cast; rfl

theorem int64Count_eq_none {n : Nat} : int64Count n = none ↔ n = 0 := by
  unfold int64Count; split <;> simp_all

namespace DefaultMetricsCollector

/-- The record `RecordRequest` and `RecordError` update: the stored one, or
the fresh one they create. -/
def entry (c : DefaultMetricsCollector) (component : String) : ComponentMetrics :=
  (c.metrics.lookup component).getD ⟨component, ∅, ∅, ∅⟩

/-- mirrors src/pkg/version/metrics.go:22-38 (`RecordRequest`) -/
def recordRequest (c : DefaultMetricsCollector) (component : String) (version : Version)
    (now : String) : DefaultMetricsCollector :=
  let cm := c.entry component
  let versionStr := version.string
  ⟨c.metrics.insert component
    { cm with versionMetrics := cm.versionMetrics.incr versionStr,
              lastAccessed := cm.lastAccessed.insert versionStr now }⟩

/-- mirrors src/pkg/version/metrics.go:41-56 (`RecordError`); the error
itself is not kept. -/
def recordError (c : DefaultMetricsCollector) (component : String) (version : Version)
    (_err : GoError) : DefaultMetricsCollector :=
  let cm := c.entry component
  ⟨c.metrics.insert component { cm with errorCounts := cm.errorCounts.incr version.string }⟩

/-- mirrors src/pkg/version/metrics.go:59-74 (`GetMetrics`); the copy is the
value itself. -/
def getMetrics (c : DefaultMetricsCollector) (component : String) : Option ComponentMetrics :=
  c.metrics.lookup component

/-- mirrors src/pkg/version/metrics.go:77-92 (`GetAllMetrics`) -/
def getAllMetrics (c : DefaultMetricsCollector) : GoMap ComponentMetrics := c.metrics

/-- mirrors src/pkg/version/metrics.go:95-100 (`Reset`) -/
def reset (_c : DefaultMetricsCollector) : DefaultMetricsCollector := ⟨∅⟩

/-- mirrors src/pkg/version/metrics.go:103-108 (`ResetComponent`) -/
def resetComponent (c : DefaultMetricsCollector) (component : String) : DefaultMetricsCollector :=
  ⟨c.metrics.erase component⟩

/-- `GetMetrics(component).VersionMetrics[s]`, zero when there is no record. -/
def requestCount (c : DefaultMetricsCollector) (component s : String) : Int :=
  ((c.getMetrics component).map fun m => m.versionMetrics.count s).getD 0

/-- `GetMetrics(component).ErrorCounts[s]`, zero when there is no record. -/
def errorCount (c : DefaultMetricsCollector) (component s : String) : Int :=
  ((c.getMetrics component).map fun m => m.errorCounts.count s).getD 0

theorem requestCount_entry (c : DefaultMetricsCollector) (component s : String) :
    (c.entry component).versionMetrics.count s = c.requestCount component s := by
  cases h : c.metrics.lookup component <;>
    simp [entry, requestCount, getMetrics, GoMap.count, h]

theorem errorCount_entry (c : DefaultMetricsCollector) (component s : String) :
    (c.entry component).errorCounts.count s = c.errorCount component s := by
  cases h : c.metrics.lookup component <;>
    simp [entry, errorCount, getMetrics, GoMap.count, h]

theorem entry_of_getMetrics {c : DefaultMetricsCollector} {component : String} {m : ComponentMetrics}
    (h : c.getMetrics component = some m) : c.entry component = m := by
  simp only [getMetrics] at h
  simp [entry, h]

theorem entry_of_getMetrics_none {c : DefaultMetricsCollector} {component : String}
    (h : c.getMetrics component = none) : c.entry component = ⟨component, ∅, ∅, ∅⟩ := by
  simp only [getMetrics] at h
  simp [entry, h]

@[simp] theorem entry_recordRequest (c : DefaultMetricsCollector) (component c' : String)
    (v : Version) (now : String) :
    (c.recordRequest component v now).entry c' =
      if c' = component then { c.entry component with
        versionMetrics := (c.entry component).versionMetrics.incr v.string,
        lastAccessed := (c.entry component).lastAccessed.insert v.string now }
      else c.entry c' := by
  by_cases h : c' = component
  · subst h; simp [entry, recordRequest, AList.lookup_insert]
  · simp [entry, recordRequest, AList.lookup_insert_ne h, h]

@[simp] theorem entry_recordError (c : DefaultMetricsCollector) (component c' : String)
    (v : Version) (e : GoError) :
    (c.recordError component v e).entry c' =
      if c' = component then { c.entry component with
        errorCounts := (c.entry component).errorCounts.incr v.string }
      else c.entry c' := by
  by_cases h : c' = component
  · subst h; simp [entry, recordError, AList.lookup_insert]
  · simp [entry, recordError, AList.lookup_insert_ne h, h]

@[simp] theorem entry_reset (c : DefaultMetricsCollector) (c' : String) :
    c.reset.entry c' = ⟨c', ∅, ∅, ∅⟩ := rfl

@[simp] theorem entry_resetComponent (c : DefaultMetricsCollector) (component c' : String) :
    (c.resetComponent component).entry c' = if c' = component then ⟨c', ∅, ∅, ∅⟩ else c.entry c' := by
  by_cases h : c' = component
  · subst h; simp [entry, resetComponent, AList.lookup_erase]
  · simp [entry, resetComponent, AList.lookup_erase_ne h, h]

theorem requestCount_recordRequest (c : DefaultMetricsCollector) (component c' s : String)
    (v : Version) (now : String) :
    (c.recordRequest component v now).requestCount c' s =
      if c' = component ∧ s = v.string then add64 (c.requestCount c' s) 1 else c.requestCount c' s := by
  rw [← requestCount_entry, ← requestCount_entry, entry_recordRequest]
  by_cases hc : c' = component
  · subst hc; by_cases hs : s = v.string <;> simp [GoMap.count_incr, hs]
  · simp [hc]

theorem errorCount_recordRequest (c : DefaultMetricsCollector) (component c' s : String)
    (v : Version) (now : String) :
    (c.recordRequest component v now).errorCount c' s = c.errorCount c' s := by
  rw [← errorCount_entry, ← errorCount_entry, entry_recordRequest]
  split <;> simp_all

theorem requestCount_recordError (c : DefaultMetricsCollector) (component c' s : String)
    (v : Version) (e : GoError) :
    (c.recordError component v e).requestCount c' s = c.requestCount c' s := by
  rw [← requestCount_entry, ← requestCount_entry, entry_recordError]
  split <;> simp_all

theorem errorCount_recordError (c : DefaultMetricsCollector) (component c' s : String)
    (v : Version) (e : GoError) :
    (c.recordError component v e).errorCount c' s =
      if c' = component ∧ s = v.string then add64 (c.errorCount c' s) 1 else c.errorCount c' s := by
  rw [← errorCount_entry, ← errorCount_entry, entry_recordError]
  by_cases hc : c' = component
  · subst hc; by_cases hs : s = v.string <;> simp [GoMap.count_incr, hs]
  · simp [hc]

/-- Counters are keyed by `Version.String()`: two calls for one component
increment the same counters exactly when their versions print the same
text. Major, minor, patch and label are not looked at. -/
theorem recordRequest_same_counter_iff (c : DefaultMetricsCollector) (component : String) (v w : Version)
    (now now' : String) (e e' : GoError) :
    ((∀ c' s, (c.recordRequest component v now).requestCount c' s =
        (c.recordRequest component w now').requestCount c' s) ↔ v.string = w.string) ∧
    ((∀ c' s, (c.recordError component v e).errorCount c' s =
        (c.recordError component w e').errorCount c' s) ↔ v.string = w.string) := by
  simp only [requestCount_recordRequest, errorCount_recordError]
  refine ⟨⟨fun h => ?_, fun h c' s => by rw [h]⟩, ⟨fun h => ?_, fun h c' s => by rw [h]⟩⟩ <;>
    exact by_contra fun hne => add64_one_ne _ (by simpa [hne] using h component v.string)

/-- `ParseVersion("v2")`, what the Accept stage makes of
`application/vnd.api.v2+json`, and `NewVersion(2, 0, 0)` have one triple and
one label, yet a request for each lands in its own counter. -/
theorem recordRequest_v2_two_counters :
    (parseVersion "v2").triple = (newVersion 2 0 0).triple ∧ (parseVersion "v2").label = (newVersion 2 0 0).label ∧
    ¬ (∀ c' s, (newDefaultMetricsCollector.recordRequest "users" (parseVersion "v2") "t1").requestCount c' s =
        (newDefaultMetricsCollector.recordRequest "users" (newVersion 2 0 0) "t1").requestCount c' s) ∧
    (((newDefaultMetricsCollector.recordRequest "users" (parseVersion "v2") "t1").recordRequest
      "users" (newVersion 2 0 0) "t2").getMetrics "users").map (·.versionMetrics.keys) = some ["v2.0.0", "v2"] :=
  ⟨rfl, rfl, fun h => absurd ((recordRequest_same_counter_iff newDefaultMetricsCollector "users" _ _ "t1" "t1"
    (.plain "") (.plain "")).1.mp h) (by decide), by decide⟩

end DefaultMetricsCollector

/-! ## Usage statistics -/

/-- mirrors src/pkg/version/metrics.go:128-138 (`VersionUsageStats`) -/
structure VersionUsageStats where
  component : String
  totalRequests : Int
  totalErrors : Int
  versionBreakdown : GoMap Float
  errorRate : Float
  mostUsedVersion : String
  leastUsedVersion : String
  deprecatedUsage : GoMap Int
  lastActivity : String

/-- The variables of the first loop of `GetUsageStats`. -/
structure UsageAcc where
  totalRequests : Int := 0
  mostUsedCount : Int := 0
  leastUsedCount : Int := -1
  mostUsedVersion : String := ""
  leastUsedVersion : String := ""
  latestActivity : String := ""

/-- One iteration of `for version, count := range metrics.VersionMetrics`.
mirrors src/pkg/version/metrics.go:159-178 -/
def usageStep (lastAccessed : GoMap String) (acc : UsageAcc) (e : String × Int) : UsageAcc :=
  let (version, count) := e
  let acc := { acc with totalRequests := add64 acc.totalRequests count }
  let acc := if count > acc.mostUsedCount then
    { acc with mostUsedCount := count, mostUsedVersion := version } else acc
  let acc := if acc.leastUsedCount = -1 ∨ count < acc.leastUsedCount then
    { acc with leastUsedCount := count, leastUsedVersion := version } else acc
  match lastAccessed.lookup version with
  | some lastAccessed =>
    if acc.latestActivity = "" ∨ lastAccessed > acc.latestActivity then
      { acc with latestActivity := lastAccessed } else acc
  | none => acc

/-- The body of `GetUsageStats` on a snapshot, with the iteration orders of
its three `range` loops: over the request counters, over the error
counters, and again over the request counters.
mirrors src/pkg/version/metrics.go:147-202 -/
def usageStatsOf (component : String) (metrics : ComponentMetrics)
    (versions errors breakdown : List (String × Int)) : VersionUsageStats :=
  let acc := versions.foldl (usageStep metrics.lastAccessed) {}
  let totalErrors := errors.foldl (fun t e => add64 t e.2) 0
  { component := component, totalRequests := acc.totalRequests, totalErrors := totalErrors,
    versionBreakdown := breakdown.foldl (fun m e => if acc.totalRequests > 0 then
      m.insert e.1 (Float.ofInt e.2 / Float.ofInt acc.totalRequests * 100.0) else m) ∅,
    errorRate := if acc.totalRequests > 0 then
      Float.ofInt totalErrors / Float.ofInt acc.totalRequests else 0,
    mostUsedVersion := acc.mostUsedVersion, leastUsedVersion := acc.leastUsedVersion,
    deprecatedUsage := ∅, lastActivity := acc.latestActivity }

/-- mirrors src/pkg/version/metrics.go:141-203 (`GetUsageStats`) -/
def DefaultMetricsCollector.getUsageStats (c : DefaultMetricsCollector) (component : String) : Option VersionUsageStats :=
  (c.getMetrics component).map fun m =>
    usageStatsOf component m m.versionMetrics.pairs m.errorCounts.pairs m.versionMetrics.pairs

/-- One iteration of the selection loop, field by field. -/
theorem usageStep_eq (la : GoMap String) (acc : UsageAcc) (v : String) (n : Int) :
    usageStep la acc (v, n) =
      { totalRequests := add64 acc.totalRequests n,
        mostUsedCount := if n > acc.mostUsedCount then n else acc.mostUsedCount,
        mostUsedVersion := if n > acc.mostUsedCount then v else acc.mostUsedVersion,
        leastUsedCount := if acc.leastUsedCount = -1 ∨ n < acc.leastUsedCount then n else acc.leastUsedCount,
        leastUsedVersion :=
          if acc.leastUsedCount = -1 ∨ n < acc.leastUsedCount then v else acc.leastUsedVersion,
        latestActivity := match la.lookup v with
          | some t => if acc.latestActivity = "" ∨ t > acc.latestActivity then t else acc.latestActivity
          | none => acc.latestActivity } := by
  unfold usageStep
  by_cases hmost : n > acc.mostUsedCount <;>
    by_cases hleast : acc.leastUsedCount = -1 ∨ n < acc.leastUsedCount <;>
    simp only [hmost, hleast, if_true, if_false] <;>
    rcases la.lookup v with _ | t <;> dsimp only <;> (try split_ifs) <;> rfl

theorem foldl_usageStep_totalRequests (la : GoMap String) :
    ∀ (l : List (String × Int)) (acc : UsageAcc),
      (l.foldl (usageStep la) acc).totalRequests = (l.map Prod.snd).foldl add64 acc.totalRequests
  | [], _ => rfl
  | (v, n) :: l, acc => by
    rw [List.foldl_cons, foldl_usageStep_totalRequests la l, usageStep_eq]
    rfl

/-- In any iteration order, `TotalRequests` and `TotalErrors` are the sums
of the snapshot's counters, wrapped to `int64`, and the error rate is 0
when `TotalRequests` is not positive. -/
theorem usageStatsOf_totals (component : String) (m : ComponentMetrics)
    (versions errors breakdown : List (String × Int)) (hv : versions.Perm m.versionMetrics.pairs)
    (he : errors.Perm m.errorCounts.pairs) :
    (usageStatsOf component m versions errors breakdown).totalRequests = wrap64 m.versionMetrics.total ∧
    (usageStatsOf component m versions errors breakdown).totalErrors = wrap64 m.errorCounts.total ∧
    ((usageStatsOf component m versions errors breakdown).totalRequests ≤ 0 →
      (usageStatsOf component m versions errors breakdown).errorRate = 0) := by
  have h0 : (0 : Int) = wrap64 0 := rfl
  refine ⟨?_, ?_, fun h => if_neg (not_lt.mpr h)⟩
  · show (versions.foldl (usageStep m.lastAccessed) {}).totalRequests = _
    rw [foldl_usageStep_totalRequests, show ({} : UsageAcc).totalRequests = wrap64 0 from h0, foldl_add64,
      (hv.map Prod.snd).sum_eq, GoMap.pairs_sum, Int.zero_add]
  · show errors.foldl (fun t e => add64 t e.2) 0 = _
    rw [← List.foldl_map, h0, foldl_add64, (he.map Prod.snd).sum_eq, GoMap.pairs_sum, Int.zero_add]

/-! ## The selection loop -/

theorem String.empty_le (s : String) : "" ≤ s := by
  rw [String.le_iff_toList_le, show ("" : String).toList = [] from rfl]
  exact List.nil_le

section Selection

variable (la : GoMap String)

/-- The most-used version is a visited one with the greatest count, which
is positive, or nothing when no count is positive. -/
theorem foldl_usageStep_most (l : List (String × Int)) :
    (∀ e ∈ l, e.2 ≤ (l.foldl (usageStep la) {}).mostUsedCount) ∧
    (((l.foldl (usageStep la) {}).mostUsedVersion = "" ∧ (l.foldl (usageStep la) {}).mostUsedCount = 0) ∨
      ∃ e ∈ l, (l.foldl (usageStep la) {}).mostUsedVersion = e.1 ∧
        (l.foldl (usageStep la) {}).mostUsedCount = e.2 ∧ 0 < e.2) := by
  induction l using List.reverseRecOn with
  | nil => exact ⟨fun _ h => absurd h (List.not_mem_nil _), .inl ⟨rfl, rfl⟩⟩
  | append_singleton l e ih =>
    obtain ⟨v, n⟩ := e
    obtain ⟨hle, hsel⟩ := ih
    have h0 : 0 ≤ (l.foldl (usageStep la) {}).mostUsedCount := by
      rcases hsel with ⟨-, h⟩ | ⟨e, -, -, h, h'⟩ <;> omega
    rw [List.foldl_append, List.foldl_cons, List.foldl_nil, usageStep_eq]
    simp only [List.mem_append, List.mem_singleton]
    split_ifs with h
    · exact ⟨fun e he => he.elim (fun he => by have := hle e he; omega) (fun he => by rw [he]),
        .inr ⟨(v, n), .inr rfl, rfl, rfl, by simp only; omega⟩⟩
    · refine ⟨fun e he => he.elim (hle e) (fun he => by rw [he]; omega), ?_⟩
      rcases hsel with hsel | ⟨e, he, h1, h2⟩
      · exact .inl hsel
      · exact .inr ⟨e, .inl he, h1, h2⟩

/-- Over positive counts, the least-used version is a visited one with the
least count; the sentinel `-1` survives only an empty loop. -/
theorem foldl_usageStep_least (l : List (String × Int)) (hpos : ∀ e ∈ l, 0 < e.2) :
    (l = [] ∧ (l.foldl (usageStep la) {}).leastUsedVersion = "") ∨
    ∃ e ∈ l, (l.foldl (usageStep la) {}).leastUsedVersion = e.1 ∧
      (l.foldl (usageStep la) {}).leastUsedCount = e.2 ∧ ∀ e' ∈ l, e.2 ≤ e'.2 := by
  induction l using List.reverseRecOn with
  | nil => exact .inl ⟨rfl, rfl⟩
  | append_singleton l e ih =>
    obtain ⟨v, n⟩ := e
    have hn : 0 < n := hpos (v, n) (List.mem_append_right _ (List.mem_singleton_self _))
    rw [List.foldl_append, List.foldl_cons, List.foldl_nil, usageStep_eq]
    simp only [List.mem_append, List.mem_singleton]
    right
    rcases ih fun e he => hpos e (List.mem_append_left _ he) with ⟨rfl, -⟩ | ⟨e, he, h1, h2, hmin⟩
    · exact ⟨(v, n), .inr rfl, by simp [UsageAcc.leastUsedCount], by simp [UsageAcc.leastUsedCount],
        fun e' he' => by simp at he'; rw [he']⟩
    · have he2 := hpos e (List.mem_append_left _ he)
      split_ifs with h
      · have hn' : n < e.2 := by rcases h with h | h <;> omega
        exact ⟨(v, n), .inr rfl, rfl, rfl, fun e' he' => he'.elim (fun he' => by have := hmin e' he'; omega)
          (fun he' => by rw [he'])⟩
      · have hn' : e.2 ≤ n := by push_neg at h; omega
        exact ⟨e, .inl he, h1, h2, fun e' he' => he'.elim (hmin e') (fun he' => by rw [he']; exact hn')⟩

/-- The latest activity is the greatest last-access time of a visited
version, or empty when no visited version has one. -/
theorem foldl_usageStep_latest (l : List (String × Int)) :
    (∀ e ∈ l, ∀ t, la.lookup e.1 = some t → t ≤ (l.foldl (usageStep la) {}).latestActivity) ∧
    ((l.foldl (usageStep la) {}).latestActivity = "" ∨
      ∃ e ∈ l, la.lookup e.1 = some (l.foldl (usageStep la) {}).latestActivity) := by
  induction l using List.reverseRecOn with
  | nil => exact ⟨fun _ h => absurd h (List.not_mem_nil _), .inl rfl⟩
  | append_singleton l e ih =>
    obtain ⟨v, n⟩ := e
    obtain ⟨hle, hsel⟩ := ih
    rw [List.foldl_append, List.foldl_cons, List.foldl_nil, usageStep_eq]
    simp only [List.mem_append, List.mem_singleton]
    have hnew : ∀ e, e = (v, n) → ∀ t', la.lookup e.1 = some t' → la.lookup v = some t' := by
      rintro _ rfl t' h; exact h
    rcases hv : la.lookup v with _ | t
    · refine ⟨fun e he t' ht' => he.elim (fun he => hle e he t' ht')
        (fun he => Option.noConfusion (hv.symm.trans (hnew e he t' ht'))), ?_⟩
      rcases hsel with hsel | ⟨e, he, h⟩
      · exact .inl hsel
      · exact .inr ⟨e, .inl he, h⟩
    · simp only
      split_ifs with h
      · refine ⟨fun e he t' ht' => he.elim (fun he => ?_)
          (fun he => le_of_eq (Option.some.inj ((hnew e he t' ht').symm.trans hv))), .inr ⟨(v, n), .inr rfl, hv⟩⟩
        rcases h with h | h
        · exact le_trans (h ▸ hle e he t' ht') (String.empty_le t)
        · exact le_of_lt (lt_of_le_of_lt (hle e he t' ht') h)
      · push_neg at h
        refine ⟨fun e he t' ht' => he.elim (fun he => hle e he t' ht')
          (fun he => Option.some.inj ((hnew e he t' ht').symm.trans hv) ▸ h.2), ?_⟩
        rcases hsel with hsel | ⟨e, he, h'⟩
        · exact absurd hsel h.1
        · exact .inr ⟨e, .inl he, h'⟩

end Selection

/-! ## Runs -/

/-- A call on the collector. -/
inductive MetricsCall where
  | recordRequest (component : String) (version : Version) (now : String)
  | recordError (component : String) (version : Version) (err : GoError)
  | getMetrics (component : String)
  | getAllMetrics
  | reset
  | resetComponent (component : String)

namespace MetricsCall

/-- `Reset`, or `ResetComponent(component)`. -/
def resets : MetricsCall → String → Bool
  | .reset, _ => true
  | .resetComponent c, component => c = component
  | _, _ => false

/-- `RecordRequest(component, v)` with `v.String() = s`. -/
def isRequest : MetricsCall → String → String → Bool
  | .recordRequest c v _, component, s => c = component ∧ v.string = s
  | _, _, _ => false

/-- `RecordError(component, v, _)` with `v.String() = s`. -/
def isError : MetricsCall → String → String → Bool
  | .recordError c v _, component, s => c = component ∧ v.string = s
  | _, _, _ => false

/-- `RecordRequest(component, _)`. -/
def isRequestOf : MetricsCall → String → Bool
  | .recordRequest c _ _, component => c = component
  | _, _ => false

/-- `RecordError(component, _, _)`. -/
def isErrorOf : MetricsCall → String → Bool
  | .recordError c _ _, component => c = component
  | _, _ => false

end MetricsCall

/-- The calls after the last `Reset` or `ResetComponent(component)`, or all
of them if there is none. -/
def sinceReset (component : String) (calls : List MetricsCall) : List MetricsCall :=
  (calls.reverse.takeWhile fun x => !x.resets component).reverse

theorem sinceReset_append (component : String) (calls : List MetricsCall) (x : MetricsCall) :
    sinceReset component (calls ++ [x]) =
      if x.resets component then [] else sinceReset component calls ++ [x] := by
  cases h : x.resets component <;> simp [sinceReset, h]

namespace DefaultMetricsCollector

/-- One call; the read-only ones leave the state as it is. -/
def apply (c : DefaultMetricsCollector) : MetricsCall → DefaultMetricsCollector
  | .recordRequest component v now => c.recordRequest component v now
  | .recordError component v e => c.recordError component v e
  | .getMetrics _ | .getAllMetrics => c
  | .reset => c.reset
  | .resetComponent component => c.resetComponent component

/-- The state after a sequence of calls. -/
def run (c : DefaultMetricsCollector) (calls : List MetricsCall) : DefaultMetricsCollector :=
  calls.foldl apply c

theorem run_append (c : DefaultMetricsCollector) (calls : List MetricsCall) (x : MetricsCall) :
    c.run (calls ++ [x]) = (c.run calls).apply x := by
  simp [run, List.foldl_append]

theorem entry_apply_resets {c : DefaultMetricsCollector} {x : MetricsCall} {component : String}
    (hx : x.resets component = true) : (c.apply x).entry component = ⟨component, ∅, ∅, ∅⟩ := by
  cases x <;> simp_all [apply, MetricsCall.resets]

/-- Any other call applies `++` to each counter of `component` that it
records, and leaves the others; the wrapped totals move by one. -/
theorem entry_apply_counts (c : DefaultMetricsCollector) {x : MetricsCall} {component : String}
    (hx : x.resets component = false) (s : String) :
    ((c.apply x).entry component).versionMetrics.lookup s =
      (if x.isRequest component s then some (add64 ((c.entry component).versionMetrics.count s) 1)
        else (c.entry component).versionMetrics.lookup s) ∧
    ((c.apply x).entry component).errorCounts.lookup s =
      (if x.isError component s then some (add64 ((c.entry component).errorCounts.count s) 1)
        else (c.entry component).errorCounts.lookup s) ∧
    wrap64 ((c.apply x).entry component).versionMetrics.total =
      wrap64 ((c.entry component).versionMetrics.total + if x.isRequestOf component then 1 else 0) ∧
    wrap64 ((c.apply x).entry component).errorCounts.total =
      wrap64 ((c.entry component).errorCounts.total + if x.isErrorOf component then 1 else 0) := by
  cases x with
  | recordRequest c' v now =>
    by_cases hc : component = c'
    · subst hc
      by_cases hs : s = v.string <;>
        simp [apply, MetricsCall.isRequest, MetricsCall.isError, MetricsCall.isRequestOf,
          MetricsCall.isErrorOf, GoMap.lookup_incr, GoMap.wrap64_total_incr, eq_comm, hs]
    · simp [apply, MetricsCall.isRequest, MetricsCall.isError, MetricsCall.isRequestOf,
        MetricsCall.isErrorOf, hc, Ne.symm hc]
  | recordError c' v e =>
    by_cases hc : component = c'
    · subst hc
      by_cases hs : s = v.string <;>
        simp [apply, MetricsCall.isRequest, MetricsCall.isError, MetricsCall.isRequestOf,
          MetricsCall.isErrorOf, GoMap.lookup_incr, GoMap.wrap64_total_incr, eq_comm, hs]
    · simp [apply, MetricsCall.isRequest, MetricsCall.isError, MetricsCall.isRequestOf,
        MetricsCall.isErrorOf, hc, Ne.symm hc]
  | resetComponent c' =>
    have hc : component ≠ c' := by simpa [MetricsCall.resets, eq_comm] using hx
    simp [apply, MetricsCall.isRequest, MetricsCall.isError, MetricsCall.isRequestOf,
      MetricsCall.isErrorOf, hc]
  | reset => simp [MetricsCall.resets] at hx
  | getMetrics _ | getAllMetrics =>
    simp [apply, MetricsCall.isRequest, MetricsCall.isError, MetricsCall.isRequestOf,
      MetricsCall.isErrorOf]

theorem counts_apply (c : DefaultMetricsCollector) {x : MetricsCall} {component : String}
    (hx : x.resets component = false) (s : String) :
    (c.apply x).requestCount component s =
      (if x.isRequest component s then add64 (c.requestCount component s) 1 else c.requestCount component s) ∧
    (c.apply x).errorCount component s =
      (if x.isError component s then add64 (c.errorCount component s) 1 else c.errorCount component s) := by
  obtain ⟨h1, h2, -⟩ := entry_apply_counts c hx s
  simp only [← requestCount_entry, ← errorCount_entry, GoMap.count, h1, h2]
  constructor <;> split <;> rfl

theorem length_filter_append_singleton {α : Type} (p : α → Bool) (l : List α) (x : α) :
    ((l ++ [x]).filter p).length = (l.filter p).length + if p x then 1 else 0 := by
  cases h : p x <;> simp [h]

theorem lookup_succ {o : Option Int} {n : Nat} (h : o = int64Count n) (b : Bool) :
    (if b then some (add64 (o.getD 0) 1) else o) = int64Count (n + if b then 1 else 0) := by
  cases b
  · exact h
  · rw [h, if_pos rfl, if_pos rfl, int64Count_succ]

/-- What the record of `component` holds after any run from a fresh
collector: each counter is the number of matching record calls since the
last reset, wrapped to `int64` and absent when there is none, and the
wrapped sums are the wrapped numbers of record calls. -/
theorem entry_run (component s : String) (calls : List MetricsCall) :
    ((newDefaultMetricsCollector.run calls).entry component).versionMetrics.lookup s =
      int64Count ((sinceReset component calls).filter (·.isRequest component s)).length ∧
    ((newDefaultMetricsCollector.run calls).entry component).errorCounts.lookup s =
      int64Count ((sinceReset component calls).filter (·.isError component s)).length ∧
    wrap64 ((newDefaultMetricsCollector.run calls).entry component).versionMetrics.total =
      wrap64 ((sinceReset component calls).filter (·.isRequestOf component)).length ∧
    wrap64 ((newDefaultMetricsCollector.run calls).entry component).errorCounts.total =
      wrap64 ((sinceReset component calls).filter (·.isErrorOf component)).length := by
  induction calls using List.reverseRecOn with
  | nil => exact ⟨rfl, rfl, rfl, rfl⟩
  | append_singleton calls x ih =>
    rw [run_append, sinceReset_append]
    cases hx : x.resets component
    · obtain ⟨h1, h2, h3, h4⟩ := entry_apply_counts (newDefaultMetricsCollector.run calls) hx s
      simp only [Bool.false_eq_true, ↓reduceIte, length_filter_append_singleton, h1, h2, h3, h4]
      refine ⟨lookup_succ ih.1 _, lookup_succ ih.2.1 _, ?_, ?_⟩ <;> push_cast
      · exact wrap64_add_of_eq ih.2.2.1 _
      · exact wrap64_add_of_eq ih.2.2.2 _
    · simp [entry_apply_resets hx, int64Count]

/-- After any run from a fresh collector, `GetMetrics(component)` holds,
per version string, the number of `RecordRequest` and of `RecordError`
calls for the component since its last reset, wrapped to `int64` (a nil
result means there were none); between resets each call changes a counter
only by `++`; and `GetUsageStats` answers exactly when `GetMetrics` does,
with the wrapped sums of those counters, which are the wrapped numbers of
record calls, and a zero error rate when the request total is not
positive. -/
theorem metrics_counts_since_reset (calls : List MetricsCall) (component s : String) :
    (∀ m, (newDefaultMetricsCollector.run calls).getMetrics component = some m →
      m.versionMetrics.lookup s =
        int64Count ((sinceReset component calls).filter (·.isRequest component s)).length ∧
      m.errorCounts.lookup s = int64Count ((sinceReset component calls).filter (·.isError component s)).length ∧
      ∃ st, (newDefaultMetricsCollector.run calls).getUsageStats component = some st ∧
        st.totalRequests = wrap64 m.versionMetrics.total ∧ st.totalErrors = wrap64 m.errorCounts.total ∧
        st.totalRequests = wrap64 ((sinceReset component calls).filter (·.isRequestOf component)).length ∧
        st.totalErrors = wrap64 ((sinceReset component calls).filter (·.isErrorOf component)).length ∧
        (st.totalRequests ≤ 0 → st.errorRate = 0)) ∧
    ((newDefaultMetricsCollector.run calls).getMetrics component = none →
      (newDefaultMetricsCollector.run calls).getUsageStats component = none ∧
      ((sinceReset component calls).filter (·.isRequest component s)).length = 0 ∧
      ((sinceReset component calls).filter (·.isError component s)).length = 0) ∧
    (∀ x : MetricsCall, x.resets component = false →
      (newDefaultMetricsCollector.run (calls ++ [x])).requestCount component s =
        (if x.isRequest component s then add64 ((newDefaultMetricsCollector.run calls).requestCount component s) 1
          else (newDefaultMetricsCollector.run calls).requestCount component s) ∧
      (newDefaultMetricsCollector.run (calls ++ [x])).errorCount component s =
        (if x.isError component s then add64 ((newDefaultMetricsCollector.run calls).errorCount component s) 1
          else (newDefaultMetricsCollector.run calls).errorCount component s)) := by
  obtain ⟨h1, h2, h3, h4⟩ := entry_run component s calls
  refine ⟨fun m hm => ?_, fun hm => ?_, fun x hx => by rw [run_append]; exact counts_apply _ hx s⟩
  · rw [entry_of_getMetrics hm] at h1 h2 h3 h4
    obtain ⟨t1, t2, t3⟩ := usageStatsOf_totals component m m.versionMetrics.pairs m.errorCounts.pairs
      m.versionMetrics.pairs (List.Perm.refl _) (List.Perm.refl _)
    exact ⟨h1, h2, _, by simp [getUsageStats, hm], t1, t2, t1.trans h3, t2.trans h4, t3⟩
  · rw [entry_of_getMetrics_none hm] at h1 h2
    exact ⟨by simp [getUsageStats, hm], int64Count_eq_none.mp h1.symm, int64Count_eq_none.mp h2.symm⟩

theorem getMetrics_recordRequest (c : DefaultMetricsCollector) (component : String) (v : Version)
    (now : String) :
    (c.recordRequest component v now).getMetrics component = some ((c.recordRequest component v now).entry component) := by
  simp [getMetrics, entry, recordRequest, AList.lookup_insert]

/-- `n` requests for one version from a fresh collector: the record counts
`n`, wrapped, under that version and nothing under any other. -/
theorem lookup_run_replicate (component : String) (v : Version) (now s : String) (n : Nat) :
    ((newDefaultMetricsCollector.run (List.replicate n (.recordRequest component v now))).entry
      component).versionMetrics.lookup s = if s = v.string then int64Count n else none := by
  induction n with
  | zero => split <;> rfl
  | succ n ih =>
    rw [List.replicate_succ', run_append, (@entry_apply_counts _ (.recordRequest component v now) component rfl s).1,
      GoMap.count, ih]
    by_cases hs : s = v.string <;> simp [MetricsCall.isRequest, hs, eq_comm, int64Count_succ]

/-- 2^63 requests for one version leave its counter at -2^63. -/
theorem requestCount_wraps :
    (newDefaultMetricsCollector.run (List.replicate (2 ^ 63) (.recordRequest "users" (newVersion 1 0 0) "t"))).requestCount
      "users" "v1.0.0" = -2 ^ 63 := by
  rw [← requestCount_entry, GoMap.count, lookup_run_replicate, if_pos (by decide), int64Count, if_neg (by decide),
    Option.getD_some, wrap64]
  push_cast

end DefaultMetricsCollector

/-! ## The collector invariant -/

/-- What every record of a reachable collector satisfies: each counted
version string is non-empty, and the versions with a last-access time are
exactly the counted ones. -/
structure ComponentMetrics.Valid (m : ComponentMetrics) : Prop where
  key_ne : ∀ v ∈ m.versionMetrics, v ≠ ""
  lastAccessed_mem : ∀ v, v ∈ m.lastAccessed ↔ v ∈ m.versionMetrics

theorem ComponentMetrics.valid_fresh (component : String) : (⟨component, ∅, ∅, ∅⟩ : ComponentMetrics).Valid :=
  ⟨by simp, by simp⟩

theorem ComponentMetrics.Valid.record {m : ComponentMetrics} (h : m.Valid) (v : Version) (now : String) :
    ({ m with versionMetrics := m.versionMetrics.incr v.string,
              lastAccessed := m.lastAccessed.insert v.string now } : ComponentMetrics).Valid where
  key_ne w hw := by
    rw [GoMap.incr, AList.mem_insert] at hw
    rcases hw with rfl | hw
    · exact v.string_ne_empty
    · exact h.key_ne w hw
  lastAccessed_mem w := by
    simp only [GoMap.incr, AList.mem_insert, h.lastAccessed_mem w]

namespace DefaultMetricsCollector

/-- Every record of the collector is valid. -/
def Valid (c : DefaultMetricsCollector) : Prop := ∀ component m, c.getMetrics component = some m → m.Valid

theorem Valid.entry {c : DefaultMetricsCollector} (h : c.Valid) (component : String) : (c.entry component).Valid := by
  rcases hm : c.getMetrics component with _ | m
  · rw [entry_of_getMetrics_none hm]; exact ComponentMetrics.valid_fresh component
  · rw [entry_of_getMetrics hm]; exact h component m hm

theorem Valid.step {c : DefaultMetricsCollector} (h : c.Valid) (x : MetricsCall) : (c.apply x).Valid := by
  intro component' m hm
  cases x with
  | recordRequest component v now =>
    simp only [apply, getMetrics, recordRequest] at hm
    by_cases hc : component' = component
    · subst hc; simp only [AList.lookup_insert, Option.some.injEq] at hm; subst hm
      exact (h.entry component').record v now
    · rw [AList.lookup_insert_ne hc] at hm; exact h component' m hm
  | recordError component v e =>
    simp only [apply, getMetrics, recordError] at hm
    by_cases hc : component' = component
    · subst hc; simp only [AList.lookup_insert, Option.some.injEq] at hm; subst hm
      exact ⟨(h.entry component').key_ne, (h.entry component').lastAccessed_mem⟩
    · rw [AList.lookup_insert_ne hc] at hm; exact h component' m hm
  | getMetrics _ | getAllMetrics => exact h component' m hm
  | reset => simp [apply, reset, getMetrics] at hm
  | resetComponent component =>
    simp only [apply, getMetrics, resetComponent] at hm
    by_cases hc : component' = component
    · subst hc; simp [AList.lookup_erase] at hm
    · rw [AList.lookup_erase_ne hc] at hm; exact h component' m hm

/-- Every record of every collector reachable from a fresh one is valid. -/
theorem valid_run (calls : List MetricsCall) : (newDefaultMetricsCollector.run calls).Valid := by
  induction calls using List.reverseRecOn with
  | nil => intro component m hm; simp [run, newDefaultMetricsCollector, getMetrics] at hm
  | append_singleton calls x ih => rw [run_append]; exact ih.step x

end DefaultMetricsCollector

/-- What the selection loop of `GetUsageStats` is for: a most-used and a
least-used version among the counted ones (both empty exactly when there is
none) and the latest last-access time. -/
structure UsageSelection (m : ComponentMetrics) (st : VersionUsageStats) : Prop where
  mostUsed_ge : ∀ v n, m.versionMetrics.lookup v = some n → n ≤ m.versionMetrics.count st.mostUsedVersion
  leastUsed_le : ∀ v n, m.versionMetrics.lookup v = some n → m.versionMetrics.count st.leastUsedVersion ≤ n
  mostUsed_mem : m.versionMetrics.entries ≠ [] → st.mostUsedVersion ∈ m.versionMetrics
  leastUsed_mem : m.versionMetrics.entries ≠ [] → st.leastUsedVersion ∈ m.versionMetrics
  mostUsed_empty : st.mostUsedVersion = "" ↔ m.versionMetrics.entries = []
  leastUsed_empty : st.leastUsedVersion = "" ↔ m.versionMetrics.entries = []
  latest_ge : ∀ v t, m.lastAccessed.lookup v = some t → t ≤ st.lastActivity
  latest_mem : st.lastActivity = "" ∨ ∃ v, m.lastAccessed.lookup v = some st.lastActivity

/-- On a valid record whose counters are positive, the selection loop does
what it is for, in every iteration order. -/
theorem usageSelection_of_perm {m : ComponentMetrics} (hvalid : m.Valid)
    (hpos : ∀ v n, m.versionMetrics.lookup v = some n → 0 < n) (component : String)
    {versions : List (String × Int)} (hv : versions.Perm m.versionMetrics.pairs)
    (errors breakdown : List (String × Int)) :
    UsageSelection m (usageStatsOf component m versions errors breakdown) := by
  have hmem : ∀ v n, (v, n) ∈ versions ↔ m.versionMetrics.lookup v = some n := fun v n =>
    hv.mem_iff.trans GoMap.mem_pairs
  have hcount : ∀ e ∈ versions, m.versionMetrics.count e.1 = e.2 := fun e he => by
    simp [GoMap.count, (hmem e.1 e.2).mp he]
  have hkey : ∀ e ∈ versions, e.1 ∈ m.versionMetrics := fun e he =>
    AList.lookup_isSome.mp (by rw [(hmem e.1 e.2).mp he]; rfl)
  have hempty : m.versionMetrics.entries = [] ↔ versions = [] := by
    have hp : m.versionMetrics.pairs = [] ↔ m.versionMetrics.entries = [] := by simp [GoMap.pairs]
    rw [← hp]
    exact ⟨fun h => (h ▸ hv).eq_nil, fun h => (h ▸ hv).nil_eq.symm⟩
  have hpos' : ∀ e ∈ versions, 0 < e.2 := fun e he => hpos e.1 e.2 ((hmem e.1 e.2).mp he)
  simp only [usageStatsOf]
  generalize hr : versions.foldl (usageStep m.lastAccessed) {} = r
  have hnil : versions = [] → r = {} := fun h => by rw [← hr, h]; rfl
  obtain ⟨hmost, hmsel⟩ := hr ▸ foldl_usageStep_most m.lastAccessed versions
  have hlsel := hr ▸ foldl_usageStep_least m.lastAccessed versions hpos'
  obtain ⟨hlate, hlsel'⟩ := hr ▸ foldl_usageStep_latest m.lastAccessed versions
  -- some count is positive, so the most-used version is a visited one
  have hmsel' : versions ≠ [] → ∃ e ∈ versions, r.mostUsedVersion = e.1 ∧ r.mostUsedCount = e.2 ∧ 0 < e.2 :=
    fun hne => hmsel.resolve_left fun ⟨_, h0⟩ => by
      obtain ⟨e, he⟩ := List.exists_mem_of_ne_nil _ hne
      have := hmost e he; have := hpos' e he; omega
  have hlsel'' : versions ≠ [] → ∃ e ∈ versions, r.leastUsedVersion = e.1 ∧ r.leastUsedCount = e.2 ∧
      ∀ e' ∈ versions, e.2 ≤ e'.2 := fun hne => hlsel.resolve_left fun h => hne h.1
  refine ⟨fun v n hvn => ?_, fun v n hvn => ?_, fun hne => ?_, fun hne => ?_,
    ⟨fun h => ?_, fun h => by rw [hnil (hempty.mp h)]⟩, ⟨fun h => ?_, fun h => by rw [hnil (hempty.mp h)]⟩,
    fun v t hvt => ?_, ?_⟩
  · obtain ⟨e, he, h1, h2, -⟩ := hmsel' (List.ne_nil_of_mem ((hmem v n).mpr hvn))
    rw [h1, hcount e he, ← h2]; exact hmost (v, n) ((hmem v n).mpr hvn)
  · obtain ⟨e, he, h1, -, hmin⟩ := hlsel'' (List.ne_nil_of_mem ((hmem v n).mpr hvn))
    rw [h1, hcount e he]; exact hmin (v, n) ((hmem v n).mpr hvn)
  · obtain ⟨e, he, h1, -⟩ := hmsel' (mt hempty.mpr hne)
    exact h1 ▸ hkey e he
  · obtain ⟨e, he, h1, -⟩ := hlsel'' (mt hempty.mpr hne)
    exact h1 ▸ hkey e he
  · exact by_contra fun hne => by
      obtain ⟨e, he, h1, -⟩ := hmsel' (mt hempty.mpr hne)
      exact hvalid.key_ne e.1 (hkey e he) (h1 ▸ h)
  · exact by_contra fun hne => by
      obtain ⟨e, he, h1, -⟩ := hlsel'' (mt hempty.mpr hne)
      exact hvalid.key_ne e.1 (hkey e he) (h1 ▸ h)
  · obtain ⟨n, hn⟩ := Option.isSome_iff_exists.mp
      (AList.lookup_isSome.mpr ((hvalid.lastAccessed_mem v).mp (AList.lookup_isSome.mp (by rw [hvt]; rfl))))
    exact hlate (v, n) ((hmem v n).mpr hn) t hvt
  · rcases hlsel' with h | ⟨e, -, h⟩
    · exact .inl h
    · exact .inr ⟨e.1, h⟩

/-- With no positive counter, nothing is the most used. -/
theorem usageStatsOf_mostUsed_of_nonpos {m : ComponentMetrics}
    (h : ∀ k n, m.versionMetrics.lookup k = some n → n ≤ 0) (component : String)
    (errors breakdown : List (String × Int)) :
    (usageStatsOf component m m.versionMetrics.pairs errors breakdown).mostUsedVersion = "" := by
  rcases (foldl_usageStep_most m.lastAccessed m.versionMetrics.pairs).2 with ⟨h', -⟩ | ⟨e, he, -, -, hpos⟩
  · exact h'
  · have := h e.1 e.2 (GoMap.mem_pairs.mp he); omega

namespace DefaultMetricsCollector

/-- After any run from a fresh collector, for a component with a record
whose versions have each had fewer than 2^63 requests since the reset,
`GetUsageStats` answers, and in its iteration order as in every other it
selects a most-used version whose count is at least every version's count
and a least-used version whose count is at most every version's count,
each a counted version, either empty exactly when there are no counters,
and as last activity the greatest last-access time of the component, or
empty when there is none. -/
theorem usageStats_selection (calls : List MetricsCall) (component : String) (m : ComponentMetrics)
    (hm : (newDefaultMetricsCollector.run calls).getMetrics component = some m)
    (hfew : ∀ s, ((sinceReset component calls).filter (·.isRequest component s)).length < 2 ^ 63) :
    (∃ st, (newDefaultMetricsCollector.run calls).getUsageStats component = some st ∧ UsageSelection m st) ∧
    ∀ versions errors breakdown, versions.Perm m.versionMetrics.pairs →
      UsageSelection m (usageStatsOf component m versions errors breakdown) := by
  have hpos : ∀ v n, m.versionMetrics.lookup v = some n → 0 < n := fun v n hn => by
    have h := (entry_run component v calls).1
    rw [entry_of_getMetrics hm, hn, int64Count] at h
    split at h
    · cases h
    · have := hfew v
      rw [Option.some.inj h, wrap64_of_lt (by omega) (by omega)]; omega
  have hsel := fun versions errors breakdown (hv : List.Perm versions m.versionMetrics.pairs) =>
    usageSelection_of_perm (valid_run calls component m hm) hpos component hv errors breakdown
  exact ⟨⟨_, by simp [getUsageStats, hm], hsel _ m.errorCounts.pairs m.versionMetrics.pairs (List.Perm.refl _)⟩, hsel⟩

/-- One request for `v1.0.0` from a fresh collector meets the hypotheses. -/
theorem usageStats_selection_one_request :
    ∃ m, (newDefaultMetricsCollector.run [.recordRequest "users" (newVersion 1 0 0) "t1"]).getMetrics "users" = some m ∧
      (∀ s, ((sinceReset "users" [.recordRequest "users" (newVersion 1 0 0) "t1"]).filter
        (·.isRequest "users" s)).length < 2 ^ 63) ∧
      (∃ st, (newDefaultMetricsCollector.run [.recordRequest "users" (newVersion 1 0 0) "t1"]).getUsageStats "users" =
        some st ∧ UsageSelection m st) ∧
      ∀ versions errors breakdown, versions.Perm m.versionMetrics.pairs →
        UsageSelection m (usageStatsOf "users" m versions errors breakdown) :=
  have hfew : ∀ s, ((sinceReset "users" [.recordRequest "users" (newVersion 1 0 0) "t1"]).filter
      (·.isRequest "users" s)).length < 2 ^ 63 := fun _ =>
    lt_of_le_of_lt (List.length_filter_le _ _) (by decide)
  ⟨_, rfl, hfew, usageStats_selection [.recordRequest "users" (newVersion 1 0 0) "t1"] "users" _ rfl hfew⟩

theorem getMetrics_run_replicate (component : String) (v : Version) (now : String) (n : Nat) :
    (newDefaultMetricsCollector.run (List.replicate (n + 1) (.recordRequest component v now))).getMetrics component =
      some ((newDefaultMetricsCollector.run (List.replicate (n + 1) (.recordRequest component v now))).entry component) := by
  rw [List.replicate_succ', run_append]
  exact getMetrics_recordRequest _ _ _ _

/-- Once the wrapped count of the only version is not positive, nothing
is the most used, though the version has a counter. -/
theorem mostUsed_run_replicate (component : String) (v : Version) (now : String) (n : Nat)
    (hneg : wrap64 (n + 1) ≤ 0) :
    ∃ m st, (newDefaultMetricsCollector.run (List.replicate (n + 1) (.recordRequest component v now))).getMetrics
        component = some m ∧ m.versionMetrics.lookup v.string = some (wrap64 (n + 1)) ∧
      (newDefaultMetricsCollector.run (List.replicate (n + 1) (.recordRequest component v now))).getUsageStats
        component = some st ∧ st.mostUsedVersion = "" := by
  have hm := getMetrics_run_replicate component v now n
  have hl := lookup_run_replicate component v now
  have hc : int64Count (n + 1) = some (wrap64 (n + 1)) := by
    rw [int64Count, if_neg n.succ_ne_zero]; push_cast; rfl
  refine ⟨_, _, hm, by rw [hl, if_pos rfl, hc], by rw [getUsageStats, hm]; rfl,
    usageStatsOf_mostUsed_of_nonpos (fun k n' hk => ?_) _ _ _⟩
  rw [hl] at hk
  split at hk
  · rw [hc, Option.some.injEq] at hk; omega
  · cases hk

/-- Past 2^63 requests the selection breaks: the only counter has wrapped
to -2^63, so `MostUsedVersion` is empty though the component has a
counter. -/
theorem usageStats_mostUsed_wraps :
    ∃ m st, (newDefaultMetricsCollector.run (List.replicate (2 ^ 63)
        (.recordRequest "users" (newVersion 1 0 0) "t"))).getMetrics "users" = some m ∧
      m.versionMetrics.lookup "v1.0.0" = some (-2 ^ 63) ∧
      (newDefaultMetricsCollector.run (List.replicate (2 ^ 63)
        (.recordRequest "users" (newVersion 1 0 0) "t"))).getUsageStats "users" = some st ∧
      st.mostUsedVersion = "" := by
  have hw : wrap64 ((2 ^ 63 - 1 : Nat) + 1) = -2 ^ 63 := by unfold wrap64; push_cast
  have h := mostUsed_run_replicate "users" (newVersion 1 0 0) "t" (2 ^ 63 - 1) (by rw [hw]; decide)
  rwa [show 2 ^ 63 - 1 + 1 = 2 ^ 63 from rfl, show (newVersion 1 0 0).string = "v1.0.0" from rfl, hw] at h

end DefaultMetricsCollector

end Gochoreo
