import Gochoreo.L6Client.Dragonfly.Metrics

/-!
# The Dragonfly health checker

`HealthChecker` of package `dragonfly` (src/unnamed/part_004:14-217) and
`BatchHealthCheck` (lines 219-307). `Check` and `Reset` hold `mu`, so a run
of the checker is a sequence of whole calls (`HealthCall`). What the server
answers to the probes of `performHealthCheck` is an input (`Probe`), and so
are the readings of the clock a call makes (`CheckClock`). An error is its
`Error()` text. `ServerInfo` is a map whose nil value reads as empty, and
`strconv.ParseInt(·, 10, 64)` is `atoi`.

**Results.**
* `performHealthCheck_spec`: the probes fail exactly when the client is nil
  or `PING`, `SET` or `GET` fails (an `INFO` error is ignored), and parsing
  the `INFO` reply leaves the counters alone.
* `countersOf_run`: after any run from `NewHealthChecker`, `Connected`,
  `CheckCount`, `FailureCount` and `ConsecutiveFails` are those of the run
  (`CountersOf`).
* `isHealthy_run`: `IsHealthy` is true exactly when the last `Check`
  succeeded; the tolerance of three consecutive failures never decides.
* `batchHealthCheck_stats`: `BatchHealthCheck` makes at least one check and
  reports the true counts, least and greatest latency of its checks.
-/
namespace Gochoreo.Dragonfly

/-! ## `strings.TrimSpace` -/

/-- `unicode.IsSpace`: the Latin-1 spaces and the other `White_Space`
characters of Unicode. -/
def isGoSpace (c : Char) : Bool :=
  c = '\t' || c = '\n' || c = '\x0b' || c = '\x0c' || c = '\r' || c = ' ' || c = '\x85' || c = '\xa0' ||
    c = '\u1680' || ('\u2000' ≤ c && c ≤ '\u200a') || c = '\u2028' || c = '\u2029' || c = '\u202f' ||
    c = '\u205f' || c = '\u3000'

/-- `strings.TrimSpace(s)`. -/
def trimSpace (s : String) : String :=
  String.mk ((s.toList.dropWhile isGoSpace).reverse.dropWhile isGoSpace).reverse

/-! ## State -/

/-- mirrors src/unnamed/part_004:14-29 (`HealthStatus`); `LastError` is the
text of the error. -/
structure HealthStatus where
  connected : Bool := false
  lastCheck : Int
  lastError : Option String := none
  latency : Int := 0
  checkCount : Int := 0
  failureCount : Int := 0
  consecutiveFails : Int := 0
  uptime : Int := 0
  serverInfo : GoMap String := ∅
  memoryUsage : Int := 0
  connectedClients : Int := 0

/-- mirrors src/unnamed/part_004:31-38 (`HealthChecker`) with the parts of its
`Client` that `Check` writes: the `connected` and `lastConnected` flags and
the metrics, if any. -/
structure HealthChecker where
  status : HealthStatus
  startTime : Int
  clientConnected : Bool := false
  lastConnected : Option Int := none
  metrics : Option Metrics := none

/-- mirrors src/unnamed/part_004:40-55 (`NewHealthChecker`); `lastCheckAt`
and `startAt` are the two readings of `time.Now()`. -/
def newHealthChecker (lastCheckAt startAt : Int) (metrics : Option Metrics) : HealthChecker :=
  { status := { lastCheck := lastCheckAt }, startTime := startAt, metrics := metrics }

/-- The answers to the probes of one `performHealthCheck`: the error text of
each failed call, `none` for success; `info` is the reply to `INFO` when it
succeeds. -/
structure Probe where
  clientNil : Bool := false
  ping : Option String := none
  info : Option String := none
  set : Option String := none
  get : Option String := none

/-- The readings of the clock during one `Check`: at its start, for
`Uptime`, after the probes, and in `RecordHealthCheck`. -/
structure CheckClock where
  start : Int
  uptimeAt : Int
  finish : Int
  recordedAt : Int

/-! ## `Check` -/

/-- One line of `parseServerInfo` (part_004:188-215). -/
def serverInfoLine (status : HealthStatus) (line : String) : HealthStatus :=
  if line = "" ∨ hasPrefix line "#" = true then status else
  match splitN2 line ':' with
  | [k, v] =>
    let key := trimSpace k
    let value := trimSpace v
    let status := { status with serverInfo := status.serverInfo.insert key value }
    if key = "used_memory" then
      match atoi value with
      | some mem => { status with memoryUsage := mem }
      | none => status
    else if key = "connected_clients" then
      match atoi value with
      | some clients => { status with connectedClients := clients }
      | none => status
    else status
  | _ => status

/-- mirrors src/unnamed/part_004:182-216 (`parseServerInfo`) -/
def parseServerInfo (status : HealthStatus) (info : String) : HealthStatus :=
  (split info "\r\n").foldl serverInfoLine status

/-- mirrors src/unnamed/part_004:148-180 (`performHealthCheck`): the error, and
the status after `parseServerInfo`. -/
def performHealthCheck (status : HealthStatus) (probe : Probe) : Option String × HealthStatus :=
  if probe.clientNil then (some "client is nil", status) else
  match probe.ping with
  | some err => (some ("ping failed: " ++ err), status)
  | none =>
    let status := match probe.info with
      | some info => parseServerInfo status info
      | none => status
    match probe.set with
    | some err => (some ("set operation failed: " ++ err), status)
    | none =>
      match probe.get with
      | some err => (some ("get operation failed: " ++ err), status)
      | none => (none, status)

namespace HealthChecker

/-- mirrors src/unnamed/part_004:56-111 (`Check`) -/
def check (hc : HealthChecker) (clock : CheckClock) (probe : Probe) : HealthChecker :=
  let status := { hc.status with lastCheck := clock.start, checkCount := add64 hc.status.checkCount 1,
                                 uptime := clock.uptimeAt - hc.startTime }
  match performHealthCheck status probe with
  | (some e, status) =>
    { hc with status := { status with latency := clock.finish - clock.start, connected := false,
                                      lastError := some e, failureCount := add64 status.failureCount 1,
                                      consecutiveFails := add64 status.consecutiveFails 1 }
              metrics := hc.metrics.map (·.recordHealthCheck false clock.recordedAt) }
  | (none, status) =>
    { hc with status := { status with latency := clock.finish - clock.start, connected := true,
                                      lastError := none, consecutiveFails := 0 }
              metrics := hc.metrics.map (·.recordHealthCheck true clock.recordedAt)
              clientConnected := true
              lastConnected := some clock.start }

/-- mirrors src/unnamed/part_004:113-120 (`GetStatus`) -/
def getStatus (hc : HealthChecker) : HealthStatus := hc.status

/-- mirrors src/unnamed/part_004:122-129 (`IsHealthy`) -/
def isHealthy (hc : HealthChecker) : Bool := hc.status.connected && decide (hc.status.consecutiveFails < 3)

/-- mirrors src/unnamed/part_004:131-134 (`GetUptime`) -/
def getUptime (hc : HealthChecker) (now : Int) : Int := now - hc.startTime

/-- mirrors src/unnamed/part_004:136-146 (`Reset`) -/
def reset (hc : HealthChecker) (now : Int) : HealthChecker :=
  { hc with status := { hc.status with checkCount := 0, failureCount := 0, consecutiveFails := 0, lastError := none }
            startTime := now }

end HealthChecker

/-! ## The counters of a status -/

/-- The fields of a status that `Check` and `Reset` count with. -/
def HealthStatus.counters (s : HealthStatus) : Bool × Int × Int × Int :=
  (s.connected, s.checkCount, s.failureCount, s.consecutiveFails)

theorem counters_serverInfoLine (s : HealthStatus) (line : String) :
    (serverInfoLine s line).counters = s.counters := by
  unfold serverInfoLine
  split
  · rfl
  · split
    · dsimp only
      split_ifs <;> (try split) <;> rfl
    · rfl

theorem counters_parseServerInfo (s : HealthStatus) (info : String) :
    (parseServerInfo s info).counters = s.counters := by
  unfold parseServerInfo
  induction split info "\r\n" generalizing s with
  | nil => rfl
  | cons line lines ih => rw [List.foldl_cons, ih, counters_serverInfoLine]

/-- Whether the probes make `performHealthCheck` fail. -/
def Probe.failed (p : Probe) : Bool := p.clientNil || p.ping.isSome || p.set.isSome || p.get.isSome

/-- `performHealthCheck` fails exactly on a failed probe, and leaves the
counters alone. -/
theorem performHealthCheck_spec (s : HealthStatus) (p : Probe) :
    (performHealthCheck s p).1.isSome = p.failed ∧ (performHealthCheck s p).2.counters = s.counters := by
  unfold performHealthCheck Probe.failed
  cases p.clientNil
  · cases p.ping
    · have hs : (match p.info with | some info => parseServerInfo s info | none => s).counters = s.counters := by
        cases p.info
        · rfl
        · exact counters_parseServerInfo _ _
      cases p.set <;> cases p.get <;> exact ⟨rfl, hs⟩
    · exact ⟨rfl, rfl⟩
  · exact ⟨rfl, rfl⟩

namespace HealthChecker

/-- What `Check` does to the counters: it counts the check, and a failed
one also as a failure and a consecutive failure; a successful one connects
and clears the consecutive failures. -/
theorem counters_check (hc : HealthChecker) (clock : CheckClock) (probe : Probe) :
    (hc.check clock probe).status.counters =
      (!probe.failed, add64 hc.status.checkCount 1,
        if probe.failed then add64 hc.status.failureCount 1 else hc.status.failureCount,
        if probe.failed then add64 hc.status.consecutiveFails 1 else 0) := by
  obtain ⟨hfail, hcount⟩ := performHealthCheck_spec
    { hc.status with lastCheck := clock.start, checkCount := add64 hc.status.checkCount 1,
                     uptime := clock.uptimeAt - hc.startTime } probe
  simp only [HealthStatus.counters, Prod.mk.injEq] at hcount
  unfold check
  dsimp only
  cases hf : probe.failed
  · rw [if_neg Bool.false_ne_true, if_neg Bool.false_ne_true]
    split
    next e status heq => rw [heq, hf] at hfail; cases hfail
    next status heq => rw [heq] at hcount; simp only at hcount; simp [HealthStatus.counters, hcount]
  · rw [if_pos rfl, if_pos rfl]
    split
    next e status heq => rw [heq] at hcount; simp only at hcount; simp [HealthStatus.counters, hcount]
    next status heq => rw [heq, hf] at hfail; cases hfail

theorem counters_reset (hc : HealthChecker) (now : Int) :
    (hc.reset now).status.counters = (hc.status.connected, 0, 0, 0) := rfl

end HealthChecker

/-! ## Runs -/

/-- A call that writes the checker. -/
inductive HealthCall where
  | check (clock : CheckClock) (probe : Probe)
  | reset (now : Int)

namespace HealthCall

/-- Whether a `Check` failed; `none` for a `Reset`. -/
def failed? : HealthCall → Option Bool
  | .check _ probe => some probe.failed
  | .reset _ => none

def isReset : HealthCall → Bool
  | .reset _ => true
  | .check _ _ => false

end HealthCall

namespace HealthChecker

/-- One call. -/
def apply (hc : HealthChecker) : HealthCall → HealthChecker
  | .check clock probe => hc.check clock probe
  | .reset now => hc.reset now

/-- The checker after a sequence of calls. -/
def run (hc : HealthChecker) (calls : List HealthCall) : HealthChecker := calls.foldl apply hc

theorem run_append (hc : HealthChecker) (calls : List HealthCall) (x : HealthCall) :
    hc.run (calls ++ [x]) = (hc.run calls).apply x := by
  simp [run, List.foldl_append]

end HealthChecker

/-- The outcomes of the checks since the last `Reset`, `true` for a failure. -/
def checksSinceReset (calls : List HealthCall) : List Bool :=
  ((calls.reverse.takeWhile fun x => !x.isReset).reverse).filterMap HealthCall.failed?

/-- The failed checks at the end of the run, after the last successful
check or `Reset`. -/
def trailingFailures (calls : List HealthCall) : Nat :=
  (calls.reverse.takeWhile fun x => x.failed? == some true).length

/-- Whether the last check of the run succeeded; false if there is none. -/
def lastCheckSucceeded (calls : List HealthCall) : Bool :=
  ((calls.reverse.findSome? HealthCall.failed?).map (!·)).getD false

/-- The counters after a run: connected exactly after a successful last
check, the checks and failures since the last `Reset`, and the failures
since the last success or `Reset`, all wrapped to `int64`. -/
def CountersOf (s : HealthStatus) (calls : List HealthCall) : Prop :=
  s.counters = (lastCheckSucceeded calls, wrap64 (checksSinceReset calls).length,
    wrap64 ((checksSinceReset calls).count true), wrap64 (trailingFailures calls))

theorem lastCheckSucceeded_append (calls : List HealthCall) (x : HealthCall) :
    lastCheckSucceeded (calls ++ [x]) = match x.failed? with
      | some failed => !failed
      | none => lastCheckSucceeded calls := by
  cases x <;> simp [lastCheckSucceeded, HealthCall.failed?, List.findSome?_cons]

theorem checksSinceReset_append (calls : List HealthCall) (x : HealthCall) :
    checksSinceReset (calls ++ [x]) = if x.isReset then [] else checksSinceReset calls ++ x.failed?.toList := by
  cases x <;> simp [checksSinceReset, HealthCall.isReset, HealthCall.failed?, List.filterMap_append]

theorem trailingFailures_append (calls : List HealthCall) (x : HealthCall) :
    trailingFailures (calls ++ [x]) = if x.failed? = some true then trailingFailures calls + 1 else 0 := by
  cases x with
  | check clock probe =>
    cases hf : probe.failed <;> simp [trailingFailures, HealthCall.failed?, List.takeWhile_cons, hf]
  | reset now => simp [trailingFailures, HealthCall.failed?]

theorem countersOf_nil (lastCheckAt startAt : Int) (metrics : Option Metrics) :
    CountersOf (newHealthChecker lastCheckAt startAt metrics).status [] := rfl

/-- One call keeps the counters in step with the run. -/
theorem CountersOf.apply {hc : HealthChecker} {calls : List HealthCall} (h : CountersOf hc.status calls)
    (x : HealthCall) : CountersOf (hc.apply x).status (calls ++ [x]) := by
  unfold CountersOf at h ⊢
  simp only [HealthStatus.counters, Prod.mk.injEq] at h
  obtain ⟨h1, h2, h3, h4⟩ := h
  rw [lastCheckSucceeded_append, checksSinceReset_append, trailingFailures_append]
  cases x with
  | check clock probe =>
    rw [HealthChecker.apply, HealthChecker.counters_check]
    cases hf : probe.failed
    · simp [HealthCall.failed?, HealthCall.isReset, hf, h2, h3, List.count_append, add64_wrap64]
      rfl
    · simp [HealthCall.failed?, HealthCall.isReset, hf, h2, h3, h4, List.count_append, add64_wrap64]
  | reset now =>
    rw [HealthChecker.apply, HealthChecker.counters_reset]
    simp [HealthCall.failed?, HealthCall.isReset, h1]
    rfl

/-- After any run from `NewHealthChecker`, the counters are those of the run:
`Connected` exactly after a successful last check, `CheckCount` and
`FailureCount` the checks and failures since the last `Reset`, and
`ConsecutiveFails` the failures since the last success or `Reset`. -/
theorem countersOf_run (lastCheckAt startAt : Int) (metrics : Option Metrics) (calls : List HealthCall) :
    CountersOf ((newHealthChecker lastCheckAt startAt metrics).run calls).status calls := by
  induction calls using List.reverseRecOn with
  | nil => exact countersOf_nil lastCheckAt startAt metrics
  | append_singleton calls x ih => rw [HealthChecker.run_append]; exact ih.apply x

theorem trailingFailures_eq_zero {calls : List HealthCall} (h : lastCheckSucceeded calls = true) :
    trailingFailures calls = 0 := by
  unfold lastCheckSucceeded at h
  unfold trailingFailures
  cases hr : calls.reverse with
  | nil => rfl
  | cons x rest =>
    rw [hr] at h
    cases x with
    | check clock probe =>
      cases hf : probe.failed
      · simp [HealthCall.failed?, hf]
      · simp [HealthCall.failed?, List.findSome?_cons, hf] at h
    | reset now => simp [HealthCall.failed?]

/-- `IsHealthy` is true exactly when the last `Check` succeeded: a failed
check clears `Connected`, and a successful one clears `ConsecutiveFails`,
so the tolerance `ConsecutiveFails < 3` never decides. -/
theorem isHealthy_run (lastCheckAt startAt : Int) (metrics : Option Metrics) (calls : List HealthCall) :
    ((newHealthChecker lastCheckAt startAt metrics).run calls).isHealthy = lastCheckSucceeded calls := by
  have h := countersOf_run lastCheckAt startAt metrics calls
  simp only [CountersOf, HealthStatus.counters, Prod.mk.injEq] at h
  rw [HealthChecker.isHealthy, h.1, h.2.2.2]
  cases hl : lastCheckSucceeded calls
  · rfl
  · rw [trailingFailures_eq_zero hl]
    decide

/-! ## `BatchHealthCheck` -/

/-- mirrors src/unnamed/part_004:218-224 (`HealthCheckResult`) -/
structure HealthCheckResult where
  success : Bool
  latency : Int
  error : Option String
  timestamp : Int

/-- mirrors src/unnamed/part_004:226-249 (`PerformSingleHealthCheck`): `ping` is
the error of the ping, `start` and `finish` the readings of the clock. -/
def performSingleHealthCheck (start finish : Int) (ping : Option String) : HealthCheckResult :=
  { success := ping.isNone, latency := finish - start, error := ping, timestamp := start }

/-- The accumulators of the loop of `BatchHealthCheck`. `successCount` is an
`int` that never exceeds the count of checks, so it cannot wrap. -/
structure BatchAcc where
  successCount : Int := 0
  totalLatency : Int := 0
  minLatency : Int := 0
  maxLatency : Int := 0

/-- The loop of `BatchHealthCheck` (part_004:261-279) from iteration `i`. -/
def batchLoop : Nat → BatchAcc → List HealthCheckResult → BatchAcc
  | _, acc, [] => acc
  | i, acc, result :: rest =>
    batchLoop (i + 1)
      { successCount := if result.success then acc.successCount + 1 else acc.successCount
        totalLatency := add64 acc.totalLatency result.latency
        minLatency := if i = 0 ∨ result.latency < acc.minLatency then result.latency else acc.minLatency
        maxLatency := if i = 0 ∨ result.latency > acc.maxLatency then result.latency else acc.maxLatency }
      rest

/-- mirrors src/unnamed/part_004:295-304 (`BatchHealthCheckResult`) -/
structure BatchHealthCheckResult where
  count : Int
  successCount : Int
  failureCount : Int
  successRate : Float
  averageLatency : Int
  minLatency : Int
  maxLatency : Int
  results : List HealthCheckResult

/-- mirrors src/unnamed/part_004:251-292 (`BatchHealthCheck`): the `i`-th
check gives `check i`. -/
def batchHealthCheck (count : Int) (check : Nat → HealthCheckResult) : BatchHealthCheckResult :=
  let count := if count ≤ 0 then 10 else count
  let results := (List.range count.toNat).map check
  let acc := batchLoop 0 {} results
  { count := count
    successCount := acc.successCount
    failureCount := count - acc.successCount
    successRate := Float.ofInt acc.successCount / Float.ofInt count
    averageLatency := acc.totalLatency.tdiv count
    minLatency := acc.minLatency
    maxLatency := acc.maxLatency
    results := results }

/-- After the first iteration the loop counts the successes, adds the
latencies and keeps their least and greatest. -/
theorem batchLoop_succ (i : Nat) (acc : BatchAcc) (rest : List HealthCheckResult) :
    batchLoop (i + 1) acc rest =
      { successCount := acc.successCount + (rest.filter (·.success)).length
        totalLatency := (rest.map (·.latency)).foldl add64 acc.totalLatency
        minLatency := (rest.map (·.latency)).foldl min acc.minLatency
        maxLatency := (rest.map (·.latency)).foldl max acc.maxLatency } := by
  induction rest generalizing i acc with
  | nil => simp [batchLoop]
  | cons r rest ih =>
    have hmin : (if i + 1 = 0 ∨ r.latency < acc.minLatency then r.latency else acc.minLatency) =
        min acc.minLatency r.latency := by
      rw [Int.min_def, if_congr (or_iff_right i.succ_ne_zero) rfl rfl]; split_ifs <;> omega
    have hmax : (if i + 1 = 0 ∨ r.latency > acc.maxLatency then r.latency else acc.maxLatency) =
        max acc.maxLatency r.latency := by
      rw [Int.max_def, if_congr (or_iff_right i.succ_ne_zero) rfl rfl]; split_ifs <;> omega
    rw [batchLoop, ih, hmin, hmax, List.map_cons, List.foldl_cons, List.foldl_cons, List.foldl_cons,
      List.filter_cons, BatchAcc.mk.injEq]
    refine ⟨?_, rfl, rfl, rfl⟩
    cases r.success
    · rfl
    · rw [if_pos rfl, if_pos rfl, List.length_cons]; push_cast; omega

theorem batchLoop_zero (r : HealthCheckResult) (rest : List HealthCheckResult) :
    batchLoop 0 {} (r :: rest) =
      batchLoop 1 ⟨if r.success then 1 else 0, add64 0 r.latency, r.latency, r.latency⟩ rest := by
  rw [batchLoop, if_pos (Or.inl rfl), if_pos (Or.inl rfl)]
  cases r.success <;> rfl

/-- Over a non-empty list of checks, the loop counts the successes, wraps
the sum of the latencies, and finds their least and greatest. -/
theorem batchLoop_stats {results : List HealthCheckResult} (h : results ≠ []) :
    (results.map (·.latency)).min? = some (batchLoop 0 {} results).minLatency ∧
    (results.map (·.latency)).max? = some (batchLoop 0 {} results).maxLatency ∧
    (batchLoop 0 {} results).successCount = (results.filter (·.success)).length ∧
    (batchLoop 0 {} results).totalLatency = wrap64 (results.map (·.latency)).sum := by
  obtain ⟨r, rest, rfl⟩ := List.exists_cons_of_ne_nil h
  rw [batchLoop_zero, batchLoop_succ, List.map_cons, List.min?_cons', List.max?_cons', List.filter_cons,
    List.sum_cons]
  refine ⟨rfl, rfl, ?_, ?_⟩
  · cases r.success
    · simp
    · simp only [if_true, List.length_cons]; push_cast; omega
  · show (rest.map (·.latency)).foldl add64 (wrap64 (0 + r.latency)) = _
    rw [foldl_add64, Int.zero_add]

/-- `BatchHealthCheck` reports true statistics of its checks: `count`
checks are made, or 10 when `count ≤ 0`, the success and failure counts partition them, the least
and greatest latency are those of the checks, and the average is the
truncated quotient of their wrapped sum by the count. -/
theorem batchHealthCheck_stats (count : Int) (check : Nat → HealthCheckResult) :
    (batchHealthCheck count check).count = (if count ≤ 0 then 10 else count) ∧
    (batchHealthCheck count check).results = (List.range (if count ≤ 0 then 10 else count).toNat).map check ∧
    (batchHealthCheck count check).count = (batchHealthCheck count check).results.length ∧
    0 < (batchHealthCheck count check).count ∧
    (batchHealthCheck count check).successCount =
      ((batchHealthCheck count check).results.filter (·.success)).length ∧
    (batchHealthCheck count check).failureCount =
      ((batchHealthCheck count check).results.filter (!·.success)).length ∧
    ((batchHealthCheck count check).results.map (·.latency)).min? =
      some (batchHealthCheck count check).minLatency ∧
    ((batchHealthCheck count check).results.map (·.latency)).max? =
      some (batchHealthCheck count check).maxLatency ∧
    (batchHealthCheck count check).averageLatency =
      (wrap64 ((batchHealthCheck count check).results.map (·.latency)).sum).tdiv
        (batchHealthCheck count check).count := by
  unfold batchHealthCheck
  dsimp only
  generalize hn : (if count ≤ 0 then 10 else count) = n
  have hpos : 0 < n := by rw [← hn]; split <;> omega
  have hlen : (((List.range n.toNat).map check).length : Int) = n := by
    rw [List.length_map, List.length_range]; omega
  have hne : (List.range n.toNat).map check ≠ [] := by
    intro h; rw [h, List.length_nil] at hlen; omega
  obtain ⟨hmin, hmax, hsucc, htotal⟩ := batchLoop_stats hne
  have hsplit := @List.length_eq_length_filter_add _ ((List.range n.toNat).map check) (·.success)
  refine ⟨rfl, rfl, hlen.symm, hpos, hsucc, ?_, hmin, hmax, by rw [htotal]⟩
  rw [hsucc]
  omega

end Gochoreo.Dragonfly
