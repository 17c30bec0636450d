import Gochoreo.L1Value.GoLib
import Mathlib.Algebra.Ring.Int.Defs

/-!
# The Dragonfly client metrics

`Metrics` of package `dragonfly` (src/unnamed/part_006). Every counter is an
`atomic.Int64`: an `Int` here, and `Add` is `add64`, Go's two's-complement
wrap. `RecordCommand` and `Reset` hold `mu` for writing and `Snapshot` for
reading, and `updateLatency` is called only from `RecordCommand`: its
compare-and-swap loops meet no other writer, so each swaps on the value it
has just loaded. The other `Record*` calls are single atomic operations. Any
interleaving is therefore a sequence of whole calls, and a run is a list of
`MetricsCall`s. A duration is its `Nanoseconds()`, an error the text of
`err.Error()`, and `time.Now()` the `now` argument.

**Results.**
* `contains_iff_isInfix`: the package's hand-written `contains` is
  substring search.
-/
namespace Gochoreo.Dragonfly

/-! ## `contains` -/

/-- mirrors src/unnamed/part_006:356-363 (`findSubstring`), over characters. -/
def findSubstring (s substr : List Char) : Bool :=
  (List.range (s.length - substr.length + 1)).any fun i => (s.drop i).take substr.length == substr

/-- mirrors src/unnamed/part_006:347-354 (`contains`), over characters: the
needles of `categorizeError` are ASCII, and an ASCII text occurs in the
UTF-8 bytes of a string exactly where it occurs in its characters. -/
def contains (s substr : String) : Bool :=
  decide (substr.length ≤ s.length) &&
    (s == substr ||
      decide (substr.length < s.length) &&
        (s.toList.take substr.length == substr.toList ||
          s.toList.drop (s.length - substr.length) == substr.toList ||
          findSubstring s.toList substr.toList))

theorem findSubstring_iff (s substr : List Char) : findSubstring s substr = true ↔ substr <:+: s := by
  simp only [findSubstring, List.any_eq_true, List.mem_range, beq_iff_eq]
  constructor
  · rintro ⟨i, -, h⟩
    exact h ▸ (List.take_prefix _ _).isInfix.trans (List.drop_suffix i s).isInfix
  · rintro ⟨a, b, rfl⟩
    refine ⟨a.length, by simp; omega, ?_⟩
    rw [List.append_assoc, List.drop_left, List.take_left]

/-- The package's `contains` is substring search, as `strings.Contains` is. -/
theorem contains_iff_isInfix (s substr : String) : contains s substr = true ↔ substr.toList <:+: s.toList := by
  have hlen : ∀ t : String, t.length = t.toList.length := fun _ => rfl
  simp only [contains, Bool.and_eq_true, Bool.or_eq_true, decide_eq_true_eq, beq_iff_eq, findSubstring_iff, hlen]
  constructor
  · rintro ⟨-, rfl | ⟨-, (h | h) | h⟩⟩
    · exact List.infix_refl _
    · exact h ▸ (List.take_prefix _ _).isInfix
    · exact h ▸ (List.drop_suffix _ _).isInfix
    · exact h
  · intro h
    refine ⟨h.length_le, ?_⟩
    by_cases heq : substr.toList.length = s.toList.length
    · exact .inl (String.ext (h.eq_of_length heq).symm)
    · exact .inr ⟨by have := h.length_le; omega, .inr h⟩

/-! ## State and calls -/

/-- The latency fields of `Metrics` (part_006:31-35), in nanoseconds. -/
structure Latency where
  minLatency : Int := 0
  maxLatency : Int := 0
  totalLatency : Int := 0
  latencyCount : Int := 0
  deriving DecidableEq, Repr

/-- The error fields of `Metrics` (part_006:37-41). -/
structure ErrorMetrics where
  totalErrors : Int := 0
  timeoutErrors : Int := 0
  connectionErrors : Int := 0
  protocolErrors : Int := 0
  deriving DecidableEq, Repr

/-- mirrors src/unnamed/part_006:9-47 (`Metrics`); the defaults are Go's zero
values. `prefix` is left out, since nothing reads it, and so is `mu`, whose
work is done by modelling runs as sequences of calls. -/
structure Metrics where
  commandCounts : GoMap Int
  commandDurations : GoMap Int
  commandErrors : GoMap Int
  connectionCount : Int := 0
  connectionFailures : Int := 0
  reconnects : Int := 0
  activeConnections : Int := 0
  idleConnections : Int := 0
  poolHits : Int := 0
  poolMisses : Int := 0
  poolTimeouts : Int := 0
  latency : Latency := {}
  errors : ErrorMetrics := {}
  healthCheckCount : Int := 0
  healthCheckFailures : Int := 0
  lastHealthCheck : Option Int := none

/-- mirrors src/unnamed/part_006:49-57 (`NewMetrics`) -/
def newMetrics : Metrics := { commandCounts := ∅, commandDurations := ∅, commandErrors := ∅ }

/-- `m[key].Add(delta)` on a map of counters. -/
def addAt (m : GoMap Int) (key : String) (delta : Int) : GoMap Int :=
  m.insert key (add64 ((m.lookup key).getD 0) delta)

/-- mirrors src/unnamed/part_006:302-327 (`updateLatency`); each
compare-and-swap succeeds on the value just loaded. -/
def updateLatency (l : Latency) (latencyNs : Int) : Latency where
  minLatency := if l.minLatency ≠ 0 ∧ l.minLatency ≤ latencyNs then l.minLatency else latencyNs
  maxLatency := if l.maxLatency ≥ latencyNs then l.maxLatency else latencyNs
  totalLatency := add64 l.totalLatency latencyNs
  latencyCount := add64 l.latencyCount 1

/-- mirrors src/unnamed/part_006:329-345 (`categorizeError`) for a non-nil
error with text `errStr`; it writes only the error fields. -/
def categorizeError (em : ErrorMetrics) (errStr : String) : ErrorMetrics :=
  if contains errStr "timeout" then { em with timeoutErrors := add64 em.timeoutErrors 1 }
  else if contains errStr "connection" then { em with connectionErrors := add64 em.connectionErrors 1 }
  else if contains errStr "protocol" then { em with protocolErrors := add64 em.protocolErrors 1 }
  else em

namespace Metrics

/-- mirrors src/unnamed/part_006:59-87 (`RecordCommand`); `err` is `none` for
nil. -/
def recordCommand (m : Metrics) (command : String) (duration : Int) (err : Option String) : Metrics :=
  let m := if command ∈ m.commandCounts then m else
    { m with commandCounts := m.commandCounts.insert command 0
             commandDurations := m.commandDurations.insert command 0
             commandErrors := m.commandErrors.insert command 0 }
  let m := { m with commandCounts := addAt m.commandCounts command 1
                    commandDurations := addAt m.commandDurations command duration
                    latency := updateLatency m.latency duration }
  match err with
  | none => m
  | some errStr =>
    { m with commandErrors := addAt m.commandErrors command 1
             errors := categorizeError { m.errors with totalErrors := add64 m.errors.totalErrors 1 } errStr }

/-- mirrors src/unnamed/part_006:89-95 (`RecordConnection`) -/
def recordConnection (m : Metrics) (success : Bool) : Metrics :=
  let m := { m with connectionCount := add64 m.connectionCount 1 }
  if !success then { m with connectionFailures := add64 m.connectionFailures 1 } else m

/-- mirrors src/unnamed/part_006:97-100 (`RecordReconnect`) -/
def recordReconnect (m : Metrics) : Metrics := { m with reconnects := add64 m.reconnects 1 }

/-- mirrors src/unnamed/part_006:102-106 (`RecordPoolStats`) -/
def recordPoolStats (m : Metrics) (active idle : Int) : Metrics :=
  { m with activeConnections := active, idleConnections := idle }

/-- mirrors src/unnamed/part_006:108-111 (`RecordPoolHit`) -/
def recordPoolHit (m : Metrics) : Metrics := { m with poolHits := add64 m.poolHits 1 }

/-- mirrors src/unnamed/part_006:113-116 (`RecordPoolMiss`) -/
def recordPoolMiss (m : Metrics) : Metrics := { m with poolMisses := add64 m.poolMisses 1 }

/-- mirrors src/unnamed/part_006:118-121 (`RecordPoolTimeout`) -/
def recordPoolTimeout (m : Metrics) : Metrics := { m with poolTimeouts := add64 m.poolTimeouts 1 }

/-- mirrors src/unnamed/part_006:123-130 (`RecordHealthCheck`) -/
def recordHealthCheck (m : Metrics) (success : Bool) (now : Int) : Metrics :=
  let m := { m with healthCheckCount := add64 m.healthCheckCount 1, lastHealthCheck := some now }
  if !success then { m with healthCheckFailures := add64 m.healthCheckFailures 1 } else m

/-- `Store(0)` on the counter of each key. -/
def storeZero (keys : List String) (m : GoMap Int) : GoMap Int := keys.foldl (fun m k => m.insert k 0) m

/-- mirrors src/unnamed/part_006:237-268 (`Reset`): the command maps keep their
keys, every counter is zero, and the last health check stays. -/
def reset (m : Metrics) : Metrics :=
  { commandCounts := storeZero m.commandCounts.keys m.commandCounts
    commandDurations := storeZero m.commandCounts.keys m.commandDurations
    commandErrors := storeZero m.commandCounts.keys m.commandErrors
    lastHealthCheck := m.lastHealthCheck }

end Metrics

/-! ## Reads -/

/-- mirrors src/unnamed/part_006:168-175 (`CommandMetrics`) -/
structure CommandMetrics where
  count : Int
  totalDuration : Int
  averageDuration : Int
  errors : Int
  errorRate : Float

/-- mirrors src/unnamed/part_006:132-166 (`MetricsSnapshot`); `Timestamp` is
left out, and `LastHealthCheck` is `none` for the zero time. -/
structure MetricsSnapshot where
  commands : GoMap CommandMetrics
  connectionCount : Int
  connectionFailures : Int
  reconnects : Int
  activeConnections : Int
  idleConnections : Int
  poolHits : Int
  poolMisses : Int
  poolTimeouts : Int
  averageLatency : Int := 0
  minLatency : Int := 0
  maxLatency : Int := 0
  totalErrors : Int
  timeoutErrors : Int
  connectionErrors : Int
  protocolErrors : Int
  healthCheckCount : Int
  healthCheckFailures : Int
  lastHealthCheck : Option Int

namespace Metrics

/-- The entry `Snapshot` builds for a command with a non-zero count
(part_006:217-226); Go's `int64` quotient truncates and wraps. -/
def commandMetricsOf (m : Metrics) (command : String) (cmdCount : Int) : CommandMetrics :=
  let totalDuration := (m.commandDurations.lookup command).getD 0
  let errors := (m.commandErrors.lookup command).getD 0
  ⟨cmdCount, totalDuration, wrap64 (totalDuration.tdiv cmdCount), errors, Float.ofInt errors / Float.ofInt cmdCount⟩

/-- The command loop of `Snapshot` (part_006:210-227), in iteration order. -/
def commandsLoop (m : Metrics) (commands : GoMap CommandMetrics) : List (String × Int) → GoMap CommandMetrics
  | [] => commands
  | (command, cmdCount) :: rest =>
    commandsLoop m (if cmdCount = 0 then commands else commands.insert command (m.commandMetricsOf command cmdCount))
      rest

/-- The latency part of `Snapshot` (part_006:201-208): average, minimum and
maximum, or zeros while nothing is counted. -/
def latencyReport (l : Latency) : Int × Int × Int :=
  if 0 < l.latencyCount then (l.totalLatency.tdiv l.latencyCount, l.minLatency, l.maxLatency) else (0, 0, 0)

/-- mirrors src/unnamed/part_006:177-235 (`Snapshot`) -/
def snapshot (m : Metrics) : MetricsSnapshot :=
  { commands := commandsLoop m ∅ m.commandCounts.pairs
    connectionCount := m.connectionCount
    connectionFailures := m.connectionFailures
    reconnects := m.reconnects
    activeConnections := m.activeConnections
    idleConnections := m.idleConnections
    poolHits := m.poolHits
    poolMisses := m.poolMisses
    poolTimeouts := m.poolTimeouts
    averageLatency := (latencyReport m.latency).1
    minLatency := (latencyReport m.latency).2.1
    maxLatency := (latencyReport m.latency).2.2
    totalErrors := m.errors.totalErrors
    timeoutErrors := m.errors.timeoutErrors
    connectionErrors := m.errors.connectionErrors
    protocolErrors := m.errors.protocolErrors
    healthCheckCount := m.healthCheckCount
    healthCheckFailures := m.healthCheckFailures
    lastHealthCheck := m.lastHealthCheck }

/-- mirrors src/unnamed/part_006:270-280 (`GetTotalCommands`) -/
def getTotalCommands (m : Metrics) : Int := m.commandCounts.pairs.foldl (fun total p => add64 total p.2) 0

/-- mirrors src/unnamed/part_006:282-289 (`GetAverageLatency`) -/
def getAverageLatency (m : Metrics) : Int :=
  if m.latency.latencyCount = 0 then 0 else m.latency.totalLatency.tdiv m.latency.latencyCount

/-- mirrors src/unnamed/part_006:291-298 (`GetErrorRate`) -/
def getErrorRate (m : Metrics) : Float :=
  let totalCommands := m.getTotalCommands
  if totalCommands = 0 then 0 else Float.ofInt m.errors.totalErrors / Float.ofInt totalCommands

end Metrics

/-! ## Runs -/

/-- A call that writes the metrics; the reads leave them as they are. -/
inductive MetricsCall where
  | recordCommand (command : String) (duration : Int) (err : Option String)
  | recordConnection (success : Bool)
  | recordReconnect
  | recordPoolStats (active idle : Int)
  | recordPoolHit
  | recordPoolMiss
  | recordPoolTimeout
  | recordHealthCheck (success : Bool) (now : Int)
  | reset

namespace MetricsCall

def isReset : MetricsCall → Bool
  | .reset => true
  | _ => false

/-- The duration a call records. -/
def duration? : MetricsCall → Option Int
  | .recordCommand _ duration _ => some duration
  | _ => none

/-- The error text a call records. -/
def error? : MetricsCall → Option String
  | .recordCommand _ _ err => err
  | _ => none

/-- The command a call records. -/
def command? : MetricsCall → Option String
  | .recordCommand command _ _ => some command
  | _ => none

end MetricsCall

/-- The calls after the last `Reset`, or all of them if there is none. -/
def callsSinceReset (calls : List MetricsCall) : List MetricsCall :=
  (calls.reverse.takeWhile fun x => !x.isReset).reverse

theorem callsSinceReset_append (calls : List MetricsCall) (x : MetricsCall) :
    callsSinceReset (calls ++ [x]) = if x.isReset then [] else callsSinceReset calls ++ [x] := by
  cases h : x.isReset <;> simp [callsSinceReset, h]

/-- The durations recorded since the last `Reset`, or since creation. -/
def durationsSinceReset (calls : List MetricsCall) : List Int :=
  (callsSinceReset calls).filterMap MetricsCall.duration?

/-- The error texts recorded since the last `Reset`, or since creation. -/
def errorsSinceReset (calls : List MetricsCall) : List String :=
  (callsSinceReset calls).filterMap MetricsCall.error?

theorem durationsSinceReset_append (calls : List MetricsCall) (x : MetricsCall) :
    durationsSinceReset (calls ++ [x]) =
      if x.isReset then [] else durationsSinceReset calls ++ x.duration?.toList := by
  rw [durationsSinceReset, callsSinceReset_append]
  split <;> cases hd : x.duration? <;> simp [durationsSinceReset, hd, List.filterMap_append]

theorem errorsSinceReset_append (calls : List MetricsCall) (x : MetricsCall) :
    errorsSinceReset (calls ++ [x]) =
      if x.isReset then [] else errorsSinceReset calls ++ x.error?.toList := by
  rw [errorsSinceReset, callsSinceReset_append]
  split <;> cases he : x.error? <;> simp [errorsSinceReset, he, List.filterMap_append]

namespace Metrics

/-- One call. -/
def apply (m : Metrics) : MetricsCall → Metrics
  | .recordCommand command duration err => m.recordCommand command duration err
  | .recordConnection success => m.recordConnection success
  | .recordReconnect => m.recordReconnect
  | .recordPoolStats active idle => m.recordPoolStats active idle
  | .recordPoolHit => m.recordPoolHit
  | .recordPoolMiss => m.recordPoolMiss
  | .recordPoolTimeout => m.recordPoolTimeout
  | .recordHealthCheck success now => m.recordHealthCheck success now
  | .reset => m.reset

/-- The state after a sequence of calls. -/
def run (m : Metrics) (calls : List MetricsCall) : Metrics := calls.foldl apply m

theorem run_append (m : Metrics) (calls : List MetricsCall) (x : MetricsCall) :
    m.run (calls ++ [x]) = (m.run calls).apply x := by
  simp [run, List.foldl_append]

end Metrics

end Gochoreo.Dragonfly
