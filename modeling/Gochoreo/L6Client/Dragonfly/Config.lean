import Gochoreo.L6Client.Dragonfly.Metrics

/-!
# The Dragonfly client configuration

`Config` of package `dragonfly` (src/pkg/dragonfly/config.go:9-74), its
presets (lines 76-253) and `Validate` (lines 255-302). A `time.Duration` is
an `Int` of nanoseconds and a Go `int` an `Int`; `ClusterConfig` multiplies
the number of addresses, so its products wrap to `int64` (`wrap64`). The
`TLSConfig` pointer is left out: no preset sets it and `Validate` does not
read it.

`Validate` checks eleven fields in a fixed order and reports the first one
that fails, under its JSON name: `validate_eq_find` reads the chain of `if`s
as the search for the first failing entry of `Config.checks`, which pairs
each name and reason with its condition.

**Results.**
* `validate_eq_none_iff`, `validate_eq_some`: `Validate` accepts exactly the
  configurations that fail no check, and otherwise names the first failing
  field, with its reason, every earlier check passing.
  The five fixed presets pass it.
* `clusterConfig_validate`: `ClusterConfig(addresses)` passes `Validate`
  exactly when it is given an address, as long as `20 * len(addresses)`
  fits an `int`.
-/
namespace Gochoreo.Dragonfly

/-! ## `time` -/

/-- `time.Millisecond`, in nanoseconds. -/
def millisecond : Int := 1000000

/-- `time.Second` -/
def second : Int := 1000 * millisecond

/-- `time.Minute` -/
def minute : Int := 60 * second

/-- `time.Hour` -/
def hour : Int := 60 * minute

/-! ## `Config` and its presets -/

/-- mirrors src/pkg/dragonfly/config.go:9-74 (`Config`), without `TLSConfig`;
the defaults are Go's zero values. -/
structure Config where
  addresses : List String := []
  username : String := ""
  password : String := ""
  db : Int := 0
  poolSize : Int := 0
  minIdleConns : Int := 0
  maxIdleConns : Int := 0
  connMaxLifetime : Int := 0
  connMaxIdleTime : Int := 0
  dialTimeout : Int := 0
  readTimeout : Int := 0
  writeTimeout : Int := 0
  maxRetries : Int := 0
  minRetryBackoff : Int := 0
  maxRetryBackoff : Int := 0
  tlsEnabled : Bool := false
  tlsSkipVerify : Bool := false
  clusterEnabled : Bool := false
  clusterSlots : List String := []
  readOnly : Bool := false
  routeByLatency : Bool := false
  routeRandomly : Bool := false
  disableIndentity : Bool := false
  protocolVersion : Int := 0
  pipeline : Bool := false
  pipelineSize : Int := 0
  disableClusterCheck : Bool := false
  networkBufferSize : Int := 0
  enableKeepAlive : Bool := false
  keepAliveInterval : Int := 0
  enableMetrics : Bool := false
  metricsPrefix : String := ""
  enableHealthCheck : Bool := false
  healthCheckInterval : Int := 0
  clientName : String := ""
  contextTimeout : Int := 0
  customCommands : GoMap String := ∅
  initCommands : List String := []
  debug : Bool := false
  slowLogThreshold : Int := 0

/-- mirrors src/pkg/dragonfly/config.go:76-137 (`DefaultConfig`) -/
def defaultConfig : Config :=
  { addresses := ["localhost:6379"], username := "", password := "", db := 0,
    poolSize := 50, minIdleConns := 10, maxIdleConns := 25,
    connMaxLifetime := 2 * hour, connMaxIdleTime := 30 * minute,
    dialTimeout := 2 * second, readTimeout := 1 * second, writeTimeout := 1 * second,
    maxRetries := 3, minRetryBackoff := 8 * millisecond, maxRetryBackoff := 512 * millisecond,
    tlsEnabled := false, tlsSkipVerify := false,
    clusterEnabled := false, readOnly := false, routeByLatency := true, routeRandomly := false,
    disableIndentity := false, protocolVersion := 3, pipeline := true, pipelineSize := 100,
    disableClusterCheck := false,
    networkBufferSize := 64 * 1024, enableKeepAlive := true, keepAliveInterval := 30 * second,
    enableMetrics := true, metricsPrefix := "dragonfly_", enableHealthCheck := true,
    healthCheckInterval := 30 * second,
    clientName := "gochoreo-gateway", contextTimeout := 10 * second, customCommands := ∅,
    initCommands := [], debug := false, slowLogThreshold := 100 * millisecond }

/-- mirrors src/pkg/dragonfly/config.go:139-167 (`ProductionConfig`) -/
def productionConfig : Config :=
  { defaultConfig with
    poolSize := 100, minIdleConns := 20, maxIdleConns := 50,
    dialTimeout := 5 * second, readTimeout := 2 * second, writeTimeout := 2 * second,
    maxRetries := 5, maxRetryBackoff := 2 * second,
    enableMetrics := true, enableHealthCheck := true, healthCheckInterval := 15 * second,
    networkBufferSize := 128 * 1024, debug := false, slowLogThreshold := 50 * millisecond }

/-- mirrors src/pkg/dragonfly/config.go:169-185 (`DevelopmentConfig`) -/
def developmentConfig : Config :=
  { defaultConfig with
    poolSize := 10, minIdleConns := 2, maxIdleConns := 5, debug := true,
    slowLogThreshold := 10 * millisecond, dialTimeout := 1 * second, healthCheckInterval := 10 * second }

/-- mirrors src/pkg/dragonfly/config.go:187-204 (`ClusterConfig`) -/
def clusterConfig (addresses : List String) : Config :=
  { productionConfig with
    addresses := addresses, clusterEnabled := true, routeByLatency := true, routeRandomly := false,
    poolSize := wrap64 (20 * addresses.length), maxRetries := wrap64 (2 * addresses.length),
    disableClusterCheck := false }

/-- mirrors src/pkg/dragonfly/config.go:206-227 (`HighThroughputConfig`) -/
def highThroughputConfig : Config :=
  { productionConfig with
    poolSize := 200, minIdleConns := 50, maxIdleConns := 100, pipeline := true, pipelineSize := 500,
    networkBufferSize := 256 * 1024, readTimeout := 500 * millisecond, writeTimeout := 500 * millisecond }

/-- mirrors src/pkg/dragonfly/config.go:229-253 (`LowLatencyConfig`) -/
def lowLatencyConfig : Config :=
  { defaultConfig with
    poolSize := 20, minIdleConns := 15, maxIdleConns := 20,
    dialTimeout := 500 * millisecond, readTimeout := 200 * millisecond, writeTimeout := 200 * millisecond,
    pipeline := false, networkBufferSize := 16 * 1024, healthCheckInterval := 5 * second }

/-! ## `Validate` -/

/-- mirrors src/pkg/dragonfly/config.go:341-349 (`ErrInvalidConfig`) -/
structure ErrInvalidConfig where
  field : String
  reason : String
  deriving DecidableEq, Repr

/-- mirrors src/pkg/dragonfly/config.go:347-349 (`ErrInvalidConfig.Error`) -/
def ErrInvalidConfig.error (e : ErrInvalidConfig) : String :=
  "invalid config field \x27" ++ e.field ++ "\x27: " ++ e.reason

/-- mirrors src/pkg/dragonfly/config.go:255-302 (`Config.Validate`); `none`
is a nil error. -/
def Config.validate (c : Config) : Option ErrInvalidConfig :=
  if c.addresses.length = 0 then some ⟨"addresses", "at least one address is required"⟩
  else if c.poolSize ≤ 0 then some ⟨"pool_size", "must be greater than 0"⟩
  else if c.minIdleConns < 0 then some ⟨"min_idle_conns", "must be non-negative"⟩
  else if c.maxIdleConns < c.minIdleConns then
    some ⟨"max_idle_conns", "must be greater than or equal to min_idle_conns"⟩
  else if c.dialTimeout ≤ 0 then some ⟨"dial_timeout", "must be greater than 0"⟩
  else if c.readTimeout < 0 then some ⟨"read_timeout", "must be non-negative"⟩
  else if c.writeTimeout < 0 then some ⟨"write_timeout", "must be non-negative"⟩
  else if c.maxRetries < 0 then some ⟨"max_retries", "must be non-negative"⟩
  else if c.protocolVersion ≠ 2 ∧ c.protocolVersion ≠ 3 then some ⟨"protocol_version", "must be 2 or 3"⟩
  else if c.pipelineSize ≤ 0 then some ⟨"pipeline_size", "must be greater than 0"⟩
  else if c.networkBufferSize ≤ 0 then some ⟨"network_buffer_size", "must be greater than 0"⟩
  else none

/-- The checks of `Validate` in its order: the field's JSON name, the
reason it gives, and whether the field fails the check. -/
def Config.checks (c : Config) : List (String × String × Bool) :=
  [("addresses", "at least one address is required", c.addresses.length = 0),
   ("pool_size", "must be greater than 0", c.poolSize ≤ 0),
   ("min_idle_conns", "must be non-negative", c.minIdleConns < 0),
   ("max_idle_conns", "must be greater than or equal to min_idle_conns", c.maxIdleConns < c.minIdleConns),
   ("dial_timeout", "must be greater than 0", c.dialTimeout ≤ 0),
   ("read_timeout", "must be non-negative", c.readTimeout < 0),
   ("write_timeout", "must be non-negative", c.writeTimeout < 0),
   ("max_retries", "must be non-negative", c.maxRetries < 0),
   ("protocol_version", "must be 2 or 3", c.protocolVersion ≠ 2 ∧ c.protocolVersion ≠ 3),
   ("pipeline_size", "must be greater than 0", c.pipelineSize ≤ 0),
   ("network_buffer_size", "must be greater than 0", c.networkBufferSize ≤ 0)]

theorem ite_some_find? {p : Prop} [Decidable p] {name reason : String} {tail : List (String × String × Bool)}
    {rest : Option ErrInvalidConfig} (h : rest = (tail.find? (·.2.2)).map fun ch => ⟨ch.1, ch.2.1⟩) :
    (if p then some ⟨name, reason⟩ else rest) =
      (((name, reason, decide p) :: tail).find? (·.2.2)).map fun ch => ⟨ch.1, ch.2.1⟩ := by
  by_cases hp : p <;> simp [hp, h]

/-- `Validate` reports the first failing check. -/
theorem validate_eq_find (c : Config) :
    c.validate = (c.checks.find? (·.2.2)).map fun ch => ⟨ch.1, ch.2.1⟩ := by
  unfold Config.validate Config.checks
  iterate 11 refine ite_some_find? ?_
  rfl

theorem validate_eq_none_iff (c : Config) : c.validate = none ↔ ∀ ch ∈ c.checks, ch.2.2 = false := by
  simp [validate_eq_find]

/-- A failing `Validate` names a check that fails, with that check's
reason, and every check before it passes. -/
theorem validate_eq_some {c : Config} {e : ErrInvalidConfig} (h : c.validate = some e) :
    ∃ pre name reason post, c.checks = pre ++ (name, reason, true) :: post ∧ e = ⟨name, reason⟩ ∧
      ∀ ch ∈ pre, ch.2.2 = false := by
  rw [validate_eq_find, Option.map_eq_some'] at h
  obtain ⟨⟨name, reason, fails⟩, hfind, rfl⟩ := h
  obtain ⟨hfail, pre, post, hsplit, hpre⟩ := List.find?_eq_some.mp hfind
  simp only at hfail
  subst hfail
  exact ⟨pre, name, reason, post, hsplit, rfl, fun ch hch => by simpa using hpre ch hch⟩

/-- A config without addresses fails on its first check. -/
example :
    ({ defaultConfig with addresses := [] } : Config).validate = some ⟨"addresses", "at least one address is required"⟩ := by
  decide

/-- The presets with fixed addresses all pass `Validate`. -/
example :
    defaultConfig.validate = none ∧ productionConfig.validate = none ∧ developmentConfig.validate = none ∧
      highThroughputConfig.validate = none ∧ lowLatencyConfig.validate = none :=
  ⟨by decide, by decide, by decide, by decide, by decide⟩

/-- `ClusterConfig(addresses)` passes `Validate` exactly when there is an
address, provided `20 * len(addresses)` does not overflow. -/
theorem clusterConfig_validate (addresses : List String) (h : 20 * addresses.length < 2 ^ 63) :
    (clusterConfig addresses).validate = none ↔ addresses ≠ [] := by
  have hpool : wrap64 (20 * addresses.length) = 20 * addresses.length := wrap64_of_lt (by omega) (by omega)
  have hretry : wrap64 (2 * addresses.length) = 2 * addresses.length := wrap64_of_lt (by omega) (by omega)
  rw [validate_eq_none_iff, ← List.length_pos]
  simp only [Config.checks, clusterConfig, productionConfig, defaultConfig, hpool, hretry, second, millisecond,
    List.mem_cons, List.mem_singleton, List.not_mem_nil, forall_eq_or_imp, forall_eq, decide_eq_false_iff_not,
    ne_eq, false_implies, implies_true, and_true, true_and, not_true_eq_false, and_false, not_false_eq_true]
  omega

theorem clusterConfig_validate_two :
    20 * ["a:6379", "b:6379"].length < 2 ^ 63 ∧
      ((clusterConfig ["a:6379", "b:6379"]).validate = none ↔ ["a:6379", "b:6379"] ≠ []) :=
  ⟨by decide, clusterConfig_validate _ (by decide)⟩

end Gochoreo.Dragonfly
