import Gochoreo.L6Client.Dragonfly.Metrics
import Mathlib.Algebra.Ring.Int.Defs

/-!
# Dragonfly errors and the retry loop

The error types of package `dragonfly` (the error half of
src/pkg/dragonfly/config.go, lines 356-544), the predicates built on
`errors.As`, `ShouldRetry`, and `RetryWithBackoff`
(src/pkg/dragonfly/utils.go:273-296).

An error is its `Error()` text and its `Unwrap` chain, itself first
(`DfError`). Each error type declares `Error` and `Unwrap` on the struct
`T`, so both `T` and `*T` are errors and unwrap to their `Cause`; but
`errors.As(err, &x)` with `x *T` matches only an error whose dynamic type is
`*T` (`ErrLink.pointer`). `fmt.Errorf` with `%w` adds a link of another
type. `errors.Join` is not modelled.

`RetryWithBackoff` calls `fn` once per attempt; `fn`'s results are an input
(`fn k` is the result of the `k`-th call), and the run returns the result,
the number of calls and the durations slept, doubling in `int64`.

**Results.**
* `shouldRetry_iff`: `ShouldRetry` retries exactly a non-nil error below the
  last attempt whose chain holds a `*ConnectionError`, `*TimeoutError` or
  `*ClusterError` and no `*AuthError` or `*ProtocolError`; a struct-typed
  error is never retried.
* `retryWithBackoff_spec`: with `maxRetries ≥ 0`, the loop calls `fn` at
  most `maxRetries + 1` times, retries exactly while `ShouldRetry` says so,
  returns the last call's own result (never "max retries exceeded"), and
  sleeps `initialDelay · 2^k` (wrapped) before the `k+1`-th retry.
* `retryWithBackoff_neg`: with `maxRetries < 0`, `fn` is never called and
  the error wraps a nil error.
-/
namespace Gochoreo.Dragonfly

/-! ## Errors -/

/-- The dynamic type of one error of a chain. -/
inductive ErrType where
  | connectionError
  | timeoutError
  | authError
  | clusterError
  | protocolError
  | metricsError
  | healthCheckError
  /-- any other type, such as `*fmt.wrapError` or `*errors.errorString` -/
  | other
  deriving DecidableEq, Repr

/-- One error of an `Unwrap` chain: its type, and whether it is the pointer
`*T` rather than the struct `T`. -/
structure ErrLink where
  type : ErrType
  pointer : Bool
  deriving DecidableEq, Repr

/-- A non-nil `error`: its `Error()` text and its `Unwrap` chain, itself
first. -/
structure DfError where
  text : String
  chain : List ErrLink
  deriving DecidableEq, Repr

/-- `%v` of an error: its text, `<nil>` for nil. -/
def errText : Option DfError → String
  | some e => e.text
  | none => "<nil>"

/-- The chain below an error whose `Unwrap` returns `cause`. -/
def causeChain : Option DfError → List ErrLink
  | some e => e.chain
  | none => []

/-- An error of one of the package's types, `&T{...}` when `pointer`,
`T{...}` otherwise. -/
def typedError (type : ErrType) (pointer : Bool) (text : String) (cause : Option DfError) : DfError :=
  { text := text, chain := ⟨type, pointer⟩ :: causeChain cause }

/-- mirrors src/pkg/dragonfly/config.go:370-382 (`ConnectionError`) -/
def connectionError (pointer : Bool) (address : String) (cause : Option DfError) : DfError :=
  typedError .connectionError pointer ("connection error to " ++ address ++ ": " ++ errText cause) cause

/-- mirrors src/pkg/dragonfly/config.go:384-400 (`TimeoutError`) -/
def timeoutError (pointer : Bool) (operation duration : String) (cause : Option DfError) : DfError :=
  typedError .timeoutError pointer
    (match cause with
      | some c => "timeout during " ++ operation ++ " after " ++ duration ++ ": " ++ c.text
      | none => "timeout during " ++ operation ++ " after " ++ duration)
    cause

/-- mirrors src/pkg/dragonfly/config.go:402-417 (`AuthError`) -/
def authError (pointer : Bool) (username : String) (cause : Option DfError) : DfError :=
  typedError .authError pointer
    (if username ≠ "" then "authentication failed for user " ++ username ++ ": " ++ errText cause
      else "authentication failed: " ++ errText cause)
    cause

/-- mirrors src/pkg/dragonfly/config.go:419-431 (`ClusterError`); `%v` of
a `[]string` is its elements between brackets. -/
def clusterError (pointer : Bool) (nodes : List String) (cause : Option DfError) : DfError :=
  typedError .clusterError pointer
    ("cluster error with nodes [" ++ " ".intercalate nodes ++ "]: " ++ errText cause) cause

/-- mirrors src/pkg/dragonfly/config.go:433-445 (`ProtocolError`) -/
def protocolError (pointer : Bool) (version : Int) (cause : Option DfError) : DfError :=
  typedError .protocolError pointer
    ("protocol error (version " ++ formatInt version ++ "): " ++ errText cause) cause

/-- mirrors src/pkg/dragonfly/config.go:447-459 (`MetricsError`) -/
def metricsError (pointer : Bool) (operation : String) (cause : Option DfError) : DfError :=
  typedError .metricsError pointer ("metrics error during " ++ operation ++ ": " ++ errText cause) cause

/-- mirrors src/pkg/dragonfly/config.go:461-473 (`HealthCheckError`) -/
def healthCheckError (pointer : Bool) (checkType : String) (cause : Option DfError) : DfError :=
  typedError .healthCheckError pointer ("health check failed (" ++ checkType ++ "): " ++ errText cause) cause

/-- `errors.As(err, &x)` with `x` of type `*T`: some error of the chain
has dynamic type `*T`. -/
def errorsAs (type : ErrType) : Option DfError → Bool
  | some e => e.chain.any fun l => l.type = type && l.pointer
  | none => false

/-- mirrors src/pkg/dragonfly/config.go:478-481 (`IsConnectionError`) -/
def isConnectionError (err : Option DfError) : Bool := errorsAs .connectionError err

/-- mirrors src/pkg/dragonfly/config.go:484-487 (`IsTimeoutError`) -/
def isTimeoutError (err : Option DfError) : Bool := errorsAs .timeoutError err

/-- mirrors src/pkg/dragonfly/config.go:490-493 (`IsAuthError`) -/
def isAuthError (err : Option DfError) : Bool := errorsAs .authError err

/-- mirrors src/pkg/dragonfly/config.go:496-499 (`IsClusterError`) -/
def isClusterError (err : Option DfError) : Bool := errorsAs .clusterError err

/-- mirrors src/pkg/dragonfly/config.go:502-505 (`IsProtocolError`) -/
def isProtocolError (err : Option DfError) : Bool := errorsAs .protocolError err

/-- mirrors src/pkg/dragonfly/config.go:508-511 (`IsTemporaryError`) -/
def isTemporaryError (err : Option DfError) : Bool :=
  isConnectionError err || isTimeoutError err || isClusterError err

/-- mirrors src/pkg/dragonfly/config.go:514-535 (`ShouldRetry`) -/
def shouldRetry (err : Option DfError) (attempt maxRetries : Int) : Bool :=
  if err.isNone then false
  else if attempt ≥ maxRetries then false
  else if isAuthError err then false
  else if isProtocolError err then false
  else isTemporaryError err

/-- mirrors src/pkg/dragonfly/config.go:538-543 (`WrapError`): `fmt.Errorf`
with `%w` adds a `*fmt.wrapError`. -/
def wrapError (err : Option DfError) (context : String) : Option DfError :=
  err.map fun e => { text := context ++ ": " ++ e.text, chain := ⟨.other, true⟩ :: e.chain }

theorem errorsAs_iff (type : ErrType) (err : Option DfError) :
    errorsAs type err = true ↔ ∃ e, err = some e ∧ ⟨type, true⟩ ∈ e.chain := by
  cases err with
  | none => simp [errorsAs]
  | some e =>
    simp only [errorsAs, List.any_eq_true, Bool.and_eq_true, decide_eq_true_eq, Option.some.injEq,
      exists_eq_left']
    constructor
    · rintro ⟨⟨t, p⟩, hl, rfl, rfl⟩; exact hl
    · intro h; exact ⟨_, h, rfl, rfl⟩

/-- `ShouldRetry` retries exactly a non-nil error, before the last attempt,
whose chain holds a pointer to a connection, timeout or cluster error and
no pointer to an authentication or protocol error. -/
theorem shouldRetry_iff (err : Option DfError) (attempt maxRetries : Int) :
    shouldRetry err attempt maxRetries = true ↔
      ∃ e, err = some e ∧ attempt < maxRetries ∧
        ⟨.authError, true⟩ ∉ e.chain ∧ ⟨.protocolError, true⟩ ∉ e.chain ∧
        (⟨.connectionError, true⟩ ∈ e.chain ∨ ⟨.timeoutError, true⟩ ∈ e.chain ∨
          ⟨.clusterError, true⟩ ∈ e.chain) := by
  cases err with
  | none => simp [shouldRetry]
  | some e =>
    simp only [shouldRetry, isAuthError, isProtocolError, isTemporaryError, isConnectionError, isTimeoutError,
      isClusterError, Option.isNone_some, Bool.false_eq_true, if_false, Bool.or_eq_true, errorsAs_iff,
      Option.some.injEq, exists_eq_left']
    by_cases ha : attempt ≥ maxRetries
    · simp [ha]
    · simp only [ha, if_false]
      split_ifs <;> simp_all [errorsAs_iff, or_assoc]

/-! ## `RetryWithBackoff` -/

/-- What a run of `RetryWithBackoff` did: its result, how many times it
called `fn`, and the durations it slept, in order. -/
structure RetryRun where
  result : Option DfError
  calls : Nat
  sleeps : List Int
  deriving DecidableEq, Repr

/-- `fmt.Errorf("max retries exceeded: %w", lastErr)`; with a nil `lastErr`
the verb prints `%!w(<nil>)` and nothing is wrapped. -/
def maxRetriesExceeded : Option DfError → DfError
  | some e => { text := "max retries exceeded: " ++ e.text, chain := ⟨.other, true⟩ :: e.chain }
  | none => { text := "max retries exceeded: %!w(<nil>)", chain := [⟨.other, true⟩] }

/-- The loop of `RetryWithBackoff` (src/pkg/dragonfly/utils.go:278-293) at
`attempt`, with `fuel` iterations left before `attempt <= maxRetries` fails. -/
def retryLoop (fn : Nat → Option DfError) (maxRetries : Int) :
    Nat → Nat → Int → Option DfError → List Int → RetryRun
  | 0, attempt, _, lastErr, sleeps => ⟨some (maxRetriesExceeded lastErr), attempt, sleeps⟩
  | fuel + 1, attempt, delay, _, sleeps =>
    let sleeps := if attempt > 0 then sleeps ++ [delay] else sleeps
    let delay := if attempt > 0 then wrap64 (delay * 2) else delay
    match fn attempt with
    | some err =>
      if !shouldRetry (some err) attempt maxRetries then ⟨some err, attempt + 1, sleeps⟩
      else retryLoop fn maxRetries fuel (attempt + 1) delay (some err) sleeps
    | none => ⟨none, attempt + 1, sleeps⟩

/-- mirrors src/pkg/dragonfly/utils.go:273-296 (`RetryWithBackoff`) -/
def retryWithBackoff (fn : Nat → Option DfError) (maxRetries initialDelay : Int) : RetryRun :=
  retryLoop fn maxRetries (maxRetries + 1).toNat 0 initialDelay none []

/-- The delay slept before retry `k + 1`: `initialDelay` doubled `k` times
in `int64`. -/
def backoff (initialDelay : Int) (k : Nat) : Int := wrap64 (initialDelay * 2 ^ k)

theorem backoff_succ (initialDelay : Int) (k : Nat) :
    wrap64 (backoff initialDelay k * 2) = backoff initialDelay (k + 1) := by
  unfold backoff
  rw [pow_succ, ← Int.mul_assoc]
  generalize initialDelay * 2 ^ k = x
  unfold wrap64; omega

/-- What a run from `attempt`, after `attempt` retried calls, returns: one
more call at least, a call's own result that `ShouldRetry` refuses, every
earlier call retried, and the doubling sleeps between them. -/
theorem retryLoop_spec (fn : Nat → Option DfError) {maxRetries : Int} (hmax : 0 ≤ maxRetries)
    (d : Int) (hd : wrap64 d = d) :
    ∀ (fuel attempt : Nat) (lastErr : Option DfError), (attempt + fuel : Int) = maxRetries + 1 →
      (∀ k < attempt, shouldRetry (fn k) k maxRetries = true) →
      let run := retryLoop fn maxRetries fuel attempt (backoff d (attempt - 1)) lastErr
        ((List.range (attempt - 1)).map (backoff d))
      attempt < run.calls ∧ (run.calls : Int) ≤ maxRetries + 1 ∧ run.result = fn (run.calls - 1) ∧
        (∀ k < run.calls - 1, shouldRetry (fn k) k maxRetries = true) ∧
        shouldRetry run.result (run.calls - 1) maxRetries = false ∧
        run.sleeps = (List.range (run.calls - 1)).map (backoff d)
  | 0, attempt, _, hfuel, hretried => by
    obtain ⟨_, -, hlt, -⟩ := (shouldRetry_iff _ _ _).mp (hretried (attempt - 1) (by omega))
    omega
  | fuel + 1, attempt, _, hfuel, hretried => by
    have hsleeps : (if attempt > 0 then (List.range (attempt - 1)).map (backoff d) ++ [backoff d (attempt - 1)]
        else (List.range (attempt - 1)).map (backoff d)) = (List.range attempt).map (backoff d) := by
      split_ifs with h
      · obtain ⟨a, rfl⟩ := Nat.exists_eq_add_of_lt h
        simp [List.range_succ]
      · rw [Nat.eq_zero_of_not_pos h]
    have hdelay : (if attempt > 0 then wrap64 (backoff d (attempt - 1) * 2) else backoff d (attempt - 1)) =
        backoff d attempt := by
      split_ifs with h
      · rw [backoff_succ]; congr 1; omega
      · rw [Nat.eq_zero_of_not_pos h]
    simp only [retryLoop, hsleeps, hdelay]
    split
    · rename_i err hfn
      by_cases hr : shouldRetry (some err) attempt maxRetries = true
      · rw [hr, Bool.not_true, if_neg Bool.false_ne_true]
        have ih := retryLoop_spec fn hmax d hd fuel (attempt + 1) (some err) (by push_cast; omega)
          fun k hk => by
            rcases Nat.lt_succ_iff_lt_or_eq.mp hk with hk | rfl
            · exact hretried k hk
            · rw [hfn]; exact hr
        simp only [Nat.add_sub_cancel] at ih
        exact ⟨by omega, ih.2⟩
      · rw [Bool.not_eq_true] at hr
        rw [hr, Bool.not_false, if_pos rfl]
        exact ⟨by simp, by simp only; omega, by simp [hfn], hretried, by simpa using hr, rfl⟩
    · rename_i hfn
      exact ⟨by simp, by simp only; omega, by simp [hfn], hretried, by simp [shouldRetry], rfl⟩

/-- With `maxRetries ≥ 0`, `RetryWithBackoff` calls `fn` at least once and
at most `maxRetries + 1` times, calls again exactly when `ShouldRetry`
accepts the last error, returns the last call's own result (so never "max
retries exceeded"), and sleeps `initialDelay · 2^k`, wrapped to `int64`,
before retry `k + 1`. -/
theorem retryWithBackoff_spec (fn : Nat → Option DfError) {maxRetries initialDelay : Int}
    (hmax : 0 ≤ maxRetries) (hdelay : -2 ^ 63 ≤ initialDelay ∧ initialDelay < 2 ^ 63) :
    let run := retryWithBackoff fn maxRetries initialDelay
    0 < run.calls ∧ (run.calls : Int) ≤ maxRetries + 1 ∧ run.result = fn (run.calls - 1) ∧
      (∀ k < run.calls - 1, shouldRetry (fn k) k maxRetries = true) ∧
      shouldRetry run.result (run.calls - 1) maxRetries = false ∧
      run.sleeps = (List.range (run.calls - 1)).map (backoff initialDelay) := by
  have hd : wrap64 initialDelay = initialDelay := wrap64_of_lt hdelay.1 hdelay.2
  have h := retryLoop_spec fn hmax initialDelay hd (maxRetries + 1).toNat 0 none (by omega) (by simp)
  simp only [Nat.zero_sub, backoff, Int.pow_zero, Int.mul_one, hd, List.range_zero, List.map_nil] at h
  exact h

/-- Two `*TimeoutError`s, then success: three calls, with sleeps of 100ms
and 200ms between them. -/
theorem retryWithBackoff_two_timeouts :
    0 ≤ (3 : Int) ∧ (-2 ^ 63 ≤ (100000000 : Int) ∧ (100000000 : Int) < 2 ^ 63) ∧
    (retryWithBackoff (fun k => if k < 2 then some (timeoutError true "GET" "1s" none) else none) 3 100000000).calls =
      3 ∧
    (retryWithBackoff (fun k => if k < 2 then some (timeoutError true "GET" "1s" none) else none) 3 100000000).sleeps =
      (List.range ((retryWithBackoff (fun k => if k < 2 then some (timeoutError true "GET" "1s" none) else none) 3
        100000000).calls - 1)).map (backoff 100000000) :=
  ⟨by decide, by decide, by decide, (retryWithBackoff_spec _ (by decide) (by decide)).2.2.2.2.2⟩

/-- With `maxRetries < 0` the loop does not run: `fn` is never called and
the error wraps nothing. -/
theorem retryWithBackoff_neg (fn : Nat → Option DfError) {maxRetries : Int} (initialDelay : Int)
    (hmax : maxRetries < 0) :
    retryWithBackoff fn maxRetries initialDelay =
      ⟨some { text := "max retries exceeded: %!w(<nil>)", chain := [⟨.other, true⟩] }, 0, []⟩ := by
  rw [retryWithBackoff, show (maxRetries + 1).toNat = 0 by omega]
  rfl

end Gochoreo.Dragonfly
