import Gochoreo.L2Detect.Detector
import Gochoreo.L3Registry.Metrics
import Gochoreo.L1Value.Value
import Mathlib.Data.List.Sort

/-!
# The registry (`Manager`)

`pkg/version/manager.go`: three maps keyed by component name (the
components, their metadata records, their constraints), an optional metrics
collector and a detector. A component is the `VersionedComponent` methods
the manager calls, each a function of its arguments; a component that calls
back into the manager or the collector is outside the model. `time.Now()`
is the `now` argument.

This module is the sequential registry: each exported method is one step.
`L5Concurrency.Registration` splits `RegisterWithConstraints` at its lock
release and interleaves the steps of several callers.

**Results.**
* `Manager.apply_inv`, `Manager.Reachable.inv`: the three maps agree on
  their keys and every component sits under its own name, in every state
  reached by a sequence of calls.
* `Manager.register_ok_iff`, `Manager.apply_fail`, `Manager.unregister_removes`,
  `Manager.list_spec`: what each call does.
* `Manager.KeysInv`: the part of the invariant that each critical section
  keeps on its own, the second one of `RegisterWithConstraints` included.
* `Manager.processVersioned_counts`, `Manager.processVersioned_accounting`:
  one dispatch applies Go's `int64` `++` to the request count of its pair
  when the version is served and to the error count when it fails, and
  returns the error of `Get` or of the component unchanged; over a run of
  dispatches each counter takes one `++` per such call;
  `Manager.processVersioned_counter_wraps`: a counter at 2^63 - 1 wraps to
  -2^63.
* `Manager.get_not_found_response`, `Manager.get_unsupported_response`: the
  errors of `Get` at the HTTP boundary. A missing component is a plain
  `fmt.Errorf` error, so it reaches the writer as `UNKNOWN_ERROR` and 406.
* `Manager.processWithAutoVersion_after_middleware`: behind
  `DetectorMiddleware`, with the default context key, `ProcessWithAutoVersion`
  dispatches with the version the middleware detected; with another key,
  a request whose context holds nothing there is read back as the default.
-/
namespace Gochoreo

/-- mirrors src/unnamed/part_003:92-101 (`VersionedRequest`); the
`*http.Request` field is left out, no modelled code reads it. -/
structure VersionedRequest where
  context : Option Context
  version : Version
  component : String
  operation : String
  requestID : String
  timestamp : String
  metadata : GoMap Value

/-- mirrors src/unnamed/part_003:104-112 (`NewVersionedRequest`) -/
def newVersionedRequest (ctx : Option Context) (version : Version) (component : String)
    (now : String) : VersionedRequest :=
  { context := ctx, version := version, component := component, operation := "", requestID := "",
    timestamp := now, metadata := ∅ }

/-- mirrors src/unnamed/part_003:151-160 (`VersionedResponse`) -/
structure VersionedResponse where
  version : Version
  component : String
  operation : String
  requestID : String
  timestamp : String
  data : Value
  error : String
  metadata : GoMap Value

/-- mirrors src/pkg/version/interfaces.go:195-201 (`DeprecationInfo`) -/
structure DeprecationInfo where
  version : Version
  deprecatedAt : String
  sunsetAt : String
  reason : String
  replacement : Version

/-- The `DeprecatableComponent` methods `Register` calls. -/
structure Deprecatable where
  isVersionDeprecated : Version → Bool
  getDeprecationInfo : Version → Option DeprecationInfo

/-- A `VersionedComponent` (src/pkg/version/interfaces.go:21-38), through the
methods the manager calls; `deprecatable` is present when the component
also implements `DeprecatableComponent`. -/
structure Component where
  name : String
  type : String
  supportedVersions : List Version
  defaultVersion : Version
  isVersionSupported : Version → Bool
  processVersioned : VersionedRequest → Value → Option VersionedResponse × Option GoError
  deprecatable : Option Deprecatable

/-- mirrors src/pkg/version/interfaces.go:164-168 (`VersionConstraint`) -/
structure VersionConstraint where
  component : String
  requires : VersionRange
  conflicts : List Version
  deriving DecidableEq, Repr

/-- mirrors src/pkg/version/interfaces.go:183-192 (`VersionedComponentMeta`) -/
structure VersionedComponentMeta where
  name : String
  type : String
  supportedVersions : List Version
  defaultVersion : Version
  deprecatedVersions : List DeprecationInfo
  constraints : List VersionConstraint
  createdAt : String
  updatedAt : String

/-- mirrors src/pkg/version/manager.go:12-19 (`Manager`); the collector is a
`DefaultMetricsCollector` or absent. -/
structure Manager where
  components : GoMap Component
  componentMeta : GoMap VersionedComponentMeta
  constraints : GoMap (List VersionConstraint)
  metricsCollector : Option DefaultMetricsCollector
  detector : Detector

/-- mirrors src/pkg/version/manager.go:22-36 (`ManagerOption`, `WithDetector`,
`WithMetricsCollector`) -/
abbrev ManagerOption := Manager → Manager

def withDetector (detector : Detector) : ManagerOption := fun m => { m with detector := detector }
def withMetricsCollector (collector : DefaultMetricsCollector) : ManagerOption :=
  fun m => { m with metricsCollector := some collector }

/-- mirrors src/pkg/version/manager.go:39-52 (`NewManager`) -/
def newManager (options : List ManagerOption) : Manager :=
  options.foldl (fun m option => option m)
    { components := ∅, componentMeta := ∅, constraints := ∅, metricsCollector := none,
      detector := newDetector [] }

/-- How a call ends: it returns its `error` result, or it panics. -/
inductive Outcome where
  | ret (err : Option GoError)
  | panic

/-- The text of `fmt.Errorf("component '%s' not found", name)`. -/
def notFoundText (name : String) : String := "component \x27" ++ name ++ "\x27 not found"

/-- The record `Register` builds for a new component.
mirrors src/pkg/version/manager.go:76-96 -/
def newMeta (component : Component) (now : String) : VersionedComponentMeta :=
  { name := component.name, type := component.type, supportedVersions := component.supportedVersions,
    defaultVersion := component.defaultVersion,
    deprecatedVersions := match component.deprecatable with
      | some dep => component.supportedVersions.filterMap fun v =>
          if dep.isVersionDeprecated v then dep.getDeprecationInfo v else none
      | none => [],
    constraints := [], createdAt := now, updatedAt := now }

namespace Manager

/-- mirrors src/pkg/version/manager.go:55-100 (`Register`); `none` is a nil
component. -/
def register (m : Manager) (component : Option Component) (now : String) : Option GoError × Manager :=
  match component with
  | none => (some (.plain "component cannot be nil"), m)
  | some c =>
    if c.name = "" then (some (.plain "component name cannot be empty"), m)
    else if c.name ∈ m.components then
      (some (.plain ("component with name \x27" ++ c.name ++ "\x27 already registered")), m)
    else
      (none, { m with components := m.components.insert c.name c,
                      componentMeta := m.componentMeta.insert c.name (newMeta c now) })

/-- The second critical section of `RegisterWithConstraints`
(src/pkg/version/manager.go:108-115): store the constraints, then set them
on the meta record; `false` is the nil-pointer panic when that record is
missing, raised after the constraints were stored. -/
def attachConstraints (m : Manager) (name : String) (constraints : List VersionConstraint) :
    Manager × Bool :=
  let m' := { m with constraints := m.constraints.insert name constraints }
  match m'.componentMeta.lookup name with
  | some meta =>
    ({ m' with componentMeta := m'.componentMeta.insert name { meta with constraints := constraints } },
      true)
  | none => (m', false)

/-- mirrors src/pkg/version/manager.go:103-116 (`RegisterWithConstraints`),
both critical sections back to back. -/
def registerWithConstraints (m : Manager) (component : Option Component)
    (constraints : List VersionConstraint) (now : String) : Outcome × Manager :=
  match m.register component now, component with
  | (some e, m'), _ => (.ret (some e), m')
  | (none, m'), some c =>
    match m'.attachConstraints c.name constraints with
    | (m'', true) => (.ret none, m'')
    | (m'', false) => (.panic, m'')
  | (none, m'), none => (.ret none, m')

/-- mirrors src/pkg/version/manager.go:119-132 (`Unregister`) -/
def unregister (m : Manager) (name : String) : Option GoError × Manager :=
  if name ∈ m.components then
    (none, { m with components := m.components.erase name, componentMeta := m.componentMeta.erase name,
                    constraints := m.constraints.erase name })
  else (some (.plain (notFoundText name)), m)

/-- mirrors src/pkg/version/manager.go:323-336 (`UpdateComponentMeta`) -/
def updateComponentMeta (m : Manager) (name : String)
    (updateFn : VersionedComponentMeta → VersionedComponentMeta) (now : String) :
    Option GoError × Manager :=
  match m.componentMeta.lookup name with
  | none => (some (.plain (notFoundText name)), m)
  | some meta =>
    (none, { m with componentMeta := m.componentMeta.insert name { updateFn meta with updatedAt := now } })

/-- mirrors src/pkg/version/manager.go:172-183 (`List`) -/
def list (m : Manager) : List String := m.components.keys.insertionSort (· ≤ ·)

/-- mirrors src/pkg/version/manager.go:186-199 (`ListByType`) -/
def listByType (m : Manager) (componentType : String) : List String :=
  (m.components.entries.filter (·.2.type = componentType)).map (·.1) |>.insertionSort (· ≤ ·)

/-- `m.metricsCollector.RecordRequest(...)` when a collector is set. -/
def recordRequest (m : Manager) (name : String) (version : Version) (now : String) : Manager :=
  { m with metricsCollector := m.metricsCollector.map (·.recordRequest name version now) }

/-- `m.metricsCollector.RecordError(...)` when a collector is set. -/
def recordError (m : Manager) (name : String) (version : Version) (err : GoError) : Manager :=
  { m with metricsCollector := m.metricsCollector.map (·.recordError name version err) }

/-- The `%v` rendering of a `[]string`. -/
def fmtStrings (xs : List String) : String := "[" ++ " ".intercalate xs ++ "]"

/-- mirrors src/pkg/version/manager.go:135-160 (`Get`) -/
def get (m : Manager) (name : String) (version : Version) (now : String) :
    Except GoError Component × Manager :=
  match m.components.lookup name with
  | none => (.error (.plain (notFoundText name)), m)
  | some component =>
    if !component.isVersionSupported version then
      (.error (.version (newVersionError name version component.supportedVersions
        ("version not supported. Supported versions: " ++
          fmtStrings (component.supportedVersions.map Version.string)))), m)
    else (.ok component, m.recordRequest name version now)

/-- mirrors src/pkg/version/manager.go:249-264 (`ProcessVersioned`) -/
def processVersioned (m : Manager) (req : VersionedRequest) (input : Value) (now : String) :
    (Option VersionedResponse × Option GoError) × Manager :=
  match m.get req.component req.version now with
  | (.error err, m') => ((none, some err), m'.recordError req.component req.version err)
  | (.ok component, m') =>
    match component.processVersioned req input with
    | (response, some err) => ((response, some err), m'.recordError req.component req.version err)
    | (response, none) => ((response, none), m')

/-- mirrors src/pkg/version/manager.go:267-272 (`ProcessWithAutoVersion`) -/
def processWithAutoVersion (m : Manager) (ctx : Option Context) (componentName : String)
    (input : Value) (now : String) : (Option VersionedResponse × Option GoError) × Manager :=
  let version := (m.detector.DetectFromContext ctx).version
  m.processVersioned (newVersionedRequest ctx version componentName now) input now

/-! ## What each call does -/

/-- The state after a successful `Register(c)`. -/
def insertComponent (m : Manager) (c : Component) (now : String) : Manager :=
  { m with components := m.components.insert c.name c,
           componentMeta := m.componentMeta.insert c.name (newMeta c now) }

/-- `Register` either fails and changes nothing, or takes a non-nil
component whose name is non-empty and free and stores it with its record. -/
theorem register_cases (m : Manager) (c : Option Component) (now : String) :
    ((m.register c now).1.isSome ∧ (m.register c now).2 = m) ∨
    (∃ x, c = some x ∧ x.name ≠ "" ∧ x.name ∉ m.components ∧ (m.register c now).1 = none ∧
      (m.register c now).2 = m.insertComponent x now) := by
  rcases c with _ | x
  · simp [register]
  · by_cases h1 : x.name = ""
    · simp [register, h1]
    · by_cases h2 : x.name ∈ m.components
      · simp [register, h1, h2]
      · exact .inr ⟨x, rfl, h1, h2, by simp [register, h1, h2], by simp [register, h1, h2]; rfl⟩

theorem register_ok_iff (m : Manager) (c : Option Component) (now : String) :
    (m.register c now).1 = none ↔ ∃ x, c = some x ∧ x.name ≠ "" ∧ x.name ∉ m.components := by
  rcases register_cases m c now with ⟨h, -⟩ | ⟨x, rfl, h1, h2, h3, -⟩
  · constructor
    · intro h'; simp [h'] at h
    · rintro ⟨x, rfl, h1, h2⟩
      simp [register, h1, h2] at h
  · exact ⟨fun _ => ⟨x, rfl, h1, h2⟩, fun _ => h3⟩

/-- The registry invariant: the three maps agree on their keys, and every
component is stored under its own name. -/
structure Inv (m : Manager) : Prop where
  meta_keys : ∀ n, n ∈ m.componentMeta ↔ n ∈ m.components
  constraints_keys : ∀ n, n ∈ m.constraints → n ∈ m.components
  name_eq : ∀ n c, m.components.lookup n = some c → c.name = n

/-- The part of `Inv` that every critical section keeps, also the second
one of `RegisterWithConstraints` run on its own. -/
structure KeysInv (m : Manager) : Prop where
  meta_keys : ∀ n, n ∈ m.componentMeta ↔ n ∈ m.components
  name_eq : ∀ n c, m.components.lookup n = some c → c.name = n

theorem Inv.keysInv {m : Manager} (h : m.Inv) : m.KeysInv := ⟨h.meta_keys, h.name_eq⟩

theorem KeysInv.inv {m : Manager} (h : m.KeysInv)
    (hc : ∀ n, n ∈ m.constraints → n ∈ m.components) : m.Inv := ⟨h.meta_keys, hc, h.name_eq⟩

theorem KeysInv.setMeta {m : Manager} (h : m.KeysInv) {name : String} (hn : name ∈ m.componentMeta)
    (meta : VersionedComponentMeta) (constraints : GoMap (List VersionConstraint)) :
    ({ m with componentMeta := m.componentMeta.insert name meta, constraints := constraints } : Manager).KeysInv :=
  ⟨fun n => by simp [AList.mem_insert, h.meta_keys n]; rintro rfl; exact (h.meta_keys _).mp hn, h.name_eq⟩

theorem insertComponent_keysInv {m : Manager} (h : m.KeysInv) (c : Component) (now : String) :
    (m.insertComponent c now).KeysInv where
  meta_keys n := by simp [insertComponent, AList.mem_insert, h.meta_keys n]
  name_eq n x hx := by
    by_cases hn : n = c.name
    · subst hn; simp_all [insertComponent, AList.lookup_insert]
    · rw [insertComponent, AList.lookup_insert_ne hn] at hx
      exact h.name_eq n x hx

theorem insertComponent_inv {m : Manager} (h : m.Inv) (c : Component) (now : String) :
    (m.insertComponent c now).Inv :=
  (insertComponent_keysInv h.keysInv c now).inv fun n hn => by
    simp only [insertComponent, AList.mem_insert]
    exact .inr (h.constraints_keys n hn)

theorem register_keysInv {m : Manager} (h : m.KeysInv) (c : Option Component) (now : String) :
    (m.register c now).2.KeysInv := by
  rcases register_cases m c now with ⟨-, he⟩ | ⟨x, -, -, -, -, he⟩ <;> rw [he]
  · exact h
  · exact insertComponent_keysInv h x now

theorem register_inv {m : Manager} (h : m.Inv) (c : Option Component) (now : String) :
    (m.register c now).2.Inv := by
  rcases register_cases m c now with ⟨-, he⟩ | ⟨x, -, -, -, -, he⟩ <;> rw [he]
  · exact h
  · exact insertComponent_inv h x now

theorem attachConstraints_keysInv {m : Manager} (h : m.KeysInv) (name : String)
    (cs : List VersionConstraint) : (m.attachConstraints name cs).1.KeysInv := by
  rcases hm : m.componentMeta.lookup name with _ | meta
  · simp only [attachConstraints, hm]
    exact ⟨h.meta_keys, h.name_eq⟩
  · simp only [attachConstraints, hm]
    exact h.setMeta (AList.lookup_isSome.mp (by simp [hm])) _ _

theorem attachConstraints_inv {m : Manager} (h : m.Inv) {name : String} (hn : name ∈ m.components)
    (cs : List VersionConstraint) :
    (m.attachConstraints name cs).1.Inv ∧ (m.attachConstraints name cs).2 = true := by
  obtain ⟨meta, hm⟩ : ∃ meta, m.componentMeta.lookup name = some meta :=
    Option.isSome_iff_exists.mp (AList.lookup_isSome.mpr ((h.meta_keys name).mpr hn))
  refine ⟨(attachConstraints_keysInv h.keysInv name cs).inv fun n hn' => ?_, by simp [attachConstraints, hm]⟩
  simp only [attachConstraints, hm, AList.mem_insert] at hn' ⊢
  rcases hn' with rfl | hn'
  · exact hn
  · exact h.constraints_keys n hn'

theorem unregister_keysInv {m : Manager} (h : m.KeysInv) (name : String) :
    (m.unregister name).2.KeysInv := by
  unfold unregister
  split
  · exact ⟨fun n => by simp [AList.mem_erase, h.meta_keys n],
      fun n c hc => by
        by_cases hn : n = name
        · subst hn; simp [AList.lookup_erase] at hc
        · rw [AList.lookup_erase_ne hn] at hc; exact h.name_eq n c hc⟩
  · exact h

theorem unregister_inv {m : Manager} (h : m.Inv) (name : String) : (m.unregister name).2.Inv := by
  refine (unregister_keysInv h.keysInv name).inv fun n => ?_
  unfold unregister
  split
  · simp only [AList.mem_erase]
    exact fun hn => ⟨hn.1, h.constraints_keys n hn.2⟩
  · exact h.constraints_keys n

theorem updateComponentMeta_keysInv {m : Manager} (h : m.KeysInv) (name : String)
    (f : VersionedComponentMeta → VersionedComponentMeta) (now : String) :
    (m.updateComponentMeta name f now).2.KeysInv := by
  unfold updateComponentMeta
  split
  · exact h
  · rename_i meta hm
    exact h.setMeta (AList.lookup_isSome.mp (by simp [hm])) _ m.constraints

theorem updateComponentMeta_inv {m : Manager} (h : m.Inv) (name : String)
    (f : VersionedComponentMeta → VersionedComponentMeta) (now : String) :
    (m.updateComponentMeta name f now).2.Inv := by
  refine (updateComponentMeta_keysInv h.keysInv name f now).inv fun n => ?_
  unfold updateComponentMeta
  split <;> exact h.constraints_keys n

theorem unregister_removes {m : Manager} (h : m.Inv) (name : String) :
    name ∉ (m.unregister name).2.components ∧ name ∉ (m.unregister name).2.componentMeta ∧
      name ∉ (m.unregister name).2.constraints := by
  unfold unregister
  split
  · simp [AList.mem_erase]
  · rename_i hn
    exact ⟨hn, fun hm => hn ((h.meta_keys name).mp hm), fun hc => hn (h.constraints_keys name hc)⟩

theorem list_spec (m : Manager) :
    m.list.Sorted (· ≤ ·) ∧ m.list.Nodup ∧ ∀ n, n ∈ m.list ↔ n ∈ m.components := by
  have hp := List.perm_insertionSort (· ≤ ·) m.components.keys
  exact ⟨List.sorted_insertionSort _ _, hp.nodup_iff.mpr m.components.keys_nodup,
    fun n => by rw [list, hp.mem_iff, AList.mem_keys]⟩

/-! ## Sequences of calls -/

/-- A registry call. -/
inductive Op where
  | register (c : Option Component) (now : String)
  | registerWithConstraints (c : Option Component) (cs : List VersionConstraint) (now : String)
  | unregister (name : String)
  | updateComponentMeta (name : String) (updateFn : VersionedComponentMeta → VersionedComponentMeta)
      (now : String)

/-- One call, start to end. -/
def apply (m : Manager) : Op → Outcome × Manager
  | .register c now => ((.ret (m.register c now).1), (m.register c now).2)
  | .registerWithConstraints c cs now => m.registerWithConstraints c cs now
  | .unregister name => ((.ret (m.unregister name).1), (m.unregister name).2)
  | .updateComponentMeta name f now =>
    ((.ret (m.updateComponentMeta name f now).1), (m.updateComponentMeta name f now).2)

/-- `RegisterWithConstraints` run alone: it fails exactly when its
`Register` fails, changing nothing, and otherwise attaches the constraints
without a panic. -/
theorem registerWithConstraints_cases (m : Manager) (c : Option Component) (cs : List VersionConstraint)
    (now : String) :
    (∃ e, (m.register c now).1 = some e ∧ m.registerWithConstraints c cs now = (.ret (some e), m)) ∨
    (∃ x, c = some x ∧ (m.register c now).1 = none ∧
      m.registerWithConstraints c cs now = (.ret none, ((m.insertComponent x now).attachConstraints x.name cs).1) ∧
      ((m.insertComponent x now).attachConstraints x.name cs).2 = true) := by
  rcases register_cases m c now with ⟨hs, he⟩ | ⟨x, rfl, -, -, h1, he⟩
  · obtain ⟨e, hee⟩ := Option.isSome_iff_exists.mp hs
    refine .inl ⟨e, hee, ?_⟩
    simp only [registerWithConstraints]
    rw [show m.register c now = (some e, m) from Prod.ext hee he]
  · have hattach : ((m.insertComponent x now).attachConstraints x.name cs).2 = true := by
      simp [attachConstraints, insertComponent, AList.lookup_insert]
    refine .inr ⟨x, rfl, h1, ?_, hattach⟩
    simp only [registerWithConstraints]
    rw [show m.register (some x) now = (none, m.insertComponent x now) from Prod.ext h1 he]
    simp only
    rw [show (m.insertComponent x now).attachConstraints x.name cs =
      (((m.insertComponent x now).attachConstraints x.name cs).1, true) from Prod.ext rfl hattach]

theorem apply_inv {m : Manager} (h : m.Inv) (op : Op) : (m.apply op).2.Inv := by
  cases op with
  | register c now => exact register_inv h c now
  | registerWithConstraints c cs now =>
    rcases registerWithConstraints_cases m c cs now with ⟨e, -, he⟩ | ⟨x, rfl, h1, he, -⟩
    · rw [apply, he]; exact h
    · rw [apply, he]
      obtain ⟨-, -, hx, -, -⟩ := (register_cases m (some x) now).resolve_left (by simp [h1])
      exact (attachConstraints_inv (insertComponent_inv h x now)
        (by simp [insertComponent, AList.mem_insert]) cs).1
  | unregister name => exact unregister_inv h name
  | updateComponentMeta name f now => exact updateComponentMeta_inv h name f now

/-- A call that returns an error leaves the registry as it was, and no call
run alone panics. -/
theorem apply_fail (m : Manager) (op : Op) :
    (∀ e, (m.apply op).1 = .ret (some e) → (m.apply op).2 = m) ∧ (m.apply op).1 ≠ .panic := by
  cases op with
  | register c now =>
    rcases register_cases m c now with ⟨-, he⟩ | ⟨x, -, -, -, h1, -⟩
    · exact ⟨fun _ _ => he, by simp [apply]⟩
    · exact ⟨fun e h => by simp [apply, h1] at h, by simp [apply]⟩
  | registerWithConstraints c cs now =>
    rcases registerWithConstraints_cases m c cs now with ⟨e, -, he⟩ | ⟨x, -, -, he, -⟩ <;>
      simp [apply, he]
  | unregister name =>
    simp only [apply, unregister]
    split <;> simp
  | updateComponentMeta name f now =>
    simp only [apply, updateComponentMeta]
    split <;> simp

/-- The registry states reachable from a new manager by a sequence of calls;
`NewManager` with `WithDetector` and `WithMetricsCollector` gives the
initial states. -/
inductive Reachable : Manager → Prop
  | init (collector : Option DefaultMetricsCollector) (detector : Detector) :
      Reachable ⟨∅, ∅, ∅, collector, detector⟩
  | step {m : Manager} (op : Op) : Reachable m → Reachable (m.apply op).2

theorem Reachable.inv {m : Manager} (h : Reachable m) : m.Inv := by
  induction h with
  | init => exact ⟨by simp, by simp, by simp⟩
  | step op _ ih => exact apply_inv ih op

/-! ## Dispatch and its accounting -/

/-- `Get(name, version)` succeeds: the name is registered and its component
supports the version. -/
def serves (m : Manager) (name : String) (version : Version) : Bool :=
  match m.components.lookup name with
  | some c => c.isVersionSupported version
  | none => false

/-- What `ProcessVersioned` returns: the error of `Get`, or the component's
own result. -/
def dispatchResult (m : Manager) (req : VersionedRequest) (input : Value) :
    Option VersionedResponse × Option GoError :=
  match m.components.lookup req.component with
  | none => (none, some (.plain (notFoundText req.component)))
  | some c =>
    if c.isVersionSupported req.version then c.processVersioned req input
    else (none, some (.version (newVersionError req.component req.version c.supportedVersions
      ("version not supported. Supported versions: " ++ fmtStrings (c.supportedVersions.map Version.string)))))

@[simp] theorem serves_withCollector (m : Manager) (col : Option DefaultMetricsCollector) :
    { m with metricsCollector := col }.serves = m.serves := rfl

@[simp] theorem dispatchResult_withCollector (m : Manager) (col : Option DefaultMetricsCollector) :
    { m with metricsCollector := col }.dispatchResult = m.dispatchResult := rfl

theorem get_eq (m : Manager) (name : String) (version : Version) (now : String) :
    m.get name version now =
      match m.components.lookup name with
      | none => (.error (.plain (notFoundText name)), m)
      | some c =>
        if c.isVersionSupported version then (.ok c, m.recordRequest name version now)
        else (.error (.version (newVersionError name version c.supportedVersions
          ("version not supported. Supported versions: " ++ fmtStrings (c.supportedVersions.map Version.string)))), m) := by
  unfold get
  split <;> (try split) <;> simp_all

/-- One `ProcessVersioned` call: it returns the error of `Get` or the
component's result unchanged, changes only the collector, and there applies
`++` to the request count of `(req.Component, req.Version.String())` exactly
when `Get` serves it and to its error count exactly when the call returns an
error. -/
theorem processVersioned_counts (m : Manager) (col : DefaultMetricsCollector)
    (hm : m.metricsCollector = some col) (req : VersionedRequest) (input : Value) (now : String) :
    (m.processVersioned req input now).1 = m.dispatchResult req input ∧
    ∃ col', (m.processVersioned req input now).2 = { m with metricsCollector := some col' } ∧
      ∀ c s, col'.requestCount c s =
          (if c = req.component ∧ s = req.version.string ∧ m.serves req.component req.version = true
            then add64 (col.requestCount c s) 1 else col.requestCount c s) ∧
        col'.errorCount c s =
          (if c = req.component ∧ s = req.version.string ∧ (m.dispatchResult req input).2.isSome
            then add64 (col.errorCount c s) 1 else col.errorCount c s) := by
  unfold processVersioned
  rw [get_eq]
  unfold dispatchResult serves
  rcases hl : m.components.lookup req.component with _ | comp
  · refine ⟨rfl, col.recordError req.component req.version (.plain (notFoundText req.component)),
      by simp [recordError, hm], fun c s => ?_⟩
    simp [DefaultMetricsCollector.requestCount_recordError, DefaultMetricsCollector.errorCount_recordError]
  · by_cases hv : comp.isVersionSupported req.version = true
    · rcases hp : comp.processVersioned req input with ⟨resp, _ | e⟩
      · refine ⟨by simp [hv, hp], col.recordRequest req.component req.version now,
          by simp [hv, hp, recordRequest, hm], fun c s => ?_⟩
        simp [hv, hp, DefaultMetricsCollector.requestCount_recordRequest,
          DefaultMetricsCollector.errorCount_recordRequest]
      · refine ⟨by simp [hv, hp], (col.recordRequest req.component req.version now).recordError
          req.component req.version e, by simp [hv, hp, recordRequest, recordError, hm], fun c s => ?_⟩
        simp [hv, hp, DefaultMetricsCollector.requestCount_recordRequest,
          DefaultMetricsCollector.errorCount_recordRequest, DefaultMetricsCollector.requestCount_recordError,
          DefaultMetricsCollector.errorCount_recordError]
    · refine ⟨by simp [hv], col.recordError req.component req.version (.version (newVersionError
          req.component req.version comp.supportedVersions ("version not supported. Supported versions: " ++
          fmtStrings (comp.supportedVersions.map Version.string)))), by simp [hv, recordError, hm],
          fun c s => ?_⟩
      simp [hv, DefaultMetricsCollector.requestCount_recordError,
        DefaultMetricsCollector.errorCount_recordError]

/-- A dispatch call: `ProcessVersioned(req, input)` or
`ProcessWithAutoVersion(ctx, name, input)`. -/
inductive Call where
  | versioned (req : VersionedRequest) (input : Value) (now : String)
  | auto (ctx : Option Context) (componentName : String) (input : Value) (now : String)

/-- The request a call dispatches; `ProcessWithAutoVersion` builds it with
the manager's detector. -/
def Call.request (d : Detector) : Call → VersionedRequest
  | .versioned req _ _ => req
  | .auto ctx name _ now => newVersionedRequest ctx (d.DetectFromContext ctx).version name now

def Call.input : Call → Value
  | .versioned _ input _ | .auto _ _ input _ => input

def Call.now : Call → String
  | .versioned _ _ now | .auto _ _ _ now => now

/-- One dispatch call. -/
def call (m : Manager) : Call → (Option VersionedResponse × Option GoError) × Manager
  | .versioned req input now => m.processVersioned req input now
  | .auto ctx name input now => m.processWithAutoVersion ctx name input now

theorem call_eq (m : Manager) (x : Call) :
    m.call x = m.processVersioned (x.request m.detector) x.input x.now := by
  cases x <;> rfl

/-- The state after a sequence of dispatch calls. -/
def runCalls (m : Manager) : List Call → Manager
  | [] => m
  | x :: xs => (m.call x).2.runCalls xs

/-- Over any sequence of dispatch calls only the collector changes, and
each counter takes one `++` for each call on its pair that `Get` served
(requests) or that returned an error (errors). -/
theorem runCalls_counts (m : Manager) (col : DefaultMetricsCollector)
    (hm : m.metricsCollector = some col) (xs : List Call) :
    ∃ col', m.runCalls xs = { m with metricsCollector := some col' } ∧
      ∀ c s, col'.requestCount c s = (add64 · 1)^[(xs.filter fun x => decide (c = (x.request m.detector).component ∧
            s = (x.request m.detector).version.string ∧
            m.serves (x.request m.detector).component (x.request m.detector).version = true)).length]
            (col.requestCount c s) ∧
        col'.errorCount c s = (add64 · 1)^[(xs.filter fun x => decide (c = (x.request m.detector).component ∧
            s = (x.request m.detector).version.string ∧
            (m.dispatchResult (x.request m.detector) x.input).2.isSome)).length] (col.errorCount c s) := by
  induction xs generalizing m col with
  | nil => exact ⟨col, by cases m; subst hm; rfl, by simp⟩
  | cons x xs ih =>
    obtain ⟨-, col1, h1, hc1⟩ := processVersioned_counts m col hm (x.request m.detector) x.input x.now
    obtain ⟨col', h', hc'⟩ := ih { m with metricsCollector := some col1 } col1 rfl
    refine ⟨col', by rw [runCalls, call_eq, h1, h'], fun c s => ?_⟩
    obtain ⟨r1, e1⟩ := hc1 c s
    obtain ⟨r2, e2⟩ := hc' c s
    simp only [serves_withCollector, dispatchResult_withCollector] at r2 e2
    simp only [List.filter_cons, decide_eq_true_eq]
    constructor
    · rw [r2, r1]; split_ifs <;> simp only [List.length_cons, Function.iterate_succ_apply]
    · rw [e2, e1]; split_ifs <;> simp only [List.length_cons, Function.iterate_succ_apply]

/-- Dispatch accounting on a manager built `WithMetricsCollector(col)`: every
call returns what `Get` or the component produced, and any sequence of calls
changes only the collector, whose counters take Go's `++` (an `int64`
increment that wraps) once per served request and once per returned error
of their pair, and nothing else. -/
theorem processVersioned_accounting (m : Manager) :
    (∀ col x, ((withMetricsCollector col m).call x).1 = m.dispatchResult (x.request m.detector) x.input) ∧
    ∀ col xs, ∃ col', (withMetricsCollector col m).runCalls xs = withMetricsCollector col' m ∧
      ∀ c s, col'.requestCount c s = (add64 · 1)^[(xs.filter fun x => decide (c = (x.request m.detector).component ∧
            s = (x.request m.detector).version.string ∧
            m.serves (x.request m.detector).component (x.request m.detector).version = true)).length]
            (col.requestCount c s) ∧
        col'.errorCount c s = (add64 · 1)^[(xs.filter fun x => decide (c = (x.request m.detector).component ∧
            s = (x.request m.detector).version.string ∧
            (m.dispatchResult (x.request m.detector) x.input).2.isSome)).length] (col.errorCount c s) :=
  ⟨fun col x => by rw [call_eq]; exact (processVersioned_counts _ col rfl _ _ _).1,
   fun col xs => runCalls_counts (withMetricsCollector col m) col rfl xs⟩

/-- A component `users` serving only 1.0.0, whose `ProcessVersioned`
returns nothing. -/
def usersV1 : Component :=
  ⟨"users", "service", [newVersion 1 0 0], newVersion 1 0 0, fun v => decide (v = newVersion 1 0 0),
    fun _ _ => (none, none), none⟩

/-- A collector whose counter of `("users", "v1.0.0")` stands at 2^63 - 1. -/
def saturatedCollector : DefaultMetricsCollector :=
  ⟨(∅ : GoMap ComponentMetrics).insert "users" ⟨"users", (∅ : GoMap Int).insert "v1.0.0" (2 ^ 63 - 1), ∅, ∅⟩⟩

/-- One served request on a counter at 2^63 - 1 wraps it to -2^63: it
does not grow by one. -/
theorem processVersioned_counter_wraps :
    saturatedCollector.requestCount "users" "v1.0.0" = 2 ^ 63 - 1 ∧
    ∃ col', ((withMetricsCollector saturatedCollector ((newManager []).register (some usersV1) "").2).processVersioned
        (newVersionedRequest none (newVersion 1 0 0) "users" "") .nil "").2.metricsCollector = some col' ∧
      col'.requestCount "users" "v1.0.0" = -2 ^ 63 :=
  ⟨by decide, _, rfl, by decide⟩

/-! ## Errors at the HTTP boundary -/

theorem get_not_found (m : Manager) (name : String) (version : Version) (now : String)
    (h : name ∉ m.components) : (m.get name version now).1 = .error (.plain (notFoundText name)) := by
  rw [get_eq, AList.lookup_eq_none.mpr h]

/-- An unregistered name: `Get` fails with a `fmt.Errorf` error, which the
error taxonomy does not recognise. -/
theorem get_not_found_response (m : Manager) (name : String) (version : Version) (now : String)
    (h : name ∉ m.components) (vw : HTTPVersionResponseWriter) :
    (m.get name version now).1 = .error (.plain (notFoundText name)) ∧
      getVersionErrorCode (.plain (notFoundText name)) = "UNKNOWN_ERROR" ∧
      (vw.writeVersionError (.plain (notFoundText name))).status = 406 ∧
      (vw.writeVersionError (.plain (notFoundText name))).body.errorCode = some "UNKNOWN_ERROR" :=
  ⟨get_not_found m name version now h, rfl, rfl, rfl⟩

/-- `Get` on an unregistered name returns the plain error of
`fmt.Errorf`, not a `*ComponentNotFoundError`: its code is
`UNKNOWN_ERROR` and the writer answers 406, not 404. -/
theorem get_missing_component_unknown_error :
    ((newManager []).get "missing" (newVersion 1 0 0) "").1 = .error (.plain (notFoundText "missing")) ∧
    ((newManager []).processVersioned (newVersionedRequest none (newVersion 1 0 0) "missing" "") .nil "").1 =
      (none, some (.plain (notFoundText "missing"))) ∧
    getVersionErrorCode (.plain (notFoundText "missing")) = "UNKNOWN_ERROR" ∧
    (HTTPVersionResponseWriter.writeVersionError ⟨newVersion 1 0 0⟩ (.plain (notFoundText "missing"))).status = 406 ∧
    (HTTPVersionResponseWriter.writeVersionError ⟨newVersion 1 0 0⟩
      (.plain (notFoundText "missing"))).body.errorCode = some "UNKNOWN_ERROR" :=
  have h := get_not_found_response (newManager []) "missing" (newVersion 1 0 0) "" (by decide) ⟨newVersion 1 0 0⟩
  ⟨h.1, rfl, h.2⟩

theorem processVersioned_fst (m : Manager) (req : VersionedRequest) (input : Value) (now : String) :
    (m.processVersioned req input now).1 = m.dispatchResult req input := by
  unfold processVersioned dispatchResult
  rw [get_eq]
  rcases m.components.lookup req.component with _ | c
  · rfl
  · by_cases hv : c.isVersionSupported req.version = true
    · rcases hp : c.processVersioned req input with ⟨_, _ | _⟩ <;> simp [hv, hp]
    · simp [hv]

/-- A registered component that rejects the version: `Get` and
`ProcessVersioned` fail with a `*VersionError` carrying the component's
supported list, which the writer reports as 406 `VERSION_NOT_SUPPORTED`. -/
theorem get_unsupported_response (m : Manager) (req : VersionedRequest) (input : Value) (now : String)
    (c : Component) (hc : m.components.lookup req.component = some c)
    (hv : c.isVersionSupported req.version = false) (vw : HTTPVersionResponseWriter) :
    ∃ e : VersionError, m.get req.component req.version now = (.error (.version e), m) ∧
      (m.processVersioned req input now).1 = (none, some (.version e)) ∧
      e.supportedVersions = c.supportedVersions ∧
      getVersionErrorCode (.version e) = "VERSION_NOT_SUPPORTED" ∧
      (vw.writeVersionError (.version e)).status = 406 ∧
      (vw.writeVersionError (.version e)).body = .obj [("error", .str e.message),
        ("component", .str req.component), ("requested_version", .str req.version.string),
        ("supported_versions", .strs (c.supportedVersions.map Version.string)),
        ("error_code", .str "VERSION_NOT_SUPPORTED")] := by
  refine ⟨newVersionError req.component req.version c.supportedVersions
    ("version not supported. Supported versions: " ++ fmtStrings (c.supportedVersions.map Version.string)),
    by rw [get_eq, hc]; simp [hv], by rw [processVersioned_fst, dispatchResult, hc]; simp [hv],
    rfl, rfl, rfl, rfl⟩

/-- Auto-versioned dispatch behind the middleware: with the default context
key, the version read back from the context is the one the middleware
detected and sent as `X-API-Version`, and `ProcessWithAutoVersion`
on a manager built `WithDetector(d)` dispatches with it. With any other
key the middleware's write is not seen: a request whose context holds
nothing under that key is read back as the detector's default. -/
theorem processWithAutoVersion_after_middleware :
    (∀ d : Detector, d.contextKey = "api_version" →
      ∀ (r : Request) (m : Manager) (name : String) (input : Value) (now : String),
      ("X-API-Version", (d.detectFromHTTPRequest r).version.string) ∈ (detectorMiddleware d r).2 ∧
      (d.DetectFromContext (some (detectorMiddleware d r).1.context)).version =
        (d.detectFromHTTPRequest r).version ∧
      (withDetector d m).processWithAutoVersion (some (detectorMiddleware d r).1.context) name input now =
        (withDetector d m).processVersioned (newVersionedRequest (some (detectorMiddleware d r).1.context)
          (d.detectFromHTTPRequest r).version name now) input now) ∧
    (∀ d : Detector, d.contextKey ≠ "api_version" → ∀ r : Request, r.context.value d.contextKey = .other →
      d.DetectFromContext (some (detectorMiddleware d r).1.context) = d.defaultResult) := by
  refine ⟨fun d hkey r m name input now => ?_, fun d hkey r hr => ?_⟩
  · have hv := DetectFromContext_middleware d r hkey
    exact ⟨by simp [detectorMiddleware], hv, by rw [processWithAutoVersion, withDetector]; simp only [hv]⟩
  · simp [detectorMiddleware, setVersionInContext, Context.withValue, Detector.DetectFromContext,
      Detector.detectFromContext, hkey, hr]

/-- The default detector and a request for `/v2/users`; a detector built
`WithContextKey("ver")` and a request with `API-Version: v2` and an empty
context. -/
theorem processWithAutoVersion_after_middleware_v2 :
    (("X-API-Version", ((newDetector []).detectFromHTTPRequest
      ⟨fun _ => "", fun _ => "", "/v2/users", ⟨fun _ => .other⟩⟩).version.string) ∈
      (detectorMiddleware (newDetector []) ⟨fun _ => "", fun _ => "", "/v2/users", ⟨fun _ => .other⟩⟩).2 ∧
    ((newDetector []).DetectFromContext (some (detectorMiddleware (newDetector [])
      ⟨fun _ => "", fun _ => "", "/v2/users", ⟨fun _ => .other⟩⟩).1.context)).version =
      ((newDetector []).detectFromHTTPRequest ⟨fun _ => "", fun _ => "", "/v2/users", ⟨fun _ => .other⟩⟩).version ∧
    (withDetector (newDetector []) (newManager [])).processWithAutoVersion (some (detectorMiddleware
      (newDetector []) ⟨fun _ => "", fun _ => "", "/v2/users", ⟨fun _ => .other⟩⟩).1.context) "users" .nil "" =
      (withDetector (newDetector []) (newManager [])).processVersioned (newVersionedRequest
        (some (detectorMiddleware (newDetector []) ⟨fun _ => "", fun _ => "", "/v2/users",
          ⟨fun _ => .other⟩⟩).1.context) ((newDetector []).detectFromHTTPRequest
          ⟨fun _ => "", fun _ => "", "/v2/users", ⟨fun _ => .other⟩⟩).version "users" "") .nil "") ∧
    (newDetector [withContextKey "ver"]).DetectFromContext (some (detectorMiddleware
      (newDetector [withContextKey "ver"])
      ⟨fun k => if k = "API-Version" then "v2" else "", fun _ => "", "/users", ⟨fun _ => .other⟩⟩).1.context) =
      (newDetector [withContextKey "ver"]).defaultResult :=
  ⟨processWithAutoVersion_after_middleware.1 (newDetector []) rfl
    ⟨fun _ => "", fun _ => "", "/v2/users", ⟨fun _ => .other⟩⟩ (newManager []) "users" .nil "",
   processWithAutoVersion_after_middleware.2 (newDetector [withContextKey "ver"]) (by decide) _ rfl⟩

end Manager

end Gochoreo
