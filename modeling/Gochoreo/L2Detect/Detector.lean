import Gochoreo.L1Value.Version

/-!
# Version detection

`Detector` (src/unnamed/part_001, the package's `detector.go`): an ordered
list of detection methods, each a stage that reads one part of the request
and yields a version or nothing. `DetectFromHTTPRequest` returns the first
stage result whose version is non-zero, else the default version.

A request is what the stages read of an `*http.Request`: `Header.Get`,
`URL.Query().Get`, `URL.Path` and `Context().Value` for string keys (the
only keys the package uses). `DetectionMethod` is a Go `int`, so an enabled
list may hold `DetectionMethodDefault` or values with no case in the switch;
both run no stage.

**Results.**
* `detectLoop_cases`: the loop either stops at the first method whose stage
  yields a non-zero version, with that stage's version and source and
  whatever follows in the list, or runs off the end and returns the default.
* `DetectFromContext_middleware`: behind `DetectorMiddleware`, detection
  from the context sees the middleware's version when the detector's context
  key is `"api_version"`, the key `SetVersionInContext` writes;
  `DetectFromContext_middleware_other_key`: under any other key it does not.
* `detectFromAcceptHeader_token`: the Accept stage reads back the dotted
  numbers between the configured prefix and the next `+`.
* `extractPipelineFromPath_skips_version`: the pipeline name is the path
  segment after the one the URL-path stage took as the version.
-/
namespace Gochoreo

/-- mirrors src/unnamed/part_001:10-20 (`DetectionMethod`, a Go `int`) -/
structure DetectionMethod where
  val : Int
  deriving DecidableEq, Repr

namespace DetectionMethod

/-- `DetectionMethodAcceptHeader` -/
def acceptHeader : DetectionMethod := ⟨0⟩
/-- `DetectionMethodAPIVersionHeader` -/
def apiVersionHeader : DetectionMethod := ⟨1⟩
/-- `DetectionMethodXAPIVersionHeader` -/
def xAPIVersionHeader : DetectionMethod := ⟨2⟩
/-- `DetectionMethodQueryParameter` -/
def queryParameter : DetectionMethod := ⟨3⟩
/-- `DetectionMethodURLPath` -/
def urlPath : DetectionMethod := ⟨4⟩
/-- `DetectionMethodContextValue` -/
def contextValue : DetectionMethod := ⟨5⟩
/-- `DetectionMethodDefault` -/
def default : DetectionMethod := ⟨6⟩

/-- mirrors src/unnamed/part_001:23-42 (`DetectionMethod.String`) -/
def string (dm : DetectionMethod) : String :=
  if dm = acceptHeader then "Accept Header"
  else if dm = apiVersionHeader then "API-Version Header"
  else if dm = xAPIVersionHeader then "X-API-Version Header"
  else if dm = queryParameter then "Query Parameter"
  else if dm = urlPath then "URL Path"
  else if dm = contextValue then "Context Value"
  else if dm = default then "Default"
  else "Unknown"

end DetectionMethod

/-- A value stored in a `context.Context`, as the detector's type assertions
see it. -/
inductive CtxValue where
  /-- a `Version` -/
  | version (v : Version)
  /-- a `string` -/
  | string (s : String)
  /-- nil, or a value of any other type -/
  | other

/-- A `context.Context`, through `Value(key)` for string keys. -/
structure Context where
  value : String → CtxValue

/-- `context.WithValue(ctx, key, v)` -/
def Context.withValue (ctx : Context) (key : String) (v : CtxValue) : Context :=
  ⟨fun k => if k = key then v else ctx.value k⟩

/-- What the detector reads of an `*http.Request`. -/
structure Request where
  /-- `r.Header.Get(name)` -/
  header : String → String
  /-- `r.URL.Query().Get(name)` -/
  query : String → String
  /-- `r.URL.Path` -/
  path : String
  /-- `r.Context()`, never nil -/
  context : Context

/-- mirrors src/unnamed/part_001:45-49 (`DetectionResult`) -/
structure DetectionResult where
  version : Version
  method : DetectionMethod
  source : String
  deriving DecidableEq, Repr

/-- mirrors src/unnamed/part_001:52-58 (`Detector`) -/
structure Detector where
  defaultVersion : Version
  enabledMethods : List DetectionMethod
  acceptHeaderPrefix : String
  queryParamName : String
  contextKey : String

/-- mirrors src/unnamed/part_001:61-96 (`DetectorOption` and the `With*` options) -/
abbrev DetectorOption := Detector → Detector

def withDefaultVersion (version : Version) : DetectorOption := fun d => { d with defaultVersion := version }
def withEnabledMethods (methods : List DetectionMethod) : DetectorOption :=
  fun d => { d with enabledMethods := methods }
def withAcceptHeaderPrefix (pre : String) : DetectorOption := fun d => { d with acceptHeaderPrefix := pre }
def withQueryParamName (name : String) : DetectorOption := fun d => { d with queryParamName := name }
def withContextKey (key : String) : DetectorOption := fun d => { d with contextKey := key }

/-- mirrors src/unnamed/part_001:99-121 (`NewDetector`) -/
def newDetector (options : List DetectorOption) : Detector :=
  options.foldl (fun d option => option d)
    { defaultVersion := defaultVersion, acceptHeaderPrefix := "application/vnd.api.v",
      queryParamName := "version", contextKey := "api_version",
      enabledMethods := [.acceptHeader, .apiVersionHeader, .xAPIVersionHeader, .queryParameter,
        .urlPath, .contextValue, .default] }

namespace Detector

/-- mirrors src/unnamed/part_001:210-228 (`detectFromAcceptHeader`) -/
def detectFromAcceptHeader (d : Detector) (r : Request) : Version × String :=
  let accept := r.header "Accept"
  if accept = "" then ({}, "")
  else if contains accept d.acceptHeaderPrefix then
    let parts := split accept d.acceptHeaderPrefix
    if parts.length > 1 then
      let versionPart := (split (parts.getD 1 "") "+").getD 0 ""
      let version := parseVersion ("v" ++ versionPart)
      if !version.isZero then (version, accept) else ({}, "")
    else ({}, "")
  else ({}, "")

/-- The body shared by the `API-Version`, `X-API-Version` and query stages:
a non-empty text, parsed. -/
def detectFromText (versionStr : String) : Version × String :=
  if versionStr = "" then ({}, "")
  else
    let version := parseVersion versionStr
    if !version.isZero then (version, versionStr) else ({}, "")

/-- mirrors src/unnamed/part_001:230-241 (`detectFromAPIVersionHeader`) -/
def detectFromAPIVersionHeader (_d : Detector) (r : Request) : Version × String :=
  detectFromText (r.header "API-Version")

/-- mirrors src/unnamed/part_001:243-254 (`detectFromXAPIVersionHeader`) -/
def detectFromXAPIVersionHeader (_d : Detector) (r : Request) : Version × String :=
  detectFromText (r.header "X-API-Version")

/-- mirrors src/unnamed/part_001:256-267 (`detectFromQueryParameter`) -/
def detectFromQueryParameter (d : Detector) (r : Request) : Version × String :=
  detectFromText (r.query d.queryParamName)

/-- mirrors src/unnamed/part_001:269-283 (`detectFromURLPath`) -/
def detectFromURLPath (_d : Detector) (r : Request) : Version × String :=
  let path := trimPrefix r.path "/"
  if path = "" then ({}, "")
  else
    match split path "/" with
    | p0 :: _ =>
      if hasPrefix p0 "v" then
        let version := parseVersion p0
        if !version.isZero then (version, p0) else ({}, "")
      else ({}, "")
    | [] => ({}, "")

/-- mirrors src/unnamed/part_001:285-303 (`detectFromContext`); `none` is a
nil context. A stored `Version` is returned as it is, zero or not. -/
def detectFromContext (d : Detector) (ctx : Option Context) : Version × String :=
  match ctx with
  | none => ({}, "")
  | some c =>
    match c.value d.contextKey with
    | .version v => (v, d.contextKey)
    | .string s =>
      if s ≠ "" then
        let version := parseVersion s
        if !version.isZero then (version, s) else ({}, "")
      else ({}, "")
    | .other => ({}, "")

/-- mirrors src/unnamed/part_001:306-325 (`ExtractPipelineFromPath`) -/
def extractPipelineFromPath (_d : Detector) (r : Request) : String :=
  let path := trimPrefix r.path "/"
  if path = "" then ""
  else
    let parts := split path "/"
    let startIdx := if parts.length > 0 ∧ hasPrefix (parts.getD 0 "") "v" = true then 1 else 0
    if parts.length > startIdx then parts.getD startIdx "" else ""

/-- The `switch method` of `DetectFromHTTPRequest`: the stage a method runs;
`none` for `DetectionMethodDefault` and for values with no case. -/
def stage (d : Detector) (r : Request) (method : DetectionMethod) : Option (Version × String) :=
  if method = .acceptHeader then some (d.detectFromAcceptHeader r)
  else if method = .apiVersionHeader then some (d.detectFromAPIVersionHeader r)
  else if method = .xAPIVersionHeader then some (d.detectFromXAPIVersionHeader r)
  else if method = .queryParameter then some (d.detectFromQueryParameter r)
  else if method = .urlPath then some (d.detectFromURLPath r)
  else if method = .contextValue then some (d.detectFromContext (some r.context))
  else none

@[simp] theorem stage_default (d : Detector) (r : Request) : d.stage r .default = none := by
  simp [stage, DetectionMethod.default, DetectionMethod.acceptHeader, DetectionMethod.apiVersionHeader,
    DetectionMethod.xAPIVersionHeader, DetectionMethod.queryParameter, DetectionMethod.urlPath,
    DetectionMethod.contextValue]

/-- The result when no enabled method yields a version. -/
def defaultResult (d : Detector) : DetectionResult :=
  { version := d.defaultVersion, method := .default, source := "default_version" }

/-- The `for _, method := range d.enabledMethods` loop of
`DetectFromHTTPRequest` over the methods not yet tried. -/
def detectLoop (d : Detector) (r : Request) : List DetectionMethod → DetectionResult
  | [] => d.defaultResult
  | method :: rest =>
    match d.stage r method with
    | some (version, source) =>
      if !version.isZero then { version := version, method := method, source := source }
      else d.detectLoop r rest
    | none => d.detectLoop r rest

/-- mirrors src/unnamed/part_001:124-184 (`DetectFromHTTPRequest`) -/
def detectFromHTTPRequest (d : Detector) (r : Request) : DetectionResult :=
  d.detectLoop r d.enabledMethods

/-- mirrors src/unnamed/part_001:187-201 (`DetectFromContext`) -/
def DetectFromContext (d : Detector) (ctx : Option Context) : DetectionResult :=
  let (version, source) := d.detectFromContext ctx
  if !version.isZero then { version := version, method := .contextValue, source := source }
  else d.defaultResult

/-- A method that yields nothing: no stage, or a zero version. -/
def Miss (d : Detector) (r : Request) (method : DetectionMethod) : Prop :=
  ∀ v s, d.stage r method = some (v, s) → v.isZero = true

theorem detectLoop_miss {d : Detector} {r : Request} {m : DetectionMethod} (ms : List DetectionMethod)
    (h : d.Miss r m) : d.detectLoop r (m :: ms) = d.detectLoop r ms := by
  rcases hs : d.stage r m with _ | ⟨v, s⟩
  · simp [detectLoop, hs]
  · simp [detectLoop, hs, h v s hs]

theorem detectLoop_hit {d : Detector} {r : Request} {m : DetectionMethod} {v : Version} {s : String}
    (ms : List DetectionMethod) (hs : d.stage r m = some (v, s)) (hz : v.isZero = false) :
    d.detectLoop r (m :: ms) = ⟨v, m, s⟩ := by
  simp [detectLoop, hs, hz]

/-- The loop stops at the first method whose stage yields a non-zero
version, whatever follows it; or all methods miss and it returns the
default. -/
theorem detectLoop_cases (d : Detector) (r : Request) : ∀ ms : List DetectionMethod,
    (∃ pre method post v s, ms = pre ++ method :: post ∧ (∀ m ∈ pre, d.Miss r m) ∧
      d.stage r method = some (v, s) ∧ v.isZero = false ∧
      ∀ post', d.detectLoop r (pre ++ method :: post') = ⟨v, method, s⟩) ∨
    ((∀ m ∈ ms, d.Miss r m) ∧ d.detectLoop r ms = d.defaultResult)
  | [] => .inr ⟨by simp, rfl⟩
  | m :: ms => by
    by_cases hm : d.Miss r m
    · rcases detectLoop_cases d r ms with ⟨pre, method, post, v, s, rfl, hpre, hst, hz, h⟩ | ⟨hall, hl⟩
      · refine .inl ⟨m :: pre, method, post, v, s, rfl, by simpa [hm] using hpre, hst, hz, fun post' => ?_⟩
        rw [List.cons_append, detectLoop_miss _ hm, h]
      · exact .inr ⟨by simpa [hm] using hall, by rw [detectLoop_miss _ hm, hl]⟩
    · obtain ⟨v, s, hs, hz⟩ : ∃ v s, d.stage r m = some (v, s) ∧ v.isZero = false := by
        simpa [Miss] using hm
      exact .inl ⟨[], m, ms, v, s, rfl, by simp, hs, hz, fun _ => detectLoop_hit _ hs hz⟩

theorem detectLoop_with (d : Detector) (r : Request) (l : List DetectionMethod) :
    ∀ ms, { d with enabledMethods := l }.detectLoop r ms = d.detectLoop r ms
  | [] => rfl
  | m :: ms => by simp only [detectLoop, detectLoop_with d r l ms]; rfl

theorem stage_none (d : Detector) (r : Request) {method : DetectionMethod}
    (h : method.val < 0 ∨ 5 < method.val) : d.stage r method = none := by
  obtain ⟨v⟩ := method
  have hv : v ≠ 0 ∧ v ≠ 1 ∧ v ≠ 2 ∧ v ≠ 3 ∧ v ≠ 4 ∧ v ≠ 5 := by simp only at h; omega
  simp [stage, DetectionMethod.acceptHeader, DetectionMethod.apiVersionHeader,
    DetectionMethod.xAPIVersionHeader, DetectionMethod.queryParameter, DetectionMethod.urlPath,
    DetectionMethod.contextValue, hv]

/-- `DetectFromHTTPRequest` runs, for each enabled method, the stage of its
`case` (none for `DetectionMethodDefault` and unknown values), and returns
what the first method whose stage yields a non-zero version yields, tagged
with that method and its stage's source, whatever methods follow it; if
every method misses, the default. -/
theorem detectFromHTTPRequest_first_match (d : Detector) (r : Request) :
    (d.stage r .acceptHeader = some (d.detectFromAcceptHeader r) ∧
      d.stage r .apiVersionHeader = some (d.detectFromAPIVersionHeader r) ∧
      d.stage r .xAPIVersionHeader = some (d.detectFromXAPIVersionHeader r) ∧
      d.stage r .queryParameter = some (d.detectFromQueryParameter r) ∧
      d.stage r .urlPath = some (d.detectFromURLPath r) ∧
      d.stage r .contextValue = some (d.detectFromContext (some r.context)) ∧
      ∀ method : DetectionMethod, method.val < 0 ∨ 5 < method.val → d.stage r method = none) ∧
    ((∃ pre method post v s, d.enabledMethods = pre ++ method :: post ∧ (∀ m ∈ pre, d.Miss r m) ∧
      d.stage r method = some (v, s) ∧ v.isZero = false ∧
      ∀ post', { d with enabledMethods := pre ++ method :: post' }.detectFromHTTPRequest r =
        ⟨v, method, s⟩) ∨
    ((∀ m ∈ d.enabledMethods, d.Miss r m) ∧
      d.detectFromHTTPRequest r = ⟨d.defaultVersion, .default, "default_version"⟩)) := by
  refine ⟨⟨rfl, rfl, rfl, rfl, rfl, rfl, fun _ => stage_none d r⟩, ?_⟩
  rcases detectLoop_cases d r d.enabledMethods with ⟨pre, method, post, v, s, he, hpre, hs, hz, h⟩ | h
  · refine .inl ⟨pre, method, post, v, s, he, hpre, hs, hz, fun post' => ?_⟩
    simp only [detectFromHTTPRequest, detectLoop_with, h]
  · exact .inr h

theorem detectFromHTTPRequest_isZero (d : Detector) (r : Request)
    (h : (d.detectFromHTTPRequest r).version.isZero = true) : d.detectFromHTTPRequest r = d.defaultResult := by
  rcases detectLoop_cases d r d.enabledMethods with ⟨pre, method, post, v, s, he, -, -, hz, hl⟩ | ⟨-, hl⟩
  · simp only [detectFromHTTPRequest, he, hl] at h ⊢
    simp [hz] at h
  · exact hl

/-! ## What the path and Accept stages read -/

/-- The Accept stage on a header `a + P + t + "+" + b`, where `P` is the
configured prefix, `t` is numbers written by `%d` and joined by dots (`N`,
`N.M`, `N.M.K`, ...; each `< 2^63`), `P` holds no `+` and some character
that is neither a digit nor `.`, and `P` first occurs in `a + P` right
after `a`. The stage reads `t` back: major, minor and patch are the first
three numbers (0 when absent), the label is empty, and the source is the
whole header. -/
theorem detectFromAcceptHeader_token (d : Detector) (r : Request) (a b : String) (ns : List Nat)
    (hns : ns ≠ []) (hbound : ∀ n ∈ ns, n < 9223372036854775808)
    (hplus : '+' ∉ d.acceptHeaderPrefix.toList)
    (hother : ∃ c ∈ d.acceptHeaderPrefix.toList, c.isDigit = false ∧ c ≠ '.')
    (hfirst : ∀ i < a.toList.length, ¬ d.acceptHeaderPrefix.toList <+: (a.toList ++ d.acceptHeaderPrefix.toList).drop i)
    (hr : r.header "Accept" = a ++ d.acceptHeaderPrefix ++ dotted ns ++ "+" ++ b) :
    d.detectFromAcceptHeader r =
      ({ version := "v" ++ dotted ns, major := ns.getD 0 0, minor := ns.getD 1 0, patch := ns.getD 2 0 },
        r.header "Accept") := by
  set P := d.acceptHeaderPrefix with hP
  have hPne : P ≠ "" := fun h => by obtain ⟨c, hc, -⟩ := hother; rw [h] at hc; exact List.not_mem_nil c hc
  have hlist : (r.header "Accept").toList =
      a.toList ++ (P.toList ++ ((dotted ns).toList ++ ['+'] ++ b.toList)) := by
    rw [hr]; simp only [toList_append, List.append_assoc]; rfl
  have hne : r.header "Accept" ≠ "" := fun h => by
    have := congrArg String.toList h; rw [hlist] at this
    simp at this
  have hcontains : contains (r.header "Accept") P = true := by
    rw [contains, hlist, ← List.append_assoc]; exact containsAux_append _ _ _
  obtain ⟨x, rest, hx⟩ := splitAux_head P.toList b.toList 0 ((dotted ns).toList ++ ['+']).reverse
  have hsplit : split (r.header "Accept") P = String.mk a.toList :: String.mk ((dotted ns).toList ++ '+' :: x) ::
      rest.map String.mk := by
    rw [split, if_neg hPne, hlist,
      splitAux_append_of_not_prefix _ _ _ _ (isPrefixOf_drop_of_first hfirst),
      splitAux_sep_append P.toList _ _ (fun h => hPne (String.ext h)),
      splitAux_append_of_not_prefix _ _ _ _ (isPrefixOf_drop_of_alphabet (q := fun c => c.isDigit = true ∨ c = '.')
        (mem_dotted ns) (by obtain ⟨c, hc, h1, h2⟩ := hother; exact ⟨c, hc, by simp [h1, h2]⟩) hplus)]
    simp only [List.append_nil, hx, List.reverse_reverse, List.map_cons, List.append_assoc, List.singleton_append]
  have hplus' : '+' ∉ (dotted ns).toList := fun h => by
    rcases mem_dotted ns '+' h with h | h <;> revert h <;> decide
  have hpart : split (String.mk ((dotted ns).toList ++ '+' :: x)) "+" = dotted ns :: split (String.mk x) "+" := by
    have e : String.mk ((dotted ns).toList ++ '+' :: x) = dotted ns ++ String.singleton '+' ++ String.mk x :=
      String.ext (by
        show _ = (dotted ns ++ String.singleton '+' ++ String.mk x).toList
        simp only [toList_append, show (String.singleton '+').toList = ['+'] from rfl,
          List.append_assoc, List.singleton_append]
        rfl)
    rw [e]
    exact split_singleton_append '+' (dotted ns) (String.mk x) hplus'
  have hparse := parseVersion_dotted ns hns hbound (dotted ns) "" (cutLabel_of_not_mem (dash_not_mem_dotted ns))
  have hz : (parseVersion ("v" ++ dotted ns)).isZero = false :=
    parseVersion_isZero fun h => by simpa using congrArg String.toList h
  rw [hparse] at hz
  simp only [detectFromAcceptHeader, hne, hcontains, hsplit, List.getD_cons_succ, List.getD_cons_zero, hpart,
    hparse, hz, List.length_cons, if_false, ↓reduceIte]
  simp

/-- `application/vnd.api.v2+json` under the default prefix is version 2. -/
theorem detectFromAcceptHeader_token_v2 :
    [2] ≠ [] ∧ (∀ n ∈ [2], n < 9223372036854775808) ∧ '+' ∉ (newDetector []).acceptHeaderPrefix.toList ∧
    (∃ c ∈ (newDetector []).acceptHeaderPrefix.toList, c.isDigit = false ∧ c ≠ '.') ∧
    (∀ i < "".toList.length, ¬ (newDetector []).acceptHeaderPrefix.toList <+:
      ("".toList ++ (newDetector []).acceptHeaderPrefix.toList).drop i) ∧
    (newDetector []).detectFromAcceptHeader
        ⟨fun k => if k = "Accept" then "application/vnd.api.v2+json" else "", fun _ => "", "/", ⟨fun _ => .other⟩⟩ =
      ({ version := "v" ++ dotted [2], major := [2].getD 0 0, minor := [2].getD 1 0, patch := [2].getD 2 0 },
        "application/vnd.api.v2+json") :=
  ⟨by decide, by decide, by decide, by decide, by decide,
    detectFromAcceptHeader_token _ _ "" "json" [2] (by decide) (by decide) (by decide) (by decide) (by decide)
      (by decide)⟩

/-- `ExtractPipelineFromPath` skips the first path segment exactly when
the URL-path stage takes it as the version: it returns the second segment
(or "") when the stage yields a non-zero version, whose source is the first
segment, and the first segment (or "" for an empty path) otherwise. -/
theorem extractPipelineFromPath_skips_version (d : Detector) (r : Request) :
    ((d.detectFromURLPath r).1.isZero = false →
      (d.detectFromURLPath r).2 = (split (trimPrefix r.path "/") "/").getD 0 "" ∧
      d.extractPipelineFromPath r = (split (trimPrefix r.path "/") "/").getD 1 "") ∧
    ((d.detectFromURLPath r).1.isZero = true →
      d.extractPipelineFromPath r = (split (trimPrefix r.path "/") "/").getD 0 "") := by
  by_cases hp : trimPrefix r.path "/" = ""
  · simp only [detectFromURLPath, extractPipelineFromPath, hp, ↓reduceIte]
    decide
  · obtain ⟨p0, rest, hs⟩ := split_cons (trimPrefix r.path "/") "/" (by decide)
    by_cases hv : hasPrefix p0 "v" = true
    · have hne : p0 ≠ "" := fun h => by rw [h] at hv; exact absurd hv (by decide)
      have hz := parseVersion_isZero hne
      rcases rest with _ | ⟨q, rest⟩ <;>
        simp [detectFromURLPath, extractPipelineFromPath, hp, hs, hv, hz]
    · simp [detectFromURLPath, extractPipelineFromPath, hp, hs, hv]

end Detector

/-- mirrors src/unnamed/part_001:344-346 (`SetVersionInContext`) -/
def setVersionInContext (ctx : Context) (version : Version) : Context :=
  ctx.withValue "api_version" (.version version)

/-- mirrors src/unnamed/part_001:357-373 (`DetectorMiddleware`): the request
it hands to `next`, and the response headers it sets first. -/
def detectorMiddleware (detector : Detector) (r : Request) : Request × List (String × String) :=
  let result := detector.detectFromHTTPRequest r
  ({ r with context := setVersionInContext r.context result.version },
   [("X-API-Version", result.version.string), ("X-Version-Detection-Method", result.method.string)])

/-- Behind the middleware, context detection under the key
`"api_version"` sees exactly the version the middleware detected. -/
theorem DetectFromContext_middleware (d : Detector) (r : Request) (hkey : d.contextKey = "api_version") :
    (d.DetectFromContext (some (detectorMiddleware d r).1.context)).version =
      (d.detectFromHTTPRequest r).version := by
  cases hz : (d.detectFromHTTPRequest r).version.isZero
  · simp [detectorMiddleware, setVersionInContext, Context.withValue, Detector.DetectFromContext,
      Detector.detectFromContext, hkey, hz]
  · rw [Detector.detectFromHTTPRequest_isZero d r hz]
    simp [detectorMiddleware, setVersionInContext, Context.withValue, Detector.DetectFromContext,
      Detector.detectFromContext, hkey, hz]

/-- Under another context key the middleware's write is not seen: a request
with header `API-Version: v2` behind a detector built `WithContextKey("ver")`
is detected as v2, while context detection falls back to the default 1.0.0. -/
theorem DetectFromContext_middleware_other_key :
    ((newDetector [withContextKey "ver"]).DetectFromContext (some (detectorMiddleware
      (newDetector [withContextKey "ver"])
      ⟨fun k => if k = "API-Version" then "v2" else "", fun _ => "", "/users", ⟨fun _ => .other⟩⟩).1.context)).version ≠
    ((newDetector [withContextKey "ver"]).detectFromHTTPRequest
      ⟨fun k => if k = "API-Version" then "v2" else "", fun _ => "", "/users", ⟨fun _ => .other⟩⟩).version := by
  decide

end Gochoreo
