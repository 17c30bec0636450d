import Gochoreo.L1Value.Version

/-!
# The error taxonomy and its HTTP mapping

`pkg/version/errors.go` and `HTTPVersionResponseWriter.WriteVersionError`
(`pkg/version/interfaces.go`). A Go `error` is `GoError`: one constructor per
error type of the package, and `plain` for the errors made by `fmt.Errorf`
(with or without `%w`) or by a component. The modelled code reads of the
compatibility, deprecation, configuration and validation errors only their
type and their `Error()` text, so those carry the text alone.

* `getVersionErrorCode` is `GetVersionErrorCode`, a type switch.
* `writeVersionError` answers 404 for a `ComponentNotFoundError`, 406 for
  everything else, and turns every error that is not a `*VersionError`
  into a body with code `UNKNOWN_ERROR`.
* `version_validators_accept`: `ValidateVersionString`, `MustParseVersion`
  and `ParseVersionSlice` accept every non-empty text.
-/
namespace Gochoreo

/-- mirrors src/pkg/version/errors.go:9-15 (`VersionError`) -/
structure VersionError where
  component : String
  requestedVersion : Version
  supportedVersions : List Version
  message : String
  code : String
  deriving DecidableEq, Repr

/-- mirrors src/pkg/version/errors.go:18-26 (`VersionError.Error`) -/
def VersionError.error (e : VersionError) : String :=
  "version error in component \x27" ++ e.component ++ "\x27: " ++ e.message ++ " (requested: " ++
    e.requestedVersion.string ++ ", supported: [" ++
    ", ".intercalate (e.supportedVersions.map Version.string) ++ "])"

/-- mirrors src/pkg/version/errors.go:29-37 (`NewVersionError`) -/
def newVersionError (component : String) (requested : Version) (supported : List Version)
    (message : String) : VersionError :=
  { component := component, requestedVersion := requested, supportedVersions := supported,
    message := message, code := "VERSION_NOT_SUPPORTED" }

/-- A Go `error`, by dynamic type. -/
inductive GoError where
  /-- `*VersionError` -/
  | version (e : VersionError)
  /-- `*ComponentNotFoundError` -/
  | componentNotFound (component message : String)
  /-- `*MigrationError` -/
  | migration (component : String) (fromVersion toVersion : Version) (message : String)
      (cause : Option GoError)
  /-- `*CompatibilityError`, by its `Error()` text -/
  | compatibility (text : String)
  /-- `*DeprecationError`, by its `Error()` text -/
  | deprecation (text : String)
  /-- `*ConfigurationError`, by its `Error()` text -/
  | configuration (text : String)
  /-- `*ValidationError`, by its `Error()` text -/
  | validation (text : String)
  /-- any other error: `fmt.Errorf`, `errors.New`, a component's own -/
  | plain (text : String)

/-- `err.Error()`.
mirrors src/pkg/version/errors.go:57-62, 82-91 -/
def GoError.error : GoError → String
  | .version e => e.error
  | .componentNotFound c m =>
    if m ≠ "" then "component not found: " ++ c ++ " - " ++ m else "component not found: " ++ c
  | .migration c f t m none =>
    "migration error in component \x27" ++ c ++ "\x27 from " ++ f.string ++ " to " ++ t.string ++ ": " ++ m
  | .migration c f t m (some e) =>
    "migration error in component \x27" ++ c ++ "\x27 from " ++ f.string ++ " to " ++ t.string ++ ": " ++ m ++
      " (cause: " ++ e.error ++ ")"
  | .compatibility t | .deprecation t | .configuration t | .validation t | .plain t => t

/-- mirrors src/pkg/version/errors.go:99-107 (`NewMigrationError`) -/
def newMigrationError (component : String) (fromV toV : Version) (message : String)
    (cause : Option GoError) : GoError :=
  .migration component fromV toV message cause

/-- mirrors src/pkg/version/errors.go:337-356 (`GetVersionErrorCode`) -/
def getVersionErrorCode : GoError → String
  | .version e => e.code
  | .componentNotFound _ _ => "COMPONENT_NOT_FOUND"
  | .migration .. => "MIGRATION_ERROR"
  | .compatibility _ => "COMPATIBILITY_ERROR"
  | .deprecation _ => "DEPRECATED_VERSION"
  | .configuration _ => "CONFIGURATION_ERROR"
  | .validation _ => "VALIDATION_ERROR"
  | .plain _ => "UNKNOWN_ERROR"

/-! ## The HTTP side -/

/-- The JSON bodies the package writes. -/
inductive Json where
  | str (s : String)
  | strs (xs : List String)
  | obj (fields : List (String × Json))

/-- What a handler writes: status, headers set, body. -/
structure HTTPResponse where
  status : Nat
  headers : List (String × String)
  body : Json

/-- mirrors src/pkg/version/interfaces.go:416-419 (`HTTPVersionResponseWriter`);
the `http.ResponseWriter` is the returned `HTTPResponse`. -/
structure HTTPVersionResponseWriter where
  version : Version

/-- mirrors src/pkg/version/interfaces.go:341-347 (`VersionStringSlice`) -/
def versionStringSlice (versions : List Version) : List String := versions.map Version.string

/-- mirrors src/pkg/version/interfaces.go:350-358 (`ParseVersionSlice`) -/
def parseVersionSlice (versionStrs : List String) : List Version :=
  versionStrs.filterMap fun str =>
    let v := parseVersion str
    if !v.isZero then some v else none

/-- mirrors src/pkg/version/interfaces.go:361-367 (`ValidateVersionString`) -/
def validateVersionString (version : String) : Option GoError :=
  let parsed := parseVersion version
  if parsed.isZero ∧ version ≠ "" then some (.plain ("invalid version format: " ++ version)) else none

theorem parseVersionSlice_eq (versionStrs : List String) :
    parseVersionSlice versionStrs = (versionStrs.filter (· ≠ "")).map parseVersion := by
  induction versionStrs with
  | nil => rfl
  | cons s ss ih =>
    rw [List.filter_cons]
    by_cases hs : s = ""
    · subst hs; simpa [parseVersionSlice] using ih
    · rw [if_pos (by simpa using hs), List.map_cons, ← ih]
      simp [parseVersionSlice, parseVersion_isZero hs]

/-- No non-empty text is rejected. `ParseVersion` keeps every non-empty
input as the version's text, so it is never zero, and the
`IsZero() && s != ""` test of `ValidateVersionString` and
`MustParseVersion` never holds: whatever `s` is, the validator returns nil,
`MustParseVersion` returns the parse, and `ParseVersionSlice` keeps it in
place. -/
theorem version_validators_accept (s : String) (hs : s ≠ "") :
    validateVersionString s = none ∧ mustParseVersion s = .ok (parseVersion s) ∧
    ∀ pre post, parseVersionSlice (pre ++ s :: post) =
      parseVersionSlice pre ++ parseVersion s :: parseVersionSlice post := by
  refine ⟨by simp [validateVersionString, parseVersion_isZero hs], by simp [mustParseVersion, parseVersion_isZero hs],
    fun pre post => ?_⟩
  simp [parseVersionSlice_eq, List.filter_append, hs]

/-- `abc` has no integer major segment, so `ParseVersion` returns it opaque;
it is accepted all the same. -/
theorem version_validators_accept_abc :
    "abc" ≠ "" ∧ parseVersion "abc" = { version := "abc" } ∧
    validateVersionString "abc" = none ∧ mustParseVersion "abc" = .ok (parseVersion "abc") ∧
    ∀ pre post, parseVersionSlice (pre ++ "abc" :: post) =
      parseVersionSlice pre ++ parseVersion "abc" :: parseVersionSlice post :=
  ⟨by decide, by decide, version_validators_accept "abc" (by decide)⟩

/-- mirrors src/pkg/version/interfaces.go:430-436 (`WriteVersionedJSON`) -/
def HTTPVersionResponseWriter.writeVersionedJSON (vw : HTTPVersionResponseWriter) (statusCode : Nat)
    (data : Json) : HTTPResponse :=
  { status := statusCode,
    headers := [("Content-Type", "application/json"), ("X-API-Version", vw.version.string)],
    body := data }

/-- The `*VersionError` that `WriteVersionError` reports for `err`. -/
def asVersionError : GoError → VersionError
  | .version e => e
  | err => { component := "", requestedVersion := {}, supportedVersions := [], message := err.error,
             code := "UNKNOWN_ERROR" }

/-- mirrors src/pkg/version/interfaces.go:439-464 (`WriteVersionError`) -/
def HTTPVersionResponseWriter.writeVersionError (vw : HTTPVersionResponseWriter) (err : GoError) :
    HTTPResponse :=
  let statusCode := match err with
    | .componentNotFound _ _ => 404
    | _ => 406
  let versionErr := asVersionError err
  vw.writeVersionedJSON statusCode (.obj
    [("error", .str versionErr.message), ("component", .str versionErr.component),
     ("requested_version", .str versionErr.requestedVersion.string),
     ("supported_versions", .strs (versionStringSlice versionErr.supportedVersions)),
     ("error_code", .str versionErr.code)])

/-- The `error_code` of a JSON body written by `writeVersionError`. -/
def Json.errorCode : Json → Option String
  | .obj fs => match fs.lookup "error_code" with
    | some (.str c) => some c
    | _ => none
  | _ => none

end Gochoreo
