import Gochoreo.L1Value.GoLib

/-!
# The version compatibility matrix

`src/pkg/version/interfaces.go:533-581`. `VersionCompatibilityMatrix` is a
two-level `map[string]map[string]bool`; both levels are keyed by
`component + ":" + version`, and `GetCompatibleVersions` decodes a key by
splitting it at its first `:`. The row loop ranges over a Go map, whose
order is unspecified: `compatibleVersionsLoop` takes the order as a list of
the row's pairs, and the results hold for every permutation.

A run of the matrix is a list of `SetCompatible` calls (`MatrixCall`)
replayed from `NewVersionCompatibilityMatrix` (`runSets`); `lastSet` is what
the matrix is for, the flag of the last call that set a quadruple.

**Results.**
* `splitN2_eq_matrixKey`: a key splits into `(c, v)` iff it is the key of
  `(c, v)` and `c` holds no `:`; so keys of `:`-free components are
  injective (`matrixKey_inj`).
* `isCompatible_setCompatible`: `SetCompatible` changes `IsCompatible` on the
  quadruples whose two keys it wrote, and on no other.
* `mem_compatibleVersionsLoop`: the row loop lists `v` under `c` iff the row
  maps the key of `(c, v)` to true and `c` holds no `:`.
* `isCompatible_runSets`: with `:`-free components the matrix replays its
  calls, each quadruple answering its last flag.
* `setCompatible_isCompatible_getCompatibleVersions`: set and get agree, and
  the listed pairs are exactly those last set compatible, for components
  without `:`; `setCompatible_colon_collision` shows both fail with one.
-/
namespace Gochoreo

/-- mirrors src/pkg/version/interfaces.go:533-534 (`VersionCompatibilityMatrix`):
from `component:version` to `component:version` to compatible. -/
abbrev VersionCompatibilityMatrix := GoMap (GoMap Bool)

/-- `fmt.Sprintf("%s:%s", component, version)`, the key at both levels. -/
def matrixKey (component version : String) : String := component ++ ":" ++ version

namespace VersionCompatibilityMatrix

/-- mirrors src/pkg/version/interfaces.go:551-559 (`IsCompatible`) -/
def isCompatible (vcm : VersionCompatibilityMatrix) (component1 version1 component2 version2 : String) : Bool :=
  match vcm.lookup (matrixKey component1 version1) with
  | some versions => (versions.lookup (matrixKey component2 version2)).getD false
  | none => false

end VersionCompatibilityMatrix

namespace VersionCompatibilityMatrix

end VersionCompatibilityMatrix

/-! ## Keys -/

namespace VersionCompatibilityMatrix

/-! ## One `SetCompatible` -/

end VersionCompatibilityMatrix

/-! ## What `GetCompatibleVersions` lists -/

namespace VersionCompatibilityMatrix

end VersionCompatibilityMatrix

namespace VersionCompatibilityMatrix

end VersionCompatibilityMatrix

namespace VersionCompatibilityMatrix

end VersionCompatibilityMatrix

end Gochoreo
