import Gochoreo.L3Registry.Manager

/-!
# Constraint checking (`Manager.CheckCompatibility`)

`CheckCompatibility` ranges over a `map[string]Version` in Go's iteration
order, which is unspecified: `checkCompatibility` takes that order as a list
of the map's pairs, and every result below holds for each permutation of
them. The call holds only the read lock, so it returns an error and no
state.

`Compatible` is what the check is meant to decide: every stored constraint
of a component named in the map, whose target is also in the map, admits
the target's version and lists no conflicting version with the same
(Major, Minor, Patch).

**Results.**
* `checkConstraints_eq_none`: the inner loop finds no error iff the
  constraints hold.
* `checkCompatibility_eq_none`: the outer loop finds none iff they hold for
  every component of the iteration.
* `checkCompatibility_verdict`: in every iteration order the call returns nil
  iff `Compatible`; only the wording of the error depends on the order.
-/
namespace Gochoreo

/-- A constraint holds against the versions in the map: when its target is
there, the range admits the target's version and no conflicting version has
the same numeric triple. -/
def ConstraintHolds (componentVersions : GoMap Version) (k : VersionConstraint) : Prop :=
  ∀ v, componentVersions.lookup k.component = some v →
    k.requires.contains v = true ∧ ∀ c ∈ k.conflicts, v.triple ≠ c.triple

def ConstraintsHold (componentVersions : GoMap Version) (constraints : List VersionConstraint) : Prop :=
  ∀ k ∈ constraints, ConstraintHolds componentVersions k

/-- The first version of `conflicts` with the numeric triple of `v`:
the loop at src/pkg/version/manager.go:297-304. -/
def firstConflict (v : Version) (conflicts : List Version) : Option Version :=
  conflicts.find? fun c => decide (v.triple = c.triple)

theorem firstConflict_eq_none {v : Version} {conflicts : List Version} :
    firstConflict v conflicts = none ↔ ∀ c ∈ conflicts, v.triple ≠ c.triple := by
  simp [firstConflict, List.find?_eq_none]

theorem firstConflict_eq_some {v c : Version} {conflicts : List Version}
    (h : firstConflict v conflicts = some c) : c ∈ conflicts ∧ v.triple = c.triple := by
  unfold firstConflict at h
  have hp := List.find?_some h
  exact ⟨List.mem_of_find?_eq_some h, by simpa using hp⟩

namespace Manager

/-- What the registry is meant to accept. -/
def Compatible (m : Manager) (componentVersions : GoMap Version) : Prop :=
  ∀ a ∈ componentVersions, ∀ ks, m.constraints.lookup a = some ks → ConstraintsHold componentVersions ks

/-- The loop over the constraints of `componentName` (src/pkg/version/manager.go:286-306). -/
def checkConstraints (componentVersions : GoMap Version) (componentName : String) (version : Version) :
    List VersionConstraint → Option GoError
  | [] => none
  | constraint :: rest =>
    match componentVersions.lookup constraint.component with
    | none => checkConstraints componentVersions componentName version rest
    | some requiredVersion =>
      if !constraint.requires.contains requiredVersion then
        some (.plain ("component \x27" ++ componentName ++ "\x27 version " ++ version.string ++
          " requires \x27" ++ constraint.component ++ "\x27 version in range " ++
          constraint.requires.string ++ ", but got " ++ requiredVersion.string))
      else match firstConflict requiredVersion constraint.conflicts with
        | some conflictVersion =>
          some (.plain ("component \x27" ++ componentName ++ "\x27 version " ++ version.string ++
            " conflicts with \x27" ++ constraint.component ++ "\x27 version " ++ conflictVersion.string))
        | none => checkConstraints componentVersions componentName version rest

/-- mirrors src/pkg/version/manager.go:275-310 (`CheckCompatibility`);
`order` is the map's iteration order. -/
def checkCompatibility (m : Manager) (componentVersions : GoMap Version) :
    List (String × Version) → Option GoError
  | [] => none
  | (componentName, version) :: rest =>
    match m.constraints.lookup componentName with
    | none => m.checkCompatibility componentVersions rest
    | some constraints =>
      match checkConstraints componentVersions componentName version constraints with
      | some err => some err
      | none => m.checkCompatibility componentVersions rest

theorem checkConstraints_cons_eq_none (componentVersions : GoMap Version) (componentName : String)
    (version : Version) (k : VersionConstraint) (ks : List VersionConstraint) :
    checkConstraints componentVersions componentName version (k :: ks) = none ↔
      ConstraintHolds componentVersions k ∧ checkConstraints componentVersions componentName version ks = none := by
  rw [checkConstraints, ConstraintHolds]
  rcases componentVersions.lookup k.component with _ | rv
  · simp
  · simp only [Option.some.injEq, forall_eq']
    cases hc : k.requires.contains rv
    · simp
    · rcases hf : firstConflict rv k.conflicts with _ | c
      · exact ⟨fun h => ⟨⟨rfl, firstConflict_eq_none.mp hf⟩, h⟩, fun h => h.2⟩
      · obtain ⟨hmem, heq⟩ := firstConflict_eq_some hf
        exact ⟨fun h => (nomatch h), fun h => absurd heq (h.1.2 c hmem)⟩

theorem checkConstraints_eq_none (componentVersions : GoMap Version) (componentName : String)
    (version : Version) (constraints : List VersionConstraint) :
    checkConstraints componentVersions componentName version constraints = none ↔
      ConstraintsHold componentVersions constraints := by
  induction constraints with
  | nil => simp [checkConstraints, ConstraintsHold]
  | cons k ks ih =>
    rw [checkConstraints_cons_eq_none, ih]
    simp [ConstraintsHold]

theorem checkCompatibility_eq_none (m : Manager) (componentVersions : GoMap Version)
    (order : List (String × Version)) :
    m.checkCompatibility componentVersions order = none ↔
      ∀ p ∈ order, ∀ ks, m.constraints.lookup p.1 = some ks → ConstraintsHold componentVersions ks := by
  induction order with
  | nil => simp [checkCompatibility]
  | cons p ps ih =>
    obtain ⟨a, v⟩ := p
    rw [checkCompatibility, List.forall_mem_cons, ← ih]
    rcases m.constraints.lookup a with _ | ks
    · simp
    · simp only [Option.some.injEq, forall_eq', ← checkConstraints_eq_none componentVersions a v ks]
      rcases checkConstraints componentVersions a v ks with _ | e <;> simp

/-- `CheckCompatibility` decides `Compatible`: in every iteration order
of the map it returns nil exactly when the constraints hold, so the verdict
does not depend on the order. -/
theorem checkCompatibility_verdict (m : Manager) (componentVersions : GoMap Version)
    (order order' : List (String × Version)) (horder : order.Perm componentVersions.pairs)
    (horder' : order'.Perm componentVersions.pairs) :
    (m.checkCompatibility componentVersions order = none ↔ m.Compatible componentVersions) ∧
    (m.checkCompatibility componentVersions order).isNone =
      (m.checkCompatibility componentVersions order').isNone := by
  have key : ∀ o : List (String × Version), o.Perm componentVersions.pairs →
      (m.checkCompatibility componentVersions o = none ↔ m.Compatible componentVersions) := by
    intro o ho
    rw [checkCompatibility_eq_none]
    constructor
    · intro h a ha ks hks
      obtain ⟨v, hv⟩ := Option.isSome_iff_exists.mp (AList.lookup_isSome.mpr ha)
      exact h (a, v) (ho.mem_iff.mpr (GoMap.mem_pairs.mpr hv)) ks hks
    · intro h p hp ks hks
      have hv := GoMap.mem_pairs.mp (ho.mem_iff.mp hp)
      exact h p.1 (AList.lookup_isSome.mp (by simp [hv])) ks hks
  refine ⟨key order horder, ?_⟩
  rw [Bool.eq_iff_iff, Option.isNone_iff_eq_none, Option.isNone_iff_eq_none, key order horder,
    key order' horder']

/-- `orders` requires `users` at least 1.0.0; both iteration orders
of a two-entry map. -/
theorem checkCompatibility_verdict_orders :
    [("users", newVersion 1 2 0), ("orders", newVersion 2 0 0)].Perm
      (GoMap.pairs (((∅ : GoMap Version).insert "users" (newVersion 1 2 0)).insert "orders" (newVersion 2 0 0))) ∧
    [("orders", newVersion 2 0 0), ("users", newVersion 1 2 0)].Perm
      (GoMap.pairs (((∅ : GoMap Version).insert "users" (newVersion 1 2 0)).insert "orders" (newVersion 2 0 0))) ∧
    (({ (newManager []) with constraints :=
        (∅ : GoMap (List VersionConstraint)).insert "orders" [⟨"users", { min := newVersion 1 0 0 }, []⟩] }.checkCompatibility
        (((∅ : GoMap Version).insert "users" (newVersion 1 2 0)).insert "orders" (newVersion 2 0 0))
        [("users", newVersion 1 2 0), ("orders", newVersion 2 0 0)] = none ↔
      { (newManager []) with constraints :=
        (∅ : GoMap (List VersionConstraint)).insert "orders" [⟨"users", { min := newVersion 1 0 0 }, []⟩] }.Compatible
        (((∅ : GoMap Version).insert "users" (newVersion 1 2 0)).insert "orders" (newVersion 2 0 0))) ∧
    ({ (newManager []) with constraints :=
        (∅ : GoMap (List VersionConstraint)).insert "orders" [⟨"users", { min := newVersion 1 0 0 }, []⟩] }.checkCompatibility
        (((∅ : GoMap Version).insert "users" (newVersion 1 2 0)).insert "orders" (newVersion 2 0 0))
        [("users", newVersion 1 2 0), ("orders", newVersion 2 0 0)]).isNone =
      ({ (newManager []) with constraints :=
        (∅ : GoMap (List VersionConstraint)).insert "orders" [⟨"users", { min := newVersion 1 0 0 }, []⟩] }.checkCompatibility
        (((∅ : GoMap Version).insert "users" (newVersion 1 2 0)).insert "orders" (newVersion 2 0 0))
        [("orders", newVersion 2 0 0), ("users", newVersion 1 2 0)]).isNone) :=
  ⟨by decide, by decide, checkCompatibility_verdict _ _ _ _ (by decide) (by decide)⟩

end Manager

end Gochoreo
