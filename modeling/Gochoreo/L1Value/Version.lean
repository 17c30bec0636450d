import Gochoreo.L1Value.GoLib

/-!
# `Version` and `VersionRange`

The value types of `pkg/version` (src/unnamed/part_003, the package's
`version.go`). A `Version` keeps the text it was built from (`version`) next
to the numeric triple; `String()` returns that text when it is non-empty, so
two spellings of one triple (`"v1"`, `"v1.0.0"`) print differently while
`Compare` calls them equal. Go `int` fields are `Int`: no arithmetic is done
on them, and `atoi` already rejects what does not fit 64 bits.

**Results.**
* `Version.compare_lexicographic`: `Compare` is the lexicographic order on
  (Major, Minor, Patch) (`Version.compare_le_zero_iff`), so `IsCompatible`
  is a preorder whose two-way instances are the `Compare`-equal pairs.
* `parseVersion_string_newVersionWithLabel`: `ParseVersion` reads back what
  `String()` prints for every version built from non-negative numbers.
* `parseVersion_triple`: the triple `ParseVersion` returns depends only on
  the text before the first `-` (`numericPart`); hence
  `Version.Built.triple_parseVersion_string`: a constructed version's text
  parses back to its own triple.
-/
namespace Gochoreo

/-- mirrors src/unnamed/part_003:16-22 (`Version`) -/
structure Version where
  version : String := ""
  major : Int := 0
  minor : Int := 0
  patch : Int := 0
  label : String := ""
  deriving DecidableEq, Repr

/-- The `fmt.Sprintf("v%d.%d.%d", major, minor, patch)` shared by
`String`, `NewVersion` and `NewVersionWithLabel`. -/
def vTriple (major minor patch : Int) : String :=
  "v" ++ formatInt major ++ "." ++ formatInt minor ++ "." ++ formatInt patch

/-- mirrors src/unnamed/part_003:25-34 (`Version.String`) -/
def Version.string (v : Version) : String :=
  if v.version ≠ "" then v.version
  else if v.label ≠ "" then vTriple v.major v.minor v.patch ++ "-" ++ v.label
  else vTriple v.major v.minor v.patch

/-- mirrors src/unnamed/part_003:37-39 (`Version.IsZero`); the label is not
looked at. -/
def Version.isZero (v : Version) : Bool :=
  decide (v.version = "" ∧ v.major = 0 ∧ v.minor = 0 ∧ v.patch = 0)

/-- One field of `Compare`: `-1` or `1` when the fields differ, otherwise
`k`, the verdict on the later fields. -/
def cmpField (a b k : Int) : Int := if a ≠ b then (if a < b then -1 else 1) else k

@[simp] theorem Version.isZero_empty : ({} : Version).isZero = true := rfl

/-- mirrors src/unnamed/part_003:42-65 (`Version.Compare`) -/
def Version.compare (v other : Version) : Int :=
  cmpField v.major other.major (cmpField v.minor other.minor (cmpField v.patch other.patch 0))

/-- mirrors src/unnamed/part_003:69-74 (`Version.IsCompatible`) -/
def Version.isCompatible (v other : Version) : Bool :=
  if v.major ≠ other.major then false else decide (0 ≤ v.compare other)

/-- The numeric triple, which `Contains` and `CheckCompatibility` compare
field by field. -/
def Version.triple (v : Version) : Int × Int × Int := (v.major, v.minor, v.patch)

theorem cmpField_eq_zero {a b k : Int} : cmpField a b k = 0 ↔ a = b ∧ k = 0 := by
  unfold cmpField
  by_cases h : a = b
  · simp [h]
  · simp only [ne_eq, h, not_false_eq_true, ↓reduceIte, false_and, iff_false]
    split <;> omega

theorem Version.compare_eq_zero {v w : Version} : v.compare w = 0 ↔ v.triple = w.triple := by
  simp only [Version.compare, cmpField_eq_zero, Version.triple, Prod.mk.injEq, and_true]

/-! ## `Compare` is the lexicographic order on the triple -/

theorem cmpField_cases (a b k : Int) :
    cmpField a b k = (if a < b then -1 else if b < a then 1 else k) := by
  unfold cmpField; split_ifs <;> omega

theorem cmpField_le_zero {a b k : Int} : cmpField a b k ≤ 0 ↔ a < b ∨ a = b ∧ k ≤ 0 := by
  rw [cmpField_cases]; split_ifs <;> omega

theorem cmpField_swap (a b k : Int) : cmpField b a (-k) = -cmpField a b k := by
  rw [cmpField_cases, cmpField_cases]; split_ifs <;> omega

theorem cmpField_range {a b k : Int} (hk : k = -1 ∨ k = 0 ∨ k = 1) :
    cmpField a b k = -1 ∨ cmpField a b k = 0 ∨ cmpField a b k = 1 := by
  rw [cmpField_cases]; split_ifs <;> omega

/-- `Compare(v, w) <= 0` is `v ≤ w` in the lexicographic order on
(Major, Minor, Patch). -/
theorem Version.compare_le_zero_iff {v w : Version} :
    v.compare w ≤ 0 ↔ v.major < w.major ∨ v.major = w.major ∧
      (v.minor < w.minor ∨ v.minor = w.minor ∧ v.patch ≤ w.patch) := by
  simp only [Version.compare, cmpField_le_zero]
  omega

theorem Version.compare_swap (v w : Version) : w.compare v = -v.compare w := by
  simp only [Version.compare, ← cmpField_swap, Int.neg_zero]

theorem Version.compare_range (v w : Version) :
    v.compare w = -1 ∨ v.compare w = 0 ∨ v.compare w = 1 :=
  cmpField_range (cmpField_range (cmpField_range (by omega)))

theorem Version.isCompatible_iff {v w : Version} :
    v.isCompatible w = true ↔ v.major = w.major ∧ 0 ≤ v.compare w := by
  unfold Version.isCompatible; split_ifs <;> simp_all

/-- `Compare` is a three-way comparison, antisymmetric, zero exactly on
equal triples and transitive; `Compare(a, b) <= 0` is `a ≤ b` in the
lexicographic order on (Major, Minor, Patch). `IsCompatible` holds when the
majors agree and `a` is not older than `b`; so it is reflexive and
transitive, and holds both ways exactly between versions `Compare` calls
equal. -/
theorem Version.compare_lexicographic (a b c : Version) :
    (a.compare b = -1 ∨ a.compare b = 0 ∨ a.compare b = 1) ∧
    a.compare b = -b.compare a ∧
    (a.compare b = 0 ↔ (a.major, a.minor, a.patch) = (b.major, b.minor, b.patch)) ∧
    (a.compare b ≤ 0 ↔ a.major < b.major ∨ a.major = b.major ∧
      (a.minor < b.minor ∨ a.minor = b.minor ∧ a.patch ≤ b.patch)) ∧
    (a.compare b ≤ 0 → b.compare c ≤ 0 → a.compare c ≤ 0) ∧
    (a.isCompatible b = true ↔ a.major = b.major ∧
      (b.minor < a.minor ∨ b.minor = a.minor ∧ b.patch ≤ a.patch)) ∧
    a.isCompatible a = true ∧
    (a.isCompatible b = true → b.isCompatible c = true → a.isCompatible c = true) ∧
    (a.isCompatible b = true ∧ b.isCompatible a = true ↔ a.compare b = 0) := by
  have hge : ∀ v w : Version, 0 ≤ v.compare w ↔ w.compare v ≤ 0 := fun v w => by
    rw [Version.compare_swap v w]; omega
  refine ⟨a.compare_range b, Version.compare_swap b a, Version.compare_eq_zero, Version.compare_le_zero_iff,
    fun hab hbc => ?_, ?_, ?_, fun hab hbc => ?_, ?_⟩
  · rw [Version.compare_le_zero_iff] at *; omega
  · rw [Version.isCompatible_iff, hge, Version.compare_le_zero_iff]; omega
  · exact Version.isCompatible_iff.mpr ⟨rfl, by rw [Version.compare_eq_zero.mpr rfl]⟩
  · simp only [Version.isCompatible_iff, hge, Version.compare_le_zero_iff] at *; omega
  · simp only [Version.isCompatible_iff, hge, Version.compare_le_zero_iff, Version.compare_eq_zero,
      Version.triple, Prod.mk.injEq]
    omega

/-- mirrors src/unnamed/part_003:77-79 (`Version.IsMajorBreaking`) -/
def Version.isMajorBreaking (v other : Version) : Bool := decide (v.major > other.major)

/-- mirrors src/unnamed/part_003:82-84 (`Version.IsMinorUpgrade`) -/
def Version.isMinorUpgrade (v other : Version) : Bool := decide (v.major = other.major ∧ v.minor > other.minor)

/-- mirrors src/unnamed/part_003:87-89 (`Version.IsPatchUpgrade`) -/
def Version.isPatchUpgrade (v other : Version) : Bool :=
  decide (v.major = other.major ∧ v.minor = other.minor ∧ v.patch > other.patch)

/-- The three upgrade tests split "newer" between them: `v` is newer than
`other` (`Compare > 0`) exactly when one of them holds, and no two hold at
once. -/
theorem Version.upgrade_kind (v other : Version) :
    (0 < v.compare other ↔
      v.isMajorBreaking other = true ∨ v.isMinorUpgrade other = true ∨ v.isPatchUpgrade other = true) ∧
    ¬(v.isMajorBreaking other = true ∧ v.isMinorUpgrade other = true) ∧
    ¬(v.isMajorBreaking other = true ∧ v.isPatchUpgrade other = true) ∧
    ¬(v.isMinorUpgrade other = true ∧ v.isPatchUpgrade other = true) := by
  simp only [Version.isMajorBreaking, Version.isMinorUpgrade, Version.isPatchUpgrade, decide_eq_true_eq,
    ← not_le, Version.compare_le_zero_iff]
  omega

/-- mirrors src/unnamed/part_003:198-258 (`ParseVersion`). The label is cut
at the first `-` (`strings.SplitN(·, "-", 2)`); a major segment that is not
an integer gives an opaque version, the text alone. -/
def parseVersion (version : String) : Version :=
  if version = "" then {}
  else if toLower version = "latest" ∨ toLower version = "current" then { version := version }
  else
    let clean := trimPrefix version "v"
    let (clean, label) :=
      if contains clean "-" then ((splitN2 clean '-').getD 0 "", (splitN2 clean '-').getD 1 "")
      else (clean, "")
    match split clean "." with
    | [] => { version := version, label := label }
    | p0 :: rest =>
      match atoi p0 with
      | none => { version := version }
      | some major =>
        { version := version, major := major, minor := ((rest.get? 0).bind atoi).getD 0,
          patch := ((rest.get? 1).bind atoi).getD 0, label := label }

/-- mirrors src/unnamed/part_003:261-267 (`MustParseVersion`); `.error` is
the panic and its message. -/
def mustParseVersion (version : String) : Except String Version :=
  let v := parseVersion version
  if v.isZero ∧ version ≠ "" then .error ("invalid version: " ++ version) else .ok v

/-- mirrors src/unnamed/part_003:270-277 (`NewVersion`) -/
def newVersion (major minor patch : Int) : Version :=
  { version := vTriple major minor patch, major := major, minor := minor, patch := patch }

/-- mirrors src/unnamed/part_003:280-292 (`NewVersionWithLabel`) -/
def newVersionWithLabel (major minor patch : Int) (label : String) : Version :=
  { version := if label ≠ "" then vTriple major minor patch ++ "-" ++ label else vTriple major minor patch,
    major := major, minor := minor, patch := patch, label := label }

/-- mirrors src/unnamed/part_003:295-302 (`DefaultVersion`) -/
def defaultVersion : Version := { version := "v1.0.0", major := 1 }

/-- mirrors src/unnamed/part_003:305-309 (`VersionRange`) -/
structure VersionRange where
  min : Version := {}
  max : Version := {}
  exact : List Version := []
  deriving DecidableEq, Repr

/-- mirrors src/unnamed/part_003:327-347 (`VersionRange.Contains`) -/
def VersionRange.contains (vr : VersionRange) (version : Version) : Bool :=
  if vr.exact ≠ [] then vr.exact.any fun v => decide (v.triple = version.triple)
  else if !vr.min.isZero ∧ version.compare vr.min < 0 then false
  else if !vr.max.isZero ∧ version.compare vr.max > 0 then false
  else true

/-- mirrors src/unnamed/part_003:364-386 (`VersionRange.String`) -/
def VersionRange.string (vr : VersionRange) : String :=
  if vr.exact ≠ [] then ", ".intercalate (vr.exact.map Version.string)
  else if !vr.min.isZero ∧ !vr.max.isZero then vr.min.string ++ " - " ++ vr.max.string
  else if !vr.min.isZero then ">= " ++ vr.min.string
  else if !vr.max.isZero then "<= " ++ vr.max.string
  else "any"

/-- mirrors src/unnamed/part_003:312-317 (`NewVersionRange`) -/
def newVersionRange (min max : Version) : VersionRange := { min := min, max := max }

/-- mirrors src/unnamed/part_003:320-324 (`NewExactVersions`) -/
def newExactVersions (versions : List Version) : VersionRange := { exact := versions }

/-- mirrors src/unnamed/part_003:350-361 (`VersionRange.Versions`) -/
def VersionRange.versions (vr : VersionRange) : List Version :=
  if vr.exact ≠ [] then vr.exact
  else if !vr.min.isZero ∧ !vr.max.isZero then [vr.min, vr.max]
  else []

/-- What `Contains` accepts: a version matching an exact one by triple;
with no exact versions, one within each non-zero bound. So an empty exact
list falls back to the bounds, and the range `NewExactVersions()` builds
from no versions contains every version. -/
theorem VersionRange.contains_iff (vr : VersionRange) (v : Version) :
    vr.contains v = true ↔
      if vr.exact ≠ [] then ∃ e ∈ vr.exact, e.triple = v.triple
      else (vr.min.isZero = true ∨ vr.min.compare v ≤ 0) ∧ (vr.max.isZero = true ∨ v.compare vr.max ≤ 0) := by
  have hge : ∀ a b : Version, ¬a.compare b < 0 ↔ b.compare a ≤ 0 := fun a b => by
    rw [Version.compare_swap a b]; omega
  unfold VersionRange.contains
  by_cases he : vr.exact ≠ []
  · simp [he]
  · simp only [he, if_false, ne_eq, not_false_eq_true]
    by_cases hmin : vr.min.isZero <;> by_cases hmax : vr.max.isZero <;>
      simp [hmin, hmax, hge, not_lt]

/-! ## Reading a version back from its text -/

theorem Version.string_of_version {v : Version} (h : v.version ≠ "") : v.string = v.version := by
  rw [Version.string, if_pos h]

theorem Version.string_ne_empty (v : Version) : v.string ≠ "" := by
  unfold Version.string
  split
  · assumption
  · split <;> exact fun h => by simpa [vTriple] using congrArg String.toList h

theorem parseVersion_version {s : String} (h : s ≠ "") : (parseVersion s).version = s := by
  unfold parseVersion
  rw [if_neg h]
  split
  · rfl
  · simp only
    split <;> (try split) <;> rfl

theorem parseVersion_isZero {s : String} (h : s ≠ "") : (parseVersion s).isZero = false := by
  simp [Version.isZero, parseVersion_version h, h]

theorem toLower_v (x : String) : ¬(toLower ("v" ++ x) = "latest" ∨ toLower ("v" ++ x) = "current") := by
  rintro (h | h) <;> simpa [toLower] using congrArg (fun s => s.toList.head?) h

theorem intercalate_go_append (s : String) : ∀ (l : List String) (x y : String),
    String.intercalate.go (x ++ y) s l = x ++ String.intercalate.go y s l
  | [], _, _ => rfl
  | a :: l, x, y => by
    simp only [String.intercalate.go, String.append_assoc]
    exact intercalate_go_append s l x (y ++ (s ++ a))

theorem intercalate_cons_cons (s a b : String) (l : List String) :
    s.intercalate (a :: b :: l) = a ++ s ++ s.intercalate (b :: l) := by
  show String.intercalate.go (a ++ s ++ b) s l = _
  rw [intercalate_go_append]
  rfl

/-- Numbers written by `%d` and joined by dots: `N`, `N.M`, `N.M.K`, ... -/
def dotted (ns : List Nat) : String := ".".intercalate (ns.map fun n : Nat => formatInt n)

theorem vTriple_eq (major minor patch : Nat) : vTriple major minor patch = "v" ++ dotted [major, minor, patch] := by
  simp only [vTriple, dotted, List.map_cons, List.map_nil, intercalate_cons_cons, String.append_assoc]
  rfl

theorem split_dotted : ∀ (ns : List Nat), ns ≠ [] → split (dotted ns) "." = ns.map fun n : Nat => formatInt n
  | [], h => absurd rfl h
  | [n], _ => split_singleton_of_not_mem '.' _ (not_mem_formatInt n (by decide))
  | n :: m :: ns, _ => by
    rw [dotted, List.map_cons, List.map_cons, intercalate_cons_cons, show ("." : String) = String.singleton '.' from rfl,
      split_singleton_append _ _ _ (not_mem_formatInt n (by decide))]
    exact congrArg _ (split_dotted (m :: ns) (List.cons_ne_nil _ _))

theorem mem_dotted : ∀ (ns : List Nat) (c : Char), c ∈ (dotted ns).toList → c.isDigit = true ∨ c = '.'
  | [], c, h => absurd h (List.not_mem_nil c)
  | [n], c, h => .inl ((toDigits_ten_spec n).1 c h)
  | n :: m :: ns, c, h => by
    rw [dotted, List.map_cons, List.map_cons, intercalate_cons_cons] at h
    simp only [toList_append, List.mem_append] at h
    rcases h with (h | h) | h
    · exact .inl ((toDigits_ten_spec n).1 c h)
    · exact .inr (by simpa using h)
    · exact mem_dotted (m :: ns) c h

theorem dash_not_mem_dotted (ns : List Nat) : '-' ∉ (dotted ns).toList := fun h => by
  rcases mem_dotted ns '-' h with h | h <;> revert h <;> decide

theorem getD_bind_atoi : ∀ (l : List Nat), (∀ n ∈ l, n < 9223372036854775808) → ∀ i : Nat,
    (((l.map fun n : Nat => formatInt n).get? i).bind atoi).getD 0 = ((l.getD i 0 : Nat) : Int)
  | [], _, _ => rfl
  | n :: _, hl, 0 => by
    simp [atoi_formatInt n (by omega) (by have := hl n (List.mem_cons_self _ _); omega)]
  | _ :: l, hl, i + 1 => by
    simpa using getD_bind_atoi l (fun n hn => hl n (List.mem_cons_of_mem _ hn)) i

theorem parseVersion_dotted (ns : List Nat) (hne : ns ≠ []) (hns : ∀ n ∈ ns, n < 9223372036854775808)
    (clean label : String)
    (hcl : (if contains clean "-" then ((splitN2 clean '-').getD 0 "", (splitN2 clean '-').getD 1 "")
      else (clean, "")) = (dotted ns, label)) :
    parseVersion ("v" ++ clean) =
      { version := "v" ++ clean, major := ns.getD 0 0, minor := ns.getD 1 0, patch := ns.getD 2 0, label := label } := by
  have hv : "v" ++ clean ≠ "" := fun h => by simpa using congrArg String.toList h
  obtain ⟨n, rest, rfl⟩ := List.exists_cons_of_ne_nil hne
  unfold parseVersion
  rw [if_neg hv, if_neg (toLower_v clean), trimPrefix_append]
  simp only [hcl, split_dotted _ hne, List.map_cons]
  rw [atoi_formatInt n (by omega) (by have := hns n (List.mem_cons_self _ _); omega)]
  simp only [getD_bind_atoi rest (fun m hm => hns m (List.mem_cons_of_mem _ hm)), List.getD_cons_succ,
    List.getD_cons_zero]

theorem cutLabel_of_not_mem {clean : String} (h : '-' ∉ clean.toList) :
    (if contains clean "-" then ((splitN2 clean '-').getD 0 "", (splitN2 clean '-').getD 1 "")
      else (clean, "")) = (clean, "") := by
  rw [show ("-" : String) = String.singleton '-' from rfl, contains_singleton, decide_eq_false h]
  rfl

/-- `NewVersionWithLabel` with non-negative `int` components survives a
`String`/`ParseVersion` round trip, whatever its label. -/
theorem parseVersion_string_of_nat (major minor patch : Nat) (hmajor : major < 9223372036854775808)
    (hminor : minor < 9223372036854775808) (hpatch : patch < 9223372036854775808) (label : String) :
    parseVersion (newVersionWithLabel major minor patch label).string = newVersionWithLabel major minor patch label := by
  have hns : ∀ n ∈ [major, minor, patch], n < 9223372036854775808 := by simp [hmajor, hminor, hpatch]
  have hv : (newVersionWithLabel major minor patch label).version ≠ "" := by
    simp only [newVersionWithLabel]; split <;> exact fun h => by simpa [vTriple] using congrArg String.toList h
  rw [Version.string_of_version hv]
  by_cases hL : label = ""
  · subst hL
    have := parseVersion_dotted _ (List.cons_ne_nil _ _) hns _ "" (cutLabel_of_not_mem (dash_not_mem_dotted _))
    simp only [newVersionWithLabel, ne_eq, not_true_eq_false, ↓reduceIte, vTriple_eq, this]
    rfl
  · have hdash : ("-" : String).toList = ['-'] := rfl
    have hsplit : splitN2 (dotted [major, minor, patch] ++ "-" ++ label) '-' = [dotted [major, minor, patch], label] := by
      rw [show dotted [major, minor, patch] ++ "-" ++ label =
          String.mk ((dotted [major, minor, patch]).toList ++ '-' :: label.toList) from String.ext (by simp [hdash]),
        splitN2_of_not_mem _ _ _ (dash_not_mem_dotted _)]
      rfl
    have hc : contains (dotted [major, minor, patch] ++ "-" ++ label) "-" = true := by
      rw [show ("-" : String) = String.singleton '-' from rfl, contains_singleton]
      simp [hdash]
    have := parseVersion_dotted _ (List.cons_ne_nil _ _) hns
      (dotted [major, minor, patch] ++ "-" ++ label) label (by rw [if_pos hc, hsplit]; rfl)
    simp only [String.append_assoc] at this
    simp only [newVersionWithLabel, hL, ne_eq, not_false_eq_true, ↓reduceIte, vTriple_eq, String.append_assoc,
      this]
    rfl

/-- `ParseVersion(NewVersionWithLabel(M, m, p, L).String())` is
`NewVersionWithLabel(M, m, p, L)`, field by field, for every label and
all `0 ≤ M, m, p < 2^63`; in particular `NewVersion(M, m, p)` survives the
round trip. -/
theorem parseVersion_string_newVersionWithLabel (M m p : Int) (L : String)
    (hM : 0 ≤ M ∧ M < 9223372036854775808) (hm : 0 ≤ m ∧ m < 9223372036854775808)
    (hp : 0 ≤ p ∧ p < 9223372036854775808) :
    parseVersion (newVersionWithLabel M m p L).string = newVersionWithLabel M m p L ∧
      parseVersion (newVersion M m p).string = newVersion M m p := by
  obtain ⟨M, rfl⟩ := Int.eq_ofNat_of_zero_le hM.1
  obtain ⟨m, rfl⟩ := Int.eq_ofNat_of_zero_le hm.1
  obtain ⟨p, rfl⟩ := Int.eq_ofNat_of_zero_le hp.1
  exact ⟨parseVersion_string_of_nat M m p (by omega) (by omega) (by omega) L,
    parseVersion_string_of_nat M m p (by omega) (by omega) (by omega) ""⟩

/-- `v1.2.3-beta` reads back as `NewVersionWithLabel(1, 2, 3, "beta")`. -/
theorem parseVersion_string_newVersionWithLabel_beta :
    ((0 : Int) ≤ 1 ∧ (1 : Int) < 9223372036854775808) ∧ ((0 : Int) ≤ 2 ∧ (2 : Int) < 9223372036854775808) ∧
    ((0 : Int) ≤ 3 ∧ (3 : Int) < 9223372036854775808) ∧
    parseVersion (newVersionWithLabel 1 2 3 "beta").string = newVersionWithLabel 1 2 3 "beta" ∧
    parseVersion (newVersion 1 2 3).string = newVersion 1 2 3 :=
  ⟨by decide, by decide, by decide,
    parseVersion_string_newVersionWithLabel 1 2 3 "beta" (by decide) (by decide) (by decide)⟩

/-! ## What `ParseVersion` reads its numbers from -/

/-- The numbers `ParseVersion` reads from the text left once the `v` and
the label are cut off (src/unnamed/part_003:221-249). -/
def tripleOfClean (clean : String) : Int × Int × Int :=
  match split clean "." with
  | [] => (0, 0, 0)
  | p0 :: rest =>
    match atoi p0 with
    | none => (0, 0, 0)
    | some major => (major, ((rest.get? 0).bind atoi).getD 0, ((rest.get? 1).bind atoi).getD 0)

/-- The text before the first `-`, after one leading `v` is dropped. -/
def numericPart (s : String) : String := String.mk ((trimPrefix s "v").toList.takeWhile (· ≠ '-'))

theorem trimPrefix_v_of_head {x : String} (h : x.toList.head? ≠ some 'v') : trimPrefix x "v" = x := by
  have hp : hasPrefix x "v" = false := by
    unfold hasPrefix
    rcases hx : x.toList with _ | ⟨c, cs⟩
    · rfl
    · rw [hx] at h
      simp only [List.isPrefixOf, Bool.and_true, beq_eq_false_iff_ne]
      exact fun e => h (by rw [← e]; rfl)
  rw [trimPrefix, hp]
  rfl

/-- A `latest` or `current` spelt in any case holds no digit, `-` or `.`,
and its first letter is not `v`, `-` or `+`: it reads as no number. -/
theorem tripleOfClean_special {s : String} {t : List Char} (hmap : s.toList.map Char.toLower = t)
    (ht : '-' ∉ t ∧ '.' ∉ t) (hhead : ∀ c ∈ t.head?, c ≠ 'v' ∧ c ≠ '-' ∧ c ≠ '+' ∧ c.isDigit = false) :
    tripleOfClean (numericPart s) = (0, 0, 0) := by
  have hfix : ∀ x ∈ s.toList, x = '-' ∨ x = '.' → False := by
    rintro x hx (rfl | rfl)
    · exact ht.1 (hmap ▸ List.mem_map_of_mem Char.toLower hx)
    · exact ht.2 (hmap ▸ List.mem_map_of_mem Char.toLower hx)
  have hnum : numericPart s = s := by
    rcases hs : s.toList with _ | ⟨c, cs⟩
    · have : s = "" := String.ext hs
      subst this; rfl
    · obtain ⟨hv, -, -, -⟩ := hhead c.toLower (by rw [← hmap, hs]; rfl)
      rw [numericPart, trimPrefix_v_of_head (by rw [hs]; exact fun e => hv (by cases e; rfl)),
        List.takeWhile_eq_self_iff.mpr fun x hx => by simpa using fun e => hfix x hx (.inl e)]
      rfl
  rw [hnum, tripleOfClean, show ("." : String) = String.singleton '.' from rfl,
    split_singleton_of_not_mem '.' s (fun h => hfix '.' h (.inr rfl))]
  simp only
  rcases hs : s.toList with _ | ⟨c, cs⟩
  · rw [atoi, hs]; rfl
  · obtain ⟨-, hm, hp, hd⟩ := hhead c.toLower (by rw [← hmap, hs]; rfl)
    have hc : c.isDigit = false := by
      cases h : c.isDigit
      · rfl
      · rw [toLower_of_isDigit h, h] at hd; exact hd
    have hatoi : atoi s = none := by
      have hc1 : c ≠ '-' := fun e => hm (by rw [e]; rfl)
      have hc2 : c ≠ '+' := fun e => hp (by rw [e]; rfl)
      unfold atoi
      rw [hs]
      split
      · rename_i ds heq; exact absurd (List.cons.inj heq).1 hc1
      · rename_i ds heq; exact absurd (List.cons.inj heq).1 hc2
      · rw [digitsValue, if_neg (by simp [hc])]; rfl
    rw [hatoi]

theorem cutLabel_fst (clean : String) :
    (if contains clean "-" then ((splitN2 clean '-').getD 0 "", (splitN2 clean '-').getD 1 "")
      else (clean, "")).1 = String.mk (clean.toList.takeWhile (· ≠ '-')) := by
  split
  · exact splitN2_getD_zero clean '-'
  · rename_i h
    rw [show ("-" : String) = String.singleton '-' from rfl, contains_singleton, decide_eq_true_iff] at h
    rw [List.takeWhile_eq_self_iff.mpr fun x hx => by simpa using fun e : x = '-' => h (e ▸ hx)]
    rfl

/-- `ParseVersion` reads its numbers from `numericPart` alone. -/
theorem parseVersion_triple (s : String) : (parseVersion s).triple = tripleOfClean (numericPart s) := by
  unfold parseVersion
  split
  · subst_vars; rfl
  split
  · rename_i h
    rcases h with h | h
    · exact (tripleOfClean_special (congrArg String.toList h) (by decide) (by decide)).symm
    · exact (tripleOfClean_special (congrArg String.toList h) (by decide) (by decide)).symm
  · have hcl := cutLabel_fst (trimPrefix s "v")
    dsimp only
    generalize (if contains (trimPrefix s "v") "-" then _ else _) = q at hcl ⊢
    obtain ⟨clean, label⟩ := q
    simp only at hcl
    rw [numericPart, ← hcl, tripleOfClean]
    rcases split clean "." with _ | ⟨p0, rest⟩
    · rfl
    · simp only
      rcases atoi p0 with _ | major <;> rfl

/-- Cutting a text at its first `-` leaves its `numericPart` as it was. -/
theorem numericPart_takeWhile (s : String) :
    numericPart (String.mk (s.toList.takeWhile (· ≠ '-'))) = numericPart s := by
  rcases hs : s.toList with _ | ⟨c, cs⟩
  · rw [show s = String.mk [] from String.ext hs]; rfl
  · by_cases hv : c = 'v'
    · subst hv
      have h1 : trimPrefix s "v" = String.mk cs := by
        rw [show s = "v" ++ String.mk cs from String.ext (hs.trans rfl), trimPrefix_append]
      have h2 : trimPrefix (String.mk (List.takeWhile (· ≠ '-') ('v' :: cs))) "v" =
          String.mk (cs.takeWhile (· ≠ '-')) := by
        rw [List.takeWhile_cons_of_pos (by decide),
          show String.mk ('v' :: cs.takeWhile (· ≠ '-')) = "v" ++ String.mk (cs.takeWhile (· ≠ '-')) from rfl,
          trimPrefix_append]
      rw [numericPart, numericPart, h1, h2]
      simp [List.takeWhile_takeWhile]
    · have h1 : trimPrefix s "v" = s := trimPrefix_v_of_head (by rw [hs]; simpa using hv)
      have h2 : trimPrefix (String.mk ((c :: cs).takeWhile (· ≠ '-'))) "v" =
          String.mk ((c :: cs).takeWhile (· ≠ '-')) := by
        apply trimPrefix_v_of_head
        show ((c :: cs).takeWhile (· ≠ '-')).head? ≠ some 'v'
        rw [List.takeWhile_cons]
        split <;> simp [hv]
      rw [numericPart, numericPart, h1, h2, hs]
      simp [List.takeWhile_takeWhile]

theorem takeWhile_ne_append (c : Char) (w : List Char) : ∀ u : List Char,
    (u ++ c :: w).takeWhile (· ≠ c) = u.takeWhile (· ≠ c)
  | [] => by simp
  | d :: u => by rw [List.cons_append, List.takeWhile_cons, List.takeWhile_cons, takeWhile_ne_append c w u]

theorem parseVersion_triple_of_swap {a b : String} (h : a ++ "-" ++ b = b ++ "-" ++ a) :
    (parseVersion a).triple = (parseVersion b).triple := by
  have hpre := congrArg (fun s : String => s.toList.takeWhile (· ≠ '-')) h
  simp only [toList_append, show ("-" : String).toList = ['-'] from rfl, List.append_assoc,
    List.singleton_append, takeWhile_ne_append] at hpre
  rw [parseVersion_triple, parseVersion_triple, ← numericPart_takeWhile a, ← numericPart_takeWhile b, hpre]

/-- The versions the package's constructors build: `NewVersion` and
`NewVersionWithLabel` with non-negative `int` components, and
`ParseVersion` of any text. -/
inductive Version.Built : Version → Prop
  | new (major minor patch : Int) (hmajor : 0 ≤ major ∧ major < 9223372036854775808)
      (hminor : 0 ≤ minor ∧ minor < 9223372036854775808) (hpatch : 0 ≤ patch ∧ patch < 9223372036854775808) :
      Built (newVersion major minor patch)
  | newWithLabel (major minor patch : Int) (label : String)
      (hmajor : 0 ≤ major ∧ major < 9223372036854775808) (hminor : 0 ≤ minor ∧ minor < 9223372036854775808)
      (hpatch : 0 ≤ patch ∧ patch < 9223372036854775808) :
      Built (newVersionWithLabel major minor patch label)
  | parsed (s : String) : Built (parseVersion s)

/-- A built version's text reads back as its own numbers. -/
theorem Version.Built.triple_parseVersion_string {v : Version} (h : v.Built) :
    (parseVersion v.string).triple = v.triple := by
  have hlabel : ∀ (major minor patch : Int) (label : String), 0 ≤ major ∧ major < 9223372036854775808 →
      0 ≤ minor ∧ minor < 9223372036854775808 → 0 ≤ patch ∧ patch < 9223372036854775808 →
      (parseVersion (newVersionWithLabel major minor patch label).string).triple =
        (newVersionWithLabel major minor patch label).triple := by
    intro major minor patch label hmajor hminor hpatch
    obtain ⟨M, rfl⟩ := Int.eq_ofNat_of_zero_le hmajor.1
    obtain ⟨m, rfl⟩ := Int.eq_ofNat_of_zero_le hminor.1
    obtain ⟨p, rfl⟩ := Int.eq_ofNat_of_zero_le hpatch.1
    exact congrArg Version.triple (parseVersion_string_of_nat M m p (by omega) (by omega) (by omega) label)
  cases h with
  | new major minor patch hmajor hminor hpatch => exact hlabel major minor patch "" hmajor hminor hpatch
  | newWithLabel major minor patch label hmajor hminor hpatch =>
    exact hlabel major minor patch label hmajor hminor hpatch
  | parsed s =>
    by_cases hs : s = ""
    · subst hs; rfl
    · rw [Version.string_of_version (by rw [parseVersion_version hs]; exact hs), parseVersion_version hs]

end Gochoreo
