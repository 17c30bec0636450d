import Gochoreo.L1Value.Errors
import Mathlib.Data.List.Sort

/-!
# Version lists

The list helpers of `pkg/version/interfaces.go` (lines 245-413 and
478-531): sorting, latest and oldest, `FindClosestVersion`, the majors and
the per-major groups, and `GetVersionSummary`, which assembles them.

`sort.Sort` is not stable: among versions `Compare` calls equal (one
triple, spelt or labelled differently) the order it leaves is not part of
its contract. The helpers take the sort as a parameter (`GoSort`: any
procedure that returns a permutation in which no element is `Less` than an
earlier one, when `Less` is a strict weak order), and every result below
holds for all of them. `insertionGoSort` is one; pdqsort, behind
`sort.Sort`, itself sorts slices of up to 12 elements by insertion.

A `map[int]T` is an `IntMap T`, an association list in iteration order; a
result about a `range` loop over a map holds for every order of its entries.

**Results.**
* `sortVersions_spec`, `getLatestVersion_spec`, `getOldestVersion_spec`:
  the sorts return sorted permutations; the latest and oldest are a newest
  and an oldest input version.
* `findClosestVersion_spec`: `FindClosestVersion` returns the first exact
  match; failing that, a newest compatible version, which is newer than the
  target and not the closest to it; failing that, a newest version of any
  major.
* `getMajorVersions_spec`, `lookup_sortGroups`: for every iteration order,
  the majors are the distinct input majors in increasing order, and the
  group of each major holds exactly its versions, sorted.
* `getVersionSummary_spec`: the summary assembled from the above.
-/
namespace Gochoreo


/-! ## `sort.Sort` -/

/-- What `sort.Sort` promises: a permutation of its input in which no
element is `Less` than an earlier one, whenever `Less` is a strict weak
order. The order it leaves among equal elements is not part of the
promise (the sort is not stable). -/
structure GoSort where
  sort : (Version → Version → Bool) → List Version → List Version
  perm_sort : ∀ less l, (sort less l).Perm l
  sorted_sort : ∀ less l, IsStrictWeakOrder Version (fun a b => less a b = true) →
    (sort less l).Sorted (fun a b => less b a = false)

section StrictWeak

variable {α : Type} {less : α → α → Bool} [IsStrictWeakOrder α (fun a b => less a b = true)]

theorem total_not_less (a b : α) : less b a = false ∨ less a b = false := by
  cases h : less b a
  · exact .inl rfl
  · exact .inr (Bool.eq_false_iff.mpr (asymm_of (fun a b => less a b = true) h))

theorem trans_not_less {a b c : α} (hab : less b a = false) (hbc : less c b = false) :
    less c a = false := by
  rw [Bool.eq_false_iff] at hab hbc ⊢
  intro hca
  have hba : less a b ≠ true := fun h => hbc (trans_of (fun a b => less a b = true) hca h)
  have hcb : less b c ≠ true := fun h => hab (trans_of (fun a b => less a b = true) h hca)
  exact (@IsStrictWeakOrder.incomp_trans _ (fun a b => less a b = true) _ a b c ⟨hba, hab⟩ ⟨hcb, hbc⟩).2 hca

/-- Insertion sort meets the promise of `sort.Sort`. -/
def insertionGoSort : GoSort where
  sort less l := l.insertionSort fun a b => less b a = false
  perm_sort _ l := List.perm_insertionSort _ l
  sorted_sort less l _ :=
    haveI : IsTotal Version (fun a b => less b a = false) := ⟨total_not_less⟩
    haveI : IsTrans Version (fun a b => less b a = false) := ⟨fun _ _ _ => trans_not_less⟩
    List.sorted_insertionSort _ l

end StrictWeak

/-! ## Sorting versions -/

/-- mirrors src/pkg/version/interfaces.go:250 (`VersionSorter.Less`) -/
def VersionSorter.less (a b : Version) : Bool := decide (a.compare b < 0)

theorem VersionSorter.less_iff {a b : Version} : VersionSorter.less a b = true ↔ ¬b.compare a ≤ 0 := by
  rw [VersionSorter.less, decide_eq_true_iff, Version.compare_swap a b]; omega

theorem VersionSorter.less_eq_false {a b : Version} : VersionSorter.less b a = false ↔ a.compare b ≤ 0 := by
  rw [Bool.eq_false_iff, ne_eq, VersionSorter.less_iff, not_not]

theorem Version.compare_self (v : Version) : v.compare v = 0 := Version.compare_eq_zero.mpr rfl

theorem VersionSorter.less_strictWeakOrder : IsStrictWeakOrder Version (fun a b => VersionSorter.less a b = true) where
  irrefl a := by simp [VersionSorter.less_iff, Version.compare_self]
  trans a b c := by simp only [VersionSorter.less_iff, Version.compare_le_zero_iff]; omega
  incomp_trans a b c := by simp only [VersionSorter.less_iff, Version.compare_le_zero_iff]; omega

theorem VersionSorter.less_swap_strictWeakOrder :
    IsStrictWeakOrder Version (fun a b => VersionSorter.less b a = true) where
  irrefl a := by simp [VersionSorter.less_iff, Version.compare_self]
  trans a b c := by simp only [VersionSorter.less_iff, Version.compare_le_zero_iff]; omega
  incomp_trans a b c := by simp only [VersionSorter.less_iff, Version.compare_le_zero_iff]; omega

/-- mirrors src/pkg/version/interfaces.go:253-258 (`SortVersions`) -/
def sortVersions (s : GoSort) (versions : List Version) : List Version :=
  s.sort VersionSorter.less versions

/-- mirrors src/pkg/version/interfaces.go:261-266 (`SortVersionsDescending`):
`sort.Reverse` swaps the arguments of `Less`. -/
def sortVersionsDescending (s : GoSort) (versions : List Version) : List Version :=
  s.sort (fun a b => VersionSorter.less b a) versions

theorem sortVersions_spec (s : GoSort) (versions : List Version) :
    (sortVersions s versions).Perm versions ∧
      (sortVersions s versions).Sorted fun a b => a.compare b ≤ 0 :=
  ⟨s.perm_sort _ _, (s.sorted_sort _ _ VersionSorter.less_strictWeakOrder).imp VersionSorter.less_eq_false.mp⟩

theorem sortVersionsDescending_spec (s : GoSort) (versions : List Version) :
    (sortVersionsDescending s versions).Perm versions ∧
      (sortVersionsDescending s versions).Sorted fun a b => b.compare a ≤ 0 :=
  ⟨s.perm_sort _ _, (s.sorted_sort _ _ VersionSorter.less_swap_strictWeakOrder).imp VersionSorter.less_eq_false.mp⟩

/-- mirrors src/pkg/version/interfaces.go:269-277 (`FilterVersionsByMajor`) -/
def filterVersionsByMajor (versions : List Version) (major : Int) : List Version :=
  versions.filter (·.major = major)

/-- mirrors src/pkg/version/interfaces.go:280-288 (`FilterVersionsByRange`) -/
def filterVersionsByRange (versions : List Version) (vrange : VersionRange) : List Version :=
  versions.filter vrange.contains

/-- mirrors src/pkg/version/interfaces.go:370-372 (`IsNewerVersion`) -/
def isNewerVersion (v1 v2 : Version) : Bool := decide (v1.compare v2 > 0)

/-- mirrors src/pkg/version/interfaces.go:375-377 (`IsOlderVersion`) -/
def isOlderVersion (v1 v2 : Version) : Bool := decide (v1.compare v2 < 0)

/-- mirrors src/pkg/version/interfaces.go:380-382 (`IsSameVersion`) -/
def isSameVersion (v1 v2 : Version) : Bool := decide (v1.compare v2 = 0)

/-! ## Latest, oldest, closest -/

/-- `v` is one of `vs`, and none of `vs` is newer. -/
def IsLatestIn (vs : List Version) (v : Version) : Prop := v ∈ vs ∧ ∀ w ∈ vs, w.compare v ≤ 0

/-- `v` is one of `vs`, and none of `vs` is older. -/
def IsOldestIn (vs : List Version) (v : Version) : Prop := v ∈ vs ∧ ∀ w ∈ vs, v.compare w ≤ 0

/-- mirrors src/pkg/version/interfaces.go:291-298 (`GetLatestVersion`) -/
def getLatestVersion (s : GoSort) (versions : List Version) : Version :=
  if versions = [] then {} else (sortVersionsDescending s versions).headD {}

/-- mirrors src/pkg/version/interfaces.go:301-308 (`GetOldestVersion`) -/
def getOldestVersion (s : GoSort) (versions : List Version) : Version :=
  if versions = [] then {} else (sortVersions s versions).headD {}

theorem headD_of_sorted {r : Version → Version → Prop} {vs sorted : List Version} (hr : ∀ v, r v v)
    (hp : sorted.Perm vs) (hs : sorted.Sorted r) (hne : vs ≠ []) :
    sorted.headD {} ∈ vs ∧ ∀ w ∈ vs, r (sorted.headD {}) w := by
  cases sorted with
  | nil => exact absurd (List.perm_nil.mp hp.symm) hne
  | cons x rest =>
    refine ⟨hp.subset (List.mem_cons_self x rest), fun w hw => ?_⟩
    rcases List.mem_cons.mp (hp.symm.subset hw) with rfl | hw
    · exact hr _
    · exact List.rel_of_sorted_cons hs w hw

theorem getLatestVersion_spec (s : GoSort) {versions : List Version} (h : versions ≠ []) :
    IsLatestIn versions (getLatestVersion s versions) := by
  rw [getLatestVersion, if_neg h]
  obtain ⟨hp, hs⟩ := sortVersionsDescending_spec s versions
  exact headD_of_sorted (fun v => (Version.compare_self v).le) hp hs h

theorem getOldestVersion_spec (s : GoSort) {versions : List Version} (h : versions ≠ []) :
    IsOldestIn versions (getOldestVersion s versions) := by
  rw [getOldestVersion, if_neg h]
  obtain ⟨hp, hs⟩ := sortVersions_spec s versions
  exact headD_of_sorted (fun v => (Version.compare_self v).le) hp hs h

/-- mirrors src/pkg/version/interfaces.go:311-338 (`FindClosestVersion`) -/
def findClosestVersion (s : GoSort) (target : Version) (available : List Version) : Version :=
  if available = [] then {} else
  match available.find? (fun v => v.compare target = 0) with
  | some v => v
  | none =>
    let compatible := available.filter (·.isCompatible target)
    if compatible ≠ [] then getLatestVersion s compatible else getLatestVersion s available

theorem isCompatible_of_compare_eq_zero {v target : Version} (h : v.compare target = 0) :
    v.isCompatible target = true := by
  rw [Version.isCompatible_iff, h]
  exact ⟨congrArg Prod.fst (Version.compare_eq_zero.mp h), le_refl 0⟩

/-- `FindClosestVersion` returns the first version `Compare` calls equal to
the target; failing that, a newest version of the target's major that is
newer than the target, not the one closest to it; failing that, a newest
version of any major. -/
theorem findClosestVersion_spec (s : GoSort) (target : Version) {available : List Version}
    (h : available ≠ []) :
    (∀ v, available.find? (fun v => v.compare target = 0) = some v →
      findClosestVersion s target available = v) ∧
    ((∀ v ∈ available, v.compare target ≠ 0) → (∃ v ∈ available, v.isCompatible target = true) →
      IsLatestIn (available.filter (·.isCompatible target)) (findClosestVersion s target available) ∧
      (findClosestVersion s target available).major = target.major ∧
      0 < (findClosestVersion s target available).compare target) ∧
    ((∀ v ∈ available, v.isCompatible target = false) →
      IsLatestIn available (findClosestVersion s target available)) := by
  have hnone : (∀ v ∈ available, v.compare target ≠ 0) →
      findClosestVersion s target available =
        if available.filter (·.isCompatible target) ≠ [] then getLatestVersion s (available.filter (·.isCompatible target))
        else getLatestVersion s available := fun hne => by
    rw [findClosestVersion, if_neg h, List.find?_eq_none.mpr fun v hv => by simpa using hne v hv]
  refine ⟨fun v hv => by rw [findClosestVersion, if_neg h, hv], fun hne ⟨v, hv, hc⟩ => ?_, fun hinc => ?_⟩
  · have hf : available.filter (·.isCompatible target) ≠ [] :=
      List.ne_nil_of_mem (List.mem_filter.mpr ⟨hv, hc⟩)
    rw [hnone hne, if_pos hf]
    have hl := getLatestVersion_spec s hf
    obtain ⟨hmem, hcomp⟩ := List.mem_filter.mp hl.1
    obtain ⟨hmaj, hle⟩ := Version.isCompatible_iff.mp hcomp
    exact ⟨hl, hmaj, lt_of_le_of_ne hle (hne _ hmem).symm⟩
  · have hne : ∀ v ∈ available, v.compare target ≠ 0 := fun v hv h0 =>
      Bool.false_ne_true ((hinc v hv).symm.trans (isCompatible_of_compare_eq_zero h0))
    rw [hnone hne, if_neg (by simpa [List.filter_eq_nil_iff] using hinc)]
    exact getLatestVersion_spec s h

/-- Against a 1.1 target, of the compatible 1.2 and 1.5 the newer is
returned. -/
theorem findClosestVersion_newest :
    ([{ major := 1, minor := 2 }, { major := 1, minor := 5 }, { major := 2 }] : List Version) ≠ [] ∧
    findClosestVersion insertionGoSort { major := 1, minor := 1 }
      [{ major := 1, minor := 2 }, { major := 1, minor := 5 }, { major := 2 }] = { major := 1, minor := 5 } ∧
    0 < (findClosestVersion insertionGoSort { major := 1, minor := 1 }
      [{ major := 1, minor := 2 }, { major := 1, minor := 5 }, { major := 2 }]).compare { major := 1, minor := 1 } :=
  ⟨by decide, by decide, ((findClosestVersion_spec insertionGoSort { major := 1, minor := 1 } (by decide)).2.1
    (by decide) ⟨{ major := 1, minor := 2 }, by decide, by decide⟩).2.2⟩

/-! ## Majors and groups -/

/-- A Go `map[int]α`: an association list, its entries in iteration order. -/
abbrev IntMap (α : Type) := AList (fun _ : Int => α)

/-- The first loop of `GetMajorVersions`: `majorMap[v.Major] = true`. -/
def majorMapOf (versions : List Version) : IntMap Bool :=
  versions.foldl (fun m v => m.insert v.major true) ∅

/-- mirrors src/pkg/version/interfaces.go:385-398 (`GetMajorVersions`):
`range majorMap` visits the keys in entry order, and `sort.Ints` is an
insertion sort (on distinct keys every sort gives the same list). -/
def getMajorVersions (versions : List Version) : List Int :=
  (majorMapOf versions).keys.insertionSort (· ≤ ·)

theorem mem_foldl_insert_major (m : Int) :
    ∀ (versions : List Version) (acc : IntMap Bool),
      m ∈ versions.foldl (fun m v => m.insert v.major true) acc ↔ m ∈ acc ∨ ∃ v ∈ versions, v.major = m
  | [], acc => by simp
  | v :: vs, acc => by
    rw [List.foldl_cons, mem_foldl_insert_major m vs, AList.mem_insert]
    simp only [List.mem_cons, exists_eq_or_imp]
    tauto

theorem mem_majorMapOf (versions : List Version) (m : Int) :
    m ∈ majorMapOf versions ↔ ∃ v ∈ versions, v.major = m := by
  rw [majorMapOf, mem_foldl_insert_major]
  simp [AList.not_mem_empty]

/-- Whatever order `range majorMap` visits the keys in, `GetMajorVersions`
returns the distinct majors of the input, in strictly increasing order. -/
theorem getMajorVersions_spec (versions : List Version) (order : List Int)
    (h : order.Perm (majorMapOf versions).keys) :
    order.insertionSort (· ≤ ·) = getMajorVersions versions ∧
    (getMajorVersions versions).Sorted (· < ·) ∧
    ∀ m, m ∈ getMajorVersions versions ↔ ∃ v ∈ versions, v.major = m := by
  have hp := List.perm_insertionSort (· ≤ ·) (majorMapOf versions).keys
  refine ⟨List.eq_of_perm_of_sorted (((List.perm_insertionSort _ order).trans h).trans hp.symm)
      (List.sorted_insertionSort _ _) (List.sorted_insertionSort _ _),
    (List.sorted_insertionSort _ _).lt_of_le (hp.nodup_iff.mpr (AList.keys_nodup _)), fun m => ?_⟩
  rw [getMajorVersions, hp.mem_iff, ← AList.mem_keys, mem_majorMapOf]

/-- The first loop of `GroupVersionsByMajor`:
`groups[v.Major] = append(groups[v.Major], v)`. -/
def groupsOf (versions : List Version) : IntMap (List Version) :=
  versions.foldl (fun g v => g.insert v.major (((g.lookup v.major).getD []) ++ [v])) ∅

/-- The second loop of `GroupVersionsByMajor`, `groups[major] =
SortVersions(versionGroup)`, visiting the groups in the order `order`. -/
def sortGroups (s : GoSort) (groups : IntMap (List Version)) (order : List (Σ _ : Int, List Version)) :
    IntMap (List Version) :=
  order.foldl (fun g e => g.insert e.1 (sortVersions s e.2)) groups

/-- mirrors src/pkg/version/interfaces.go:401-413 (`GroupVersionsByMajor`):
`range groups` visits the groups in entry order. -/
def groupVersionsByMajor (s : GoSort) (versions : List Version) : IntMap (List Version) :=
  sortGroups s (groupsOf versions) (groupsOf versions).entries

theorem lookup_foldl_groups (m : Int) :
    ∀ (versions : List Version) (acc : IntMap (List Version)),
      (versions.foldl (fun g v => g.insert v.major (((g.lookup v.major).getD []) ++ [v])) acc).lookup m =
        if versions.filter (·.major = m) = [] then acc.lookup m
        else some ((acc.lookup m).getD [] ++ versions.filter (·.major = m))
  | [], acc => rfl
  | v :: vs, acc => by
    rw [List.foldl_cons, lookup_foldl_groups m vs]
    by_cases hv : v.major = m
    · subst hv
      simp only [AList.lookup_insert, List.filter_cons, decide_True, if_true, Option.getD_some]
      split <;> simp_all
    · simp only [AList.lookup_insert_ne (Ne.symm hv), List.filter_cons, hv, decide_False]
      rfl

theorem lookup_groupsOf (versions : List Version) (m : Int) :
    (groupsOf versions).lookup m =
      if versions.filter (·.major = m) = [] then none else some (versions.filter (·.major = m)) := by
  rw [groupsOf, lookup_foldl_groups]
  simp [AList.lookup_empty]

theorem lookup_foldl_insert {β γ : Type} (f : β → γ) (acc : IntMap γ) (m : Int)
    (es : List (Σ _ : Int, β)) :
    (es.foldl (fun g e => g.insert e.1 (f e.2)) acc).lookup m = ((es.reverse.dlookup m).map f).or (acc.lookup m) := by
  induction es using List.reverseRecOn with
  | nil => simp
  | append_singleton es e ih =>
    rw [List.foldl_append, List.foldl_cons, List.foldl_nil, List.reverse_append, List.reverse_singleton,
      List.singleton_append]
    by_cases he : m = e.1
    · subst he; rw [AList.lookup_insert, List.dlookup_cons_eq]; rfl
    · rw [AList.lookup_insert_ne he, List.dlookup_cons_ne _ _ he, ih]

theorem lookup_foldl_insert_perm {β γ : Type} (f : β → γ) (acc : IntMap γ) {src : IntMap β}
    {order : List (Σ _ : Int, β)} (h : order.Perm src.entries) (m : Int) :
    (order.foldl (fun g e => g.insert e.1 (f e.2)) acc).lookup m = ((src.lookup m).map f).or (acc.lookup m) := by
  have hr := (List.reverse_perm order).trans h
  rw [lookup_foldl_insert, List.perm_dlookup m ((List.perm_nodupKeys hr).mpr src.nodupKeys) src.nodupKeys hr]
  rfl

/-- Whatever order the second loop visits the groups in, the group of each
major is the input's versions of that major, sorted. -/
theorem lookup_sortGroups (s : GoSort) (versions : List Version) {order : List (Σ _ : Int, List Version)}
    (h : order.Perm (groupsOf versions).entries) (m : Int) :
    (sortGroups s (groupsOf versions) order).lookup m =
      if versions.filter (·.major = m) = [] then none else some (sortVersions s (versions.filter (·.major = m))) := by
  rw [sortGroups, lookup_foldl_insert_perm _ _ h, lookup_groupsOf]
  split <;> rfl

theorem lookup_groupVersionsByMajor (s : GoSort) (versions : List Version) (m : Int) :
    (groupVersionsByMajor s versions).lookup m =
      if versions.filter (·.major = m) = [] then none else some (sortVersions s (versions.filter (·.major = m))) :=
  lookup_sortGroups s versions (List.Perm.refl _) m

/-! ## `GetVersionSummary` -/

/-- mirrors src/pkg/version/interfaces.go:478-486 (`VersionSummary`); an
omitted (nil) list is `[]`. -/
structure VersionSummary where
  totalVersions : Int
  latestVersion : String := ""
  oldestVersion : String := ""
  majorVersions : List Int
  versionsByMajor : IntMap (List String)
  deprecatedVersions : List String := []
  betaVersions : List String := []

/-- The test of `GetVersionSummary`'s last loop: `beta` in the label or the
text, in any case. -/
def isBeta (v : Version) : Bool := contains (toLower v.label) "beta" || contains (toLower v.version) "beta"

/-- mirrors src/pkg/version/interfaces.go:489-531 (`GetVersionSummary`);
`range groups` visits the groups in entry order. -/
def getVersionSummary (s : GoSort) (versions deprecatedVersions : List Version) : VersionSummary :=
  if versions = [] then { totalVersions := 0, majorVersions := [], versionsByMajor := ∅ }
  else
    let groups := groupVersionsByMajor s versions
    { totalVersions := versions.length
      latestVersion := (getLatestVersion s versions).string
      oldestVersion := (getOldestVersion s versions).string
      majorVersions := getMajorVersions versions
      versionsByMajor := groups.entries.foldl (fun m e => m.insert e.1 (versionStringSlice e.2)) ∅
      deprecatedVersions := if deprecatedVersions ≠ [] then versionStringSlice deprecatedVersions else []
      betaVersions := versionStringSlice (versions.filter isBeta) }

/-- For every non-empty input and every sort: the summary counts the
versions, names a newest and an oldest one, lists the distinct majors in
increasing order, lists under each major exactly its versions in ascending
order, and lists the betas in input order. -/
theorem getVersionSummary_spec (s : GoSort) {versions : List Version} (deprecatedVersions : List Version)
    (h : versions ≠ []) :
    let summary := getVersionSummary s versions deprecatedVersions
    summary.totalVersions = versions.length ∧
    (∃ v, IsLatestIn versions v ∧ summary.latestVersion = v.string) ∧
    (∃ v, IsOldestIn versions v ∧ summary.oldestVersion = v.string) ∧
    summary.majorVersions.Sorted (· < ·) ∧
    (∀ m, m ∈ summary.majorVersions ↔ ∃ v ∈ versions, v.major = m) ∧
    (∀ m, summary.versionsByMajor.lookup m = if versions.filter (·.major = m) = [] then none
      else some (versionStringSlice (sortVersions s (versions.filter (·.major = m))))) ∧
    summary.betaVersions = versionStringSlice (versions.filter isBeta) := by
  obtain ⟨-, hsorted, hmem⟩ := getMajorVersions_spec versions _ (List.Perm.refl _)
  rw [getVersionSummary, if_neg h]
  refine ⟨rfl, ⟨_, getLatestVersion_spec s h, rfl⟩, ⟨_, getOldestVersion_spec s h, rfl⟩, hsorted, hmem,
    fun m => ?_, rfl⟩
  rw [lookup_foldl_insert_perm _ _ (List.Perm.refl _), lookup_groupVersionsByMajor, AList.lookup_empty]
  split <;> rfl

/-- Two majors, one beta. -/
theorem getVersionSummary_two_majors :
    ([{ major := 1, minor := 2, label := "beta" }, { major := 2 }] : List Version) ≠ [] ∧
    let versions : List Version := [{ major := 1, minor := 2, label := "beta" }, { major := 2 }]
    let summary := getVersionSummary insertionGoSort versions []
    summary.totalVersions = versions.length ∧
    (∃ v, IsLatestIn versions v ∧ summary.latestVersion = v.string) ∧
    (∃ v, IsOldestIn versions v ∧ summary.oldestVersion = v.string) ∧
    summary.majorVersions.Sorted (· < ·) ∧
    (∀ m, m ∈ summary.majorVersions ↔ ∃ v ∈ versions, v.major = m) ∧
    (∀ m, summary.versionsByMajor.lookup m = if versions.filter (·.major = m) = [] then none
      else some (versionStringSlice (sortVersions insertionGoSort (versions.filter (·.major = m))))) ∧
    summary.betaVersions = versionStringSlice (versions.filter isBeta) :=
  ⟨by decide, getVersionSummary_spec insertionGoSort [] (by decide)⟩

end Gochoreo
