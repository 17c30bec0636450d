import Gochoreo.L4Migrate.Migrator

/-!
# What the automatic strategy does to a map

`migrateMapData` (src/pkg/version/migration.go:236-276), the body of the
Automatic and Fallback strategies, on a `map[string]interface{}` with
distinct keys. The mapping loop is `mappingResult`, what it computes when no
mapping fails; the copy of unmapped keys is `copyUnmapped`. Both are read
through their lookups (`lookup_mappingResult`, `lookup_copyUnmapped`), and
every result below is assembled from those two lemmas.

**Results.**
* `automatic_map_migration`: when the strategy fails, which keys the output
  has, that unmapped keys keep their values, and that the output does not
  depend on the input's iteration order.
* `automatic_migration_target`: a mapped value survives at its target
  unless the target is also an unmapped input key, whose stale value the
  copy writes back.
* `renaming_round_trip`, `reversible_migration_round_trip`: the reverse
  `AddMigration` synthesizes undoes a renaming, provided the two directions
  have different keys (`migrationKey_swap_ne`);
  `reversible_migration_key_collision`: versions whose texts coincide share
  one key, and the reverse then replaces the forward migration.
* `migrate_struct_json_tag`: a struct is migrated as its JSON view when no
  tag has a comma or is `-`, and otherwise it is not.
-/
namespace Gochoreo

namespace Migrator

/-! ## The mapping loop -/

theorem transformValue_eq (value : Value) (transform : String) :
    transformValue value transform = .ok (if transform = "string" then .str (value.sprint true) else value) := by
  unfold transformValue
  split_ifs <;> simp_all
  split <;> rfl

/-- What the mapping loop writes for one mapping, when it writes: the
transformed source value, or else a non-nil default. -/
def mappedValue (inputMap : List (String × Value)) (mapping : FieldMapping) : Option Value :=
  match inputMap.lookup mapping.fromField with
  | some value => (transformValue value mapping.transform).toOption
  | none => if !mapping.defaultValue.isNil then some mapping.defaultValue else none

/-- The mapping loop of `migrateMapData` when no mapping fails. -/
def mappingResult (inputMap : List (String × Value)) (mappings : List FieldMapping)
    (resultMap : List (String × Value)) : List (String × Value) :=
  mappings.foldl (fun r mapping => match mappedValue inputMap mapping with
    | some w => dictSet mapping.toField w r
    | none => r) resultMap

theorem mappedValue_of_lookup_some {inputMap : List (String × Value)} {mapping : FieldMapping} {value : Value}
    (h : inputMap.lookup mapping.fromField = some value) :
    mappedValue inputMap mapping =
      some (if mapping.transform = "string" then .str (value.sprint true) else value) := by
  simp [mappedValue, h, transformValue_eq, Except.toOption]

theorem mappedValue_isSome (inputMap : List (String × Value)) (mapping : FieldMapping) :
    (mappedValue inputMap mapping).isSome ↔
      (inputMap.lookup mapping.fromField).isSome ∨ mapping.defaultValue.isNil = false := by
  rcases h : inputMap.lookup mapping.fromField with _ | value
  · cases hn : mapping.defaultValue.isNil <;> simp [mappedValue, h, hn]
  · simp [mappedValue_of_lookup_some h]

theorem mappedValue_plain (inputMap : List (String × Value)) {mapping : FieldMapping}
    (ht : mapping.transform = "") (hd : mapping.defaultValue.isNil = true) :
    mappedValue inputMap mapping = inputMap.lookup mapping.fromField := by
  rcases h : inputMap.lookup mapping.fromField with _ | value
  · simp [mappedValue, h, hd]
  · simp [mappedValue_of_lookup_some h, ht]

theorem mappingResult_cons (inputMap : List (String × Value)) (mapping : FieldMapping)
    (rest : List FieldMapping) (resultMap : List (String × Value)) :
    mappingResult inputMap (mapping :: rest) resultMap = mappingResult inputMap rest
      (match mappedValue inputMap mapping with
        | some w => dictSet mapping.toField w resultMap
        | none => resultMap) := rfl

section MappingLoop

variable (inputMap : List (String × Value))

theorem applyMappings_ok : ∀ (mappings : List FieldMapping) (resultMap : List (String × Value)),
    (∀ mapping ∈ mappings, ¬(inputMap.lookup mapping.fromField = none ∧
      mapping.defaultValue.isNil = true ∧ mapping.required = true)) →
    applyMappings inputMap mappings resultMap = .ok (mappingResult inputMap mappings resultMap)
  | [], _, _ => rfl
  | mapping :: rest, resultMap, h => by
    simp only [List.mem_cons, forall_eq_or_imp] at h
    rw [applyMappings, mappingResult_cons]
    rcases hl : inputMap.lookup mapping.fromField with _ | value
    · have hm : mappedValue inputMap mapping =
          if !mapping.defaultValue.isNil then some mapping.defaultValue else none := by
        simp [mappedValue, hl]
      simp only [hm]
      cases hn : mapping.defaultValue.isNil
      · exact applyMappings_ok rest _ h.2
      · simp only [hl, hn, true_and] at h
        simp only [Bool.not_true, Bool.false_eq_true, ↓reduceIte, h.1]
        exact applyMappings_ok rest _ h.2
    · simp only [transformValue_eq, mappedValue_of_lookup_some hl]
      exact applyMappings_ok rest _ h.2

theorem applyMappings_error : ∀ (mappings : List FieldMapping) (resultMap : List (String × Value)),
    (∃ mapping ∈ mappings, inputMap.lookup mapping.fromField = none ∧
      mapping.defaultValue.isNil = true ∧ mapping.required = true) →
    ∃ err, applyMappings inputMap mappings resultMap = .error err
  | [], _, ⟨_, h, _⟩ => absurd h (List.not_mem_nil _)
  | mapping :: rest, resultMap, ⟨m, hm, hmiss⟩ => by
    have ih := applyMappings_error rest
    simp only [applyMappings]
    rcases List.mem_cons.mp hm with rfl | hm
    · simp [hmiss]
    · rcases hl : inputMap.lookup mapping.fromField with _ | value
      · simp only
        split_ifs
        · exact ih _ ⟨m, hm, hmiss⟩
        · exact ⟨_, rfl⟩
        · exact ih _ ⟨m, hm, hmiss⟩
      · simp only [transformValue_eq]
        exact ih _ ⟨m, hm, hmiss⟩

theorem lookup_mappingResult_of_not_mem (k : String) : ∀ (mappings : List FieldMapping) (resultMap : List (String × Value)),
    (∀ mapping ∈ mappings, mapping.toField ≠ k) →
    (mappingResult inputMap mappings resultMap).lookup k = resultMap.lookup k
  | [], _, _ => rfl
  | mapping :: rest, resultMap, h => by
    simp only [List.mem_cons, forall_eq_or_imp] at h
    simp only [mappingResult, List.foldl_cons]
    rw [← mappingResult, lookup_mappingResult_of_not_mem k rest _ h.2]
    split <;> simp [Ne.symm h.1]

/-- With distinct targets, each target holds what its own mapping wrote,
or what it held before. -/
theorem lookup_mappingResult : ∀ (mappings : List FieldMapping) (resultMap : List (String × Value)),
    (mappings.map (·.toField)).Nodup → ∀ mapping ∈ mappings,
    (mappingResult inputMap mappings resultMap).lookup mapping.toField =
      (mappedValue inputMap mapping).or (resultMap.lookup mapping.toField)
  | [], _, _, _, h => absurd h (List.not_mem_nil _)
  | m :: rest, resultMap, hn, mapping, hm => by
    rw [List.map_cons, List.nodup_cons, List.mem_map] at hn
    rw [mappingResult_cons]
    rcases List.mem_cons.mp hm with rfl | hm
    · rw [lookup_mappingResult_of_not_mem _ _ rest _ fun m' hm' h => hn.1 ⟨m', hm', h⟩]
      split <;> simp_all
    · rw [lookup_mappingResult rest _ hn.2 mapping hm]
      have hne : mapping.toField ≠ m.toField := fun h => hn.1 ⟨mapping, hm, h⟩
      split <;> simp [hne]

theorem mem_keys_mappingResult (k : String) : ∀ (mappings : List FieldMapping) (resultMap : List (String × Value)),
    k ∈ (mappingResult inputMap mappings resultMap).map Prod.fst ↔
      k ∈ resultMap.map Prod.fst ∨ ∃ mapping ∈ mappings, mapping.toField = k ∧ (mappedValue inputMap mapping).isSome
  | [], _ => by simp [mappingResult]
  | m :: rest, resultMap => by
    rw [mappingResult_cons, mem_keys_mappingResult k rest, List.exists_mem_cons_iff]
    split
    · rename_i w hw
      rw [mem_keys_dictSet, hw]
      rw [Option.isSome_some]
      by_cases h : m.toField = k
      · subst h; exact iff_of_true (.inl (.inl rfl)) (.inr (.inl ⟨rfl, rfl⟩))
      · simp only [h, Ne.symm h, false_or, false_and]
    · rename_i hw
      simp only [hw, Option.isSome_none, Bool.false_eq_true, and_false, false_or]

theorem nodup_mappingResult : ∀ (mappings : List FieldMapping) (resultMap : List (String × Value)),
    (resultMap.map Prod.fst).Nodup → ((mappingResult inputMap mappings resultMap).map Prod.fst).Nodup
  | [], _, h => h
  | m :: rest, resultMap, h => by
    rw [mappingResult_cons]
    apply nodup_mappingResult rest
    split
    · exact nodup_dictSet _ _ _ h
    · exact h

end MappingLoop

/-! ## The copy of unmapped keys -/

/-- After the copy, an unmapped key holds its input value when it has one;
every other key holds what the mapping loop left. -/
theorem lookup_copyUnmapped (mappings : List FieldMapping) (k : String) :
    ∀ (inputMap resultMap : List (String × Value)), (inputMap.map Prod.fst).Nodup →
    (copyUnmapped mappings inputMap resultMap).lookup k =
      if mappings.any (·.fromField = k) then resultMap.lookup k else (inputMap.lookup k).or (resultMap.lookup k)
  | [], resultMap, _ => by simp [copyUnmapped]
  | (key, value) :: rest, resultMap, hn => by
    rw [List.map_cons, List.nodup_cons] at hn
    rw [copyUnmapped, lookup_copyUnmapped mappings k rest _ hn.2, lookup_cons_pair]
    by_cases hk : k = key
    · subst hk
      have hrest : rest.lookup k = none := (lookup_eq_none_iff k rest).mpr hn.1
      by_cases hm : mappings.any (·.fromField = k) <;> simp [hm, hrest]
    · have hr : (if mappings.any (·.fromField = key) then resultMap else dictSet key value resultMap).lookup k =
          resultMap.lookup k := by split <;> simp [hk]
      simp only [hr, hk, if_false]

theorem nodup_copyUnmapped (mappings : List FieldMapping) :
    ∀ (inputMap resultMap : List (String × Value)), (resultMap.map Prod.fst).Nodup →
    ((copyUnmapped mappings inputMap resultMap).map Prod.fst).Nodup
  | [], _, h => h
  | (key, value) :: rest, resultMap, h => by
    rw [copyUnmapped]
    apply nodup_copyUnmapped mappings rest
    split
    · exact h
    · exact nodup_dictSet _ _ _ h

/-! ## The automatic strategy on a map -/

theorem performAutomaticMigration_dict_ok (m : Migrator) (migration : VersionMigration)
    (x : List (String × Value))
    (h : ∀ mapping ∈ migration.fieldMappings, ¬(x.lookup mapping.fromField = none ∧
      mapping.defaultValue.isNil = true ∧ mapping.required = true)) :
    m.performAutomaticMigration migration (.dict x) =
      (.dict (copyUnmapped migration.fieldMappings x (mappingResult x migration.fieldMappings [])), none) := by
  simp [performAutomaticMigration, derefOnce, Value.isNil, migrateMapData, applyMappings_ok x _ _ h]

theorem performAutomaticMigration_dict_error (m : Migrator) (migration : VersionMigration)
    (x : List (String × Value))
    (h : ∃ mapping ∈ migration.fieldMappings, x.lookup mapping.fromField = none ∧
      mapping.defaultValue.isNil = true ∧ mapping.required = true) :
    (m.performAutomaticMigration migration (.dict x)).2.isSome := by
  obtain ⟨err, he⟩ := applyMappings_error x _ [] h
  simp [performAutomaticMigration, derefOnce, Value.isNil, migrateMapData, he]


/-- The keys after the copy: the unmapped input keys, and the target of
every mapping that writes. -/
theorem mem_keys_migrated (mappings : List FieldMapping) {x : List (String × Value)}
    (hx : (x.map Prod.fst).Nodup) (k : String) :
    k ∈ (copyUnmapped mappings x (mappingResult x mappings [])).map Prod.fst ↔
      (k ∈ x.map Prod.fst ∧ ∀ mapping ∈ mappings, mapping.fromField ≠ k) ∨
      ∃ mapping ∈ mappings, mapping.toField = k ∧
        (mapping.fromField ∈ x.map Prod.fst ∨ mapping.defaultValue.isNil = false) := by
  have hR : ((mappingResult x mappings []).lookup k).isSome ↔
      ∃ mapping ∈ mappings, mapping.toField = k ∧
        (mapping.fromField ∈ x.map Prod.fst ∨ mapping.defaultValue.isNil = false) := by
    rw [lookup_isSome_iff, mem_keys_mappingResult]
    simp only [List.map_nil, List.not_mem_nil, false_or, mappedValue_isSome, lookup_isSome_iff]
  rw [← lookup_isSome_iff, lookup_copyUnmapped _ _ _ _ hx]
  split
  · rename_i hm
    obtain ⟨mp, hmp, hk⟩ := List.any_eq_true.mp hm
    rw [hR]
    exact ⟨.inr, fun h => h.resolve_left fun h => h.2 mp hmp (of_decide_eq_true hk)⟩
  · rename_i hm
    simp only [List.any_eq_true, decide_eq_true_eq, not_exists, not_and] at hm
    rw [Option.isSome_or, Bool.or_eq_true, lookup_isSome_iff, hR]
    exact or_congr_left ⟨fun h => ⟨h, hm⟩, And.left⟩

theorem lookup_migrated_of_unmapped (mappings : List FieldMapping) {x : List (String × Value)}
    (hx : (x.map Prod.fst).Nodup) {k : String} (hk : k ∈ x.map Prod.fst)
    (hunm : ∀ mapping ∈ mappings, mapping.fromField ≠ k) :
    (copyUnmapped mappings x (mappingResult x mappings [])).lookup k = x.lookup k := by
  have hm : mappings.any (·.fromField = k) = false := by simpa using hunm
  obtain ⟨v, hv⟩ := Option.isSome_iff_exists.mp ((lookup_isSome_iff k x).mpr hk)
  simp [lookup_copyUnmapped _ _ _ _ hx, hm, hv]

theorem migrated_perm (mappings : List FieldMapping) {x x' : List (String × Value)}
    (hx : (x.map Prod.fst).Nodup) (hperm : x'.Perm x) :
    (copyUnmapped mappings x' (mappingResult x' mappings [])).Perm
      (copyUnmapped mappings x (mappingResult x mappings [])) := by
  have hx' : (x'.map Prod.fst).Nodup := (hperm.map Prod.fst).nodup_iff.mpr hx
  have hl : ∀ k, x'.lookup k = x.lookup k := lookup_eq_of_perm hperm hx'
  have hmr : mappingResult x' mappings [] = mappingResult x mappings [] := by
    simp only [mappingResult, mappedValue, hl]
  have hnil : (([] : List (String × Value)).map Prod.fst).Nodup := List.nodup_nil
  refine perm_of_lookup_eq (nodup_copyUnmapped _ _ _ (nodup_mappingResult _ _ _ hnil))
    (nodup_copyUnmapped _ _ _ (nodup_mappingResult _ _ _ hnil)) fun k => ?_
  rw [lookup_copyUnmapped _ _ _ _ hx', lookup_copyUnmapped _ _ _ _ hx, hmr, hl]

/-- The automatic strategy (and the fallback, which is the same code) on a
map with distinct keys: it fails exactly when some mapping's source field
is absent, its default is nil and it is required. When it succeeds, the
output holds the unmapped input keys, with their input values, and the
target of every mapping whose source is present or whose default is not
nil; and it is the same map for every iteration order of the input. -/
theorem automatic_map_migration (m : Migrator) (migration : VersionMigration) (x : List (String × Value))
    (hx : (x.map Prod.fst).Nodup) :
    m.performFallbackMigration migration (.dict x) = m.performAutomaticMigration migration (.dict x) ∧
    ((m.performAutomaticMigration migration (.dict x)).2.isSome ↔
      ∃ mapping ∈ migration.fieldMappings, mapping.fromField ∉ x.map Prod.fst ∧
        mapping.defaultValue.isNil = true ∧ mapping.required = true) ∧
    ((m.performAutomaticMigration migration (.dict x)).2 = none →
      ∃ y, m.performAutomaticMigration migration (.dict x) = (.dict y, none) ∧
        (∀ k, k ∈ y.map Prod.fst ↔
          (k ∈ x.map Prod.fst ∧ ∀ mapping ∈ migration.fieldMappings, mapping.fromField ≠ k) ∨
          ∃ mapping ∈ migration.fieldMappings, mapping.toField = k ∧
            (mapping.fromField ∈ x.map Prod.fst ∨ mapping.defaultValue.isNil = false)) ∧
        (∀ k ∈ x.map Prod.fst, (∀ mapping ∈ migration.fieldMappings, mapping.fromField ≠ k) →
          y.lookup k = x.lookup k) ∧
        ∀ x' : List (String × Value), x'.Perm x →
          ∃ y', m.performAutomaticMigration migration (.dict x') = (.dict y', none) ∧ y'.Perm y) := by
  simp only [← lookup_eq_none_iff]
  by_cases hfail : ∃ mapping ∈ migration.fieldMappings, x.lookup mapping.fromField = none ∧
      mapping.defaultValue.isNil = true ∧ mapping.required = true
  · have he := performAutomaticMigration_dict_error m migration x hfail
    exact ⟨rfl, iff_of_true he hfail, fun h => by simp [h] at he⟩
  · have hok := performAutomaticMigration_dict_ok m migration x fun mp hmp h => hfail ⟨mp, hmp, h⟩
    refine ⟨rfl, iff_of_false (by rw [hok]; simp) hfail, fun _ => ⟨_, hok, mem_keys_migrated _ hx,
      fun k hk hunm => lookup_migrated_of_unmapped _ hx hk hunm, fun x' hperm => ⟨_, ?_, migrated_perm _ hx hperm⟩⟩⟩
    exact performAutomaticMigration_dict_ok m migration x' fun mp hmp h =>
      hfail ⟨mp, hmp, lookup_eq_of_perm hperm ((hperm.map Prod.fst).nodup_iff.mpr hx) _ ▸ h⟩

/-- Renaming `name` to `fullName` on a map that also has an unmapped `age`. -/
theorem automatic_map_migration_users :
    ∃ (migration : VersionMigration) (x : List (String × Value)),
      migration = automaticMigration (newVersion 1 0 0) (newVersion 2 0 0) [⟨"name", "fullName", "", .nil, true⟩] false ∧
      x = [("name", .str "Ann"), ("age", .scalar "30")] ∧ (x.map Prod.fst).Nodup ∧
      (newMigrator "users").performFallbackMigration migration (.dict x) =
        (newMigrator "users").performAutomaticMigration migration (.dict x) ∧
      (((newMigrator "users").performAutomaticMigration migration (.dict x)).2.isSome ↔
        ∃ mapping ∈ migration.fieldMappings, mapping.fromField ∉ x.map Prod.fst ∧
          mapping.defaultValue.isNil = true ∧ mapping.required = true) ∧
      (((newMigrator "users").performAutomaticMigration migration (.dict x)).2 = none →
        ∃ y, (newMigrator "users").performAutomaticMigration migration (.dict x) = (.dict y, none) ∧
          (∀ k, k ∈ y.map Prod.fst ↔
            (k ∈ x.map Prod.fst ∧ ∀ mapping ∈ migration.fieldMappings, mapping.fromField ≠ k) ∨
            ∃ mapping ∈ migration.fieldMappings, mapping.toField = k ∧
              (mapping.fromField ∈ x.map Prod.fst ∨ mapping.defaultValue.isNil = false)) ∧
          (∀ k ∈ x.map Prod.fst, (∀ mapping ∈ migration.fieldMappings, mapping.fromField ≠ k) →
            y.lookup k = x.lookup k) ∧
          ∀ x' : List (String × Value), x'.Perm x →
            ∃ y', (newMigrator "users").performAutomaticMigration migration (.dict x') = (.dict y', none) ∧
              y'.Perm y) :=
  ⟨_, _, rfl, rfl, by decide, automatic_map_migration (newMigrator "users") _ _ (by decide)⟩

/-- With distinct targets, a mapping whose source is present leaves its
transformed value at its target, unless the target is itself an unmapped
key of the input: the copy of unmapped keys runs after the mapping loop and
puts the input's value back. -/
theorem automatic_migration_target (m : Migrator) (migration : VersionMigration) (x : List (String × Value))
    (hx : (x.map Prod.fst).Nodup) (hto : (migration.fieldMappings.map (·.toField)).Nodup)
    (y : List (String × Value)) (hy : m.performAutomaticMigration migration (.dict x) = (.dict y, none))
    (mapping : FieldMapping) (hm : mapping ∈ migration.fieldMappings) (value : Value)
    (hv : x.lookup mapping.fromField = some value) :
    y.lookup mapping.toField =
      if mapping.toField ∈ x.map Prod.fst ∧ ∀ mp ∈ migration.fieldMappings, mp.fromField ≠ mapping.toField
      then x.lookup mapping.toField else (transformValue value mapping.transform).toOption := by
  have hfail : ¬∃ mp ∈ migration.fieldMappings, x.lookup mp.fromField = none ∧
      mp.defaultValue.isNil = true ∧ mp.required = true := fun h => by
    simpa [hy] using performAutomaticMigration_dict_error m migration x h
  rw [performAutomaticMigration_dict_ok m migration x fun mp hmp h => hfail ⟨mp, hmp, h⟩] at hy
  have hw : (mappingResult x migration.fieldMappings []).lookup mapping.toField =
      (transformValue value mapping.transform).toOption := by
    rw [lookup_mappingResult x _ _ hto mapping hm, mappedValue, hv, List.lookup_nil, Option.or_none]
  simp only [Prod.mk.injEq, Value.dict.injEq, and_true] at hy
  rw [← hy, lookup_copyUnmapped _ _ _ _ hx, hw]
  by_cases hmapped : migration.fieldMappings.any (·.fromField = mapping.toField)
  · obtain ⟨mp, hmp, he⟩ := List.any_eq_true.mp hmapped
    rw [if_pos hmapped, if_neg fun h => h.2 mp hmp (of_decide_eq_true he)]
  · have hunm : ∀ mp ∈ migration.fieldMappings, mp.fromField ≠ mapping.toField := by simpa using hmapped
    rw [if_neg hmapped]
    by_cases hk : mapping.toField ∈ x.map Prod.fst
    · obtain ⟨v, hv'⟩ := Option.isSome_iff_exists.mp ((lookup_isSome_iff _ x).mpr hk)
      rw [if_pos ⟨hk, hunm⟩, hv']
      rfl
    · rw [if_neg fun h => hk h.1, (lookup_eq_none_iff _ x).mpr hk, Option.none_or]

/-- `name` is renamed to `fullName`, but the input also carries a stale
`fullName`: the output keeps the stale value. -/
theorem automatic_migration_target_stale :
    (([("name", Value.str "Ann"), ("fullName", .str "old")] : List (String × Value)).map Prod.fst).Nodup ∧
    ([FieldMapping.mk "name" "fullName" "" .nil false].map (·.toField)).Nodup ∧
    (newMigrator "users").performAutomaticMigration
        (automaticMigration (newVersion 1 0 0) (newVersion 2 0 0) [⟨"name", "fullName", "", .nil, false⟩] false)
        (.dict [("name", .str "Ann"), ("fullName", .str "old")]) = (.dict [("fullName", .str "old")], none) ∧
    FieldMapping.mk "name" "fullName" "" .nil false ∈ [FieldMapping.mk "name" "fullName" "" .nil false] ∧
    ([("name", Value.str "Ann"), ("fullName", .str "old")] : List (String × Value)).lookup "name" = some (.str "Ann") ∧
    ([("fullName", Value.str "old")] : List (String × Value)).lookup "fullName" =
      if "fullName" ∈ ([("name", Value.str "Ann"), ("fullName", .str "old")] : List (String × Value)).map Prod.fst ∧
        ∀ mp ∈ [FieldMapping.mk "name" "fullName" "" .nil false], mp.fromField ≠ "fullName"
      then ([("name", Value.str "Ann"), ("fullName", .str "old")] : List (String × Value)).lookup "fullName"
      else (transformValue (.str "Ann") "").toOption :=
  ⟨by decide, by decide, rfl, List.mem_singleton_self _, rfl,
    automatic_migration_target (newMigrator "users")
      (automaticMigration (newVersion 1 0 0) (newVersion 2 0 0) [⟨"name", "fullName", "", .nil, false⟩] false)
      [("name", .str "Ann"), ("fullName", .str "old")] (by decide) (by decide) [("fullName", .str "old")] rfl
      _ (List.mem_singleton_self _) _ rfl⟩


/-! ## Renaming and its reverse -/

theorem any_fromField_eq (mappings : List FieldMapping) (k : String) :
    mappings.any (·.fromField = k) = true ↔ ∃ mapping ∈ mappings, mapping.fromField = k := by
  simp

theorem lookup_migrated_of_not_target (mappings : List FieldMapping) {x : List (String × Value)}
    (hx : (x.map Prod.fst).Nodup) {k : String} (hk : ∀ mapping ∈ mappings, mapping.toField ≠ k) :
    (copyUnmapped mappings x (mappingResult x mappings [])).lookup k =
      if mappings.any (·.fromField = k) then none else x.lookup k := by
  rw [lookup_copyUnmapped _ _ _ _ hx, lookup_mappingResult_of_not_mem _ _ _ _ hk, List.lookup_nil, Option.or_none]

/-- A renaming mapping (no transform, nil default, distinct targets) puts
its source's value at its target, when no input key is a target without
also being a source. -/
theorem lookup_migrated_target {mappings : List FieldMapping} (hto : (mappings.map (·.toField)).Nodup)
    (htrans : ∀ mapping ∈ mappings, mapping.transform = "")
    (hdef : ∀ mapping ∈ mappings, mapping.defaultValue.isNil = true)
    {x : List (String × Value)} (hx : (x.map Prod.fst).Nodup)
    (ha : ∀ k ∈ x.map Prod.fst, (∃ mapping ∈ mappings, mapping.toField = k) →
      ∃ mapping ∈ mappings, mapping.fromField = k)
    {mapping : FieldMapping} (hm : mapping ∈ mappings) :
    (copyUnmapped mappings x (mappingResult x mappings [])).lookup mapping.toField = x.lookup mapping.fromField := by
  rw [lookup_copyUnmapped _ _ _ _ hx, lookup_mappingResult x _ _ hto mapping hm,
    mappedValue_plain x (htrans mapping hm) (hdef mapping hm), List.lookup_nil, Option.or_none]
  split
  · rfl
  · rename_i hunm
    have : x.lookup mapping.toField = none := (lookup_eq_none_iff _ x).mpr fun hk =>
      hunm ((any_fromField_eq _ _).mpr (ha _ hk ⟨mapping, hm, rfl⟩))
    rw [this, Option.none_or]

theorem reverseFieldMappings_map_toField (mappings : List FieldMapping) :
    (reverseFieldMappings mappings).map (·.toField) = mappings.map (·.fromField) := by
  simp [reverseFieldMappings]

theorem mem_reverseFieldMappings {mappings : List FieldMapping} {mp' : FieldMapping} :
    mp' ∈ reverseFieldMappings mappings ↔
      ∃ mp ∈ mappings, mp' = FieldMapping.mk mp.toField mp.fromField "" .nil mp.required := by
  simp [reverseFieldMappings, reverseTransform, eq_comm]

/-- The reverse of a renaming undoes it: on every map input that satisfies
the condition on targets and on which the forward migration succeeds, the
reverse migration (of any migrator) succeeds and gives the input back. -/
theorem renaming_round_trip (m m' : Migrator) (migration : VersionMigration)
    (hfrom : (migration.fieldMappings.map (·.fromField)).Nodup)
    (hto : (migration.fieldMappings.map (·.toField)).Nodup)
    (htrans : ∀ mapping ∈ migration.fieldMappings, mapping.transform = "")
    (hdef : ∀ mapping ∈ migration.fieldMappings, mapping.defaultValue.isNil = true)
    (x : List (String × Value)) (hx : (x.map Prod.fst).Nodup)
    (ha : ∀ k ∈ x.map Prod.fst, (∃ mapping ∈ migration.fieldMappings, mapping.toField = k) →
      ∃ mapping ∈ migration.fieldMappings, mapping.fromField = k)
    (y : Value) (hy : m.performAutomaticMigration migration (.dict x) = (y, none)) :
    ∃ z, m'.performAutomaticMigration (reverseMigration migration) y = (.dict z, none) ∧ z.Perm x := by
  set F := migration.fieldMappings
  have hfail : ¬∃ mp ∈ F, x.lookup mp.fromField = none ∧ mp.defaultValue.isNil = true ∧ mp.required = true :=
    fun h => by simpa [hy] using performAutomaticMigration_dict_error m migration x h
  rw [performAutomaticMigration_dict_ok m migration x fun mp hmp h => hfail ⟨mp, hmp, h⟩] at hy
  obtain ⟨rfl, -⟩ := Prod.mk.inj hy
  set yl := copyUnmapped F x (mappingResult x F [])
  have hnil : (([] : List (String × Value)).map Prod.fst).Nodup := List.nodup_nil
  have hyl : (yl.map Prod.fst).Nodup := nodup_copyUnmapped _ _ _ (nodup_mappingResult _ _ _ hnil)
  have hF1 : ∀ mp ∈ F, yl.lookup mp.toField = x.lookup mp.fromField := fun mp hmp =>
    lookup_migrated_target hto htrans hdef hx ha hmp
  -- the reverse mappings satisfy the same conditions on `yl`
  have hmem : ∀ mp' ∈ reverseFieldMappings F, ∃ mp ∈ F,
      mp' = FieldMapping.mk mp.toField mp.fromField "" .nil mp.required := fun _ => mem_reverseFieldMappings.mp
  have hrev : ∀ mp ∈ F, FieldMapping.mk mp.toField mp.fromField "" .nil mp.required ∈ reverseFieldMappings F :=
    fun mp hmp => mem_reverseFieldMappings.mpr ⟨mp, hmp, rfl⟩
  have hto' := reverseFieldMappings_map_toField F ▸ hfrom
  have htrans' : ∀ mp' ∈ reverseFieldMappings F, mp'.transform = "" := fun mp' h => by
    obtain ⟨mp, -, rfl⟩ := hmem mp' h; rfl
  have hdef' : ∀ mp' ∈ reverseFieldMappings F, mp'.defaultValue.isNil = true := fun mp' h => by
    obtain ⟨mp, -, rfl⟩ := hmem mp' h; rfl
  have hF2 : ∀ k, (∀ mp ∈ F, mp.toField ≠ k) → yl.lookup k = if F.any (·.fromField = k) then none else x.lookup k :=
    fun k hk => lookup_migrated_of_not_target F hx hk
  have ha' : ∀ k ∈ yl.map Prod.fst, (∃ mp' ∈ reverseFieldMappings F, mp'.toField = k) →
      ∃ mp' ∈ reverseFieldMappings F, mp'.fromField = k := by
    rintro k hk ⟨mp', hmp', rfl⟩
    obtain ⟨mp, hmp, rfl⟩ := hmem mp' hmp'
    by_contra hne
    have hk' : ∀ mp2 ∈ F, mp2.toField ≠ mp.fromField := fun mp2 hmp2 h => hne ⟨_, hrev mp2 hmp2, h⟩
    rw [← lookup_isSome_iff, hF2 _ hk', if_pos ((any_fromField_eq _ _).mpr ⟨mp, hmp, rfl⟩)] at hk
    exact Bool.false_ne_true hk
  have hfail' : ∀ mp' ∈ (reverseMigration migration).fieldMappings, ¬(yl.lookup mp'.fromField = none ∧
      mp'.defaultValue.isNil = true ∧ mp'.required = true) := by
    rintro mp' hmp' ⟨h1, -, h3⟩
    obtain ⟨mp, hmp, rfl⟩ := hmem mp' hmp'
    exact hfail ⟨mp, hmp, (hF1 mp hmp).symm.trans h1, hdef mp hmp, h3⟩
  refine ⟨_, performAutomaticMigration_dict_ok m' _ yl hfail', perm_of_lookup_eq
    (nodup_copyUnmapped _ _ _ (nodup_mappingResult _ _ _ hnil)) hx fun k => ?_⟩
  show (copyUnmapped (reverseFieldMappings F) yl (mappingResult yl (reverseFieldMappings F) [])).lookup k = _
  by_cases hsrc : ∃ mp ∈ F, mp.fromField = k
  · obtain ⟨mp, hmp, rfl⟩ := hsrc
    exact (lookup_migrated_target hto' htrans' hdef' hyl ha' (hrev mp hmp)).trans (hF1 mp hmp)
  · have hk : ∀ mp' ∈ reverseFieldMappings F, mp'.toField ≠ k := fun mp' hmp' h => by
      obtain ⟨mp, hmp, rfl⟩ := hmem mp' hmp'
      exact hsrc ⟨mp, hmp, h⟩
    rw [lookup_migrated_of_not_target _ hyl hk]
    split
    · rename_i htgt
      obtain ⟨mp', hmp', he⟩ := (any_fromField_eq _ _).mp htgt
      obtain ⟨mp, hmp, rfl⟩ := hmem mp' hmp'
      exact ((lookup_eq_none_iff _ x).mpr fun hkx => hsrc (ha k hkx ⟨mp, hmp, he⟩)).symm
    · rename_i htgt
      have hk2 : ∀ mp ∈ F, mp.toField ≠ k := fun mp hmp h => htgt ((any_fromField_eq _ _).mpr ⟨_, hrev mp hmp, h⟩)
      rw [hF2 k hk2, if_neg fun h => hsrc ((any_fromField_eq _ _).mp h)]


/-- For built versions that `Compare` calls different, the two directions
have different keys. -/
theorem migrationKey_swap_ne {v w : Version} (hv : v.Built) (hw : w.Built) (h : v.compare w ≠ 0) :
    migrationKey v w ≠ migrationKey w v := fun heq => by
  have := parseVersion_triple_of_swap heq
  rw [hv.triple_parseVersion_string, hw.triple_parseVersion_string] at this
  exact h (Version.compare_eq_zero.mpr this)

theorem lookup_addMigration_reversible (m : Migrator) (migration : VersionMigration)
    (hrev : migration.reversible = true) (hne : migration.key ≠ (reverseMigration migration).key) :
    (m.addMigration (some migration)).2.migrations.lookup migration.key = some migration ∧
    (m.addMigration (some migration)).2.migrations.lookup (reverseMigration migration).key =
      some (reverseMigration migration) := by
  simp only [addMigration, hrev, if_true]
  exact ⟨by rw [AList.lookup_insert_ne hne, AList.lookup_insert], AList.lookup_insert _⟩

theorem runMigration_automatic (m : Migrator) {migration : VersionMigration}
    (h : migration.strategy = MigrationStrategy.automatic ∨ migration.strategy = MigrationStrategy.fallback)
    (fromVersion toVersion : Version) (input : Value) :
    m.runMigration migration fromVersion toVersion input = m.performAutomaticMigration migration input := by
  have hne : MigrationStrategy.automatic ≠ .none ∧ MigrationStrategy.automatic ≠ .custom ∧
      MigrationStrategy.fallback ≠ .none ∧ MigrationStrategy.fallback ≠ .custom ∧
      MigrationStrategy.fallback ≠ .automatic := by decide
  rcases h with h | h <;> simp [runMigration, h, performFallbackMigration, hne]

/-- A reversible renaming migration, added to any migrator, is undone by
the reverse `AddMigration` synthesizes: for versions built by `NewVersion`
or `NewVersionWithLabel` from non-negative numbers, or by `ParseVersion`,
that `Compare` calls different, every map input that satisfies the
condition on targets and that `Migrate` takes forward without error comes
back from `Migrate` in the other direction as the same map. -/
theorem reversible_migration_round_trip (m : Migrator) (migration : VersionMigration)
    (hrev : migration.reversible = true)
    (hstrat : migration.strategy = MigrationStrategy.automatic ∨ migration.strategy = MigrationStrategy.fallback)
    (hfromV : migration.fromVersion.Built) (htoV : migration.toVersion.Built)
    (hcmp : migration.fromVersion.compare migration.toVersion ≠ 0)
    (hfrom : (migration.fieldMappings.map (·.fromField)).Nodup)
    (hto : (migration.fieldMappings.map (·.toField)).Nodup)
    (htrans : ∀ mapping ∈ migration.fieldMappings, mapping.transform = "")
    (hdef : ∀ mapping ∈ migration.fieldMappings, mapping.defaultValue.isNil = true)
    (x : List (String × Value)) (hx : (x.map Prod.fst).Nodup)
    (ha : ∀ k ∈ x.map Prod.fst, (∃ mapping ∈ migration.fieldMappings, mapping.toField = k) →
      ∃ mapping ∈ migration.fieldMappings, mapping.fromField = k)
    (y : Value)
    (hy : (m.addMigration (some migration)).2.migrate migration.fromVersion migration.toVersion (.dict x) =
      (y, none)) :
    ∃ z, (m.addMigration (some migration)).2.migrate migration.toVersion migration.fromVersion y = (.dict z, none) ∧
      z.Perm x := by
  have hcmp' : migration.toVersion.compare migration.fromVersion ≠ 0 := by
    rwa [Ne, Version.compare_eq_zero, eq_comm, ← Version.compare_eq_zero]
  obtain ⟨hl, hl'⟩ := lookup_addMigration_reversible m migration hrev
    (migrationKey_swap_ne hfromV htoV hcmp)
  replace hl : (m.addMigration (some migration)).2.migrations.lookup
      (migrationKey migration.fromVersion migration.toVersion) = some migration := hl
  replace hl' : (m.addMigration (some migration)).2.migrations.lookup
      (migrationKey migration.toVersion migration.fromVersion) = some (reverseMigration migration) := hl'
  have hstrat' : (reverseMigration migration).strategy = MigrationStrategy.automatic ∨
      (reverseMigration migration).strategy = MigrationStrategy.fallback := hstrat
  simp only [migrate, if_neg hcmp, hl,
    runMigration_automatic _ hstrat] at hy
  simp only [migrate, if_neg hcmp', hl',
    runMigration_automatic _ hstrat']
  exact renaming_round_trip _ _ migration hfrom hto htrans hdef x hx ha y hy


/-- Renaming `name` to `fullName` between 1.0.0 and 2.0.0, reversibly. -/
theorem reversible_migration_round_trip_users :
    ∃ (migration : VersionMigration) (x : List (String × Value)) (y : Value),
      migration = automaticMigration (newVersion 1 0 0) (newVersion 2 0 0) [⟨"name", "fullName", "", .nil, false⟩] true ∧
      x = [("name", .str "Ann")] ∧ migration.reversible = true ∧
      (migration.strategy = MigrationStrategy.automatic ∨ migration.strategy = MigrationStrategy.fallback) ∧
      migration.fromVersion.Built ∧ migration.toVersion.Built ∧ migration.fromVersion.compare migration.toVersion ≠ 0 ∧
      (migration.fieldMappings.map (·.fromField)).Nodup ∧ (migration.fieldMappings.map (·.toField)).Nodup ∧
      (∀ mapping ∈ migration.fieldMappings, mapping.transform = "") ∧
      (∀ mapping ∈ migration.fieldMappings, mapping.defaultValue.isNil = true) ∧ (x.map Prod.fst).Nodup ∧
      (∀ k ∈ x.map Prod.fst, (∃ mapping ∈ migration.fieldMappings, mapping.toField = k) →
        ∃ mapping ∈ migration.fieldMappings, mapping.fromField = k) ∧
      ((newMigrator "users").addMigration (some migration)).2.migrate migration.fromVersion migration.toVersion
        (.dict x) = (y, none) ∧
      ∃ z, ((newMigrator "users").addMigration (some migration)).2.migrate migration.toVersion migration.fromVersion y =
        (.dict z, none) ∧ z.Perm x :=
  ⟨_, _, _, rfl, rfl, rfl, .inl rfl, .new 1 0 0 (by decide) (by decide) (by decide),
    .new 2 0 0 (by decide) (by decide) (by decide), by decide, by decide, by decide, by decide, by decide, by decide,
    by decide, rfl,
    reversible_migration_round_trip (newMigrator "users") _ rfl (.inl rfl) (.new 1 0 0 (by decide) (by decide) (by decide))
      (.new 2 0 0 (by decide) (by decide) (by decide)) (by decide) (by decide) (by decide) (by decide) (by decide)
      _ (by decide) (by decide) _ rfl⟩

/-- `NewVersion(-1, 0, 0)` and `ParseVersion("v-1.0.0")` print the same
text, so both directions share one key and the synthesized reverse replaces
the forward migration: with `a → b, b → c`, `{b: 2}` goes to `{a: 2}` and
comes back as `{a: 2}`. -/
theorem reversible_migration_key_collision :
    (newVersion (-1) 0 0).compare (parseVersion "v-1.0.0") ≠ 0 ∧
    migrationKey (newVersion (-1) 0 0) (parseVersion "v-1.0.0") =
      migrationKey (parseVersion "v-1.0.0") (newVersion (-1) 0 0) ∧
    ((newMigrator "users").addAutomaticMigration (newVersion (-1) 0 0) (parseVersion "v-1.0.0")
        [⟨"a", "b", "", .nil, false⟩, ⟨"b", "c", "", .nil, false⟩] true).2.migrate
      (newVersion (-1) 0 0) (parseVersion "v-1.0.0") (.dict [("b", .scalar "2")]) = (.dict [("a", .scalar "2")], none) ∧
    ((newMigrator "users").addAutomaticMigration (newVersion (-1) 0 0) (parseVersion "v-1.0.0")
        [⟨"a", "b", "", .nil, false⟩, ⟨"b", "c", "", .nil, false⟩] true).2.migrate
      (parseVersion "v-1.0.0") (newVersion (-1) 0 0) (.dict [("a", .scalar "2")]) = (.dict [("a", .scalar "2")], none) :=
  ⟨by decide, by decide, rfl, rfl⟩


/-! ## Structs against their JSON view -/

/-- The external name the spec gives a field: the part of its `json` tag
before the first comma, or its Go name when that part is empty. -/
def jsonName (name tag : String) : String :=
  if (splitN2 tag ',').getD 0 "" = "" then name else (splitN2 tag ',').getD 0 ""

/-- The spec's map view of a struct: every exported field not tagged `-`,
under its external name. -/
def jsonFieldsToMap : List Field → List (String × Value) → List (String × Value)
  | [], result => result
  | .mk name tag exported value :: fs, result =>
    jsonFieldsToMap fs (if exported ∧ tag ≠ "-" then dictSet (jsonName name tag) value result else result)

theorem jsonName_of_plain {name tag : String} (h : ',' ∉ tag.toList) :
    jsonName name tag = if tag ≠ "" then tag else name := by
  have : (splitN2 tag ',').getD 0 "" = tag := by
    rw [splitN2_getD_zero, List.takeWhile_eq_self_iff.mpr fun c hc => by
      simpa using fun e : c = ',' => h (e ▸ hc)]
    rfl
  rw [jsonName, this]
  by_cases ht : tag = "" <;> simp [ht]

theorem fieldsToMap_eq_json : ∀ (fs : List Field) (result : List (String × Value)),
    (∀ name tag exported value, Field.mk name tag exported value ∈ fs → exported = true →
      ',' ∉ tag.toList ∧ tag ≠ "-") →
    fieldsToMap fs result = jsonFieldsToMap fs result
  | [], _, _ => rfl
  | .mk name tag exported value :: fs, result, h => by
    rw [fieldsToMap, jsonFieldsToMap]
    have ih := fieldsToMap_eq_json fs
    cases exported
    · simpa using ih _ fun n t e v hm => h n t e v (List.mem_cons_of_mem _ hm)
    · obtain ⟨hc, hd⟩ := h name tag true value (List.mem_cons_self _ _) rfl
      rw [jsonName_of_plain hc]
      by_cases ht : tag = "" <;> simp [ht, hd] <;>
        exact ih _ fun n t e v hm => h n t e v (List.mem_cons_of_mem _ hm)

/-- Where no exported field's tag has a comma or is `-`, the automatic
strategy treats a struct as its JSON view. -/
theorem performAutomaticMigration_struct_of_plain_tags (m : Migrator) (migration : VersionMigration)
    (fs : List Field)
    (h : ∀ name tag exported value, Field.mk name tag exported value ∈ fs → exported = true →
      ',' ∉ tag.toList ∧ tag ≠ "-") :
    m.performAutomaticMigration migration (.struct fs) =
      m.performAutomaticMigration migration (.dict (jsonFieldsToMap fs [])) := by
  simp [performAutomaticMigration, derefOnce, Value.isNil, migrateStructData, structToMap, fieldsToMap_eq_json fs [] h]

/-- A field tagged `name,omitempty` reaches the mappings as
`name,omitempty`, and one tagged `-` under its Go name: renaming `name` to
`fullName` misses the struct but not its JSON view `{name: Ann}`. A struct
whose exported fields have no such tag migrates as its JSON view. -/
theorem migrate_struct_json_tag :
    ((newMigrator "users").addAutomaticMigration (newVersion 1 0 0) (newVersion 2 0 0)
        [⟨"name", "fullName", "", .nil, false⟩] false).2.migrate (newVersion 1 0 0) (newVersion 2 0 0)
      (.struct [.mk "Name" "name,omitempty" true (.str "Ann"), .mk "Secret" "-" true (.str "x")]) =
      (.dict [("name,omitempty", .str "Ann"), ("Secret", .str "x")], none) ∧
    jsonFieldsToMap [.mk "Name" "name,omitempty" true (.str "Ann"), .mk "Secret" "-" true (.str "x")] [] =
      [("name", .str "Ann")] ∧
    ((newMigrator "users").addAutomaticMigration (newVersion 1 0 0) (newVersion 2 0 0)
        [⟨"name", "fullName", "", .nil, false⟩] false).2.migrate (newVersion 1 0 0) (newVersion 2 0 0)
      (.dict [("name", .str "Ann")]) = (.dict [("fullName", .str "Ann")], none) ∧
    ∀ (m : Migrator) (migration : VersionMigration) (fs : List Field),
      (∀ name tag exported value, Field.mk name tag exported value ∈ fs → exported = true →
        ',' ∉ tag.toList ∧ tag ≠ "-") →
      m.performAutomaticMigration migration (.struct fs) =
        m.performAutomaticMigration migration (.dict (jsonFieldsToMap fs [])) :=
  ⟨rfl, rfl, rfl, performAutomaticMigration_struct_of_plain_tags⟩

end Migrator

end Gochoreo
