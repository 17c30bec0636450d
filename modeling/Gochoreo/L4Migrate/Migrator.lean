import Gochoreo.L1Value.Value
import Gochoreo.L1Value.Errors

/-!
# Version migrations (`Migrator`)

src/pkg/version/migration.go. A `Migrator` keeps one table from the string
key `from.String() + "-" + to.String()` to a `VersionMigration`.
`AddMigration` stores a migration under its key and, when it is reversible,
a synthesized reverse under the reverse key; the reverse copies the strategy
but not the custom function. `Migrate`, `CanMigrate` and `GetMigrationPath`
answer a pair of versions that `Compare` calls different by looking its key
up in the table.

A custom migration function is any Lean function of the same shape; the
automatic strategy is modelled through `reflect` on `Value`.

**Results.**
* `lookup_runAdds`: after any sequence of additions the table answers a key
  with the last migration stored under that key: a replay of the log.
* `migrator_finds_last_by_key`: so all three lookups find a migration
  exactly when one was stored under the same key, and use the last one.
* `canMigrate_other_spelling`: keys are spellings, not versions: a stored
  1.0.0 → 2.0.0 migration is missed when asked for `v1` → `v2`, and one
  stored for 1.0.0 → 2.0.0 under the key `1-2-3` answers 1.0.0 → 3.0.0.
* `migrate_of_canMigrate`: when no reversible custom migration is added,
  whatever `CanMigrate` accepts `Migrate` runs with an executable entry.
* `reverse_custom_migration_fails`: the reverse of a reversible custom
  migration is accepted by `CanMigrate` and fails in `Migrate`.
-/
namespace Gochoreo

/-- mirrors src/pkg/version/migration.go:9-20 (`MigrationStrategy`, a Go `int`) -/
structure MigrationStrategy where
  val : Int
  deriving DecidableEq, Repr

namespace MigrationStrategy

/-- `MigrationStrategyNone` -/
def none : MigrationStrategy := ⟨0⟩
/-- `MigrationStrategyAutomatic` -/
def automatic : MigrationStrategy := ⟨1⟩
/-- `MigrationStrategyCustom` -/
def custom : MigrationStrategy := ⟨2⟩
/-- `MigrationStrategyFallback` -/
def fallback : MigrationStrategy := ⟨3⟩

/-- mirrors src/pkg/version/migration.go:23-36 (`MigrationStrategy.String`) -/
def string (ms : MigrationStrategy) : String :=
  if ms = MigrationStrategy.none then "none"
  else if ms = automatic then "automatic"
  else if ms = custom then "custom"
  else if ms = fallback then "fallback"
  else "unknown"

end MigrationStrategy

/-- mirrors src/pkg/version/migration.go:39 (`MigrationFunc`) -/
abbrev MigrationFunc := Version → Version → Value → Value × Option GoError

/-- mirrors src/pkg/version/migration.go:42-48 (`FieldMapping`); a nil
`DefaultValue` is `Value.nil`. -/
structure FieldMapping where
  fromField : String
  toField : String
  transform : String
  defaultValue : Value
  required : Bool

/-- mirrors src/pkg/version/migration.go:51-60 (`VersionMigration`); a nil
`CustomFunc` is `none`. -/
structure VersionMigration where
  fromVersion : Version
  toVersion : Version
  strategy : MigrationStrategy
  fieldMappings : List FieldMapping
  customFunc : Option MigrationFunc
  reversible : Bool
  description : String

/-- mirrors src/pkg/version/migration.go:63-66 (`Migrator`) -/
structure Migrator where
  component : String
  migrations : GoMap VersionMigration

/-- mirrors src/pkg/version/migration.go:69-74 (`NewMigrator`) -/
def newMigrator (component : String) : Migrator := ⟨component, ∅⟩

@[simp] theorem newMigrator_component (component : String) : (newMigrator component).component = component :=
  rfl

/-- mirrors src/pkg/version/migration.go:303-305 (`migrationKey`) -/
def migrationKey (fromVersion toVersion : Version) : String :=
  fromVersion.string ++ "-" ++ toVersion.string

/-- The key a migration is stored under. -/
def VersionMigration.key (migration : VersionMigration) : String :=
  migrationKey migration.fromVersion migration.toVersion

/-- mirrors src/pkg/version/migration.go:321-325 (`reverseTransform`) -/
def reverseTransform (_transform : String) : String := ""

/-- mirrors src/pkg/version/migration.go:307-320 (`reverseFieldMappings`) -/
def reverseFieldMappings (mappings : List FieldMapping) : List FieldMapping :=
  mappings.map fun mapping =>
    { fromField := mapping.toField, toField := mapping.fromField,
      transform := reverseTransform mapping.transform, defaultValue := .nil,
      required := mapping.required }

/-- The reverse `AddMigration` synthesizes (migration.go:87-95): no
`CustomFunc`. -/
def reverseMigration (migration : VersionMigration) : VersionMigration :=
  { fromVersion := migration.toVersion, toVersion := migration.fromVersion,
    strategy := migration.strategy, fieldMappings := reverseFieldMappings migration.fieldMappings,
    customFunc := none, reversible := false,
    description := "Reverse migration: " ++ migration.description }

/-- The migration `AddCustomMigration` builds (migration.go:104-111). -/
def customMigration (fromVersion toVersion : Version) (migrationFunc : Option MigrationFunc)
    (reversible : Bool) (description : String) : VersionMigration :=
  { fromVersion := fromVersion, toVersion := toVersion, strategy := MigrationStrategy.custom,
    fieldMappings := [], customFunc := migrationFunc, reversible := reversible,
    description := description }

/-- The migration `AddAutomaticMigration` builds (migration.go:118-125). -/
def automaticMigration (fromVersion toVersion : Version) (fieldMappings : List FieldMapping)
    (reversible : Bool) : VersionMigration :=
  { fromVersion := fromVersion, toVersion := toVersion, strategy := MigrationStrategy.automatic,
    fieldMappings := fieldMappings, customFunc := none, reversible := reversible,
    description := "Automatic migration from " ++ fromVersion.string ++ " to " ++ toVersion.string }

namespace Migrator

/-- mirrors src/pkg/version/migration.go:77-100 (`AddMigration`) -/
def addMigration (m : Migrator) : Option VersionMigration → Option GoError × Migrator
  | none => (some (.plain "migration cannot be nil"), m)
  | some migration =>
    let m := { m with migrations := m.migrations.insert migration.key migration }
    if migration.reversible then
      let reverse := reverseMigration migration
      (none, { m with migrations := m.migrations.insert reverse.key reverse })
    else (none, m)

/-- mirrors src/pkg/version/migration.go:103-114 (`AddCustomMigration`) -/
def addCustomMigration (m : Migrator) (fromVersion toVersion : Version)
    (migrationFunc : Option MigrationFunc) (reversible : Bool) (description : String) :
    Option GoError × Migrator :=
  m.addMigration (some (customMigration fromVersion toVersion migrationFunc reversible description))

/-- mirrors src/pkg/version/migration.go:117-128 (`AddAutomaticMigration`) -/
def addAutomaticMigration (m : Migrator) (fromVersion toVersion : Version)
    (fieldMappings : List FieldMapping) (reversible : Bool) : Option GoError × Migrator :=
  m.addMigration (some (automaticMigration fromVersion toVersion fieldMappings reversible))

/-! ## Automatic migration through `reflect` -/

/-- `reflect.ValueOf(input)` after the one `Elem()` taken on a pointer;
`none` is the invalid value behind a nil pointer. -/
def derefOnce : Value → Option Value
  | .ptr _ target => target
  | v => some v

/-- mirrors src/pkg/version/migration.go:327-346 (`transformValue`) -/
def transformValue (value : Value) (transform : String) : Except GoError Value :=
  if transform = "" then .ok value
  else if transform = "string" then .ok (.str (value.sprint true))
  else if transform = "int" then
    match value with
    | .str s => .ok (.str s)
    | _ => .ok value
  else .ok value

/-- The field-mapping loop of `migrateMapData` (migration.go:245-259). -/
def applyMappings (inputMap : List (String × Value)) :
    List FieldMapping → List (String × Value) → Except GoError (List (String × Value))
  | [], resultMap => .ok resultMap
  | mapping :: rest, resultMap =>
    match inputMap.lookup mapping.fromField with
    | some value =>
      match transformValue value mapping.transform with
      | .ok transformed => applyMappings inputMap rest (dictSet mapping.toField transformed resultMap)
      | .error err => .error (.plain ("failed to transform field " ++ mapping.fromField ++ ": " ++ err.error))
    | none =>
      if !mapping.defaultValue.isNil then
        applyMappings inputMap rest (dictSet mapping.toField mapping.defaultValue resultMap)
      else if mapping.required then
        .error (.plain ("required field " ++ mapping.fromField ++ " is missing"))
      else applyMappings inputMap rest resultMap

/-- The copy of unmapped fields (migration.go:262-273), in the input map's
iteration order. -/
def copyUnmapped (mappings : List FieldMapping) :
    List (String × Value) → List (String × Value) → List (String × Value)
  | [], resultMap => resultMap
  | (key, value) :: rest, resultMap =>
    copyUnmapped mappings rest
      (if mappings.any (·.fromField = key) then resultMap else dictSet key value resultMap)

/-- mirrors src/pkg/version/migration.go:236-276 (`migrateMapData`) -/
def migrateMapData (migration : VersionMigration) : Value → Except GoError Value
  | .dict inputMap => do
    let resultMap ← applyMappings inputMap migration.fieldMappings []
    pure (.dict (copyUnmapped migration.fieldMappings inputMap resultMap))
  | _ => .error (.plain "input is not a map[string]interface\x7b\x7d")

/-- The exported fields of a struct under their `json` tag or Go name
(migration.go:361-376). -/
def fieldsToMap : List Field → List (String × Value) → List (String × Value)
  | [], result => result
  | .mk name tag exported value :: fs, result =>
    fieldsToMap fs
      (if exported then dictSet (if tag ≠ "" ∧ tag ≠ "-" then tag else name) value result else result)

/-- mirrors src/pkg/version/migration.go:348-379 (`structToMap`) -/
def structToMap (input : Value) : Except GoError (List (String × Value)) :=
  match derefOnce input with
  | some (.struct fields) => .ok (fieldsToMap fields [])
  | _ => .error (.plain "input is not a struct")

/-- mirrors src/pkg/version/migration.go:279-293 (`migrateStructData`) -/
def migrateStructData (migration : VersionMigration) (input : Value) : Except GoError Value :=
  match structToMap input with
  | .error err => .error (.plain ("failed to convert struct to map: " ++ err.error))
  | .ok inputMap => migrateMapData migration (.dict inputMap)

/-- mirrors src/pkg/version/migration.go:202-233 (`performAutomaticMigration`) -/
def performAutomaticMigration (m : Migrator) (migration : VersionMigration) (input : Value) :
    Value × Option GoError :=
  let finish : Except GoError Value → Value × Option GoError
    | .ok result => (result, none)
    | .error err => (.nil, some (newMigrationError m.component migration.fromVersion
        migration.toVersion "automatic migration failed" (some err)))
  if input.isNil then (.nil, none)
  else match derefOnce input with
    | some (.dict _) | some (.otherMap _) => finish (migrateMapData migration input)
    | some (.struct _) => finish (migrateStructData migration input)
    | _ => (input, none)

/-- mirrors src/pkg/version/migration.go:296-299 (`performFallbackMigration`) -/
def performFallbackMigration (m : Migrator) (migration : VersionMigration) (input : Value) :
    Value × Option GoError :=
  m.performAutomaticMigration migration input

/-! ## Lookups -/

/-- The strategy switch of `Migrate` on the migration it found
(migration.go:144-161). -/
def runMigration (m : Migrator) (migration : VersionMigration) (fromVersion toVersion : Version)
    (input : Value) : Value × Option GoError :=
  if migration.strategy = MigrationStrategy.none then
    (.nil, some (newMigrationError m.component fromVersion toVersion "migration not supported" none))
  else if migration.strategy = MigrationStrategy.custom then
    match migration.customFunc with
    | none => (.nil, some (newMigrationError m.component fromVersion toVersion
        "custom migration function not provided" none))
    | some f => f fromVersion toVersion input
  else if migration.strategy = MigrationStrategy.automatic then
    m.performAutomaticMigration migration input
  else if migration.strategy = MigrationStrategy.fallback then
    m.performFallbackMigration migration input
  else (.nil, some (newMigrationError m.component fromVersion toVersion
    ("unsupported migration strategy: " ++ migration.strategy.string) none))

/-- mirrors src/pkg/version/migration.go:131-162 (`Migrate`) -/
def migrate (m : Migrator) (fromVersion toVersion : Version) (input : Value) : Value × Option GoError :=
  if fromVersion.compare toVersion = 0 then (input, none)
  else match m.migrations.lookup (migrationKey fromVersion toVersion) with
    | none => (.nil, some (newMigrationError m.component fromVersion toVersion
        "no migration path available" none))
    | some migration => m.runMigration migration fromVersion toVersion input

/-- mirrors src/pkg/version/migration.go:165-173 (`CanMigrate`) -/
def canMigrate (m : Migrator) (fromVersion toVersion : Version) : Bool :=
  if fromVersion.compare toVersion = 0 then true
  else (m.migrations.lookup (migrationKey fromVersion toVersion)).isSome

/-- mirrors src/pkg/version/migration.go:176-190 (`GetMigrationPath`) -/
def getMigrationPath (m : Migrator) (fromVersion toVersion : Version) :
    Except GoError (List VersionMigration) :=
  if fromVersion.compare toVersion = 0 then .ok []
  else match m.migrations.lookup (migrationKey fromVersion toVersion) with
    | some migration => .ok [migration]
    | none => .error (newMigrationError m.component fromVersion toVersion "no migration path found" none)

end Migrator

/-! ## The table as a replay of the additions -/

/-- A call that adds to the table. -/
inductive AddCall where
  | addMigration (migration : Option VersionMigration)
  | addCustomMigration (fromVersion toVersion : Version) (migrationFunc : Option MigrationFunc)
      (reversible : Bool) (description : String)
  | addAutomaticMigration (fromVersion toVersion : Version) (fieldMappings : List FieldMapping)
      (reversible : Bool)

/-- The migration a call hands to `AddMigration`. -/
def AddCall.migration : AddCall → Option VersionMigration
  | .addMigration migration => migration
  | .addCustomMigration f t fn r d => some (customMigration f t fn r d)
  | .addAutomaticMigration f t fms r => some (automaticMigration f t fms r)

/-- The migrations `AddMigration` stores, in the order it stores them. -/
def stored (migration : VersionMigration) : List VersionMigration :=
  if migration.reversible then [migration, reverseMigration migration] else [migration]

def AddCall.stored (call : AddCall) : List VersionMigration :=
  match call.migration with
  | some migration => Gochoreo.stored migration
  | none => []

/-- Every migration stored by a sequence of calls, oldest first. -/
def addLog (calls : List AddCall) : List VersionMigration := calls.flatMap AddCall.stored

/-- The last migration of the log stored under `key`. -/
def lastStored (calls : List AddCall) (key : String) : Option VersionMigration :=
  (addLog calls).reverse.find? fun e => e.key = key

namespace Migrator

def add (m : Migrator) : AddCall → Option GoError × Migrator
  | .addMigration migration => m.addMigration migration
  | .addCustomMigration f t fn r d => m.addCustomMigration f t fn r d
  | .addAutomaticMigration f t fms r => m.addAutomaticMigration f t fms r

theorem add_eq (m : Migrator) (call : AddCall) : m.add call = m.addMigration call.migration := by
  cases call <;> rfl

/-- The migrator after a sequence of additions. -/
def runAdds (m : Migrator) : List AddCall → Migrator
  | [] => m
  | call :: calls => (m.add call).2.runAdds calls

@[simp] theorem add_component (m : Migrator) (call : AddCall) : (m.add call).2.component = m.component := by
  rw [add_eq]
  rcases call.migration with _ | migration
  · rfl
  · simp only [addMigration]; split <;> rfl

theorem runAdds_component (m : Migrator) (calls : List AddCall) :
    (m.runAdds calls).component = m.component := by
  induction calls generalizing m with
  | nil => rfl
  | cons call calls ih => rw [runAdds, ih, add_component]

/-- One addition: a key is answered by the last migration the call stored
under it, else as before. -/
theorem lookup_add (m : Migrator) (call : AddCall) (key : String) :
    (m.add call).2.migrations.lookup key =
      (call.stored.reverse.find? fun e => e.key = key).or (m.migrations.lookup key) := by
  rw [add_eq, AddCall.stored]
  rcases call.migration with _ | migration
  · rfl
  · simp only [addMigration, Gochoreo.stored]
    split
    · simp only [List.reverse_cons, List.reverse_nil, List.nil_append, List.singleton_append,
        List.find?_cons, List.find?_nil]
      by_cases h1 : (reverseMigration migration).key = key
      · simp [h1]
      · by_cases h2 : migration.key = key
        · subst h2; rw [AList.lookup_insert_ne (Ne.symm h1)]; simp [h1]
        · rw [AList.lookup_insert_ne (Ne.symm h1), AList.lookup_insert_ne (Ne.symm h2)]; simp [h1, h2]
    · by_cases h : migration.key = key
      · simp [h]
      · rw [AList.lookup_insert_ne (Ne.symm h)]; simp [h]

/-- A run of additions replays its log: a key is answered by the last
migration stored under it, else as before the run. -/
theorem lookup_runAdds (m : Migrator) (calls : List AddCall) (key : String) :
    (m.runAdds calls).migrations.lookup key =
      ((addLog calls).reverse.find? fun e => e.key = key).or (m.migrations.lookup key) := by
  induction calls generalizing m with
  | nil => simp [runAdds, addLog]
  | cons call calls ih =>
    rw [runAdds, ih, lookup_add, addLog, addLog, List.flatMap_cons, List.reverse_append,
      List.find?_append, Option.or_assoc]

theorem lookup_newMigrator_runAdds (component : String) (calls : List AddCall) (key : String) :
    ((newMigrator component).runAdds calls).migrations.lookup key = lastStored calls key := by
  rw [lookup_runAdds]
  exact Option.or_none

/-- The lookups of a migrator built from `NewMigrator` by any sequence of
additions, for two versions `Compare` calls different: each finds a
migration exactly when one was stored under the same key, and then uses the
last one stored under it. -/
theorem migrator_finds_last_by_key (component : String) (calls : List AddCall)
    (fromVersion toVersion : Version) (input : Value) (h : fromVersion.compare toVersion ≠ 0) :
    ((newMigrator component).runAdds calls).canMigrate fromVersion toVersion =
      (addLog calls).any (fun e => e.key = migrationKey fromVersion toVersion) ∧
    ((newMigrator component).runAdds calls).getMigrationPath fromVersion toVersion =
      (match lastStored calls (migrationKey fromVersion toVersion) with
        | some migration => .ok [migration]
        | none => .error (newMigrationError component fromVersion toVersion "no migration path found" none)) ∧
    ((newMigrator component).runAdds calls).migrate fromVersion toVersion input =
      (match lastStored calls (migrationKey fromVersion toVersion) with
        | some migration =>
          ((newMigrator component).runAdds calls).runMigration migration fromVersion toVersion input
        | none => (.nil, some (newMigrationError component fromVersion toVersion
            "no migration path available" none))) := by
  have hc := runAdds_component (newMigrator component) calls
  refine ⟨?_, ?_, ?_⟩
  · rw [canMigrate, if_neg h, lookup_newMigrator_runAdds, lastStored, Bool.eq_iff_iff, List.find?_isSome,
      List.any_eq_true]
    simp
  · rw [getMigrationPath, if_neg h, lookup_newMigrator_runAdds, hc, newMigrator_component]
  · rw [migrate, if_neg h, lookup_newMigrator_runAdds, hc, newMigrator_component]
    cases lastStored calls (migrationKey fromVersion toVersion) <;> rfl

/-- Adding 1.0.0 → 2.0.0 once, asking for it by the same versions. -/
theorem migrator_finds_last_by_key_users :
    (newVersion 1 0 0).compare (newVersion 2 0 0) ≠ 0 ∧
    ((newMigrator "users").runAdds [.addAutomaticMigration (newVersion 1 0 0) (newVersion 2 0 0) [] false]).canMigrate
        (newVersion 1 0 0) (newVersion 2 0 0) =
      (addLog [.addAutomaticMigration (newVersion 1 0 0) (newVersion 2 0 0) [] false]).any
        (fun e => e.key = migrationKey (newVersion 1 0 0) (newVersion 2 0 0)) ∧
    ((newMigrator "users").runAdds [.addAutomaticMigration (newVersion 1 0 0) (newVersion 2 0 0) [] false]).getMigrationPath
        (newVersion 1 0 0) (newVersion 2 0 0) =
      (match lastStored [.addAutomaticMigration (newVersion 1 0 0) (newVersion 2 0 0) [] false]
          (migrationKey (newVersion 1 0 0) (newVersion 2 0 0)) with
        | some migration => .ok [migration]
        | none => .error (newMigrationError "users" (newVersion 1 0 0) (newVersion 2 0 0)
            "no migration path found" none)) ∧
    ((newMigrator "users").runAdds [.addAutomaticMigration (newVersion 1 0 0) (newVersion 2 0 0) [] false]).migrate
        (newVersion 1 0 0) (newVersion 2 0 0) .nil =
      (match lastStored [.addAutomaticMigration (newVersion 1 0 0) (newVersion 2 0 0) [] false]
          (migrationKey (newVersion 1 0 0) (newVersion 2 0 0)) with
        | some migration =>
          ((newMigrator "users").runAdds [.addAutomaticMigration (newVersion 1 0 0) (newVersion 2 0 0) [] false]).runMigration
            migration (newVersion 1 0 0) (newVersion 2 0 0) .nil
        | none => (.nil, some (newMigrationError "users" (newVersion 1 0 0) (newVersion 2 0 0)
            "no migration path available" none))) :=
  ⟨by decide, migrator_finds_last_by_key "users" _ _ _ .nil (by decide)⟩

/-- Keys are spellings. A migration added for `NewVersion(1,0,0)` →
`NewVersion(2,0,0)` is not found for the `Compare`-equal `v1` → `v2`;
and one added for `1` → `2-3` (1.0.0 → 2.0.0) is found for
`1-2` → `3` (1.0.0 → 3.0.0): both keys are `1-2-3`. -/
theorem canMigrate_other_spelling :
    ((newMigrator "users").runAdds [.addAutomaticMigration (newVersion 1 0 0) (newVersion 2 0 0) [] false]).canMigrate
        (parseVersion "v1") (parseVersion "v2") = false ∧
      (parseVersion "v1").compare (newVersion 1 0 0) = 0 ∧ (parseVersion "v2").compare (newVersion 2 0 0) = 0 ∧
    ((newMigrator "users").runAdds [.addAutomaticMigration (parseVersion "1") (parseVersion "2-3") [] false]).canMigrate
        (parseVersion "1-2") (parseVersion "3") = true ∧
      (parseVersion "2-3").compare (parseVersion "3") ≠ 0 := by
  decide

end Migrator

/-! ## Which migrations `Migrate` can run -/

/-- A migration `Migrate` can run: its strategy is not None, and it has a
function when the strategy is Custom. -/
def Executable (migration : VersionMigration) : Prop :=
  migration.strategy ≠ MigrationStrategy.none ∧
    (migration.strategy = MigrationStrategy.custom → migration.customFunc.isSome)

/-- An addition that stores only executable migrations: it hands over an
executable migration that is not a reversible custom one (or nil). -/
def AddCall.Admissible (call : AddCall) : Prop :=
  ∀ migration, call.migration = some migration →
    Executable migration ∧ (migration.strategy = MigrationStrategy.custom → migration.reversible = false)

theorem stored_executable {migration : VersionMigration} (h : Executable migration)
    (hrev : migration.strategy = MigrationStrategy.custom → migration.reversible = false) :
    ∀ e ∈ stored migration, Executable e := by
  unfold stored
  split
  · rename_i hr
    have hc : migration.strategy ≠ MigrationStrategy.custom := fun hc => by simp [hrev hc] at hr
    simp only [List.mem_cons, List.mem_singleton, List.not_mem_nil, or_false, forall_eq_or_imp, forall_eq]
    exact ⟨h, h.1, fun h' => absurd h' hc⟩
  · simpa using h

theorem addLog_executable {calls : List AddCall} (h : ∀ call ∈ calls, call.Admissible) :
    ∀ e ∈ addLog calls, Executable e := by
  intro e he
  obtain ⟨call, hcall, he⟩ := List.mem_flatMap.mp he
  unfold AddCall.stored at he
  split at he
  · rename_i migration hm
    obtain ⟨hx, hrev⟩ := h call hcall migration hm
    exact stored_executable hx hrev e he
  · simp at he

theorem lastStored_mem {calls : List AddCall} {key : String} {e : VersionMigration}
    (h : lastStored calls key = some e) : e ∈ addLog calls :=
  List.mem_reverse.mp (List.mem_of_find?_eq_some h)

namespace Migrator

/-- When every addition is admissible, whatever `CanMigrate` accepts
`Migrate` either returns unchanged (same version) or runs the stored
migration, which is executable: it never answers "no migration path
available", "migration not supported" or "custom migration function not
provided" itself. -/
theorem migrate_of_canMigrate (component : String) (calls : List AddCall)
    (hcalls : ∀ call ∈ calls, call.Admissible) (fromVersion toVersion : Version) (input : Value)
    (hcan : ((newMigrator component).runAdds calls).canMigrate fromVersion toVersion = true) :
    ((newMigrator component).runAdds calls).migrate fromVersion toVersion input = (input, none) ∨
    ∃ e, lastStored calls (migrationKey fromVersion toVersion) = some e ∧ Executable e ∧
      ((newMigrator component).runAdds calls).migrate fromVersion toVersion input =
        ((newMigrator component).runAdds calls).runMigration e fromVersion toVersion input := by
  by_cases h : fromVersion.compare toVersion = 0
  · exact .inl (by rw [migrate, if_pos h])
  · right
    rw [canMigrate, if_neg h, lookup_newMigrator_runAdds, Option.isSome_iff_exists] at hcan
    obtain ⟨e, he⟩ := hcan
    exact ⟨e, he, addLog_executable hcalls e (lastStored_mem he),
      by rw [migrate, if_neg h, lookup_newMigrator_runAdds, he]⟩

/-- One non-reversible custom migration with a function. -/
theorem migrate_of_canMigrate_users :
    (∀ call ∈ [AddCall.addCustomMigration (newVersion 1 0 0) (newVersion 2 0 0)
        (some fun _ _ input => (input, none)) false ""], call.Admissible) ∧
    ((newMigrator "users").runAdds [.addCustomMigration (newVersion 1 0 0) (newVersion 2 0 0)
        (some fun _ _ input => (input, none)) false ""]).canMigrate (newVersion 1 0 0) (newVersion 2 0 0) = true ∧
    (((newMigrator "users").runAdds [.addCustomMigration (newVersion 1 0 0) (newVersion 2 0 0)
        (some fun _ _ input => (input, none)) false ""]).migrate (newVersion 1 0 0) (newVersion 2 0 0) .nil =
        (.nil, none) ∨
      ∃ e, lastStored [.addCustomMigration (newVersion 1 0 0) (newVersion 2 0 0)
          (some fun _ _ input => (input, none)) false ""] (migrationKey (newVersion 1 0 0) (newVersion 2 0 0)) =
          some e ∧ Executable e ∧
        ((newMigrator "users").runAdds [.addCustomMigration (newVersion 1 0 0) (newVersion 2 0 0)
          (some fun _ _ input => (input, none)) false ""]).migrate (newVersion 1 0 0) (newVersion 2 0 0) .nil =
        ((newMigrator "users").runAdds [.addCustomMigration (newVersion 1 0 0) (newVersion 2 0 0)
          (some fun _ _ input => (input, none)) false ""]).runMigration e (newVersion 1 0 0) (newVersion 2 0 0) .nil) := by
  have hadm : ∀ call ∈ [AddCall.addCustomMigration (newVersion 1 0 0) (newVersion 2 0 0)
      (some fun _ _ input => (input, none)) false ""], call.Admissible := by
    simp only [List.mem_singleton, forall_eq, AddCall.Admissible, AddCall.migration, Option.some.injEq,
      forall_eq']
    exact ⟨⟨by decide, fun _ => rfl⟩, fun _ => rfl⟩
  exact ⟨hadm, rfl, migrate_of_canMigrate "users" _ hadm _ _ .nil rfl⟩

/-- The reverse that `AddMigration` synthesizes for a reversible custom
migration carries no function: whatever function was given, `CanMigrate`
accepts the reverse direction and `Migrate` fails on it with "custom
migration function not provided". -/
theorem reverse_custom_migration_fails (m : Migrator) (fromVersion toVersion : Version)
    (f : MigrationFunc) (description : String) (input : Value) (h : fromVersion.compare toVersion ≠ 0) :
    (m.addCustomMigration fromVersion toVersion (some f) true description).2.canMigrate toVersion fromVersion = true ∧
    (m.addCustomMigration fromVersion toVersion (some f) true description).2.migrate toVersion fromVersion input =
      (.nil, some (newMigrationError m.component toVersion fromVersion
        "custom migration function not provided" none)) := by
  have h' : toVersion.compare fromVersion ≠ 0 := by
    rwa [Ne, Version.compare_eq_zero, eq_comm, ← Version.compare_eq_zero]
  have hl : (m.addCustomMigration fromVersion toVersion (some f) true description).2.migrations.lookup
      (migrationKey toVersion fromVersion) = some (reverseMigration
        (customMigration fromVersion toVersion (some f) true description)) := by
    simp only [addCustomMigration, addMigration, customMigration, ↓reduceIte]
    exact AList.lookup_insert _
  refine ⟨by rw [canMigrate, if_neg h', hl]; rfl, ?_⟩
  rw [migrate, if_neg h', hl]
  rfl

/-- The README's example: a reversible custom migration from 1.0.0 to 2.0.0. -/
theorem reverse_custom_migration_fails_readme :
    (newVersion 1 0 0).compare (newVersion 2 0 0) ≠ 0 ∧
    ((newMigrator "user-service").addCustomMigration (newVersion 1 0 0) (newVersion 2 0 0)
        (some fun _ _ input => (input, none)) true "").2.canMigrate (newVersion 2 0 0) (newVersion 1 0 0) = true ∧
    ((newMigrator "user-service").addCustomMigration (newVersion 1 0 0) (newVersion 2 0 0)
        (some fun _ _ input => (input, none)) true "").2.migrate (newVersion 2 0 0) (newVersion 1 0 0) .nil =
      (.nil, some (newMigrationError (newMigrator "user-service").component (newVersion 2 0 0) (newVersion 1 0 0)
        "custom migration function not provided" none)) :=
  ⟨by decide, reverse_custom_migration_fails _ _ _ _ "" .nil (by decide)⟩

end Migrator

end Gochoreo
