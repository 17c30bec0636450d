import Gochoreo.L1Value.GoLib
import Mathlib.Data.List.Sort
import Mathlib.Data.String.Basic

/-!
# Dynamic values (`interface{}`)

What the migrator and the components see of a Go `interface{}` value,
through `reflect` (`Kind`, `Elem`, struct fields and their `json` tags) and
through `fmt.Sprintf("%v", ·)`. A value the migrator never looks into (a
number, a slice, a channel, ...) is `scalar`, carrying its `%v` text.

A `map[string]interface{}` is `dict`: its entries in iteration order, with
distinct keys (`dictSet` keeps them distinct: `nodup_dictSet`). Two `dict`s
are the same Go map when their entries are permutations of each other; with
distinct keys, when they have the same lookups (`perm_of_lookup_eq`).
-/
namespace Gochoreo

mutual
/-- A Go `interface{}` value. -/
inductive Value where
  /-- the nil interface -/
  | nil
  /-- a `string` -/
  | str (s : String)
  /-- any other value that is not a map, a struct or a pointer; `text` is its `%v` -/
  | scalar (text : String)
  /-- a `map[string]interface{}` -/
  | dict (entries : List (String × Value))
  /-- a map of another type: kind `Map`, but not a `map[string]interface{}` -/
  | otherMap (text : String)
  /-- a struct, its fields in declaration order -/
  | struct (fields : List Field)
  /-- a pointer, `none` when nil; `addr` is what `%v` prints below the top level -/
  | ptr (addr : String) (target : Option Value)

/-- A struct field: Go name, `json` tag, whether it is exported
(`CanInterface`), value. -/
inductive Field where
  | mk (name tag : String) (exported : Bool) (value : Value)
end

/-- `v == nil` on an `interface{}`: only the nil interface itself; a typed
nil pointer is not nil. -/
def Value.isNil : Value → Bool
  | .nil => true
  | _ => false

/-- `m[k] = v` on a `map[string]interface{}`. -/
def dictSet (k : String) (v : Value) : List (String × Value) → List (String × Value)
  | [] => [(k, v)]
  | (k', v') :: es => if k' = k then (k, v) :: es else (k', v') :: dictSet k v es

/-- Whether `fmt` follows a pointer to this value at the top level. -/
def Value.isComposite : Value → Bool
  | .dict _ | .otherMap _ | .struct _ => true
  | _ => false

mutual
/-- `fmt.Sprintf("%v", v)`. `top` marks the outermost value, the only place
where fmt follows a pointer (printing `&` and the target); below it a
pointer prints as its address. Map entries print sorted by key. -/
def Value.sprint (top : Bool) : Value → String
  | .nil => "<nil>"
  | .str s => s
  | .scalar t => t
  | .dict es =>
    "map[" ++ " ".intercalate (((sprintEntries es).insertionSort fun a b => a.1 ≤ b.1).map
      fun p => p.1 ++ ":" ++ p.2) ++ "]"
  | .otherMap t => t
  | .struct fs => "\x7b" ++ " ".intercalate (sprintFields fs) ++ "\x7d"
  | .ptr _ none => "<nil>"
  | .ptr addr (some v) => if top && v.isComposite then "&" ++ v.sprint false else addr

/-- The entries of a map, each value printed. -/
def sprintEntries : List (String × Value) → List (String × String)
  | [] => []
  | (k, v) :: es => (k, v.sprint false) :: sprintEntries es

/-- The fields of a struct, printed. -/
def sprintFields : List Field → List String
  | [] => []
  | .mk _ _ _ v :: fs => v.sprint false :: sprintFields fs
end

/-! ## Lookups in a map -/

section Lookup

variable {β : Type}

theorem lookup_cons_pair (k k' : String) (v : β) (es : List (String × β)) :
    ((k', v) :: es).lookup k = if k = k' then some v else es.lookup k := by
  by_cases h : k = k' <;> simp [List.lookup_cons, h, beq_eq_false_iff_ne.mpr]

theorem lookup_isSome_iff (k : String) : ∀ es : List (String × β), (es.lookup k).isSome ↔ k ∈ es.map Prod.fst
  | [] => by simp
  | (k', v) :: es => by
    rw [lookup_cons_pair, List.map_cons, List.mem_cons, ← lookup_isSome_iff k es]
    split <;> simp_all

theorem lookup_eq_some_iff_of_nodup (k : String) (v : β) :
    ∀ es : List (String × β), (es.map Prod.fst).Nodup → (es.lookup k = some v ↔ (k, v) ∈ es)
  | [], _ => by simp
  | (k', v') :: es, hn => by
    rw [List.map_cons, List.nodup_cons] at hn
    rw [lookup_cons_pair, List.mem_cons, ← lookup_eq_some_iff_of_nodup k v es hn.2]
    by_cases h : k = k'
    · subst h
      have : es.lookup k = none := by
        rw [← Option.not_isSome_iff_eq_none, lookup_isSome_iff]; exact hn.1
      simp [this, eq_comm]
    · simp [h]

theorem lookup_eq_of_perm {l₁ l₂ : List (String × β)} (h : l₁.Perm l₂) (hn : (l₁.map Prod.fst).Nodup)
    (k : String) : l₁.lookup k = l₂.lookup k := by
  have hn₂ : (l₂.map Prod.fst).Nodup := (h.map Prod.fst).nodup_iff.mp hn
  rcases h₁ : l₁.lookup k with _ | v
  · rw [eq_comm, ← Option.not_isSome_iff_eq_none, lookup_isSome_iff, ← (h.map Prod.fst).mem_iff,
      ← lookup_isSome_iff, h₁]
    exact Bool.false_ne_true
  · exact ((lookup_eq_some_iff_of_nodup k v l₂ hn₂).mpr
      (h.mem_iff.mp ((lookup_eq_some_iff_of_nodup k v l₁ hn).mp h₁))).symm

theorem lookup_eq_none_iff (k : String) (es : List (String × β)) :
    es.lookup k = none ↔ k ∉ es.map Prod.fst := by
  rw [← lookup_isSome_iff, Option.not_isSome_iff_eq_none]

/-- Two maps with distinct keys and the same lookups are one map. -/
theorem perm_of_lookup_eq {l₁ l₂ : List (String × β)} (hn₁ : (l₁.map Prod.fst).Nodup)
    (hn₂ : (l₂.map Prod.fst).Nodup) (h : ∀ k, l₁.lookup k = l₂.lookup k) : l₁.Perm l₂ :=
  (List.perm_ext_iff_of_nodup (hn₁.of_map _) (hn₂.of_map _)).mpr fun ⟨k, v⟩ => by
    rw [← lookup_eq_some_iff_of_nodup k v l₁ hn₁, ← lookup_eq_some_iff_of_nodup k v l₂ hn₂, h]

end Lookup

@[simp] theorem lookup_dictSet (k k' : String) (v : Value) :
    ∀ es : List (String × Value), (dictSet k v es).lookup k' = if k' = k then some v else es.lookup k'
  | [] => by simp [dictSet, lookup_cons_pair]
  | (k'', v') :: es => by
    unfold dictSet
    by_cases h : k'' = k
    · subst h; simp only [if_true, lookup_cons_pair]; split <;> rfl
    · simp only [h, if_false, lookup_cons_pair, lookup_dictSet k k' v es]
      by_cases h' : k' = k'' <;> simp_all

theorem mem_keys_dictSet (k k' : String) (v : Value) (es : List (String × Value)) :
    k' ∈ (dictSet k v es).map Prod.fst ↔ k' = k ∨ k' ∈ es.map Prod.fst := by
  rw [← lookup_isSome_iff, ← lookup_isSome_iff, lookup_dictSet]
  split <;> simp_all

theorem nodup_dictSet (k : String) (v : Value) :
    ∀ es : List (String × Value), (es.map Prod.fst).Nodup → ((dictSet k v es).map Prod.fst).Nodup
  | [], _ => by simp [dictSet]
  | (k', v') :: es, hn => by
    rw [List.map_cons, List.nodup_cons] at hn
    unfold dictSet
    split
    · subst k'; simpa using hn
    · rw [List.map_cons, List.nodup_cons, mem_keys_dictSet]
      exact ⟨by rintro (h | h) <;> simp_all, nodup_dictSet k v es hn.2⟩

end Gochoreo
