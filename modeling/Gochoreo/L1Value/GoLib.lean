import Mathlib.Data.List.AList
import Mathlib.Algebra.Ring.Int.Defs

/-!
# The parts of Go's standard library that `pkg/version` calls

Go strings are modelled as Lean `String`s, i.e. as sequences of Unicode
scalar values. Go cuts and compares them byte-wise; on valid UTF-8 text the
character-wise functions below agree with it.

* `split`, `splitN2`, `contains`, `hasPrefix`, `trimPrefix`, `toLower`:
  `strings.Split`, `strings.SplitN(·, ·, 2)`, `strings.Contains`,
  `strings.HasPrefix`, `strings.TrimPrefix`, `strings.ToLower`.
* `atoi`: `strconv.Atoi`, an optional sign and decimal digits whose value
  fits an `int` (64 bits); `none` is a non-nil `err`.
* `GoMap α`: a Go `map[string]α`, an association list whose keys are
  distinct by construction. A `range` loop over a map visits `entries` in
  list order. Every order of the entries represents the same map, so a
  statement about every iteration order quantifies over permutations of
  `entries`.

All functions are structurally recursive, so `decide` evaluates them on
concrete strings.

**Results.**
* `splitAux_append_of_not_prefix`, `splitAux_sep_append`: the two steps of
  the `Split` scan (no separator starts here; one does), from which
  `split_singleton_append` cuts `a + sep + rest` at `sep` when `a` holds
  no separator.
* `atoi_formatInt`: `strconv.Atoi` inverts `%d` on every non-negative
  `int`.

Fixed-width integers are `Int`s with Go's two's-complement wrap applied
where the code converts or adds (`wrap64`, `add64`, `wrap32`).
-/
namespace Gochoreo

/-- The pieces of `strings.Split` for a non-empty separator: cut at each
leftmost non-overlapping occurrence of `sep`. `skip` counts the separator
characters still to drop after a match, `cur` is the current piece reversed. -/
def splitAux (sep : List Char) : List Char → Nat → List Char → List (List Char)
  | [], _, cur => [cur.reverse]
  | _ :: cs, skip + 1, cur => splitAux sep cs skip cur
  | c :: cs, 0, cur =>
    if sep.isPrefixOf (c :: cs) then cur.reverse :: splitAux sep cs (sep.length - 1) []
    else splitAux sep cs 0 (c :: cur)

/-- `strings.Split(s, sep)`; an empty separator explodes `s` into its
characters (Go: into its UTF-8 sequences). -/
def split (s sep : String) : List String :=
  if sep = "" then s.toList.map fun c => String.mk [c]
  else (splitAux sep.toList s.toList 0 []).map String.mk

theorem splitAux_nil (sep : List Char) (k : Nat) (cur : List Char) :
    splitAux sep [] k cur = [cur.reverse] := by
  cases k <;> rfl

theorem splitAux_skip (sep : List Char) : ∀ (xs w cur : List Char),
    splitAux sep (xs ++ w) xs.length cur = splitAux sep w 0 cur
  | [], _, _ => rfl
  | _ :: xs, w, cur => splitAux_skip sep xs w cur

/-- No occurrence of the separator starts inside `u`: its characters join
the current piece. -/
theorem splitAux_append_of_not_prefix (sep : List Char) : ∀ (u w cur : List Char),
    (∀ i < u.length, sep.isPrefixOf ((u ++ w).drop i) = false) →
    splitAux sep (u ++ w) 0 cur = splitAux sep w 0 (u.reverse ++ cur)
  | [], _, _, _ => rfl
  | c :: u, w, cur, h => by
    have h0 : sep.isPrefixOf (c :: (u ++ w)) = false := h 0 (by simp)
    rw [List.cons_append, splitAux, h0, if_neg Bool.false_ne_true,
      splitAux_append_of_not_prefix sep u w (c :: cur) fun i hi => h (i + 1) (by simp; omega)]
    simp

/-- An occurrence of the separator closes the current piece. -/
theorem splitAux_sep_append (sep w cur : List Char) (hsep : sep ≠ []) :
    splitAux sep (sep ++ w) 0 cur = cur.reverse :: splitAux sep w 0 [] := by
  obtain ⟨c, cs, rfl⟩ := List.exists_cons_of_ne_nil hsep
  have hp : (c :: cs).isPrefixOf (c :: (cs ++ w)) = true :=
    List.isPrefixOf_iff_prefix.mpr (List.prefix_append (c :: cs) w)
  rw [List.cons_append, splitAux, if_pos hp, List.length_cons, Nat.add_sub_cancel, splitAux_skip]

theorem splitAux_head (sep : List Char) : ∀ (w : List Char) (k : Nat) (acc : List Char),
    ∃ x rest, splitAux sep w k acc = (acc.reverse ++ x) :: rest
  | [], k, acc => ⟨[], [], by rw [splitAux_nil, List.append_nil]⟩
  | _ :: w, k + 1, acc => splitAux_head sep w k acc
  | c :: w, 0, acc => by
    rw [splitAux]
    split
    · exact ⟨[], _, by rw [List.append_nil]⟩
    · obtain ⟨x, rest, h⟩ := splitAux_head sep w 0 (c :: acc)
      exact ⟨c :: x, rest, by rw [h]; simp⟩

theorem isPrefixOf_singleton_drop {c : Char} {u : List Char} (h : c ∉ u) (w : List Char) :
    ∀ i < u.length, [c].isPrefixOf ((u ++ w).drop i) = false := by
  intro i hi
  rw [List.drop_append_of_le_length (by omega)]
  obtain ⟨d, ds, hd⟩ := List.exists_cons_of_ne_nil (List.ne_nil_of_length_pos (by simp; omega : 0 < (u.drop i).length))
  have hdu : d ∈ u := List.mem_of_mem_drop (by rw [hd]; exact List.mem_cons_self _ _ : d ∈ u.drop i)
  rw [hd]
  simp only [List.cons_append, List.isPrefixOf, Bool.and_true]
  exact beq_false_of_ne fun e => h (e ▸ hdu)

/-- A one-character separator cuts off a first piece that does not hold it. -/
theorem split_singleton_append (c : Char) (a rest : String) (h : c ∉ a.toList) :
    split (a ++ String.singleton c ++ rest) (String.singleton c) = a :: split rest (String.singleton c) := by
  have hne : String.singleton c ≠ "" := fun e => by simpa using congrArg String.toList e
  simp only [split, if_neg hne]
  show (splitAux [c] (a.toList ++ [c] ++ rest.toList) 0 []).map String.mk = _
  rw [List.append_assoc, splitAux_append_of_not_prefix _ _ _ _ (isPrefixOf_singleton_drop h _), splitAux_sep_append _ _ _ (by simp)]
  simp

theorem split_singleton_of_not_mem (c : Char) (a : String) (h : c ∉ a.toList) :
    split a (String.singleton c) = [a] := by
  have hne : String.singleton c ≠ "" := fun e => by simpa using congrArg String.toList e
  simp only [split, if_neg hne]
  show (splitAux [c] a.toList 0 []).map String.mk = _
  have := splitAux_append_of_not_prefix [c] a.toList [] [] (by simpa using isPrefixOf_singleton_drop h [])
  rw [List.append_nil] at this
  rw [this, splitAux_nil]
  simp

theorem split_cons (s sep : String) (h : sep ≠ "") : ∃ p0 rest, split s sep = p0 :: rest := by
  obtain ⟨x, rest, hx⟩ := splitAux_head sep.toList s.toList 0 []
  exact ⟨_, _, by rw [split, if_neg h, hx, List.map_cons]⟩

/-- A separator that holds a character no character of `u` is and does not
hold `c` starts no match inside `u` or at `c`. -/
theorem isPrefixOf_drop_of_alphabet {sep u w : List Char} {c : Char} {q : Char → Prop}
    (hu : ∀ x ∈ u, q x) (hsep : ∃ x ∈ sep, ¬ q x) (hc : c ∉ sep) :
    ∀ i < (u ++ [c]).length, sep.isPrefixOf ((u ++ [c] ++ w).drop i) = false := by
  intro i hi
  cases hb : sep.isPrefixOf ((u ++ [c] ++ w).drop i)
  · rfl
  · exfalso
    have hp := List.isPrefixOf_iff_prefix.mp hb
    rw [List.append_assoc, List.singleton_append, List.drop_append_of_le_length (by simp at hi; omega)] at hp
    by_cases hl : sep.length ≤ (u.drop i).length
    · obtain ⟨x, hx, hqx⟩ := hsep
      exact hqx (hu x (List.mem_of_mem_drop ((List.prefix_of_prefix_length_le hp (List.prefix_append _ _) hl).subset hx)))
    · obtain ⟨m, hm⟩ : ∃ m, sep.length - (u.drop i).length = m + 1 := ⟨_, (Nat.succ_pred_eq_of_pos (by omega)).symm⟩
      have ht := List.prefix_iff_eq_take.mp hp
      rw [List.take_append_eq_append_take, hm, List.take_succ_cons] at ht
      exact hc (ht ▸ List.mem_append_right _ (List.mem_cons_self _ _))

theorem isPrefixOf_drop_of_first {sep a rest : List Char} (h : ∀ i < a.length, ¬ sep <+: (a ++ sep).drop i) :
    ∀ i < a.length, sep.isPrefixOf ((a ++ (sep ++ rest)).drop i) = false := by
  intro i hi
  cases hb : sep.isPrefixOf ((a ++ (sep ++ rest)).drop i)
  · rfl
  · exfalso
    apply h i hi
    have hp := List.isPrefixOf_iff_prefix.mp hb
    rw [← List.append_assoc, List.drop_append_of_le_length (by simp; omega)] at hp
    exact List.prefix_of_prefix_length_le hp (List.prefix_append _ _) (by simp; omega)

/-- `strings.Contains(s, substr)`. -/
def containsAux (sub : List Char) : List Char → Bool
  | [] => sub.isPrefixOf []
  | c :: cs => sub.isPrefixOf (c :: cs) || containsAux sub cs

def contains (s substr : String) : Bool := containsAux substr.toList s.toList

theorem containsAux_singleton (c : Char) : ∀ l : List Char, containsAux [c] l = decide (c ∈ l)
  | [] => rfl
  | d :: l => by
    simp only [containsAux, containsAux_singleton c l, List.isPrefixOf, Bool.and_true, List.mem_cons]
    rw [Bool.eq_iff_iff]
    simp

theorem contains_singleton (s : String) (c : Char) : contains s (String.singleton c) = decide (c ∈ s.toList) :=
  containsAux_singleton c s.toList

theorem containsAux_of_isPrefixOf {sub : List Char} : ∀ {l : List Char}, sub.isPrefixOf l = true → containsAux sub l = true
  | [], h => h
  | _ :: _, h => by simp [containsAux, h]

theorem containsAux_append (sub w : List Char) : ∀ u : List Char, containsAux sub (u ++ sub ++ w) = true
  | [] => containsAux_of_isPrefixOf (List.isPrefixOf_iff_prefix.mpr (List.prefix_append sub w))
  | _ :: u => by rw [List.cons_append, List.cons_append, containsAux, containsAux_append sub w u, Bool.or_true]

/-- `strings.SplitN(s, sep, 2)` for a one-character separator: the text
before the first `sep` and the rest, or `[s]` when `sep` does not occur. -/
def splitN2 (s : String) (sep : Char) : List String :=
  match s.toList.span (· ≠ sep) with
  | (before, _ :: after) => [String.mk before, String.mk after]
  | (_, []) => [s]

theorem splitN2_of_not_mem (u w : List Char) (c : Char) (h : c ∉ u) :
    splitN2 (String.mk (u ++ c :: w)) c = [String.mk u, String.mk w] := by
  have hu : ∀ a ∈ u, decide (a ≠ c) = true := fun a ha => by simpa using fun e : a = c => h (e ▸ ha)
  have ht : (u ++ c :: w).takeWhile (· ≠ c) = u := by
    rw [List.takeWhile_append_of_pos hu]
    simp
  have hd : (u ++ c :: w).dropWhile (· ≠ c) = c :: w := by
    rw [List.dropWhile_append_of_pos hu]
    simp
  rw [splitN2, show (String.mk (u ++ c :: w)).toList = u ++ c :: w from rfl, List.span_eq_take_drop, ht, hd]

theorem splitN2_getD_zero (s : String) (c : Char) :
    (splitN2 s c).getD 0 "" = String.mk (s.toList.takeWhile (· ≠ c)) := by
  unfold splitN2
  rw [List.span_eq_take_drop]
  split
  · rename_i before x after h; simp only [Prod.mk.injEq] at h; rw [← h.1]; rfl
  · rename_i x h
    simp only [Prod.mk.injEq, List.dropWhile_eq_nil_iff] at h
    rw [List.takeWhile_eq_self_iff.mpr h.2]
    rfl

/-- `SplitN(s, sep, 2)` returns two pieces only around the first `sep`. -/
theorem splitN2_eq_pair {s a b : String} {c : Char} (h : splitN2 s c = [a, b]) :
    s.toList = a.toList ++ c :: b.toList ∧ c ∉ a.toList := by
  unfold splitN2 at h
  rw [List.span_eq_take_drop] at h
  split at h
  · rename_i before x after hsp
    simp only [Prod.mk.injEq] at hsp
    simp only [List.cons.injEq, and_true] at h
    obtain ⟨rfl, rfl⟩ := h
    have hx : x = c := by
      have := List.head?_dropWhile_not (· ≠ c) s.toList
      rw [hsp.2] at this
      simpa using this
    subst hx
    refine ⟨by rw [← List.takeWhile_append_dropWhile (· ≠ x) s.toList, hsp.1, hsp.2]; rfl, fun hm => ?_⟩
    have := List.mem_takeWhile_imp (hsp.1 ▸ hm : x ∈ s.toList.takeWhile (· ≠ x))
    simp at this
  · simp at h

/-- `strings.HasPrefix(s, prefix)`. -/
def hasPrefix (s pre : String) : Bool := pre.toList.isPrefixOf s.toList

/-- `strings.TrimPrefix(s, prefix)`. -/
def trimPrefix (s pre : String) : String :=
  if hasPrefix s pre then String.mk (s.toList.drop pre.length) else s

@[simp] theorem toList_append (a b : String) : (a ++ b).toList = a.toList ++ b.toList := rfl

theorem trimPrefix_append (pre x : String) : trimPrefix (pre ++ x) pre = x := by
  have h : hasPrefix (pre ++ x) pre = true :=
    List.isPrefixOf_iff_prefix.mpr (List.prefix_append pre.toList x.toList)
  rw [trimPrefix, if_pos h]
  exact String.ext (List.drop_left _ _)

/-- `strings.ToLower`, on ASCII letters. The package only compares its
result with `"latest"` and `"current"`; the non-ASCII letters that Go
lower-cases to ASCII are U+0130 (to `i`) and U+212A (to `k`), which occur
in neither word, so the comparison is exact. -/
def toLower (s : String) : String := String.mk (s.toList.map Char.toLower)

theorem toLower_of_isDigit {c : Char} (h : c.isDigit = true) : c.toLower = c := by
  simp only [Char.isDigit, Bool.and_eq_true, decide_eq_true_eq] at h
  have h1 : 48 ≤ c.toNat ∧ c.toNat ≤ 57 := h
  unfold Char.toLower
  rw [if_neg]
  intro h2
  have h3 : 65 ≤ c.toNat ∧ c.toNat ≤ 90 := by simpa using h2
  omega

/-- The value of a non-empty run of ASCII decimal digits. -/
def digitsValue (ds : List Char) : Option Nat :=
  if ds ≠ [] ∧ ds.all Char.isDigit = true then
    some (ds.foldl (fun n c => 10 * n + (c.toNat - '0'.toNat)) 0)
  else none

/-- `strconv.Atoi(s)`: `none` for a syntax or range error; the bound is 2^63. -/
def atoi (s : String) : Option Int :=
  match s.toList with
  | '-' :: ds => (digitsValue ds).bind fun n => if n ≤ 9223372036854775808 then some (-(n : Int)) else none
  | '+' :: ds => (digitsValue ds).bind fun n => if n < 9223372036854775808 then some (n : Int) else none
  | ds => (digitsValue ds).bind fun n => if n < 9223372036854775808 then some (n : Int) else none

/-- `fmt.Sprintf("%d", n)`. -/
def formatInt (n : Int) : String := toString n

theorem toDigitsCore_succ (fuel n : Nat) (ds : List Char) :
    Nat.toDigitsCore 10 (fuel + 1) n ds =
      if n / 10 = 0 then Nat.digitChar (n % 10) :: ds
      else Nat.toDigitsCore 10 fuel (n / 10) (Nat.digitChar (n % 10) :: ds) := rfl

theorem toDigitsCore_append : ∀ (fuel n : Nat) (ds : List Char), n < fuel →
    Nat.toDigitsCore 10 fuel n ds = Nat.toDigitsCore 10 fuel n [] ++ ds
  | 0, _, _, h => absurd h (Nat.not_lt_zero _)
  | fuel + 1, n, ds, h => by
    rw [toDigitsCore_succ, toDigitsCore_succ]
    split
    · rfl
    · rw [toDigitsCore_append fuel (n / 10) _ (by omega),
        toDigitsCore_append fuel (n / 10) [_] (by omega)]
      simp

theorem toDigitsCore_fuel : ∀ (f g n : Nat), n < f → n < g →
    Nat.toDigitsCore 10 f n [] = Nat.toDigitsCore 10 g n []
  | 0, _, _, h, _ => absurd h (Nat.not_lt_zero _)
  | _, 0, _, _, h => absurd h (Nat.not_lt_zero _)
  | f + 1, g + 1, n, hf, hg => by
    rw [toDigitsCore_succ, toDigitsCore_succ]
    split
    · rfl
    · rw [toDigitsCore_append f (n / 10) _ (by omega), toDigitsCore_append g (n / 10) _ (by omega),
        toDigitsCore_fuel f g (n / 10) (by omega) (by omega)]

theorem toDigits_ten (n : Nat) :
    Nat.toDigits 10 n = (if n < 10 then [] else Nat.toDigits 10 (n / 10)) ++ [Nat.digitChar (n % 10)] := by
  unfold Nat.toDigits
  rw [toDigitsCore_succ]
  split
  · rw [if_pos (by omega)]; rfl
  · rw [if_neg (by omega), toDigitsCore_append n (n / 10) _ (by omega),
      toDigitsCore_fuel n (n / 10 + 1) (n / 10) (by omega) (by omega)]

theorem digitChar_spec : ∀ d : Fin 10, (Nat.digitChar d).isDigit = true ∧
    (Nat.digitChar d).toNat - '0'.toNat = d := by decide

/-- `%d` writes decimal digits whose value, read left to right, is `n`. -/
theorem toDigits_ten_spec (n : Nat) :
    (∀ c ∈ Nat.toDigits 10 n, c.isDigit = true) ∧
      (Nat.toDigits 10 n).foldl (fun n c => 10 * n + (c.toNat - '0'.toNat)) 0 = n := by
  induction n using Nat.strongRecOn with
  | ind n ih =>
    have hd := digitChar_spec ⟨n % 10, Nat.mod_lt _ (by omega)⟩
    rw [toDigits_ten]
    split
    · simp only [List.nil_append, List.mem_singleton, forall_eq, List.foldl_cons, List.foldl_nil]
      exact ⟨hd.1, by rw [hd.2]; simp; omega⟩
    · obtain ⟨h1, h2⟩ := ih (n / 10) (by omega)
      simp only [List.mem_append, List.mem_singleton, List.foldl_append, h2, List.foldl_cons,
        List.foldl_nil]
      refine ⟨fun c hc => hc.elim (h1 c) (fun h => h ▸ hd.1), ?_⟩
      rw [hd.2]; simp only; omega

theorem formatInt_toList (n : Nat) : (formatInt n).toList = Nat.toDigits 10 n := rfl

theorem not_mem_formatInt (n : Nat) {c : Char} (hc : c.isDigit = false) : c ∉ (formatInt n).toList :=
  fun h => by rw [(toDigits_ten_spec n).1 c h] at hc; exact Bool.noConfusion hc

theorem atoi_formatInt (n : Int) (h0 : 0 ≤ n) (h : n < 9223372036854775808) : atoi (formatInt n) = some n := by
  obtain ⟨k, rfl⟩ := Int.eq_ofNat_of_zero_le h0
  obtain ⟨hdig, hval⟩ := toDigits_ten_spec k
  have hne : Nat.toDigits 10 k ≠ [] := by rw [toDigits_ten]; simp
  have hv : digitsValue (Nat.toDigits 10 k) = some k := by
    rw [digitsValue, if_pos ⟨hne, List.all_eq_true.mpr hdig⟩, hval]
  unfold atoi
  rw [formatInt_toList]
  obtain ⟨c, cs, hcs⟩ := List.exists_cons_of_ne_nil hne
  have hc := hdig c (by simp [hcs])
  split
  · rename_i ds heq; rw [hcs, List.cons.injEq] at heq; rw [heq.1] at hc; exact absurd hc (by decide)
  · rename_i ds heq; rw [hcs, List.cons.injEq] at heq; rw [heq.1] at hc; exact absurd hc (by decide)
  · rw [hv, Option.some_bind, if_pos (by omega)]

/-- A Go `map[string]α`. -/
abbrev GoMap (α : Type) := AList (fun _ : String => α)

/-- The `(key, value)` pairs of a map, in iteration order. -/
def GoMap.pairs {α : Type} (m : GoMap α) : List (String × α) := m.entries.map fun e => (e.1, e.2)

theorem GoMap.mem_pairs {α : Type} {m : GoMap α} {k : String} {v : α} :
    (k, v) ∈ m.pairs ↔ m.lookup k = some v := by
  rw [← Option.mem_def, AList.mem_lookup_iff]
  simp [GoMap.pairs]

/-- `m[k]` on a map of `int64` counters: the zero value when `k` is
absent. -/
def GoMap.count (m : GoMap Int) (k : String) : Int := (m.lookup k).getD 0

/-! ## `int64` and `int32` -/

/-- Go's `int64` wrap onto `[-2^63, 2^63)`. -/
def wrap64 (x : Int) : Int := (x + 2 ^ 63) % 2 ^ 64 - 2 ^ 63

/-- `current + delta` on `int64`, as `+`, `+=`, `++` and `atomic.Int64.Add`
compute it: two's-complement wrap. -/
def add64 (current delta : Int) : Int := wrap64 (current + delta)

/-- Go's conversion of an integer to `int32` (`rune(n)`): the low 32 bits,
read as a signed number. -/
def wrap32 (x : Int) : Int := (x + 2 ^ 31) % 2 ^ 32 - 2 ^ 31

theorem add64_wrap64 (a b : Int) : add64 (wrap64 a) b = wrap64 (a + b) := by
  unfold add64 wrap64; omega

theorem wrap64_of_lt {x : Int} (h0 : -2 ^ 63 ≤ x) (h1 : x < 2 ^ 63) : wrap64 x = x := by
  unfold wrap64; omega

theorem foldl_add64 (l : List Int) (a : Int) : l.foldl add64 (wrap64 a) = wrap64 (a + l.sum) := by
  induction l generalizing a with
  | nil => simp
  | cons x l ih => rw [List.foldl_cons, add64_wrap64, ih, List.sum_cons, Int.add_assoc]

end Gochoreo
