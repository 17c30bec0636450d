import Gochoreo.L6Client.Dragonfly.Info

/-!
# Dragonfly helper functions

`FormatBytes`, `ValidateAddress`, `NormalizeAddress`, `BuildRedisKey` and
`SplitRedisKey` of package `dragonfly` (src/pkg/dragonfly/utils.go:165-313).
`FormatBytes` returns what it prints, with `float64` conversion and `%.1f`
rounding half to even, and `none` for the panic of an index out of range. An error is its text, `none` for nil; the text of `strconv.Atoi`'s
error, which quotes its input, is a parameter.

**Results.**
* `formatBytes_scaled`: every `int64` of at least 1024 bytes is shown in
  the largest power of 1024 at most its size, with a letter of `"KMGTPE"`:
  `FormatBytes` never panics, its divisor never overflows, and the number
  it prints lies in [1.0, 1024.0]: 1048575 bytes are "1024.0 KB".
* `split_eq_pair_iff`: `strings.Split` on one character returns two pieces
  exactly around its only occurrence.
* `splitRedisKey_buildRedisKey`, `buildRedisKey_splitRedisKey`: the two key
  functions undo each other exactly when the namespace holds no `:` and
  the key does not start with one.
* `validateAddress_eq_none_iff`: `ValidateAddress` accepts exactly
  `host:port` with a non-empty host and a port from 1 to 65535.
* `validateAddress_normalizeAddress`: `NormalizeAddress` makes a valid
  address of every non-empty host without a port, and keeps every valid
  address.
-/
namespace Gochoreo.Dragonfly

/-! ## `FormatBytes` -/

/-- The loop of FormatBytes (`for n := bytes / unit; n >= unit; n /= unit`):
while n is at least the unit, divide it by the unit, multiply div by it
and count exp. The loop only runs on positive n, where Go's truncating
division is /. -/
def formatBytesLoop (n div : Int) (exp : Nat) : Int × Nat :=
  if n ≥ 1024 then formatBytesLoop (n / 1024) (wrap64 (div * 1024)) (exp + 1) else (div, exp)
termination_by n.toNat
decreasing_by omega

/-- `a / b` rounded to the nearest integer, ties to even: how Go rounds an
`int64` to a `float64`, and a `float64` to the digits of `%.1f`. -/
def roundHalfEven (a b : Nat) : Nat :=
  if 2 * (a % b) < b then a / b
  else if b < 2 * (a % b) then a / b + 1
  else if a / b % 2 = 0 then a / b else a / b + 1

/-- Go's `float64(n)` for a non-negative integer `n`, as the integer it
rounds to: a `float64` keeps 53 significant bits. -/
def float64OfNat (n : Nat) : Nat :=
  if n < 2 ^ 53 then n else roundHalfEven n (2 ^ (n.log2 - 52)) * 2 ^ (n.log2 - 52)

/-- `%.1f` of a non-negative number that rounds to `t` tenths. -/
def formatTenths (t : Nat) : String := toString (t / 10) ++ "." ++ toString (t % 10)

/-- What `fmt.Sprintf("%.1f %cB", float64(bytes)/float64(div), unit)`
prints for a power of two `div`: dividing by it is exact, so the number
printed is `float64(bytes) / div` rounded to tenths. -/
def sprintfScaled (bytes div : Nat) (unit : Char) : String :=
  formatTenths (roundHalfEven (10 * float64OfNat bytes) div) ++ " " ++ String.singleton unit ++ "B"

/-- mirrors src/pkg/dragonfly/utils.go:166-179 (`FormatBytes`); none is the
panic of "KMGTPE"[exp] out of range. -/
def formatBytes (bytes : Int) : Option String :=
  if bytes < 1024 then some (toString bytes ++ " B")
  else
    let (div, exp) := formatBytesLoop (bytes / 1024) 1024 0
    ("KMGTPE".toList[exp]?).map (sprintfScaled bytes.toNat div.toNat)

theorem div_le_roundHalfEven (a b : Nat) : a / b ≤ roundHalfEven a b := by
  unfold roundHalfEven; split_ifs <;> omega

theorem roundHalfEven_le {a b k : Nat} (hb : 0 < b) (h : a ≤ k * b) : roundHalfEven a b ≤ k := by
  have hq : a / b ≤ k := Nat.div_le_of_le_mul (by rwa [Nat.mul_comm])
  have hdm := Nat.div_add_mod a b
  rcases Nat.lt_or_eq_of_le hq with hlt | heq
  · unfold roundHalfEven; split_ifs <;> omega
  · -- a quotient of `k` leaves no remainder
    rw [heq, Nat.mul_comm] at hdm
    have hr : a % b = 0 := by omega
    unfold roundHalfEven
    rw [hr, if_pos (by omega)]
    exact hq

theorem le_roundHalfEven {a b k : Nat} (hb : 0 < b) (h : k * b ≤ a) : k ≤ roundHalfEven a b :=
  (Nat.le_div_iff_mul_le hb).mpr h |>.trans (div_le_roundHalfEven a b)

theorem pow_le_float64OfNat {n p : Nat} (h : 2 ^ p ≤ n) : 2 ^ p ≤ float64OfNat n := by
  unfold float64OfNat
  split
  · exact h
  · have hn : n ≠ 0 := by omega
    have hlog : p ≤ n.log2 := (Nat.le_log2 hn).mpr h
    have hsplit : 2 ^ n.log2 = 2 ^ 52 * 2 ^ (n.log2 - 52) := by
      have : 53 ≤ n.log2 := (Nat.le_log2 hn).mpr (by omega)
      rw [← Nat.pow_add]; congr 1; omega
    calc 2 ^ p ≤ 2 ^ n.log2 := Nat.pow_le_pow_right (by decide) hlog
      _ = 2 ^ 52 * 2 ^ (n.log2 - 52) := hsplit
      _ ≤ _ := Nat.mul_le_mul_right _ (le_roundHalfEven (Nat.two_pow_pos _) (hsplit ▸ Nat.log2_self_le hn))

/-- and every power of two above `n` above it. -/
theorem float64OfNat_le_pow {n q : Nat} (h : n ≤ 2 ^ q) : float64OfNat n ≤ 2 ^ q := by
  unfold float64OfNat
  split
  · exact h
  · have hn : n ≠ 0 := by omega
    have hlog : n.log2 ≤ q :=
      Nat.lt_succ_iff.mp ((Nat.log2_lt hn).mpr (Nat.lt_of_le_of_lt h (Nat.pow_lt_pow_succ (by decide))))
    have hsplit : 2 ^ q = 2 ^ (q - (n.log2 - 52)) * 2 ^ (n.log2 - 52) := by rw [← Nat.pow_add]; congr 1; omega
    rw [hsplit]
    exact Nat.mul_le_mul_right _ (roundHalfEven_le (Nat.two_pow_pos _) (hsplit ▸ h))

theorem ediv_ediv_of_nonneg {a b c : Int} (ha : 0 ≤ a) (hb : 0 ≤ b) (hc : 0 ≤ c) : a / b / c = a / (b * c) := by
  obtain ⟨a, rfl⟩ := Int.eq_ofNat_of_zero_le ha
  obtain ⟨b, rfl⟩ := Int.eq_ofNat_of_zero_le hb
  obtain ⟨c, rfl⟩ := Int.eq_ofNat_of_zero_le hc
  exact_mod_cast Nat.div_div_eq_div_mul a b c

/-- The loop keeps n = bytes / div with div a power of the unit, and stops
at the largest power of the unit that is at most bytes; div never
overflows. -/
theorem formatBytesLoop_spec {bytes : Int} (hb : bytes < 2 ^ 63) (n div : Int) (exp : Nat)
    (hdiv : div = 1024 ^ (exp + 1)) (hn : n = bytes / div) (hle : div ≤ bytes) :
    ∃ j, formatBytesLoop n div exp = (1024 ^ (j + 1), j) ∧ 1024 ^ (j + 1) ≤ bytes ∧ bytes < 1024 ^ (j + 2) := by
  have hpos : (0 : Int) < div := hdiv ▸ by exact_mod_cast Nat.pos_pow_of_pos (exp + 1) (by decide : 0 < 1024)
  induction n, div, exp using formatBytesLoop.induct with
  | case1 n div exp h ih =>
    have hmul : 1024 * div ≤ bytes := (Int.le_ediv_iff_mul_le hpos).mp (hn ▸ h)
    have hwrap : wrap64 (div * 1024) = div * 1024 := wrap64_of_lt (by omega) (by omega)
    rw [formatBytesLoop, if_pos h]
    refine ih ?_ ?_ ?_ ?_ <;> rw [hwrap]
    · rw [hdiv, pow_succ _ (exp + 1)]
    · rw [hn, ediv_ediv_of_nonneg (by omega) hpos.le (by decide)]
    · omega
    · omega
  | case2 n div exp h =>
    have hlt : bytes < 1024 * div := (Int.ediv_lt_iff_lt_mul hpos).mp (by omega)
    rw [formatBytesLoop, if_neg h]
    exact ⟨exp, by rw [hdiv], hdiv ▸ hle, by rw [pow_succ, ← hdiv]; omega⟩

/-- FormatBytes never indexes "KMGTPE" out of range: every int64 of at
least 1024 bytes is shown in the largest unit (a power of 1024) that is at
most its size. The quotient lies in [1, 1024), but `float64` and `%.1f`
round it, so the number printed lies in [1.0, 1024.0]. -/
theorem formatBytes_scaled {bytes : Int} (h1024 : 1024 ≤ bytes) (hb : bytes < 2 ^ 63) :
    ∃ exp < 6, formatBytes bytes = some (sprintfScaled bytes.toNat (1024 ^ (exp + 1)) ("KMGTPE".toList.getD exp ' ')) ∧
      1024 ^ (exp + 1) ≤ bytes ∧ bytes < 1024 ^ (exp + 2) ∧
      10 ≤ roundHalfEven (10 * float64OfNat bytes.toNat) (1024 ^ (exp + 1)) ∧
      roundHalfEven (10 * float64OfNat bytes.toNat) (1024 ^ (exp + 1)) ≤ 10240 := by
  obtain ⟨j, hloop, hlo, hhi⟩ := formatBytesLoop_spec hb (bytes / 1024) 1024 0 rfl rfl h1024
  have h7 : (1024 : Int) ^ 7 ≤ 1024 ^ (j + 1) → False := fun h => by
    have : (1024 : Int) ^ 7 = 1180591620717411303424 := rfl
    omega
  have hj : j < 6 := Nat.lt_of_not_le fun hj => h7 (by exact_mod_cast Nat.pow_le_pow_right (by decide) (by omega))
  -- the unit is a power of two, and the size lies between it and 1024 times it
  have hpow : ∀ k, (1024 : Nat) ^ k = 2 ^ (10 * k) := fun k => by rw [Nat.pow_mul]
  have hlo' : 1024 ^ (j + 1) ≤ bytes.toNat := by
    have : ((1024 ^ (j + 1) : Nat) : Int) ≤ bytes := by push_cast; exact hlo
    omega
  have hhi' : bytes.toNat ≤ 1024 ^ (j + 1) * 1024 := by
    have : bytes < ((1024 ^ (j + 1) * 1024 : Nat) : Int) := by push_cast; exact (pow_succ (1024 : Int) (j + 1)) ▸ hhi
    omega
  have hpos : 0 < 1024 ^ (j + 1) := Nat.pos_pow_of_pos _ (by decide)
  refine ⟨j, hj, ?_, hlo, hhi, le_roundHalfEven hpos ?_, roundHalfEven_le hpos ?_⟩
  · rw [formatBytes, if_neg (by omega), hloop]
    obtain _ | _ | _ | _ | _ | _ | j := j <;> first | rfl | omega
  · have := pow_le_float64OfNat (hpow _ ▸ hlo')
    rw [← hpow] at this
    omega
  · have hq : bytes.toNat ≤ 2 ^ (10 * (j + 2)) := by rw [← hpow, pow_succ]; exact hhi'
    have := float64OfNat_le_pow hq
    rw [← hpow, pow_succ] at this
    omega

/-- One byte short of a mebibyte is printed as 1024.0 KB: the quotient
1023.999... rounds up. -/
theorem formatBytes_mib_minus_one :
    (1024 : Int) ≤ 1048575 ∧ (1048575 : Int) < 2 ^ 63 ∧
      ∃ exp < 6, formatBytes 1048575 = some (sprintfScaled 1048575 (1024 ^ (exp + 1)) ("KMGTPE".toList.getD exp ' ')) ∧
        1024 ^ (exp + 1) ≤ (1048575 : Int) ∧ (1048575 : Int) < 1024 ^ (exp + 2) ∧
        10 ≤ roundHalfEven (10 * float64OfNat 1048575) (1024 ^ (exp + 1)) ∧
        roundHalfEven (10 * float64OfNat 1048575) (1024 ^ (exp + 1)) ≤ 10240 :=
  ⟨by decide, by decide, formatBytes_scaled (by decide) (by decide)⟩

example : sprintfScaled 1048575 1024 'K' = "1024.0 KB" ∧ sprintfScaled 1280 1024 'K' = "1.2 KB" := by decide

/-! ## `SplitN` and `Split` on one character -/

theorem splitN2_eq_singleton {s : String} {c : Char} (h : c ∉ s.toList) : splitN2 s c = [s] := by
  have hd : s.toList.dropWhile (· ≠ c) = [] :=
    List.dropWhile_eq_nil_iff.mpr fun x hx => decide_eq_true fun (e : x = c) => h (e ▸ hx)
  unfold splitN2
  rw [List.span_eq_take_drop, hd]

theorem splitN2_of_mem {s : String} {c : Char} (h : c ∈ s.toList) : ∃ a b, splitN2 s c = [a, b] := by
  unfold splitN2
  rw [List.span_eq_take_drop]
  split
  · exact ⟨_, _, rfl⟩
  · rename_i hx
    simp only [Prod.mk.injEq, List.dropWhile_eq_nil_iff] at hx
    simpa using hx.2 c h

theorem eq_append_of_mem {s : String} {c : Char} (h : c ∈ s.toList) :
    ∃ a b, splitN2 s c = [a, b] ∧ s = a ++ String.singleton c ++ b ∧ c ∉ a.toList := by
  obtain ⟨a, b, hs⟩ := splitN2_of_mem h
  obtain ⟨he, ha⟩ := splitN2_eq_pair hs
  exact ⟨a, b, hs, String.ext (by show s.toList = (a ++ String.singleton c ++ b).toList; rw [he]; simp), ha⟩

theorem split_eq_singleton_iff {s p : String} {c : Char} :
    split s (String.singleton c) = [p] ↔ c ∉ s.toList ∧ p = s := by
  constructor
  · intro h
    by_cases hc : c ∈ s.toList
    · obtain ⟨a, b, -, rfl, ha⟩ := eq_append_of_mem hc
      obtain ⟨q, rest, hq⟩ := split_cons b (String.singleton c) fun e => by simpa using congrArg String.toList e
      rw [split_singleton_append _ _ _ ha, hq] at h
      simp at h
    · rw [split_singleton_of_not_mem _ _ hc, List.singleton_inj] at h
      exact ⟨hc, h.symm⟩
  · rintro ⟨hc, rfl⟩
    exact split_singleton_of_not_mem _ _ hc

/-- Split on a character returns two pieces exactly around its only
occurrence. -/
theorem split_eq_pair_iff {s a b : String} {c : Char} :
    split s (String.singleton c) = [a, b] ↔ s = a ++ String.singleton c ++ b ∧ c ∉ a.toList ∧ c ∉ b.toList := by
  constructor
  · intro h
    by_cases hc : c ∈ s.toList
    · obtain ⟨a', b', -, rfl, ha⟩ := eq_append_of_mem hc
      rw [split_singleton_append _ _ _ ha, List.cons.injEq] at h
      obtain ⟨rfl, hb⟩ := h
      obtain ⟨hb, rfl⟩ := split_eq_singleton_iff.mp hb
      exact ⟨rfl, ha, hb⟩
    · rw [split_singleton_of_not_mem _ _ hc] at h
      simp at h
  · rintro ⟨rfl, ha, hb⟩
    rw [split_singleton_append _ _ _ ha, split_singleton_of_not_mem _ _ hb]

/-! ## `BuildRedisKey` and `SplitRedisKey` -/

/-- mirrors src/pkg/dragonfly/utils.go:299-304 (`BuildRedisKey`) -/
def buildRedisKey (ns key : String) : String :=
  if ns = "" then key else ns ++ ":" ++ key

/-- mirrors src/pkg/dragonfly/utils.go:307-313 (`SplitRedisKey`) -/
def splitRedisKey (fullKey : String) : String × String :=
  match splitN2 fullKey ':' with
  | [ns, key] => (ns, key)
  | _ => ("", fullKey)

theorem length_lt_of_eq_append {s a b : String} {c : Char} (h : s = a ++ String.singleton c ++ b) :
    b.length < s.length := by
  have := congrArg String.length h
  simp only [String.length_append, String.length_singleton] at this
  omega

/-- SplitRedisKey takes apart what BuildRedisKey joins exactly when
the namespace (or, with no namespace, the key) holds no ':'. -/
theorem splitRedisKey_buildRedisKey (ns key : String) :
    splitRedisKey (buildRedisKey ns key) = (ns, key) ↔
      ':' ∉ (if ns = "" then key else ns).toList := by
  unfold buildRedisKey splitRedisKey
  by_cases hn : ns = ""
  · subst hn
    simp only [if_true]
    by_cases hk : ':' ∈ key.toList
    · obtain ⟨a, b, hs, he, -⟩ := eq_append_of_mem hk
      rw [hs]
      refine iff_of_false (fun h => ?_) (not_not.mpr hk)
      have := length_lt_of_eq_append he
      simp only [Prod.mk.injEq] at h
      rw [h.2] at this
      exact Nat.lt_irrefl _ this
    · rw [splitN2_eq_singleton hk]
      exact iff_of_true rfl hk
  · simp only [if_neg hn]
    by_cases hm : ':' ∈ ns.toList
    · refine iff_of_false (fun h => ?_) (not_not.mpr hm)
      obtain ⟨a, b, hs, -, ha⟩ :=
        eq_append_of_mem (by simp [hm] : ':' ∈ (ns ++ ":" ++ key).toList)
      rw [hs, Prod.mk.injEq] at h
      exact ha (h.1 ▸ hm)
    · rw [show ns ++ ":" ++ key = ns ++ String.singleton ':' ++ key from rfl, splitN2_append _ hm]
      exact iff_of_true rfl hm

/-- BuildRedisKey puts back together what SplitRedisKey takes apart,
unless the key starts with ':' (an empty namespace, which BuildRedisKey
drops). -/
theorem buildRedisKey_splitRedisKey (fullKey : String) :
    buildRedisKey (splitRedisKey fullKey).1 (splitRedisKey fullKey).2 = fullKey ↔
      fullKey.toList.head? ≠ some ':' := by
  by_cases hc : ':' ∈ fullKey.toList
  · obtain ⟨a, b, hs, he, ha⟩ := eq_append_of_mem hc
    simp only [splitRedisKey, hs, buildRedisKey]
    by_cases hae : a = ""
    · subst hae
      have hlt := length_lt_of_eq_append he
      refine iff_of_false (fun h => Nat.lt_irrefl _ (h ▸ hlt)) (by rw [he]; simp)
    · rw [if_neg hae, he]
      refine iff_of_true rfl ?_
      obtain ⟨d, ds, hd⟩ := List.exists_cons_of_ne_nil (mt String.ext hae)
      have hd' : d ≠ ':' := fun e => ha (by show ':' ∈ a.data; rw [hd, e]; exact List.mem_cons_self _ _)
      simpa [hd] using hd'
  · simp only [splitRedisKey, splitN2_eq_singleton hc, buildRedisKey, if_true, true_iff]
    exact fun h => hc (List.mem_of_mem_head? h)

/-! ## `ValidateAddress` and `NormalizeAddress` -/

/-- mirrors src/pkg/dragonfly/utils.go:196-222 (`ValidateAddress`): the text
of the error, none for nil. The invalid-port error wraps the error of
strconv.Atoi, whose text (it quotes the port) is `atoiError portStr`. -/
def validateAddress (atoiError : String → String) (address : String) : Option String :=
  if address = "" then some "address cannot be empty"
  else match split address ":" with
    | [host, portStr] =>
      if host = "" then some "host cannot be empty"
      else match atoi portStr with
        | none => some ("invalid port: " ++ atoiError portStr)
        | some port => if port < 1 ∨ port > 65535 then some "port must be between 1 and 65535" else none
    | _ => some "address must be in format host:port"

/-- mirrors src/pkg/dragonfly/utils.go:225-231 (`NormalizeAddress`) -/
def normalizeAddress (address : String) : String :=
  if Gochoreo.contains address ":" then address else address ++ ":6379"

theorem validateAddress_none_iff (atoiError : String → String) (address : String) :
    validateAddress atoiError address = none ↔
      ∃ host portStr port, address = host ++ ":" ++ portStr ∧ host ≠ "" ∧ ':' ∉ host.toList ∧
        ':' ∉ portStr.toList ∧ atoi portStr = some port ∧ 1 ≤ port ∧ port ≤ 65535 := by
  rw [validateAddress, show (":" : String) = String.singleton ':' from rfl]
  constructor
  · intro h
    split at h
    · cases h
    · split at h
      · rename_i host portStr hsplit
        obtain ⟨rfl, hh, hp⟩ := split_eq_pair_iff.mp hsplit
        split at h
        · cases h
        · rename_i hne
          split at h
          · cases h
          · rename_i port hport
            split at h
            · cases h
            · rename_i hrange
              exact ⟨host, portStr, port, rfl, hne, hh, hp, hport, by omega, by omega⟩
      · cases h
  · rintro ⟨host, portStr, port, rfl, hne, hh, hp, hport, h1, h2⟩
    have hsplit : split (host ++ String.singleton ':' ++ portStr) (String.singleton ':') = [host, portStr] :=
      split_eq_pair_iff.mpr ⟨rfl, hh, hp⟩
    have hnonempty : host ++ String.singleton ':' ++ portStr ≠ "" := fun e => by
      simpa using congrArg String.length e
    rw [if_neg hnonempty, hsplit]
    simp only [if_neg hne, hport]
    rw [if_neg (by omega)]

/-- ValidateAddress accepts exactly a non-empty host and a port from 1 to
65535 that Atoi reads, joined by the only ':' of the address. -/
theorem validateAddress_eq_none_iff (atoiError : String → String) (address : String) :
    validateAddress atoiError address = none ↔
      ∃ host portStr port, address = host ++ ":" ++ portStr ∧ host ≠ "" ∧ ':' ∉ host.toList ∧
        ':' ∉ portStr.toList ∧ atoi portStr = some port ∧ 1 ≤ port ∧ port ≤ 65535 :=
  validateAddress_none_iff atoiError address

/-- NormalizeAddress gives a host without a port the default port 6379,
which ValidateAddress accepts whenever the host is not empty, and leaves
every address that ValidateAddress accepts as it is. -/
theorem validateAddress_normalizeAddress (atoiError : String → String) :
    (∀ host : String, ':' ∉ host.toList →
      (validateAddress atoiError (normalizeAddress host) = none ↔ host ≠ "")) ∧
    ∀ address, validateAddress atoiError address = none → normalizeAddress address = address := by
  have hcolon : ∀ s : String, Gochoreo.contains s ":" = decide (':' ∈ s.toList) := fun s =>
    contains_singleton s ':'
  refine ⟨fun host hh => ?_, fun address h => ?_⟩
  · have e : host ++ ":6379" = host ++ String.singleton ':' ++ "6379" := by rw [String.append_assoc]; rfl
    rw [normalizeAddress, hcolon, decide_eq_false hh, if_neg Bool.false_ne_true, validateAddress_none_iff]
    constructor
    · rintro ⟨host', portStr, port, he, hne, hh', -⟩
      have hpair := congrArg (splitN2 · ':') (e.symm.trans he)
      simp only [splitN2_append _ hh, show host' ++ ":" ++ portStr = host' ++ String.singleton ':' ++ portStr from rfl,
        splitN2_append _ hh', List.cons.injEq] at hpair
      exact hpair.1 ▸ hne
    · intro hne
      exact ⟨host, "6379", 6379, e, hne, hh, by decide, by decide, by decide, by decide⟩
  · obtain ⟨host, portStr, port, rfl, -⟩ := (validateAddress_none_iff atoiError address).mp h
    rw [normalizeAddress, hcolon, decide_eq_true (by simp)]
    rfl

end Gochoreo.Dragonfly
