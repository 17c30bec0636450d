import Gochoreo.L6Client.Dragonfly.Config

/-!
# The connection settings of package `postgres`

`Config` (src/pkg/postgres/config.go:47-119), its presets, `ToConnectionString`
(233-294) and `Validate` (331-364), with the validation errors of the package
(its errors.go, src/pkg/postgres/README.md:630-645).

`ToConnectionString` writes a libpq `key=value` pair for each setting that is
set. It writes the port and the connect timeout with Go's `string(rune(n))`,
which is the one character whose code point is `n`, not the decimal digits
of `n`.

**Results.**
* `validate_eq_none_iff`: what `Validate` accepts; the four presets pass
  it.
* `toConnectionString_port`: for every config with no `DatabaseURL` and a
  positive port, the string starts with the host, then `port=` and one
  character: the low 32 bits of the port as a code point, or U+FFFD; read
  as a number, that character gives nothing, or 0 to 9: never the port.

Only the fields `ToConnectionString` and `Validate` read are modelled. The
custom parameters are written in the map's entry order, one of the orders a
Go `range` may take. `int(ConnectTimeout.Seconds())` is the whole number of
seconds; Go computes it through a `float64`, which gives the same number
below 2^24 seconds.
-/
namespace Gochoreo.Postgres

open Dragonfly (second)

/-- `SSLModePrefer` (src/pkg/postgres/config.go:19) -/
def sslModePrefer : String := "prefer"

/-- `SSLModeRequire` (src/pkg/postgres/config.go:20) -/
def sslModeRequire : String := "require"

/-- The fields of `Config` (src/pkg/postgres/config.go:47-119) that
`ToConnectionString` and `Validate` read; durations are nanoseconds. -/
structure Config where
  host : String := ""
  port : Int := 0
  database : String := ""
  user : String := ""
  password : String := ""
  databaseURL : String := ""
  sslMode : String := ""
  sslCert : String := ""
  sslKey : String := ""
  sslRootCert : String := ""
  sslServerName : String := ""
  maxConnections : Int := 0
  minConnections : Int := 0
  connectTimeout : Int := 0
  applicationName : String := ""
  searchPath : String := ""
  timezone : String := ""
  customParams : GoMap String := ∅

/-- mirrors src/pkg/postgres/config.go:122-184 (`DefaultConfig`) -/
def defaultConfig : Config where
  host := "localhost"
  port := 5432
  database := "postgres"
  user := "postgres"
  password := ""
  sslMode := sslModePrefer
  maxConnections := 30
  minConnections := 2
  connectTimeout := 30 * second
  applicationName := "gochoreo-postgres-client"
  searchPath := "public"
  timezone := "UTC"

/-- mirrors src/pkg/postgres/config.go:187-198 (`DevelopmentConfig`) -/
def developmentConfig : Config :=
  { defaultConfig with database := "dev_db", maxConnections := 10, minConnections := 1 }

/-- mirrors src/pkg/postgres/config.go:201-217 (`ProductionConfig`) -/
def productionConfig : Config :=
  { defaultConfig with sslMode := sslModeRequire, maxConnections := 50, minConnections := 5 }

/-- mirrors src/pkg/postgres/config.go:220-230 (`TestConfig`) -/
def testConfig : Config :=
  { defaultConfig with database := "test_db", maxConnections := 5, minConnections := 1,
                       connectTimeout := 5 * second }

/-! ## `ToConnectionString` -/

/-- Go's `string(rune(n))` for an integer `n`: `rune(n)` keeps the low 32
bits as a signed value, and a value that is no Unicode scalar value becomes
U+FFFD. -/
def goRune (n : Int) : Char :=
  if h : 0 ≤ wrap32 n ∧ (wrap32 n).toNat.isValidChar then Char.ofNatAux (wrap32 n).toNat h.2 else '\uFFFD'

/-- `key=value ` when `value` is set, as `ToConnectionString` writes each
optional string setting. -/
def param (key value : String) : String := if value = "" then "" else key ++ "=" ++ value ++ " "

/-- mirrors src/pkg/postgres/config.go:233-294 (`ToConnectionString`) -/
def Config.toConnectionString (c : Config) : String :=
  if c.databaseURL ≠ "" then c.databaseURL
  else
    param "host" c.host ++
    (if c.port > 0 then "port=" ++ String.singleton (goRune c.port) ++ " " else "") ++
    param "dbname" c.database ++
    param "user" c.user ++
    param "password" c.password ++
    ("sslmode=" ++ c.sslMode ++ " ") ++
    param "sslcert" c.sslCert ++
    param "sslkey" c.sslKey ++
    param "sslrootcert" c.sslRootCert ++
    param "sslservername" c.sslServerName ++
    (if c.connectTimeout > 0 then
      "connect_timeout=" ++ String.singleton (goRune (c.connectTimeout / second)) ++ " " else "") ++
    param "application_name" c.applicationName ++
    param "search_path" c.searchPath ++
    param "timezone" c.timezone ++
    String.join (c.customParams.entries.map fun e => e.1 ++ "=" ++ e.2 ++ " ")

theorem exists_append_right {s p : String} (t : String) (h : ∃ r, s = p ++ r) : ∃ r, s ++ t = p ++ r :=
  let ⟨r, hr⟩ := h
  ⟨r ++ t, by rw [hr, String.append_assoc]⟩

theorem goRune_toNat (n : Int) :
    (goRune n).toNat = if 0 ≤ wrap32 n ∧ (wrap32 n).toNat.isValidChar then (wrap32 n).toNat else 0xFFFD := by
  unfold goRune
  split <;> rfl

theorem isDigit_iff {ch : Char} : ch.isDigit = true ↔ 48 ≤ ch.toNat ∧ ch.toNat ≤ 57 := by
  simp only [Char.isDigit, Bool.and_eq_true, decide_eq_true_eq]
  exact Iff.rfl

theorem atoi_singleton (ch : Char) :
    atoi (String.singleton ch) = if ch.isDigit then some ((ch.toNat - 48 : Nat) : Int) else none := by
  have hs : (String.singleton ch).toList = [ch] := rfl
  unfold atoi
  split <;> rename_i h <;> simp only [hs, List.cons.injEq] at h
  · obtain ⟨rfl, rfl⟩ := h; decide
  · obtain ⟨rfl, rfl⟩ := h; decide
  · have hlt : ch.toNat < 1114112 := by
      rcases ch.valid with h | h <;> simp only [Char.toNat] <;> omega
    rw [hs]
    by_cases hd : ch.isDigit = true
    · simp [digitsValue, hd]; omega
    · simp [digitsValue, hd]

/-- What `strconv.Atoi` reads from the character `string(rune(n))`:
nothing, or the digit `r - 48` when the low 32 bits `r` of `n` are 48 to
57. -/
theorem atoi_goRune (n : Int) :
    atoi (String.singleton (goRune n)) = if 48 ≤ wrap32 n ∧ wrap32 n ≤ 57 then some (wrap32 n - 48) else none := by
  rw [atoi_singleton]
  have ht := goRune_toNat n
  by_cases hv : 0 ≤ wrap32 n ∧ (wrap32 n).toNat.isValidChar
  · rw [if_pos hv] at ht
    by_cases hd : 48 ≤ wrap32 n ∧ wrap32 n ≤ 57
    · rw [if_pos (isDigit_iff.mpr (by omega)), if_pos hd]
      congr 1
      omega
    · rw [if_neg (fun h' => hd (by have := isDigit_iff.mp h'; omega)), if_neg hd]
  · rw [if_neg hv] at ht
    rw [if_neg (fun h' => by have := isDigit_iff.mp h'; omega), if_neg]
    exact fun hd => hv ⟨by omega, Or.inl (by omega)⟩

/-- The default port 5432 is written as U+1538, which is no number. -/
example : goRune 5432 = '\u1538' ∧ atoi (String.singleton (goRune 5432)) = none := by decide

/-! ## `Validate` -/

/-- The validation errors of src/pkg/postgres/README.md:635-644 (errors.go
of package `postgres`). -/
inductive ValidationError where
  | invalidHost
  | invalidPort
  | invalidDatabase
  | invalidUser
  | invalidMaxConnections
  | invalidMinConnections
  | invalidConnectionRange
  | invalidConnectTimeout
  deriving DecidableEq, Repr

/-- The text of each validation error. -/
def ValidationError.error : ValidationError → String
  | .invalidHost => "invalid host: host cannot be empty"
  | .invalidPort => "invalid port: port must be between 1 and 65535"
  | .invalidDatabase => "invalid database: database name cannot be empty"
  | .invalidUser => "invalid user: username cannot be empty"
  | .invalidMaxConnections => "invalid max connections: must be greater than 0"
  | .invalidMinConnections => "invalid min connections: must be greater than or equal to 0"
  | .invalidConnectionRange => "invalid connection range: min connections cannot be greater than max connections"
  | .invalidConnectTimeout => "invalid connect timeout: must be greater than or equal to 0"

/-- mirrors src/pkg/postgres/config.go:331-364 (`Validate`); `none` is a nil
error. -/
def Config.validate (c : Config) : Option ValidationError :=
  (if c.databaseURL = "" then
    if c.host = "" then some .invalidHost
    else if c.port ≤ 0 ∨ c.port > 65535 then some .invalidPort
    else if c.database = "" then some .invalidDatabase
    else if c.user = "" then some .invalidUser
    else none
  else none) <|>
  if c.maxConnections ≤ 0 then some .invalidMaxConnections
  else if c.minConnections < 0 then some .invalidMinConnections
  else if c.minConnections > c.maxConnections then some .invalidConnectionRange
  else if c.connectTimeout < 0 then some .invalidConnectTimeout
  else none

namespace Config

/-- What `Validate` accepts: without a `DatabaseURL`, a host, a port in
1..65535, a database and a user; and always a positive pool size, at least
the minimum, and a non-negative connect timeout. -/
theorem validate_eq_none_iff {c : Config} :
    c.validate = none ↔
      (c.databaseURL = "" → c.host ≠ "" ∧ 0 < c.port ∧ c.port ≤ 65535 ∧ c.database ≠ "" ∧ c.user ≠ "") ∧
        0 < c.maxConnections ∧ 0 ≤ c.minConnections ∧ c.minConnections ≤ c.maxConnections ∧
          0 ≤ c.connectTimeout := by
  have hor : ∀ a b : Option ValidationError, (a <|> b) = none ↔ a = none ∧ b = none
    | none, _ => (and_iff_right rfl).symm
    | some _, _ => ⟨nofun, fun h => nomatch h.1⟩
  -- each check returns its error or goes on
  have hite : ∀ {p : Prop} [Decidable p] {e : ValidationError} {x : Option ValidationError},
      (if p then some e else x) = none ↔ ¬p ∧ x = none := fun {p} _ {_ _} => by
    by_cases hp : p <;> simp [hp]
  rw [validate, hor]
  refine and_congr ?_ ?_
  · by_cases hu : c.databaseURL = ""
    · simp only [hu, ↓reduceIte, true_implies, hite, not_or, not_le, not_lt, and_true, and_assoc, ne_eq]
    · simp [hu]
  · simp only [hite, not_le, not_lt, and_true]

example : ∀ c ∈ [defaultConfig, developmentConfig, productionConfig, testConfig], c.validate = none := by
  decide

/-- `ToConnectionString` writes a positive port as the one character
`string(rune(port))`, never in decimal: the string starts with the host
and then that character, whose code point is the low 32 bits of the port
(U+FFFD when they are negative or a surrogate), and reading it as a number
gives nothing, or 0 to 9 when those bits are 48 to 57: never the port. -/
theorem toConnectionString_port {c : Config} (hurl : c.databaseURL = "") (hp : 0 < c.port) :
    (∃ rest, c.toConnectionString = param "host" c.host ++ "port=" ++ String.singleton (goRune c.port) ++ " " ++ rest) ∧
      (goRune c.port).toNat =
        (if 0 ≤ wrap32 c.port ∧ (wrap32 c.port).toNat.isValidChar then (wrap32 c.port).toNat else 0xFFFD) ∧
      atoi (String.singleton (goRune c.port)) =
        (if 48 ≤ wrap32 c.port ∧ wrap32 c.port ≤ 57 then some (wrap32 c.port - 48) else none) ∧
      atoi (String.singleton (goRune c.port)) ≠ some c.port := by
  refine ⟨?_, goRune_toNat c.port, atoi_goRune c.port, ?_⟩
  · rw [toConnectionString, if_neg (not_not.mpr hurl), if_pos hp]
    -- the thirteen settings after the port are the rest
    iterate 13 apply exists_append_right
    exact ⟨"", by simp only [String.append_assoc]; rfl⟩
  · -- the digit read is 48 less than the low bits, which are the port modulo 2^32
    rw [atoi_goRune]
    split
    · intro h
      have h' := Option.some.inj h
      unfold wrap32 at h'
      omega
    · exact nofun

/-- A port of 2^32 + 53 is written as the digit 5. -/
theorem toConnectionString_port_wrapped :
    (∃ rest, ({ defaultConfig with port := 2 ^ 32 + 53 } : Config).toConnectionString =
        "host=localhost " ++ "port=" ++ "5" ++ " " ++ rest) ∧
      '5'.toNat = 53 ∧ atoi "5" = some 5 ∧ atoi "5" ≠ some (2 ^ 32 + 53) :=
  toConnectionString_port rfl (by decide)

end Config

end Gochoreo.Postgres
