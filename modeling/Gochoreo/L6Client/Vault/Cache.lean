import Gochoreo.L1Value.GoLib

/-!
# The secret cache of the Vault client

`GetSecret`, `PutSecret`, `DeleteSecret` and `Close` of package `vault`
(src/pkg/vault/client.go:415-530, 641-668, 774-801) on the state they share:
the client's `closed` flag and secret cache, and the secrets the server
holds.

The calls lock in pieces, so goroutines calling them at once interleave.
`GetSecret` checks the cache under `cacheMutex`, and only then takes
`mu.RLock()`, reads the server, and writes the cache; `PutSecret` and
`DeleteSecret` take `mu.RLock()`, send their request, and invalidate the
cache entry. `Close` takes `mu.Lock()`, so it waits until no call holds the
read lock, sets `closed`, and holds `mu` while it stops the renewer and the
health ticker; only then does it clear the cache, under `cacheMutex`, which
the cache check of `GetSecret` takes without `mu`.
A thread is its call and a program counter (`Pc`); one step runs one of
these pieces, and a piece that takes `mu` waits while another goroutine
holds it in the other mode. A run is a list of events: a step of a thread,
with the answers of the rate limiter and of the server to it (`Answer`),
the clock moving on, or another client writing the server.

What a read returns is modelled as what the server holds for the path:
the KV v2 wrapping of a write and its unwrapping by `GetSecret` are left
out, and a request that fails changes nothing on the server.

**Results.**
* `run_closedInv`: in every interleaving, a `Close` holding `mu` has set
  `closed`; once closed, no call holds the read lock, and the cache is
  empty unless a `Close` is between its two critical sections;
  `closed_run_no_secret`: once closed with no `Close` in flight, no
  `GetSecret` returns a secret any more.
* `getSecret_while_closing`: inside that window a `GetSecret` does return
  a cached secret from the closed client, and the window is reached.
* `sequential_getSecret`: when no two calls overlap and nobody else writes
  the server, every secret `GetSecret` returns, from the cache or not, is
  the one the server holds for the path when it returns.
* `stale_after_put`: when a `GetSecret` holds a read of the server that a
  `PutSecret` of the same path has since overwritten, and caches it, every
  `GetSecret` of the path that starts before the entry expires, in any run
  that leaves the entry alone, gets the old secret while the server holds
  the new one.
-/
namespace Gochoreo.Vault

/-- mirrors src/pkg/vault/client.go:70-74 (`cacheEntry`); times are
nanoseconds. -/
structure CacheEntry (σ : Type) where
  data : σ
  expiresAt : Int
  deriving DecidableEq, Repr

/-- The part of `Client` (src/pkg/vault/client.go:40-67) the secret calls
use: `EnableCache` and `CacheTTL` of its config, whether a rate limiter is
set, `closed`, and the cache. -/
structure Client (σ : Type) where
  enableCache : Bool
  cacheTTL : Int
  rateLimited : Bool
  closed : Bool := false
  cache : GoMap (CacheEntry σ) := ∅

namespace Client

variable {σ : Type}

/-- mirrors src/pkg/vault/client.go:641-651 (`getCachedSecret`):
`time.Now().After(entry.expiresAt)` is `now > expiresAt`. -/
def getCachedSecret (c : Client σ) (path : String) (now : Int) : Option σ :=
  match c.cache.lookup path with
  | some entry => if now > entry.expiresAt then none else some entry.data
  | none => none

/-- mirrors src/pkg/vault/client.go:653-661 (`setCachedSecret`) -/
def setCachedSecret (c : Client σ) (path : String) (data : σ) (now : Int) : Client σ :=
  { c with cache := c.cache.insert path ⟨data, now + c.cacheTTL⟩ }

/-- mirrors src/pkg/vault/client.go:663-668 (`invalidateCachedSecret`) -/
def invalidateCachedSecret (c : Client σ) (path : String) : Client σ :=
  { c with cache := c.cache.erase path }

/-- mirrors src/pkg/vault/client.go:748-758 (`checkRateLimit`): `wait` is
what the limiter's `Wait` returns, `none` for nil. -/
def checkRateLimit (c : Client σ) (wait : Option String) : Option String :=
  if c.rateLimited then wait.map ("rate limit exceeded: " ++ ·) else none

theorem getCachedSecret_eq_some {c : Client σ} {path : String} {now : Int} {s : σ} :
    c.getCachedSecret path now = some s ↔
      ∃ e, c.cache.lookup path = some e ∧ e.data = s ∧ now ≤ e.expiresAt := by
  unfold getCachedSecret
  split <;> rename_i e h
  · by_cases hx : now > e.expiresAt <;> simp [h, hx]; omega
  · simp [h]

@[simp] theorem setCachedSecret_closed (c : Client σ) (path : String) (data : σ) (now : Int) :
    (c.setCachedSecret path data now).closed = c.closed := rfl

@[simp] theorem setCachedSecret_enableCache (c : Client σ) (path : String) (data : σ) (now : Int) :
    (c.setCachedSecret path data now).enableCache = c.enableCache := rfl

@[simp] theorem invalidateCachedSecret_closed (c : Client σ) (path : String) :
    (c.invalidateCachedSecret path).closed = c.closed := rfl

@[simp] theorem invalidateCachedSecret_enableCache (c : Client σ) (path : String) :
    (c.invalidateCachedSecret path).enableCache = c.enableCache := rfl

end Client

/-- `ErrClientNotInitialized` (src/pkg/vault/errors.go:23) -/
def errClientNotInitialized : String := "vault client not initialized"

/-- `ErrSecretNotFound` (src/pkg/vault/errors.go:29) -/
def errSecretNotFound : String := "secret not found"

/-- The client, what the server holds for each path, and the clock. -/
structure World (σ : Type) where
  client : Client σ
  server : GoMap σ
  now : Int

/-- What the outside answers to one step: the rate limiter's `Wait` and the
server's answer to the request, each `none` for success or the text of its
error. -/
structure Answer where
  wait : Option String := none
  request : Option String := none
  deriving DecidableEq, Repr

/-- A call on the client. -/
inductive Op (σ : Type) where
  | getSecret (path : String)
  | putSecret (path : String) (data : σ)
  | deleteSecret (path : String)
  | close
  deriving DecidableEq, Repr

/-- The path a call writes on the server. -/
def Op.writtenPath {σ : Type} : Op σ → Option String
  | .putSecret path _ | .deleteSecret path => some path
  | _ => none

/-- The calls whose next piece can change the cache entry of `path`: a
`GetSecret`, `PutSecret` or `DeleteSecret` of `path`, and `Close`. -/
def Op.touches {σ : Type} (path : String) : Op σ → Bool
  | .getSecret p | .putSecret p _ | .deleteSecret p => p = path
  | .close => true

/-- Where a goroutine is in its call. -/
inductive Pc (σ : Type) where
  | start
  /-- `GetSecret` found no fresh cache entry and is about to take `mu` -/
  | getMiss
  /-- `GetSecret` holds `mu.RLock()` and has read `secret` -/
  | getRead (secret : σ)
  /-- `PutSecret` or `DeleteSecret` holds `mu.RLock()`; its request succeeded -/
  | written
  /-- `Close` holds `mu.Lock()` and has set `closed`; the cache is not
  cleared yet -/
  | closing
  /-- the call returned this error -/
  | failed (err : String)
  /-- the call returned without error: the secret, for `GetSecret` -/
  | returned (secret : Option σ)
  deriving DecidableEq, Repr

namespace Pc

variable {σ : Type}

/-- Whether the goroutine holds `mu.RLock()`. -/
def holdsRLock : Pc σ → Bool
  | .getRead _ | .written => true
  | _ => false

/-- Whether the goroutine holds `mu.Lock()`: a `Close` between its two
critical sections. -/
def isClosing : Pc σ → Bool
  | .closing => true
  | _ => false

/-- Whether the goroutine holds `mu`, in either mode. -/
def holdsMu : Pc σ → Bool
  | .getRead _ | .written | .closing => true
  | _ => false

/-- Whether the goroutine is inside its call. -/
def inCall : Pc σ → Bool
  | .start | .failed _ | .returned _ => false
  | _ => true

/-- Whether the call returned a secret. -/
def returnsSecret : Pc σ → Bool
  | .returned (some _) => true
  | _ => false

theorem returnsSecret_eq_true {pc : Pc σ} : pc.returnsSecret = true ↔ ∃ s, pc = .returned (some s) := by
  rcases pc with _ | _ | _ | _ | _ | _ | ⟨_ | s⟩ <;> simp [returnsSecret]

theorem holdsMu_eq_false {pc : Pc σ} : pc.holdsMu = false ↔ pc.holdsRLock = false ∧ pc.isClosing = false := by
  cases pc <;> simp [holdsMu, holdsRLock, isClosing]

end Pc

/-- A goroutine making one call. -/
structure Thread (σ : Type) where
  op : Op σ
  pc : Pc σ
  deriving DecidableEq, Repr

namespace Thread

variable {σ : Type}

/-- The first piece of `PutSecret` and `DeleteSecret`
(src/pkg/vault/client.go:475-499, 506-518): the rate limiter, then under
`mu.RLock()` the closed check and the request, which leaves `server'` on the
server when it succeeds; `verb` is the request's word in the error. -/
def writeSecret (w : World σ) (a : Answer) (verb path : String) (server' : GoMap σ) : World σ × Pc σ :=
  match w.client.checkRateLimit a.wait with
  | some e => (w, .failed e)
  | none =>
    if w.client.closed then (w, .failed errClientNotInitialized)
    else match a.request with
      | some e => (w, .failed ("failed to " ++ verb ++ " secret at " ++ path ++ ": " ++ e))
      | none => ({ w with server := server' }, .written)

/-- The next piece of a call: the world after it and the new program
counter; `none` when the call has returned.
mirrors src/pkg/vault/client.go:415-530 (`GetSecret`, `PutSecret`,
`DeleteSecret`) and 774-801 (`Close`: the section under `mu.Lock()` that
sets `closed`, where cancelling the context and stopping the renewer and
the health ticker are left out, then the section under `cacheMutex` that
clears the cache) -/
def step (t : Thread σ) (w : World σ) (a : Answer) : Option (World σ × Pc σ) :=
  match t.op, t.pc with
  | .getSecret path, .start =>
    match w.client.checkRateLimit a.wait with
    | some e => some (w, .failed e)
    | none =>
      match if w.client.enableCache then w.client.getCachedSecret path w.now else none with
      | some secret => some (w, .returned (some secret))
      | none => some (w, .getMiss)
  | .getSecret path, .getMiss =>
    if w.client.closed then some (w, .failed errClientNotInitialized)
    else match a.request with
      | some e => some (w, .failed ("failed to read secret at " ++ path ++ ": " ++ e))
      | none =>
        match w.server.lookup path with
        | none => some (w, .failed errSecretNotFound)
        | some secret => some (w, .getRead secret)
  | .getSecret path, .getRead secret =>
    some ({ w with client := if w.client.enableCache then w.client.setCachedSecret path secret w.now
                             else w.client },
      .returned (some secret))
  | .putSecret path data, .start => some (writeSecret w a "write" path (w.server.insert path data))
  | .deleteSecret path, .start => some (writeSecret w a "delete" path (w.server.erase path))
  | .putSecret path _, .written | .deleteSecret path, .written =>
    some ({ w with client := if w.client.enableCache then w.client.invalidateCachedSecret path else w.client },
      .returned none)
  | .close, .start =>
    if w.client.closed then some (w, .returned none)
    else some ({ w with client := { w.client with closed := true } }, .closing)
  | .close, .closing => some ({ w with client := { w.client with cache := ∅ } }, .returned none)
  | _, _ => none

/-- The piece takes `mu.Lock()`: the first piece of `Close`. -/
def takesLock (t : Thread σ) : Bool :=
  match t.op, t.pc with
  | .close, .start => true
  | _, _ => false

/-- The piece takes `mu.RLock()`: the read of `GetSecret`, and the request
of `PutSecret` or `DeleteSecret` once the rate limiter lets it through. -/
def takesRLock (t : Thread σ) (w : World σ) (a : Answer) : Bool :=
  match t.op, t.pc with
  | .getSecret _, .getMiss => true
  | .putSecret _ _, .start | .deleteSecret _, .start => (w.client.checkRateLimit a.wait).isNone
  | _, _ => false

theorem writeSecret_cases {w w' : World σ} {a : Answer} {verb path : String} {server' : GoMap σ}
    {pc : Pc σ} (h : writeSecret w a verb path server' = (w', pc)) :
    (w' = w ∧ ∃ e, pc = .failed e) ∨ (w.client.closed = false ∧ w' = { w with server := server' } ∧ pc = .written) := by
  unfold writeSecret at h
  split at h
  · cases h; exact .inl ⟨rfl, _, rfl⟩
  · cases hc : w.client.closed <;> simp only [hc, Bool.false_eq_true, ↓reduceIte] at h
    · split at h <;> cases h
      · exact .inl ⟨rfl, _, rfl⟩
      · exact .inr ⟨rfl, rfl, rfl⟩
    · cases h; exact .inl ⟨rfl, _, rfl⟩

/-- What one piece of a call can do: change nothing (a check that fails, a
cache lookup, a failed request, a `Close` of a closed client), read the
server, cache what was read, write the server, invalidate the written path,
set `closed`, or clear the cache. -/
theorem step_cases {t : Thread σ} {w w' : World σ} {a : Answer} {pc : Pc σ}
    (h : t.step w a = some (w', pc)) :
    (w' = w ∧ t.pc.holdsMu = false ∧ pc.holdsMu = false ∧
      ∀ s, pc = .returned (some s) → ∃ path, t.op = .getSecret path ∧
        w.client.enableCache = true ∧ w.client.getCachedSecret path w.now = some s) ∨
    (∃ path s, t.op = .getSecret path ∧ t.pc = .getMiss ∧ pc = .getRead s ∧ w' = w ∧
      w.client.closed = false ∧ w.server.lookup path = some s) ∨
    (∃ path s, t.op = .getSecret path ∧ t.pc = .getRead s ∧ pc = .returned (some s) ∧
      w' = { w with client := if w.client.enableCache then w.client.setCachedSecret path s w.now
                              else w.client }) ∨
    (∃ path, t.op.writtenPath = some path ∧ t.pc = .start ∧ pc = .written ∧
      w.client.closed = false ∧ w'.client = w.client ∧ w'.now = w.now ∧
      ∀ p, p ≠ path → w'.server.lookup p = w.server.lookup p) ∨
    (∃ path, t.op.writtenPath = some path ∧ t.pc = .written ∧ pc = .returned none ∧
      w' = { w with client := if w.client.enableCache then w.client.invalidateCachedSecret path
                              else w.client }) ∨
    (t.op = .close ∧ t.pc = .start ∧ pc = .closing ∧ w.client.closed = false ∧
      w' = { w with client := { w.client with closed := true } }) ∨
    (t.op = .close ∧ t.pc = .closing ∧ pc = .returned none ∧ w' = { w with client := { w.client with cache := ∅ } }) := by
  obtain ⟨op, pc₀⟩ := t
  cases op <;> cases pc₀ <;> simp only [step, reduceCtorEq, Option.some.injEq, Prod.mk.injEq] at h
  case getSecret.start path =>
    -- the rate limiter, then the cache
    refine .inl ?_
    rcases hr : w.client.checkRateLimit a.wait with _ | e <;> simp only [hr] at h
    · rcases hc : (if w.client.enableCache then w.client.getCachedSecret path w.now else none) with _ | s <;>
        simp only [hc, Option.some.injEq, Prod.mk.injEq] at h <;> obtain ⟨rfl, rfl⟩ := h
      · exact ⟨rfl, rfl, rfl, fun _ h => Pc.noConfusion h⟩
      · exact ⟨rfl, rfl, rfl, fun _ h => by cases h; exact ⟨path, rfl, Option.ite_none_right_eq_some.mp hc⟩⟩
    · obtain ⟨rfl, rfl⟩ := h
      exact ⟨rfl, rfl, rfl, fun _ h => Pc.noConfusion h⟩
  case getSecret.getMiss path =>
    -- under `mu.RLock()`: the closed check, then the read
    cases hc : w.client.closed <;>
      simp only [hc, Bool.false_eq_true, ↓reduceIte, Option.some.injEq, Prod.mk.injEq] at h
    · rcases hq : a.request with _ | e <;> simp only [hq, Option.some.injEq, Prod.mk.injEq] at h
      · rcases hl : w.server.lookup path with _ | s <;> simp only [hl, Option.some.injEq, Prod.mk.injEq] at h <;>
          obtain ⟨rfl, rfl⟩ := h
        · exact .inl ⟨rfl, rfl, rfl, fun _ h => Pc.noConfusion h⟩
        · exact .inr (.inl ⟨path, s, rfl, rfl, rfl, rfl, rfl, hl⟩)
      · obtain ⟨rfl, rfl⟩ := h
        exact .inl ⟨rfl, rfl, rfl, fun _ h => Pc.noConfusion h⟩
    · obtain ⟨rfl, rfl⟩ := h
      exact .inl ⟨rfl, rfl, rfl, fun _ h => Pc.noConfusion h⟩
  case getSecret.getRead path s =>
    obtain ⟨rfl, rfl⟩ := h
    exact .inr (.inr (.inl ⟨path, s, rfl, rfl, rfl, rfl⟩))
  case putSecret.start path data =>
    rcases writeSecret_cases h with ⟨rfl, e, rfl⟩ | ⟨hc, rfl, rfl⟩
    · exact .inl ⟨rfl, rfl, rfl, fun _ h => Pc.noConfusion h⟩
    · exact .inr (.inr (.inr (.inl ⟨path, rfl, rfl, rfl, hc, rfl, rfl, fun _ hp => AList.lookup_insert_ne hp⟩)))
  case deleteSecret.start path =>
    rcases writeSecret_cases h with ⟨rfl, e, rfl⟩ | ⟨hc, rfl, rfl⟩
    · exact .inl ⟨rfl, rfl, rfl, fun _ h => Pc.noConfusion h⟩
    · exact .inr (.inr (.inr (.inl ⟨path, rfl, rfl, rfl, hc, rfl, rfl, fun _ hp => AList.lookup_erase_ne hp⟩)))
  case putSecret.written path _ | deleteSecret.written path =>
    obtain ⟨rfl, rfl⟩ := h
    exact .inr (.inr (.inr (.inr (.inl ⟨path, rfl, rfl, rfl, rfl⟩))))
  case close.start =>
    -- the section under `mu.Lock()`
    cases hc : w.client.closed <;>
      simp only [hc, Bool.false_eq_true, ↓reduceIte, Option.some.injEq, Prod.mk.injEq] at h <;>
      obtain ⟨rfl, rfl⟩ := h
    · exact .inr (.inr (.inr (.inr (.inr (.inl ⟨rfl, rfl, rfl, rfl, rfl⟩)))))
    · exact .inl ⟨rfl, rfl, rfl, fun _ h => by cases h⟩
  case close.closing =>
    -- the section under `cacheMutex`
    obtain ⟨rfl, rfl⟩ := h
    exact .inr (.inr (.inr (.inr (.inr (.inr ⟨rfl, rfl, rfl, rfl⟩)))))

theorem step_returnsSecret {t : Thread σ} {w w' : World σ} {a : Answer} {pc : Pc σ}
    (h : t.step w a = some (w', pc)) : t.pc.returnsSecret = false := by
  obtain ⟨op, pc₀⟩ := t
  cases pc₀ <;> first | rfl | cases op <;> cases h

theorem step_server {t : Thread σ} {w w' : World σ} {a : Answer} {pc : Pc σ}
    (h : t.step w a = some (w', pc)) : w'.server = w.server ∨ (t.pc = .start ∧ pc = .written) := by
  rcases step_cases h with ⟨hw, -⟩ | ⟨_, _, _, _, _, hw, -⟩ | ⟨_, _, _, _, _, hw⟩ | ⟨_, _, hpc₀, hpc, -⟩ |
    ⟨_, _, _, _, hw⟩ | ⟨-, -, -, -, hw⟩ | ⟨-, -, -, hw⟩
  all_goals first | exact .inr ⟨hpc₀, hpc⟩ | exact .inl (by rw [hw])

theorem step_config {t : Thread σ} {w w' : World σ} {a : Answer} {pc : Pc σ}
    (h : t.step w a = some (w', pc)) :
    w'.client.enableCache = w.client.enableCache ∧ w'.client.rateLimited = w.client.rateLimited ∧
      w'.now = w.now := by
  rcases step_cases h with ⟨rfl, -⟩ | ⟨_, _, _, _, _, rfl, -⟩ | ⟨_, _, _, _, _, rfl⟩ | ⟨_, _, _, _, _, hc, hn, -⟩ |
    ⟨_, _, _, _, rfl⟩ | ⟨-, -, -, -, rfl⟩ | ⟨-, -, -, rfl⟩
  · exact ⟨rfl, rfl, rfl⟩
  · exact ⟨rfl, rfl, rfl⟩
  · split <;> exact ⟨rfl, rfl, rfl⟩
  · rw [hc]; exact ⟨rfl, rfl, hn⟩
  · split <;> exact ⟨rfl, rfl, rfl⟩
  · exact ⟨rfl, rfl, rfl⟩
  · exact ⟨rfl, rfl, rfl⟩

/-- On a closed client whose cache is empty, a call that does not hold `mu`
changes nothing on the client, takes no lock and returns no secret: every
check of `closed` fails, and the cache has nothing to give. -/
theorem step_of_closed {t : Thread σ} {w w' : World σ} {a : Answer} {pc : Pc σ}
    (h : t.step w a = some (w', pc)) (hc : w.client.closed = true) (hcache : w.client.cache = ∅)
    (hm : t.pc.holdsMu = false) : w'.client = w.client ∧ pc.holdsMu = false ∧ pc.returnsSecret = false := by
  rcases step_cases h with ⟨rfl, -, hpc, hret⟩ | ⟨-, -, -, -, -, -, hc', -⟩ | ⟨-, s, -, h₁, -⟩ |
    ⟨-, -, -, -, hc', -⟩ | ⟨-, -, h₁, -⟩ | ⟨-, -, -, hc', -⟩ | ⟨-, h₁, -⟩
  · refine ⟨rfl, hpc, Bool.eq_false_iff.mpr fun hr => ?_⟩
    obtain ⟨s, hs⟩ := Pc.returnsSecret_eq_true.mp hr
    obtain ⟨path, -, -, hget⟩ := hret s hs
    obtain ⟨e, he, -⟩ := Client.getCachedSecret_eq_some.mp hget
    rw [hcache, AList.lookup_empty] at he
    cases he
  all_goals first | exact absurd hc' (by simp [hc]) | simp [h₁, Pc.holdsMu] at hm

theorem touches_of_writtenPath {op : Op σ} {path p : String} (h : op.writtenPath = some p) :
    op.touches path = decide (p = path) := by
  cases op <;> cases h <;> rfl

/-- A call that does not touch the cache entry of `path` keeps that entry
and what the server holds there. -/
theorem step_keeps_entry {t : Thread σ} {w w' : World σ} {a : Answer} {pc : Pc σ} {path : String}
    (h : t.step w a = some (w', pc)) (ht : t.op.touches path = false) :
    w'.client.cache.lookup path = w.client.cache.lookup path ∧ w'.server.lookup path = w.server.lookup path := by
  rcases step_cases h with ⟨rfl, -⟩ | ⟨_, _, _, _, _, rfl, -⟩ | ⟨p, s, hop, -, -, rfl⟩ |
    ⟨p, hwp, -, -, -, hclient, -, hserver⟩ | ⟨p, hwp, -, -, rfl⟩ | ⟨hop, -⟩ | ⟨hop, -⟩
  · exact ⟨rfl, rfl⟩
  · exact ⟨rfl, rfl⟩
  · have hp : path ≠ p := fun e => by simp [hop, Op.touches, e] at ht
    refine ⟨?_, rfl⟩
    split
    · exact AList.lookup_insert_ne hp
    · rfl
  · have hp : path ≠ p := fun e => by simp [touches_of_writtenPath hwp, e] at ht
    exact ⟨by rw [hclient], hserver path hp⟩
  · have hp : path ≠ p := fun e => by simp [touches_of_writtenPath hwp, e] at ht
    refine ⟨?_, rfl⟩
    split
    · exact AList.lookup_erase_ne hp
    · rfl
  all_goals simp [hop, Op.touches] at ht

end Thread

/-- One event of a run. -/
inductive Event (σ : Type) where
  /-- goroutine `i` runs the next piece of its call, with the outside's
  answers `a` -/
  | step (i : Nat) (a : Answer)
  /-- the clock reads `now` -/
  | tick (now : Int)
  /-- another client writes `secret` at `path` (`none`: deletes it) -/
  | external (path : String) (secret : Option σ)

/-- The world and the goroutines calling the client. -/
structure Config (σ : Type) where
  world : World σ
  threads : List (Thread σ)

namespace Config

variable {σ : Type}

/-- Some goroutine holds `mu`, in either mode: `Close` waits. -/
def muHeld (cfg : Config σ) : Bool := cfg.threads.any (·.pc.holdsMu)

/-- A `Close` holds `mu.Lock()`: `RLock` waits. -/
def muLocked (cfg : Config σ) : Bool := cfg.threads.any (·.pc.isClosing)

/-- One event; `none` when it cannot happen: no such goroutine, a call that
returned, a piece that waits for `mu`, or the clock going back. -/
def step (cfg : Config σ) : Event σ → Option (Config σ)
  | .step i a =>
    match cfg.threads[i]? with
    | none => none
    | some t =>
      if t.takesLock && cfg.muHeld || t.takesRLock cfg.world a && cfg.muLocked then none
      else (t.step cfg.world a).map fun r => ⟨r.1, cfg.threads.set i { t with pc := r.2 }⟩
  | .tick now =>
    if cfg.world.now ≤ now then some { cfg with world := { cfg.world with now := now } } else none
  | .external path secret =>
    some { cfg with world := { cfg.world with
      server := match secret with
        | some s => cfg.world.server.insert path s
        | none => cfg.world.server.erase path } }

/-- The configuration after a run; an event that cannot happen is
skipped. -/
def run (cfg : Config σ) : List (Event σ) → Config σ
  | [] => cfg
  | e :: es => ((cfg.step e).getD cfg).run es

theorem run_singleton (cfg : Config σ) (e : Event σ) : cfg.run [e] = (cfg.step e).getD cfg := rfl

theorem run_append (cfg : Config σ) (es₁ es₂ : List (Event σ)) :
    cfg.run (es₁ ++ es₂) = (cfg.run es₁).run es₂ := by
  induction es₁ generalizing cfg with
  | nil => rfl
  | cons e es ih => exact ih _

theorem run_induction (P : Config σ → Prop) (hstep : ∀ cfg cfg' e, P cfg → cfg.step e = some cfg' → P cfg')
    {cfg : Config σ} (h : P cfg) (es : List (Event σ)) : P (cfg.run es) := by
  induction es generalizing cfg with
  | nil => exact h
  | cons e es ih =>
    rw [run]
    rcases hs : cfg.step e with _ | cfg'
    · exact ih h
    · exact ih (hstep cfg cfg' e h hs)

/-- What one event does: goroutine `i` runs a piece of its call (one that
takes `mu` only when the other mode is free), the clock moves on, or the
server's content changes by another client's write. -/
theorem step_cases {cfg cfg' : Config σ} {e : Event σ} (h : cfg.step e = some cfg') :
    (∃ i a t w pc, e = .step i a ∧ cfg.threads[i]? = some t ∧ (t.takesLock = true → cfg.muHeld = false) ∧
      (t.takesRLock cfg.world a = true → cfg.muLocked = false) ∧
      t.step cfg.world a = some (w, pc) ∧ cfg' = ⟨w, cfg.threads.set i { t with pc := pc }⟩) ∨
    (∃ now, e = .tick now ∧ cfg.world.now ≤ now ∧ cfg' = { cfg with world := { cfg.world with now := now } }) ∨
    (∃ path secret server, e = .external path secret ∧ (∀ p, p ≠ path → server.lookup p = cfg.world.server.lookup p) ∧
      cfg' = { cfg with world := { cfg.world with server := server } }) := by
  cases e with
  | step i a =>
    simp only [step] at h
    split at h
    · cases h
    · rename_i t ht
      split at h
      · cases h
      · rename_i hfree
        obtain ⟨h₁, h₂⟩ : (t.takesLock && cfg.muHeld) = false ∧ (t.takesRLock cfg.world a && cfg.muLocked) = false := by
          simpa using hfree
        obtain ⟨⟨w, pc⟩, hs, rfl⟩ := Option.map_eq_some'.mp h
        exact .inl ⟨i, a, t, w, pc, rfl, ht, fun hc => by simpa [hc] using h₁, fun hc => by simpa [hc] using h₂, hs, rfl⟩
  | tick now =>
    simp only [step] at h
    split at h
    · cases h; exact .inr (.inl ⟨now, rfl, ‹_›, rfl⟩)
    · cases h
  | external path secret =>
    cases h
    refine .inr (.inr ⟨path, secret, _, rfl, fun p hp => ?_, rfl⟩)
    cases secret
    · exact AList.lookup_erase_ne hp
    · exact AList.lookup_insert_ne hp

theorem muHeld_eq_false {cfg : Config σ} : cfg.muHeld = false ↔ ∀ t ∈ cfg.threads, t.pc.holdsMu = false := by
  simp [muHeld]

theorem muLocked_eq_true {cfg : Config σ} : cfg.muLocked = true ↔ ∃ t ∈ cfg.threads, t.pc.isClosing = true := by
  simp [muLocked]

theorem forall_mem_set {P : Thread σ → Prop} {l : List (Thread σ)} (h : ∀ t ∈ l, P t) {i : Nat} {t : Thread σ}
    (ht : P t) : ∀ t' ∈ l.set i t, P t' :=
  fun t' ht' => (List.mem_or_eq_of_mem_set ht').elim (h t') fun e => e ▸ ht

theorem mem_set_of_ne {l : List (Thread σ)} {i : Nat} {t t₀ : Thread σ} (ht : l[i]? = some t) (h₀ : t₀ ∈ l)
    (hne : t₀ ≠ t) (v : Thread σ) : t₀ ∈ l.set i v := by
  obtain ⟨j, hj, rfl⟩ := List.getElem_of_mem h₀
  have hij : i ≠ j := fun e => hne (by subst e; exact Option.some.inj ((List.getElem?_eq_getElem hj).symm.trans ht))
  exact List.getElem?_mem (by rw [List.getElem?_set_ne hij, List.getElem?_eq_getElem hj])

theorem map_op_set {l : List (Thread σ)} {i : Nat} {t : Thread σ} (ht : l[i]? = some t) (pc : Pc σ) :
    (l.set i { t with pc := pc }).map (·.op) = l.map (·.op) := by
  refine List.ext_getElem? fun j => ?_
  rw [List.getElem?_map, List.getElem?_map, List.getElem?_set']
  split
  · subst_vars; rw [ht]; rfl
  · rfl

theorem muHeld_set {cfg : Config σ} (h : cfg.muHeld = false) {w : World σ} {i : Nat} {t : Thread σ}
    {pc : Pc σ} (hpc : pc.holdsMu = false) :
    (⟨w, cfg.threads.set i { t with pc := pc }⟩ : Config σ).muHeld = false :=
  muHeld_eq_false.mpr (forall_mem_set (muHeld_eq_false.mp h) hpc)

theorem muLocked_set {cfg : Config σ} {w : World σ} {i : Nat} {t : Thread σ} {pc : Pc σ}
    (ht : cfg.threads[i]? = some t) :
    ((⟨w, cfg.threads.set i { t with pc := pc }⟩ : Config σ).muLocked = true →
      cfg.muLocked = true ∨ pc.isClosing = true) ∧
    (cfg.muLocked = true → t.pc.isClosing = false →
      (⟨w, cfg.threads.set i { t with pc := pc }⟩ : Config σ).muLocked = true) := by
  refine ⟨fun h => ?_, fun h hpc => ?_⟩
  · obtain ⟨t', ht', hc⟩ := muLocked_eq_true.mp h
    rcases List.mem_or_eq_of_mem_set ht' with ht' | rfl
    · exact .inl (muLocked_eq_true.mpr ⟨t', ht', hc⟩)
    · exact .inr hc
  · obtain ⟨t', ht', hc⟩ := muLocked_eq_true.mp h
    exact muLocked_eq_true.mpr ⟨t', mem_set_of_ne ht ht' (fun e => by rw [e, hpc] at hc; cases hc) _, hc⟩

/-- A `GetSecret` at its start, let through by the rate limiter, with a
fresh cache entry for its path, returns the cached secret: the cache check
takes no lock of `mu`. -/
theorem step_getSecret_hit {cfg : Config σ} {i : Nat} {path : String} {s : σ} {a : Answer}
    (hg : cfg.threads[i]? = some ⟨.getSecret path, .start⟩) (hrate : cfg.world.client.checkRateLimit a.wait = none)
    (hen : cfg.world.client.enableCache = true) (hfresh : cfg.world.client.getCachedSecret path cfg.world.now = some s) :
    cfg.step (.step i a) = some ⟨cfg.world, cfg.threads.set i ⟨.getSecret path, .returned (some s)⟩⟩ := by
  simp [step, hg, Thread.takesLock, Thread.takesRLock, Thread.step, hrate, hen, hfresh]

/-- A client with the cache on and a one-minute TTL, a server holding one
secret, and goroutines calling `GetSecret`, `Close` and `GetSecret`. -/
def getThenClose : Config String :=
  ⟨⟨{ enableCache := true, cacheTTL := 60000000000, rateLimited := false },
      (∅ : GoMap String).insert "db" "pw", 0⟩,
    [⟨.getSecret "db", .start⟩, ⟨.close, .start⟩, ⟨.getSecret "db", .start⟩]⟩

/-! ## Closing the client -/

/-- What the lock and the cache keep in every interleaving: a `Close`
holding `mu` has set `closed`; once closed, no call holds the read lock,
and the cache is empty unless a `Close` is between its two critical
sections. -/
structure ClosedInv (cfg : Config σ) : Prop where
  locked_closed : cfg.muLocked = true → cfg.world.client.closed = true
  closed_noRead : cfg.world.client.closed = true → ∀ t ∈ cfg.threads, t.pc.holdsRLock = false
  closed_cache : cfg.world.client.closed = true → cfg.world.client.cache = ∅ ∨ cfg.muLocked = true

theorem closedInv_set {cfg : Config σ} (hi : cfg.ClosedInv) {i : Nat} {t : Thread σ} {w : World σ}
    {pc : Pc σ} (ht : cfg.threads[i]? = some t) (hw : w.client = cfg.world.client)
    (h₀ : t.pc.holdsMu = false) (h₁ : pc.holdsMu = false) :
    (⟨w, cfg.threads.set i { t with pc := pc }⟩ : Config σ).ClosedInv := by
  obtain ⟨hr₁, hc₁⟩ := Pc.holdsMu_eq_false.mp h₁
  have hc₀ := (Pc.holdsMu_eq_false.mp h₀).2
  refine ⟨fun h => ?_, fun hc => ?_, fun hc => ?_⟩ <;> simp only [hw] at *
  · exact hi.locked_closed (((muLocked_set ht).1 h).resolve_right (by simp [hc₁]))
  · exact forall_mem_set (hi.closed_noRead hc) hr₁
  · exact (hi.closed_cache hc).imp_right fun h => (muLocked_set ht).2 h hc₀

theorem closedInv_set_open {cfg : Config σ} (hi : cfg.ClosedInv) {i : Nat} {t : Thread σ} {w : World σ}
    {pc : Pc σ} (ht : cfg.threads[i]? = some t) (hc : cfg.world.client.closed = false)
    (hw : w.client.closed = false) (h₁ : pc.isClosing = false) :
    (⟨w, cfg.threads.set i { t with pc := pc }⟩ : Config σ).ClosedInv := by
  refine ⟨fun h => ?_, fun h => by simp [hw] at h, fun h => by simp [hw] at h⟩
  have := hi.locked_closed (((muLocked_set ht).1 h).resolve_right (by simp [h₁]))
  simp [hc] at this

theorem step_closedInv {cfg cfg' : Config σ} {e : Event σ} (h : cfg.step e = some cfg')
    (hi : cfg.ClosedInv) : cfg'.ClosedInv := by
  rcases step_cases h with ⟨i, a, t, w, pc, rfl, ht, hlock, -, hs, rfl⟩ | ⟨now, rfl, -, rfl⟩ |
    ⟨path, secret, server, rfl, -, rfl⟩
  · have hmem := List.getElem?_mem ht
    -- a reader of a closed client cannot hold the read lock
    have hopen : t.pc.holdsRLock = true → cfg.world.client.closed = false := fun hr =>
      Bool.eq_false_iff.mpr fun hc => by simp [hi.closed_noRead hc t hmem] at hr
    rcases Thread.step_cases hs with ⟨rfl, h₀, h₁, -⟩ | ⟨_, _, -, -, rfl, rfl, hc, -⟩ |
      ⟨path, s, -, hpc₀, rfl, rfl⟩ | ⟨_, -, -, rfl, hc, hclient, -⟩ | ⟨path, -, hpc₀, rfl, rfl⟩ |
      ⟨hop, hpc₀, rfl, hc, rfl⟩ | ⟨-, hpc₀, rfl, rfl⟩
    · exact closedInv_set hi ht rfl h₀ h₁
    · exact closedInv_set_open hi ht hc hc rfl
    · have hc := hopen (by rw [hpc₀]; rfl)
      exact closedInv_set_open hi ht hc (by split <;> simpa using hc) rfl
    · exact closedInv_set_open hi ht hc (hclient ▸ hc) rfl
    · have hc := hopen (by rw [hpc₀]; rfl)
      exact closedInv_set_open hi ht hc (by split <;> simpa using hc) rfl
    · -- the first section of `Close`: it found `mu` free and now holds it
      have hfree := muHeld_eq_false.mp (hlock (by simp [Thread.takesLock, hop, hpc₀]))
      refine ⟨fun _ => rfl, fun _ => forall_mem_set (fun t' ht' => ?_) rfl, fun _ => .inr ?_⟩
      · exact (Pc.holdsMu_eq_false.mp (hfree t' ht')).1
      · exact muLocked_eq_true.mpr ⟨_, List.getElem?_mem (List.getElem?_set_self (List.getElem?_eq_some_iff.mp ht).1), rfl⟩
    · -- the second section of `Close`: the client was closed by the first
      have hc : cfg.world.client.closed = true :=
        hi.locked_closed (muLocked_eq_true.mpr ⟨t, hmem, by rw [hpc₀]; rfl⟩)
      exact ⟨fun _ => hc, fun _ => forall_mem_set (hi.closed_noRead hc) rfl, fun _ => .inl rfl⟩
  · exact ⟨hi.1, hi.2, hi.3⟩
  · exact ⟨hi.1, hi.2, hi.3⟩

/-- In every interleaving, a `Close` holding `mu` has set `closed`; once
closed, no call holds the read lock, and the cache is empty unless a `Close`
is between its two critical sections. -/
theorem run_closedInv {cfg : Config σ} (hi : cfg.ClosedInv) (es : List (Event σ)) :
    (cfg.run es).ClosedInv :=
  run_induction ClosedInv (fun _ _ _ hi hs => step_closedInv hs hi) hi es

theorem run_closedInv_getThenClose :
    (getThenClose.run [.step 0 {}, .step 0 {}, .step 0 {}, .step 1 {}, .step 2 {}, .step 1 {}]).ClosedInv :=
  run_closedInv ⟨fun h => absurd h (by decide), fun h => absurd h (by decide), fun h => absurd h (by decide)⟩ _

/-- A client that is closed, with an empty cache, and no goroutine holding
`mu`: after its `Close` has returned. -/
def Shut (cfg : Config σ) : Prop :=
  cfg.world.client.closed = true ∧ cfg.world.client.cache = ∅ ∧ cfg.muHeld = false

/-- A step on a shut client keeps it shut and returns no secret. -/
theorem step_of_shut {cfg cfg' : Config σ} {e : Event σ} (h : cfg.step e = some cfg') (hs : cfg.Shut) :
    cfg'.Shut ∧ cfg'.threads.map (·.pc.returnsSecret) = cfg.threads.map (·.pc.returnsSecret) := by
  obtain ⟨hc, hcache, hmu⟩ := hs
  rcases step_cases h with ⟨i, a, t, w, pc, rfl, ht, -, -, hst, rfl⟩ | ⟨now, rfl, -, rfl⟩ |
    ⟨path, secret, server, rfl, -, rfl⟩
  · obtain ⟨hw, hpc, hret⟩ := Thread.step_of_closed hst hc hcache
      (muHeld_eq_false.mp hmu t (List.getElem?_mem ht))
    refine ⟨⟨hw ▸ hc, hw ▸ hcache, muHeld_set hmu hpc⟩, List.ext_getElem? fun j => ?_⟩
    rw [List.getElem?_map, List.getElem?_map, List.getElem?_set]
    split
    · subst_vars
      simp [ht, (List.getElem?_eq_some_iff.mp ht).1, hret, Thread.step_returnsSecret hst]
    · rfl
  · exact ⟨⟨hc, hcache, hmu⟩, rfl⟩
  · exact ⟨⟨hc, hcache, hmu⟩, rfl⟩

/-- Once a run has closed the client and no `Close` is between its two
critical sections, whatever happens next, in any interleaving of the calls
in flight, the client stays closed and no call returns a secret any more:
the goroutines that have returned a secret stay the ones that had. -/
theorem closed_run_no_secret {cfg : Config σ} (hi : cfg.ClosedInv) (es₁ es₂ : List (Event σ))
    (hc : (cfg.run es₁).world.client.closed = true) (hdone : (cfg.run es₁).muLocked = false) :
    (cfg.run (es₁ ++ es₂)).world.client.closed = true ∧
      (cfg.run (es₁ ++ es₂)).threads.map (·.pc.returnsSecret) =
        (cfg.run es₁).threads.map (·.pc.returnsSecret) := by
  have hi₁ := run_induction ClosedInv (fun _ _ _ hi hs => step_closedInv hs hi) hi es₁
  -- the cache was cleared, and no reader or writer holds `mu`
  have hshut : (cfg.run es₁).Shut := by
    refine ⟨hc, (hi₁.closed_cache hc).resolve_right (by simp [hdone]), muHeld_eq_false.mpr fun t ht => ?_⟩
    have hl : t.pc.isClosing = false := Bool.eq_false_iff.mpr fun h' => by
      simp [muLocked_eq_true.mpr ⟨t, ht, h'⟩] at hdone
    exact Pc.holdsMu_eq_false.mpr ⟨hi₁.closed_noRead hc t ht, hl⟩
  rw [run_append]
  exact (run_induction (fun c => c.Shut ∧
    c.threads.map (·.pc.returnsSecret) = (cfg.run es₁).threads.map (·.pc.returnsSecret))
    (fun _ _ _ ⟨hs, hm⟩ h => ⟨(step_of_shut h hs).1, (step_of_shut h hs).2.trans hm⟩) ⟨hshut, rfl⟩ es₂).imp
    (fun h => h.1) id

theorem closed_run_no_secret_getThenClose :
    (getThenClose.run ([.step 1 {}, .step 1 {}] ++ [.step 0 {}, .step 0 {}, .step 2 {}])).world.client.closed = true ∧
      (getThenClose.run ([.step 1 {}, .step 1 {}] ++ [.step 0 {}, .step 0 {}, .step 2 {}])).threads.map
          (·.pc.returnsSecret) =
        (getThenClose.run [.step 1 {}, .step 1 {}]).threads.map (·.pc.returnsSecret) :=
  closed_run_no_secret ⟨fun h => absurd h (by decide), fun h => absurd h (by decide), fun h => absurd h (by decide)⟩
    _ _ (by decide) (by decide)

/-- No goroutine but `i` is inside a call. -/
def Solo (cfg : Config σ) (i : Nat) : Prop :=
  ∀ j (hj : j < cfg.threads.length), cfg.threads[j].pc.inCall = true → j = i

/-- A run whose calls do not overlap, and in which nobody else writes the
server. -/
def Sequential : Config σ → List (Event σ) → Prop
  | _, [] => True
  | cfg, .step i a :: es => cfg.Solo i ∧ Sequential ((cfg.step (.step i a)).getD cfg) es
  | cfg, .tick now :: es => Sequential ((cfg.step (.tick now)).getD cfg) es
  | _, .external _ _ :: _ => False

/-- What a sequential run keeps: a `GetSecret` that has read a secret read
what the server holds, and every cache entry holds what the server holds,
unless a write of its path is under way. -/
structure SeqInv (cfg : Config σ) : Prop where
  reads : ∀ t ∈ cfg.threads, ∀ path s, t.op = .getSecret path → t.pc = .getRead s →
    cfg.world.server.lookup path = some s
  cache : cfg.world.client.enableCache = true → ∀ path e, cfg.world.client.cache.lookup path = some e →
    cfg.world.server.lookup path = some e.data ∨
      ∃ t ∈ cfg.threads, t.pc = .written ∧ t.op.writtenPath = some path

instance (cfg : Config σ) (i : Nat) : Decidable (cfg.Solo i) :=
  inferInstanceAs (Decidable (∀ j (hj : j < cfg.threads.length), cfg.threads[j].pc.inCall = true → j = i))

theorem Solo.eq_of_mem {cfg : Config σ} {i : Nat} (hs : cfg.Solo i) {t t' : Thread σ}
    (ht : cfg.threads[i]? = some t) (ht' : t' ∈ cfg.threads) (hin : t'.pc.inCall = true) : t' = t := by
  obtain ⟨j, hj, rfl⟩ := List.getElem_of_mem ht'
  obtain rfl := hs j hj hin
  exact Option.some.inj ((List.getElem?_eq_getElem hj).symm.trans ht)

/-- A client with an empty cache and no call in flight, as `NewClient`
makes it. -/
theorem seqInv_of_idle {cfg : Config σ} (h : ∀ t ∈ cfg.threads, t.pc.inCall = false)
    (hc : cfg.world.client.cache = ∅) : cfg.SeqInv where
  reads t ht _ s _ hpc := by
    have := h t ht
    rw [hpc] at this
    cases this
  cache _ _ _ he := by
    rw [hc, AList.lookup_empty] at he
    cases he

section SoloStep

variable {cfg : Config σ} {i : Nat} {t : Thread σ} {a : Answer} {w : World σ} {pc : Pc σ}

/-- A goroutine running alone keeps the reads of `GetSecret` calls right:
the server changes only by a write, and then no read is in flight. -/
theorem soloStep_reads (hs : cfg.Solo i) (ht : cfg.threads[i]? = some t)
    (hst : t.step cfg.world a = some (w, pc)) (hi : cfg.SeqInv) :
    ∀ t' ∈ cfg.threads.set i { t with pc := pc }, ∀ path s, t'.op = .getSecret path →
      t'.pc = .getRead s → w.server.lookup path = some s := by
  intro t' ht' path s hop hpc
  rcases List.mem_or_eq_of_mem_set ht' with ht' | rfl
  · -- another goroutine: the server changes only by a write, and then no read is in flight
    rcases Thread.step_server hst with hw | ⟨hstart, -⟩
    · rw [hw]; exact hi.reads t' ht' path s hop hpc
    · rw [hs.eq_of_mem ht ht' (by simp [hpc, Pc.inCall]), hstart] at hpc; cases hpc
  · -- the goroutine running: it reads in this step
    obtain rfl : pc = .getRead s := hpc
    rcases Thread.step_cases hst with ⟨-, -, hm, -⟩ | ⟨_, _, hop', -, hpc', hw, -, hl⟩ |
      ⟨_, _, _, _, hpc', -⟩ | ⟨_, _, _, hpc', -⟩ | ⟨_, _, _, hpc', -⟩ | ⟨-, -, hpc', -⟩ | ⟨-, -, hpc', -⟩
    · simp [Pc.holdsMu] at hm
    · obtain rfl := Pc.getRead.inj hpc'
      obtain rfl := Op.getSecret.inj (hop'.symm.trans hop)
      rw [hw]; exact hl
    all_goals cases hpc'

/-- A goroutine running alone keeps every cache entry what the server holds,
but for the path its write has changed. -/
theorem soloStep_cache (hs : cfg.Solo i) (ht : cfg.threads[i]? = some t)
    (hst : t.step cfg.world a = some (w, pc)) (hi : cfg.SeqInv) (hen : w.client.enableCache = true) :
    ∀ path e, w.client.cache.lookup path = some e → w.server.lookup path = some e.data ∨
      ∃ t' ∈ cfg.threads.set i { t with pc := pc }, t'.pc = .written ∧ t'.op.writtenPath = some path := by
  have hen₀ : cfg.world.client.enableCache = true := (Thread.step_config hst).1.symm.trans hen
  -- the old entries: only the goroutine running can be writing
  have hold : ∀ path e, cfg.world.client.cache.lookup path = some e →
      cfg.world.server.lookup path = some e.data ∨ (t.pc = .written ∧ t.op.writtenPath = some path) :=
    fun path e he => (hi.cache hen₀ path e he).imp_right fun ⟨t', ht', hw, hp⟩ =>
      hs.eq_of_mem ht ht' (by simp [hw, Pc.inCall]) ▸ ⟨hw, hp⟩
  have hcoh : t.pc ≠ .written → ∀ path e, cfg.world.client.cache.lookup path = some e →
      cfg.world.server.lookup path = some e.data :=
    fun hne path e he => (hold path e he).resolve_right fun h => hne h.1
  intro path e he
  rcases Thread.step_cases hst with ⟨hw, hm, -⟩ | ⟨_, _, _, hpc₀, -, hw, -⟩ |
    ⟨path', s, hop, hpc₀, -, hw⟩ | ⟨path', hwp, hpc₀, rfl, -, hclient, -, hserver⟩ |
    ⟨path', hwp, hpc₀, -, hw⟩ | ⟨-, hpc₀, -, -, hw⟩ | ⟨-, -, -, hw⟩
  · rw [hw] at he ⊢
    exact .inl (hcoh (fun h => by simp [h, Pc.holdsMu] at hm) path e he)
  · rw [hw] at he ⊢
    exact .inl (hcoh (by simp [hpc₀]) path e he)
  · -- `GetSecret` caches what it read
    rw [hw] at he ⊢
    simp only [hen₀, ↓reduceIte, Client.setCachedSecret] at he
    by_cases hp : path = path'
    · subst hp
      rw [AList.lookup_insert] at he
      cases he
      exact .inl (hi.reads t (List.getElem?_mem ht) path s hop hpc₀)
    · rw [AList.lookup_insert_ne hp] at he
      exact .inl (hcoh (by simp [hpc₀]) path e he)
  · -- a write: its path is under way, the others keep their entries
    by_cases hp : path = path'
    · subst hp
      exact .inr ⟨{ t with pc := .written },
        List.getElem?_mem (List.getElem?_set_self (List.getElem?_eq_some_iff.mp ht).1), rfl, hwp⟩
    · rw [hserver path hp]
      rw [hclient] at he
      exact .inl (hcoh (by simp [hpc₀]) path e he)
  · -- the write returns and invalidates its path
    rw [hw] at he ⊢
    simp only [hen₀, ↓reduceIte, Client.invalidateCachedSecret] at he
    by_cases hp : path = path'
    · subst hp; rw [AList.lookup_erase] at he; cases he
    · rw [AList.lookup_erase_ne hp] at he
      exact .inl ((hold path e he).resolve_right fun h => hp (Option.some.inj (h.2.symm.trans hwp)))
  · -- the first section of `Close` keeps the cache
    rw [hw] at he ⊢
    exact .inl (hcoh (by simp [hpc₀]) path e he)
  · -- the second clears it
    rw [hw, AList.lookup_empty] at he
    cases he

end SoloStep

theorem step_seqInv {cfg cfg' : Config σ} {e : Event σ} (h : cfg.step e = some cfg')
    (hsolo : ∀ i a, e = .step i a → cfg.Solo i) (hext : ∀ path secret, e ≠ .external path secret)
    (hi : cfg.SeqInv) : cfg'.SeqInv := by
  rcases step_cases h with ⟨i, a, t, w, pc, rfl, ht, -, -, hst, rfl⟩ | ⟨now, rfl, -, rfl⟩ |
    ⟨path, secret, -, rfl, -⟩
  · exact ⟨soloStep_reads (hsolo i a rfl) ht hst hi, soloStep_cache (hsolo i a rfl) ht hst hi⟩
  · exact ⟨hi.reads, hi.cache⟩
  · exact absurd rfl (hext path secret)

/-- A sequential run keeps `SeqInv`. -/
theorem run_seqInv {cfg : Config σ} (hi : cfg.SeqInv) {es : List (Event σ)} (hseq : cfg.Sequential es) :
    (cfg.run es).SeqInv := by
  induction es generalizing cfg with
  | nil => exact hi
  | cons e es ih =>
    have keep : ∀ c : Config σ, c.SeqInv → (∀ i a, e = .step i a → c.Solo i) →
        (∀ path secret, e ≠ .external path secret) → ((c.step e).getD c).SeqInv := fun c hc hs hx => by
      rcases h : c.step e with _ | c'
      · exact hc
      · exact step_seqInv h hs hx hc
    cases e with
    | step i a => exact ih (keep cfg hi (fun _ _ h => by cases h; exact hseq.1) nofun) hseq.2
    | tick now => exact ih (keep cfg hi nofun nofun) hseq
    | external path secret => exact hseq.elim

/-- When calls do not overlap and nobody else writes the server, every
secret `GetSecret` returns, from its cache or from the server, is the one
the server holds for the path when the call returns. -/
theorem sequential_getSecret {cfg : Config σ} (hi : cfg.SeqInv) {es : List (Event σ)}
    (hseq : cfg.Sequential es) {i : Nat} (hs : (cfg.run es).Solo i) {t : Thread σ}
    (ht : (cfg.run es).threads[i]? = some t) {path : String} (hop : t.op = .getSecret path)
    {a : Answer} {w : World σ} {s : σ} (hst : t.step (cfg.run es).world a = some (w, .returned (some s))) :
    w.server.lookup path = some s := by
  have hinv := run_seqInv hi hseq
  rcases Thread.step_cases hst with ⟨hw, -, -, hret⟩ | ⟨_, _, _, _, h, -⟩ | ⟨_, s', hop', hpc, h, hw⟩ |
    ⟨_, _, _, h, -⟩ | ⟨_, _, _, h, -⟩ | ⟨-, -, h, -⟩ | ⟨-, -, h, -⟩
  · -- a cache hit: the entry is what the server holds, since no write is in flight
    obtain ⟨path', hop', hen, hget⟩ := hret s rfl
    obtain rfl := Op.getSecret.inj (hop'.symm.trans hop)
    obtain ⟨e, he, rfl, -⟩ := Client.getCachedSecret_eq_some.mp hget
    rw [hw]
    refine (hinv.cache hen path' e he).resolve_right fun ⟨t', ht', hw', hp⟩ => ?_
    rw [hs.eq_of_mem ht ht' (by simp [hw', Pc.inCall]), hop] at hp
    cases hp
  · cases h
  · -- a read: it read what the server holds
    cases h
    rw [hw]
    exact hinv.reads t (List.getElem?_mem ht) path s hop hpc
  all_goals cases h

theorem sequential_getSecret_getThenClose :
    ({ getThenClose.world with client := getThenClose.world.client.setCachedSecret "db" "pw" 0 }).server.lookup
      "db" = some "pw" :=
  @sequential_getSecret String getThenClose (seqInv_of_idle (by decide) rfl) [.step 0 {}, .step 0 {}]
    ⟨by decide, by decide, trivial⟩ 0 (by decide) ⟨.getSecret "db", .getRead "pw"⟩ (by decide) "db" rfl {}
    { getThenClose.world with client := getThenClose.world.client.setCachedSecret "db" "pw" 0 } "pw" rfl

/-! ## A `GetSecret` racing a `PutSecret` -/

/-- An event that leaves the cache entry of `path`, and what the server
holds there, alone until `deadline`: a step of a goroutine whose call does
not touch `path`, the clock up to `deadline`, or another client's write of
another path. -/
def leavesEntry (cfg : Config σ) (path : String) (deadline : Int) : Event σ → Bool
  | .step i _ => ((cfg.threads.map (·.op))[i]?).all fun op => !op.touches path
  | .tick now => decide (now ≤ deadline)
  | .external p _ => p != path

/-- What a run of such events keeps, from `cfg` to `cfg'`. -/
structure EntryKept (path : String) (deadline : Int) (cfg cfg' : Config σ) : Prop where
  ops : cfg'.threads.map (·.op) = cfg.threads.map (·.op)
  touching : ∀ (j : Nat) (t : Thread σ), cfg.threads[j]? = some t → t.op.touches path = true → cfg'.threads[j]? = some t
  cache : cfg'.world.client.cache.lookup path = cfg.world.client.cache.lookup path
  server : cfg'.world.server.lookup path = cfg.world.server.lookup path
  enableCache : cfg'.world.client.enableCache = cfg.world.client.enableCache
  rateLimited : cfg'.world.client.rateLimited = cfg.world.client.rateLimited
  now : cfg'.world.now ≤ deadline

theorem EntryKept.trans {path : String} {deadline : Int} {c₁ c₂ c₃ : Config σ}
    (h₁ : EntryKept path deadline c₁ c₂) (h₂ : EntryKept path deadline c₂ c₃) : EntryKept path deadline c₁ c₃ :=
  ⟨h₂.ops.trans h₁.ops, fun j t ht hp => h₂.touching j t (h₁.touching j t ht hp) hp, h₂.cache.trans h₁.cache,
    h₂.server.trans h₁.server, h₂.enableCache.trans h₁.enableCache, h₂.rateLimited.trans h₁.rateLimited, h₂.now⟩

theorem leavesEntry_eq_of_ops {cfg cfg' : Config σ} (h : cfg'.threads.map (·.op) = cfg.threads.map (·.op)) :
    cfg'.leavesEntry = cfg.leavesEntry := by
  funext path deadline e
  cases e <;> simp only [leavesEntry, h]

theorem step_entryKept {cfg cfg' : Config σ} {e : Event σ} {path : String} {deadline : Int}
    (h : cfg.step e = some cfg') (hl : cfg.leavesEntry path deadline e = true) (hnow : cfg.world.now ≤ deadline) :
    EntryKept path deadline cfg cfg' := by
  rcases step_cases h with ⟨i, a, t, w, pc, rfl, ht, -, -, hst, rfl⟩ | ⟨now, rfl, -, rfl⟩ |
    ⟨p, secret, server, rfl, hserver, rfl⟩
  · have hi := (List.getElem?_eq_some_iff.mp ht).1
    have hop : t.op.touches path = false := by
      simpa [leavesEntry, List.getElem?_map, ht] using hl
    obtain ⟨hcache, hsrv⟩ := Thread.step_keeps_entry hst hop
    obtain ⟨hen, hrate, hn⟩ := Thread.step_config hst
    refine ⟨?_, fun j t' hj hp => ?_, hcache, hsrv, hen, hrate, hn ▸ hnow⟩
    · exact map_op_set ht pc
    · rw [List.getElem?_set_ne fun e => by subst e; simp [ht] at hj; simp [← hj, hop] at hp, hj]
  · exact ⟨rfl, fun _ _ h _ => h, rfl, rfl, rfl, rfl, by simpa [leavesEntry] using hl⟩
  · exact ⟨rfl, fun _ _ h _ => h, rfl, hserver path fun e => by simp [leavesEntry, e] at hl, rfl, rfl, hnow⟩

/-- A run of events that leave the entry of `path` alone keeps it, keeps
what the server holds there, and moves no goroutine whose call touches
`path`. -/
theorem run_entryKept {cfg : Config σ} {path : String} {deadline : Int} {es : List (Event σ)}
    (hes : ∀ e ∈ es, cfg.leavesEntry path deadline e = true) (hnow : cfg.world.now ≤ deadline) :
    EntryKept path deadline cfg (cfg.run es) := by
  induction es generalizing cfg with
  | nil => exact ⟨rfl, fun _ _ h _ => h, rfl, rfl, rfl, rfl, hnow⟩
  | cons e es ih =>
    rw [run]
    rcases hs : cfg.step e with _ | cfg'
    · exact ih (fun e he => hes e (List.mem_cons_of_mem _ he)) hnow
    · have k := step_entryKept hs (hes e (List.mem_cons_self _ _)) hnow
      refine k.trans (ih (fun e he => ?_) k.now)
      rw [leavesEntry_eq_of_ops k.ops]
      exact hes e (List.mem_cons_of_mem _ he)

/-- Goroutines `0` and `2` call `GetSecret` of `path`, goroutine `1` calls
`PutSecret` of `path`. -/
def staleRace (w : World σ) (path : String) (new : σ) : Config σ :=
  ⟨w, [⟨.getSecret path, .start⟩, ⟨.putSecret path new, .start⟩, ⟨.getSecret path, .start⟩]⟩

/-- Goroutine `0` misses the cache and reads the server; goroutine `1`
writes and invalidates the path; goroutine `0` caches what it read; the
clock reads `now`; goroutine `2` runs. -/
def staleSchedule (now : Int) : List (Event σ) :=
  [.step 0 {}, .step 0 {}, .step 1 {}, .step 1 {}, .step 0 {}, .tick now, .step 2 {}]

/-- `GetSecret` caches what it read even when a `PutSecret` of the same path
has since written the server and invalidated the cache: once goroutine `g`,
holding a read of `old` while the server holds `new`, caches it, every
`GetSecret` of the path that starts before the entry expires, after any run
that leaves the entry alone, gets `old` while the server holds `new`. -/
theorem stale_after_put {cfg : Config σ} {g r : Nat} {path : String} {old new : σ} {a b : Answer}
    (hen : cfg.world.client.enableCache = true) (httl : 0 ≤ cfg.world.client.cacheTTL)
    (hg : cfg.threads[g]? = some ⟨.getSecret path, .getRead old⟩)
    (hr : cfg.threads[r]? = some ⟨.getSecret path, .start⟩) (hnew : cfg.world.server.lookup path = some new)
    (hrate : cfg.world.client.checkRateLimit b.wait = none) {es : List (Event σ)}
    (hes : ∀ e ∈ es, cfg.leavesEntry path (cfg.world.now + cfg.world.client.cacheTTL) e = true) :
    ∃ cfg', (cfg.run (.step g a :: es)).step (.step r b) = some cfg' ∧
      cfg'.threads[r]? = some ⟨.getSecret path, .returned (some old)⟩ ∧ cfg'.world.server.lookup path = some new := by
  -- goroutine `g` caches `old` until `now + cacheTTL`, and the run leaves that entry alone
  have hcache : cfg.step (.step g a) =
      some ⟨{ cfg.world with client := cfg.world.client.setCachedSecret path old cfg.world.now },
        cfg.threads.set g ⟨.getSecret path, .returned (some old)⟩⟩ := by
    simp [step, hg, Thread.takesLock, Thread.takesRLock, Thread.step, hen]
  rw [run, hcache, Option.getD_some]
  have k := @run_entryKept σ ⟨{ cfg.world with client := cfg.world.client.setCachedSecret path old cfg.world.now },
    cfg.threads.set g ⟨.getSecret path, .returned (some old)⟩⟩ path _ es
    (fun e he => by rw [leavesEntry_eq_of_ops (map_op_set hg _)]; exact hes e he) (Int.le_add_of_nonneg_right httl)
  have hr₁ : (cfg.threads.set g ⟨.getSecret path, .returned (some old)⟩)[r]? = some ⟨.getSecret path, .start⟩ := by
    rwa [List.getElem?_set_ne fun e => by subst e; simp [hg] at hr]
  -- goroutine `r` finds the entry
  have hr₂ := k.touching r _ hr₁ (by simp [Op.touches])
  have hfresh : _ := Client.getCachedSecret_eq_some.mpr ⟨_, k.cache.trans (AList.lookup_insert _), rfl, k.now⟩
  refine ⟨_, step_getSecret_hit hr₂ ?_ (k.enableCache.trans hen) hfresh,
    List.getElem?_set_self (List.getElem?_eq_some_iff.mp hr₂).1, k.server.trans hnew⟩
  rwa [Client.checkRateLimit, k.rateLimited]

theorem stale_after_put_db :
    ((staleRace getThenClose.world "db" "pw2").run (staleSchedule 30)).threads[2]? =
        some ⟨.getSecret "db", .returned (some "pw")⟩ ∧
      ((staleRace getThenClose.world "db" "pw2").run (staleSchedule 30)).world.server.lookup "db" =
        some "pw2" := by
  obtain ⟨cfg', hstep, hr, hs⟩ := @stale_after_put String
    ((staleRace getThenClose.world "db" "pw2").run [.step 0 {}, .step 0 {}, .step 1 {}, .step 1 {}]) 0 2 "db" "pw"
    "pw2" {} {} (by decide) (by decide) (by decide) (by decide) (by decide) (by decide) [.tick 30] (by decide)
  rw [show staleSchedule 30 = [.step 0 {}, .step 0 {}, .step 1 {}, .step 1 {}] ++ (.step 0 {} :: [.tick 30]) ++
    [.step 2 {}] from rfl, run_append, run_append, run_singleton, hstep]
  exact ⟨hr, hs⟩

end Config

end Gochoreo.Vault
