import Gochoreo.L3Registry.Manager

/-!
# Concurrent registry calls

Goroutines calling the `Manager` at once. Every method takes `m.mu` for its
whole body, so each critical section runs atomically and a run is an
interleaving of sections. `Register`, `Unregister` and `UpdateComponentMeta`
are one section each; `RegisterWithConstraints` is two: its `Register`, then,
after the lock was released, a second section that stores the constraints
and sets them on the meta record (src/pkg/version/manager.go:103-116).

A thread is its call and a program counter (`Pc`); a configuration is the
manager and the threads; `Config.step i` runs the next section of thread
`i`, and a schedule is a list of thread indices (an index with nothing left
to run is skipped).

**Results.**
* `step_atomic`: a thread whose call is one section runs it as the
  sequential call, so every fact about `Manager.apply` holds of that step.
* `run_inv`: with such threads only, every schedule keeps `Manager.Inv`.
* `run_register_race`: of any number of concurrent `Register` calls for one
  free name, at most one succeeds in every schedule, and once all have run
  exactly one has and the name has one entry.
* `registry_invariants`: the sequential and the concurrent facts together.
* `registerWithConstraints_window`: in the window between the two sections an
  `Unregister` leaves constraints under a name that is not registered and
  makes the second section panic, and a re-`Register` receives the
  constraints of another call.
* `run_meta_keys`: what every interleaving keeps: `componentMeta` and
  `components` have the same keys and each component sits under its name.
-/
namespace Gochoreo

/-- Where a goroutine is in its registry call. -/
inductive Pc where
  | start
  /-- `RegisterWithConstraints` between its two sections, its `Register` done -/
  | attach (name : String)
  | done (outcome : Outcome)

/-- A goroutine making one registry call. -/
structure Thread where
  op : Manager.Op
  pc : Pc

/-- A call that is one critical section: anything but `RegisterWithConstraints`. -/
def Manager.Op.isAtomic : Manager.Op → Bool
  | .registerWithConstraints .. => false
  | _ => true

namespace Thread

/-- The next critical section of a thread: the manager after it and the new
program counter; `none` when the thread has none left. -/
def step (t : Thread) (m : Manager) : Option (Manager × Pc) :=
  match t.pc, t.op with
  | .start, .registerWithConstraints c _ now =>
    match m.register c now, c with
    | (some e, m'), _ => some (m', .done (.ret (some e)))
    | (none, m'), some x => some (m', .attach x.name)
    | (none, m'), none => some (m', .done (.ret none))
  | .start, op => some ((m.apply op).2, .done (m.apply op).1)
  | .attach name, .registerWithConstraints _ cs _ =>
    some ((m.attachConstraints name cs).1,
      .done (if (m.attachConstraints name cs).2 then .ret none else .panic))
  | .attach _, _ => none
  | .done _, _ => none

/-- The call returned without an error. -/
def succeeded (t : Thread) : Bool :=
  match t.pc with
  | .done (.ret none) => true
  | _ => false

/-- The call panicked. -/
def panicked (t : Thread) : Bool :=
  match t.pc with
  | .done .panic => true
  | _ => false

def isDone (t : Thread) : Bool :=
  match t.pc with
  | .done _ => true
  | _ => false

@[simp] theorem succeeded_done_ret (op : Manager.Op) (r : Option GoError) :
    (Thread.mk op (.done (.ret r))).succeeded = r.isNone := by
  cases r <;> rfl

/-- A one-section call runs as the sequential call, once: from its start. -/
theorem step_atomic {t : Thread} {m m' : Manager} {pc : Pc} (ht : t.op.isAtomic)
    (h : t.step m = some (m', pc)) :
    t.pc = .start ∧ m' = (m.apply t.op).2 ∧ pc = .done (m.apply t.op).1 := by
  obtain ⟨op, tpc⟩ := t
  cases op <;> simp only [Manager.Op.isAtomic, Bool.false_eq_true] at ht <;> cases tpc <;>
    simp only [step] at h <;> (try cases h) <;> exact ⟨rfl, rfl, rfl⟩

theorem countP_succeeded_eq_zero {ts : List Thread} (h : ∀ t ∈ ts, t.isDone = false) :
    ts.countP succeeded = 0 :=
  List.countP_eq_zero.mpr fun t ht hs => by
    have hd := h t ht
    obtain ⟨op, _ | _ | _⟩ := t <;> simp_all [isDone, succeeded]

/-- Every critical section keeps `KeysInv`, the second one of
`RegisterWithConstraints` included, whatever ran since the first. -/
theorem step_keysInv {t : Thread} {m m' : Manager} {pc : Pc} (h : t.step m = some (m', pc))
    (hk : m.KeysInv) : m'.KeysInv := by
  obtain ⟨op, tpc⟩ := t
  cases tpc with
  | start =>
    cases op with
    | register c now => cases h; exact Manager.register_keysInv hk c now
    | unregister name => cases h; exact Manager.unregister_keysInv hk name
    | updateComponentMeta name f now => cases h; exact Manager.updateComponentMeta_keysInv hk name f now
    | registerWithConstraints c cs now =>
      have key : ∀ e m'', m.register c now = (e, m'') → m''.KeysInv := fun e m'' he => by
        simpa [he] using Manager.register_keysInv hk c now
      simp only [step] at h
      split at h <;> (cases h; exact key _ _ ‹_›)
  | attach name =>
    cases op <;> simp only [step, Option.some.injEq, Prod.mk.injEq, reduceCtorEq] at h
    obtain ⟨rfl, -⟩ := h
    exact Manager.attachConstraints_keysInv hk _ _
  | done _ => simp [step] at h

end Thread

/-- The manager and the goroutines calling it. -/
structure Config where
  manager : Manager
  threads : List Thread

namespace Config

/-- Thread `i` runs its next critical section. -/
def step (cfg : Config) (i : Nat) : Option Config :=
  match cfg.threads[i]? with
  | none => none
  | some t => (t.step cfg.manager).map fun r => ⟨r.1, cfg.threads.set i { t with pc := r.2 }⟩

/-- The configuration after a schedule. -/
def run (cfg : Config) : List Nat → Config
  | [] => cfg
  | i :: is => ((cfg.step i).getD cfg).run is

theorem run_induction (P : Config → Prop) (hstep : ∀ cfg cfg' i, P cfg → cfg.step i = some cfg' → P cfg')
    {cfg : Config} (h : P cfg) (sched : List Nat) : P (cfg.run sched) := by
  induction sched generalizing cfg with
  | nil => exact h
  | cons i is ih =>
    rw [run]
    rcases hs : cfg.step i with _ | cfg'
    · exact ih h
    · exact ih (hstep cfg cfg' i h hs)

/-- What one step does: thread `i`, a member of the threads, takes its
next section and nothing else changes. -/
theorem step_cases {cfg cfg' : Config} {i : Nat} (h : cfg.step i = some cfg') :
    ∃ (hi : i < cfg.threads.length) (m : Manager) (pc : Pc),
      cfg.threads[i].step cfg.manager = some (m, pc) ∧
      cfg' = ⟨m, cfg.threads.set i { cfg.threads[i] with pc := pc }⟩ := by
  unfold step at h
  split at h
  · cases h
  · rename_i t ht
    obtain ⟨hi, rfl⟩ := List.getElem?_eq_some_iff.mp ht
    obtain ⟨⟨m, pc⟩, hs, rfl⟩ := Option.map_eq_some'.mp h
    exact ⟨hi, m, pc, hs, rfl⟩

theorem step_ops {cfg cfg' : Config} {i : Nat} (h : cfg.step i = some cfg') :
    ∀ t ∈ cfg'.threads, ∃ t₀ ∈ cfg.threads, t.op = t₀.op := by
  obtain ⟨hi, m, pc, -, rfl⟩ := step_cases h
  intro t ht
  rcases List.mem_or_eq_of_mem_set ht with ht | rfl
  · exact ⟨t, ht, rfl⟩
  · exact ⟨_, List.getElem_mem hi, rfl⟩

/-- Threads of one-section calls only. -/
def Atomic (cfg : Config) : Prop := ∀ t ∈ cfg.threads, t.op.isAtomic

theorem step_atomic_threads {cfg cfg' : Config} {i : Nat} (h : cfg.step i = some cfg')
    (ha : cfg.Atomic) : cfg'.Atomic := fun t ht => by
  obtain ⟨t₀, ht₀, hop⟩ := step_ops h t ht
  rw [hop]; exact ha t₀ ht₀

/-- With one-section calls only, a step is one whole sequential call by one
of the threads. -/
theorem step_atomic {cfg cfg' : Config} {i : Nat} (h : cfg.step i = some cfg') (ha : cfg.Atomic) :
    ∃ t ∈ cfg.threads, cfg'.manager = (cfg.manager.apply t.op).2 := by
  obtain ⟨hi, m, pc, hs, rfl⟩ := step_cases h
  exact ⟨_, List.getElem_mem hi, (Thread.step_atomic (ha _ (List.getElem_mem hi)) hs).2.1⟩

/-- With one-section calls only, every schedule keeps the registry
invariant. -/
theorem run_inv {cfg : Config} (ha : cfg.Atomic) (hinv : cfg.manager.Inv) (sched : List Nat) :
    (cfg.run sched).manager.Inv ∧ (cfg.run sched).Atomic :=
  run_induction (fun cfg => cfg.manager.Inv ∧ cfg.Atomic) (fun _ _ _ ⟨hinv, ha⟩ hs =>
    let ⟨t, _, hm⟩ := step_atomic hs ha
    ⟨hm ▸ Manager.apply_inv hinv t.op, step_atomic_threads hs ha⟩) ⟨hinv, ha⟩ sched

/-- Whatever the calls and the schedule, every section keeps `KeysInv`:
`componentMeta` and `components` keep the same keys, and every component
sits under its own name. -/
theorem run_keysInv {cfg : Config} (hk : cfg.manager.KeysInv) (sched : List Nat) :
    (cfg.run sched).manager.KeysInv :=
  run_induction (fun cfg => cfg.manager.KeysInv) (fun _ _ _ hk hs => by
    obtain ⟨_, m, pc, hst, rfl⟩ := step_cases hs
    exact Thread.step_keysInv hst hk) hk sched

/-! ## Racing registrations of one name -/

/-- Goroutines each calling `Register` with one of `cs`. -/
def registerRace (m : Manager) (cs : List Component) (now : String) : Config :=
  ⟨m, cs.map fun c => ⟨.register (some c) now, .start⟩⟩

/-- The state of a race for the name `n`: every thread registers a
component named `n`; either no thread has run and `n` is free, or
exactly one has succeeded and `n` is taken. -/
structure RaceInv (n : String) (cfg : Config) : Prop where
  threads : ∀ t ∈ cfg.threads, ∃ c now, t.op = .register (some c) now ∧ c.name = n
  won : (n ∉ cfg.manager.components ∧ ∀ t ∈ cfg.threads, t.isDone = false) ∨
    (cfg.threads.countP Thread.succeeded = 1 ∧ n ∈ cfg.manager.components)

theorem step_raceInv {n : String} (hn : n ≠ "") {cfg cfg' : Config} {i : Nat}
    (h : cfg.step i = some cfg') (hr : RaceInv n cfg) : RaceInv n cfg' := by
  have hthreads : ∀ t ∈ cfg'.threads, ∃ c now, t.op = .register (some c) now ∧ c.name = n :=
    fun t ht => by
      obtain ⟨t₀, ht₀, hop'⟩ := step_ops h t ht
      obtain ⟨c', now', h', hc'⟩ := hr.threads t₀ ht₀
      exact ⟨c', now', hop'.trans h', hc'⟩
  obtain ⟨hi, m, pc, hs, rfl⟩ := step_cases h
  obtain ⟨c, now, hop, hc⟩ := hr.threads _ (List.getElem_mem hi)
  refine ⟨hthreads, ?_⟩
  obtain ⟨hstart, rfl, rfl⟩ := Thread.step_atomic (by rw [hop]; rfl) hs
  have hcount := List.countP_set Thread.succeeded cfg.threads i
    { cfg.threads[i] with pc := .done (cfg.manager.apply cfg.threads[i].op).1 } hi
  have hnot : cfg.threads[i].succeeded = false := by simp [Thread.succeeded, hstart]
  simp only [hnot, hop, Manager.apply, Thread.succeeded_done_ret, Bool.false_eq_true, ↓reduceIte,
    Nat.sub_zero] at hcount ⊢
  rcases hr.won with ⟨hfree, hnone⟩ | ⟨h1, htaken⟩
  · -- the name is free: this call registers it
    have h0 := Thread.countP_succeeded_eq_zero hnone
    obtain ⟨x, hx, -, -, hok, hm⟩ := (Manager.register_cases cfg.manager (some c) now).resolve_left
      (by simp [(Manager.register_ok_iff _ _ _).mpr ⟨c, rfl, hc ▸ hn, hc ▸ hfree⟩])
    cases hx
    refine .inr ⟨by rw [hcount]; simp [hok, h0], ?_⟩
    rw [hm, ← hc]
    simp [Manager.insertComponent, AList.mem_insert]
  · -- the name is taken: this call fails and changes nothing
    rcases Manager.register_cases cfg.manager (some c) now with ⟨hfail, hm⟩ | ⟨x, hx, -, hx', -, -⟩
    · obtain ⟨e, he⟩ := Option.isSome_iff_exists.mp hfail
      exact .inr ⟨by rw [hcount]; simp [he, h1], by rw [hm]; exact htaken⟩
    · cases hx; exact absurd (hc ▸ htaken) hx'

theorem run_raceInv {n : String} (hn : n ≠ "") {cfg : Config} (hr : RaceInv n cfg) (sched : List Nat) :
    RaceInv n (cfg.run sched) :=
  run_induction (RaceInv n) (fun _ _ _ hr hs => step_raceInv hn hs hr) hr sched

theorem run_length (cfg : Config) (sched : List Nat) :
    (cfg.run sched).threads.length = cfg.threads.length :=
  run_induction (fun c => c.threads.length = cfg.threads.length) (fun _ _ _ hl hs => by
    obtain ⟨-, m, pc, -, rfl⟩ := step_cases hs
    exact (List.length_set ..).trans hl) rfl sched

/-- Of any number of goroutines racing to `Register` components named `n`,
a name that is free and non-empty: in every schedule at most one call has
succeeded, and once all have returned exactly one has and the registry
holds one entry for `n`. -/
theorem run_register_race (m : Manager) (n : String) (hn : n ≠ "") (hfree : n ∉ m.components)
    (cs : List Component) (hcs : ∀ c ∈ cs, c.name = n) (now : String) (sched : List Nat) :
    ((registerRace m cs now).run sched).threads.countP Thread.succeeded ≤ 1 ∧
    (cs ≠ [] → ((registerRace m cs now).run sched).threads.all Thread.isDone →
      ((registerRace m cs now).run sched).threads.countP Thread.succeeded = 1 ∧
      ((registerRace m cs now).run sched).manager.list.count n = 1) := by
  have h0 : RaceInv n (registerRace m cs now) := by
    refine ⟨fun t ht => ?_, .inl ⟨hfree, fun t ht => ?_⟩⟩ <;>
      obtain ⟨c, hc, rfl⟩ := List.mem_map.mp ht
    · exact ⟨c, now, rfl, hcs c hc⟩
    · rfl
  have hr := run_raceInv hn h0 sched
  refine ⟨?_, fun hne hdone => ?_⟩
  · rcases hr.won with ⟨-, hnone⟩ | ⟨h, -⟩
    · simp [Thread.countP_succeeded_eq_zero hnone]
    · exact h.le
  · obtain ⟨t, ht⟩ : ∃ t, t ∈ ((registerRace m cs now).run sched).threads :=
      List.exists_mem_of_length_pos (by rw [run_length]; simpa [registerRace, List.length_pos])
    rcases hr.won with ⟨-, hnone⟩ | ⟨h1, htaken⟩
    · simpa [hnone t ht] using List.all_eq_true.mp hdone t ht
    · have hl := Manager.list_spec ((registerRace m cs now).run sched).manager
      exact ⟨h1, List.count_eq_one_of_mem hl.2.1 ((hl.2.2 n).mpr htaken)⟩

end Config

/-! ## The guarantees, and the window of `RegisterWithConstraints` -/

/-- Over every sequential run of `Register`, `RegisterWithConstraints`,
`Unregister` and `UpdateComponentMeta` the three maps agree on their keys,
every component is stored under its own name, `Unregister` removes a name
from all three maps and `List()` gives each registered name once, sorted;
`Register` succeeds exactly on a non-nil component with a free non-empty
name, and a failing call changes nothing. Interleaved one-section calls keep
the invariant, each step being one whole call, and of any number of racing
`Register` calls for one free name at most one succeeds, exactly one once
all have returned. -/
theorem registry_invariants :
    (∀ m : Manager, Manager.Reachable m → m.Inv ∧
      (∀ name, name ∉ (m.unregister name).2.components ∧ name ∉ (m.unregister name).2.componentMeta ∧
        name ∉ (m.unregister name).2.constraints) ∧
      m.list.Sorted (· ≤ ·) ∧ m.list.Nodup ∧ ∀ n, n ∈ m.list ↔ n ∈ m.components) ∧
    (∀ (m : Manager) (c : Option Component) (now : String),
      (m.register c now).1 = none ↔ ∃ x, c = some x ∧ x.name ≠ "" ∧ x.name ∉ m.components) ∧
    (∀ (m : Manager) (op : Manager.Op) (e : GoError), (m.apply op).1 = .ret (some e) → (m.apply op).2 = m) ∧
    (∀ cfg : Config, cfg.Atomic → cfg.manager.Inv → ∀ sched, (cfg.run sched).manager.Inv ∧
      ∀ i cfg', (cfg.run sched).step i = some cfg' →
        ∃ t ∈ (cfg.run sched).threads, cfg'.manager = ((cfg.run sched).manager.apply t.op).2) ∧
    (∀ (m : Manager) (n : String), n ≠ "" → n ∉ m.components → ∀ (cs : List Component),
      (∀ c ∈ cs, c.name = n) → ∀ now sched,
      ((Config.registerRace m cs now).run sched).threads.countP Thread.succeeded ≤ 1 ∧
      (cs ≠ [] → ((Config.registerRace m cs now).run sched).threads.all Thread.isDone →
        ((Config.registerRace m cs now).run sched).threads.countP Thread.succeeded = 1 ∧
        ((Config.registerRace m cs now).run sched).manager.list.count n = 1)) :=
  ⟨fun m hm => ⟨hm.inv, fun name => Manager.unregister_removes hm.inv name, Manager.list_spec m⟩,
   Manager.register_ok_iff,
   fun m op e h => (Manager.apply_fail m op).1 e h,
   fun _ ha hinv sched => ⟨(Config.run_inv ha hinv sched).1,
     fun _ _ h => Config.step_atomic h (Config.run_inv ha hinv sched).2⟩,
   Config.run_register_race⟩

/-- Three goroutines: `RegisterWithConstraints` of `orders` with one
constraint, `Unregister("orders")`, and a plain `Register` of another
component named `orders`. -/
def windowConfig : Config :=
  ⟨newManager [],
   [⟨.registerWithConstraints (some ⟨"orders", "with-constraints", [], {}, fun _ => true,
        fun _ _ => (none, none), none⟩) [⟨"users", {}, []⟩] "", .start⟩,
    ⟨.unregister "orders", .start⟩,
    ⟨.register (some ⟨"orders", "plain", [], {}, fun _ => true, fun _ _ => (none, none), none⟩) "", .start⟩]⟩

/-- The window between the two sections of `RegisterWithConstraints`. With
`Unregister` inside it (schedule 0, 1, 0) the second section stores
constraints under a name no longer registered and then panics on the missing
meta record. With `Unregister` and a plain `Register` inside it (schedule
0, 1, 2, 0) the component now under `orders` is the plain one, yet it
receives the other call's constraints, and every call reports success. -/
theorem registerWithConstraints_window :
    ("orders" ∈ (windowConfig.run [0, 1, 0]).manager.constraints ∧
      "orders" ∉ (windowConfig.run [0, 1, 0]).manager.components ∧
      (windowConfig.run [0, 1, 0]).threads.map Thread.panicked = [true, false, false]) ∧
    ((windowConfig.run [0, 1, 2, 0]).manager.constraints.lookup "orders" = some [⟨"users", {}, []⟩] ∧
      ((windowConfig.run [0, 1, 2, 0]).manager.components.lookup "orders").map Component.type =
        some "plain" ∧
      (windowConfig.run [0, 1, 2, 0]).threads.map Thread.succeeded = [true, true, true]) := by
  decide

/-- What the window does not break: under every interleaving of
`Register`, `RegisterWithConstraints`, `Unregister` and `UpdateComponentMeta`
calls on a registry that satisfies `Inv`, `componentMeta` and `components`
keep the same keys and every component sits under its own name. Only the
keys of `constraints` can leave the registered names. -/
theorem run_meta_keys (cfg : Config) (h : cfg.manager.Inv) (sched : List Nat) :
    (∀ n, n ∈ (cfg.run sched).manager.componentMeta ↔ n ∈ (cfg.run sched).manager.components) ∧
    ∀ n c, (cfg.run sched).manager.components.lookup n = some c → c.name = n :=
  let hk := Config.run_keysInv h.keysInv sched
  ⟨hk.meta_keys, hk.name_eq⟩

/-- The window schedule that breaks the constraints map. -/
theorem run_meta_keys_window :
    windowConfig.manager.Inv ∧
    (∀ n, n ∈ (windowConfig.run [0, 1, 0]).manager.componentMeta ↔
      n ∈ (windowConfig.run [0, 1, 0]).manager.components) ∧
    ∀ n c, (windowConfig.run [0, 1, 0]).manager.components.lookup n = some c → c.name = n :=
  have h : windowConfig.manager.Inv := Manager.Reachable.inv (.init none (newDetector []))
  ⟨h, run_meta_keys windowConfig h [0, 1, 0]⟩

end Gochoreo
