import Gochoreo.L6Client.Dragonfly.Metrics
import Mathlib.Algebra.BigOperators.Group.List
import Mathlib.Algebra.Ring.Int.Defs

/-!
# Error and command counters of the Dragonfly metrics

`RecordCommand` (src/unnamed/part_006:59-87) counts each call under its
command and each error under its category (`categorizeError`, lines
329-345); `Reset` zeroes the counters and keeps the command keys, and
`Snapshot` lists the commands with a non-zero count (lines 210-227).

**Results.**
* `errorsOf_categorizeError`, `snapshot_errors_run`: each error counter
  counts the errors since the last `Reset` whose first match among
  `timeout`, `connection` and `protocol` is its category.
* `commandsOf_run`: the three command maps keep a key for every command
  ever recorded, holding its count, total duration and errors since the
  last `Reset` (`CommandsOf`).
* `snapshot_commands_run`: `Snapshot` lists exactly the commands with calls
  since the last `Reset`, each with its counters and their quotients
  (`commandReport`).
-/
namespace Gochoreo.Dragonfly

/-! ## Errors -/

/-- The error fields after the error texts `es` were recorded: the total,
and per category the texts whose first match among `timeout`,
`connection` and `protocol` is that category. -/
structure ErrorsOf (em : ErrorMetrics) (es : List String) : Prop where
  total : em.totalErrors = wrap64 es.length
  timeout : em.timeoutErrors = wrap64 (es.countP fun e => contains e "timeout")
  connection : em.connectionErrors = wrap64 (es.countP fun e => !contains e "timeout" && contains e "connection")
  protocol : em.protocolErrors =
    wrap64 (es.countP fun e => !contains e "timeout" && !contains e "connection" && contains e "protocol")

theorem errorsOf_nil : ErrorsOf {} [] := ⟨rfl, rfl, rfl, rfl⟩

theorem wrap64_countP_append {es : List String} {p : String → Bool} {x : Int} (h : x = wrap64 (es.countP p))
    (e : String) : wrap64 ((es ++ [e]).countP p) = if p e then add64 x 1 else x := by
  rw [h, List.countP_append, List.countP_singleton]
  split <;> simp [add64_wrap64]

/-- A non-nil error adds one to the total and to its category. -/
theorem errorsOf_categorizeError {em : ErrorMetrics} {es : List String} (h : ErrorsOf em es) (e : String) :
    ErrorsOf (categorizeError { em with totalErrors := add64 em.totalErrors 1 } e) (es ++ [e]) := by
  have total : add64 em.totalErrors 1 = wrap64 (es ++ [e]).length := by
    rw [h.total, add64_wrap64, List.length_append, List.length_singleton]; rfl
  have ht := wrap64_countP_append h.timeout e
  have hc := wrap64_countP_append h.connection e
  have hp := wrap64_countP_append h.protocol e
  cases h1 : contains e "timeout" <;> cases h2 : contains e "connection" <;> cases h3 : contains e "protocol" <;>
    simp only [h1, h2, h3, Bool.not_true, Bool.not_false, Bool.false_and, Bool.true_and, Bool.and_false,
      Bool.false_eq_true, if_true, if_false] at ht hc hp <;>
    simp only [categorizeError, h1, h2, h3, Bool.false_eq_true, if_true, if_false] <;>
    exact ⟨total, ht.symm, hc.symm, hp.symm⟩

namespace Metrics

theorem errors_apply (m : Metrics) (x : MetricsCall) :
    (m.apply x).errors = if x.isReset then {} else
      x.error?.elim m.errors (categorizeError { m.errors with totalErrors := add64 m.errors.totalErrors 1 }) := by
  cases x with
  | recordCommand command duration err =>
    cases err <;> by_cases h : command ∈ m.commandCounts <;>
      simp [apply, recordCommand, h, MetricsCall.isReset, MetricsCall.error?]
  | recordConnection success | recordHealthCheck success now =>
    cases success <;> rfl
  | _ => rfl

/-- After any run, each error counter of the snapshot counts the errors
recorded since the last `Reset` in its category, where a category is a
substring of the error's text. -/
theorem snapshot_errors_run (calls : List MetricsCall) :
    ErrorsOf ⟨(newMetrics.run calls).snapshot.totalErrors, (newMetrics.run calls).snapshot.timeoutErrors,
      (newMetrics.run calls).snapshot.connectionErrors, (newMetrics.run calls).snapshot.protocolErrors⟩
      (errorsSinceReset calls) ∧
    ∀ s substr, contains s substr = true ↔ substr.toList <:+: s.toList := by
  refine ⟨?_, contains_iff_isInfix⟩
  show ErrorsOf (newMetrics.run calls).errors _
  induction calls using List.reverseRecOn with
  | nil => exact errorsOf_nil
  | append_singleton calls x ih =>
    rw [run_append, errors_apply, errorsSinceReset_append]
    by_cases hr : x.isReset
    · rw [if_pos hr, if_pos hr]
      exact errorsOf_nil
    rw [if_neg hr, if_neg hr]
    cases x.error? with
    | none => rw [Option.toList_none, List.append_nil]; exact ih
    | some e => exact errorsOf_categorizeError ih e

end Metrics

/-! ## Command counters -/

theorem lookup_addAt (mp : GoMap Int) (key : String) (delta : Int) (c : String) :
    (addAt mp key delta).lookup c = if c = key then some (add64 ((mp.lookup key).getD 0) delta) else mp.lookup c := by
  unfold addAt
  split
  · subst c; exact AList.lookup_insert _
  · exact AList.lookup_insert_ne ‹_›

theorem lookup_storeZero (c : String) :
    ∀ (keys : List String) (mp : GoMap Int), (Metrics.storeZero keys mp).lookup c = if c ∈ keys then some 0 else mp.lookup c
  | [], _ => rfl
  | k :: keys, mp => by
    rw [Metrics.storeZero, List.foldl_cons, ← Metrics.storeZero, lookup_storeZero c keys]
    by_cases hk : c = k
    · subst hk; simp [AList.lookup_insert]
    · simp [hk, AList.lookup_insert_ne hk]

/-- A map of per-command counters: a key for each command in `recorded`, and
there the wrapped `count` of the command. -/
def CountsOf (mp : GoMap Int) (recorded : String → Bool) (count : String → Int) : Prop :=
  ∀ c, mp.lookup c = if recorded c then some (wrap64 (count c)) else none

section CountsOf

variable {mp : GoMap Int} {recorded : String → Bool} {count : String → Int}

theorem countsOf_init (h : CountsOf mp recorded count) (key : String) (hnew : recorded key = false → count key = 0) :
    CountsOf (if recorded key then mp else mp.insert key 0) (fun c => recorded c || key == c) count := fun c => by
  by_cases hc : c = key
  · subst hc
    cases hr : recorded c
    · simp [hr, AList.lookup_insert, hnew hr]; rfl
    · simp [hr, h c]
  · split <;> simp [h c, hc, Ne.symm hc, AList.lookup_insert_ne hc]

theorem countsOf_addAt (h : CountsOf mp recorded count) {key : String} (hk : recorded key = true) (delta : Int) :
    CountsOf (addAt mp key delta) recorded (fun c => if c = key then count c + delta else count c) := fun c => by
  rw [lookup_addAt, h key, if_pos hk]
  split
  · subst c; simp [hk, add64_wrap64]
  · simp [h c, *]

theorem countsOf_storeZero (h : CountsOf mp recorded count) {keys : List String}
    (hkeys : ∀ c, c ∈ keys ↔ recorded c = true) : CountsOf (Metrics.storeZero keys mp) recorded fun _ => 0 := fun c => by
  rw [lookup_storeZero, h c]
  by_cases hc : recorded c = true
  · rw [if_pos ((hkeys c).mpr hc), if_pos hc]; rfl
  · rw [if_neg (mt (hkeys c).mp hc), if_neg hc, if_neg hc]

end CountsOf

/-- Whether some call ever recorded `command`: then its counters exist. -/
def recorded (calls : List MetricsCall) (command : String) : Bool := calls.any (·.command? == some command)

/-- The `RecordCommand` calls of `command` since the last `Reset`. -/
def commandCallsSinceReset (calls : List MetricsCall) (command : String) : List MetricsCall :=
  (callsSinceReset calls).filter (·.command? == some command)

/-- The three command maps after a run: a key for every command ever
recorded, and there the count, total duration and errors of its calls
since the last `Reset`. -/
structure CommandsOf (m : Metrics) (calls : List MetricsCall) : Prop where
  counts : CountsOf m.commandCounts (recorded calls) fun c => (commandCallsSinceReset calls c).length
  durations : CountsOf m.commandDurations (recorded calls)
    fun c => ((commandCallsSinceReset calls c).filterMap MetricsCall.duration?).sum
  errors : CountsOf m.commandErrors (recorded calls)
    fun c => ((commandCallsSinceReset calls c).filterMap MetricsCall.error?).length

theorem CountsOf.congr {mp : GoMap Int} {recorded recorded' : String → Bool} {count count' : String → Int}
    (h : CountsOf mp recorded count) (hr : ∀ c, recorded c = recorded' c)
    (hc : ∀ c, recorded c = true → count c = count' c) : CountsOf mp recorded' count' := fun c => by
  rw [h c, hr c]
  split
  · rw [hc c ((hr c).trans ‹_›)]
  · rfl

theorem mem_of_mem_callsSinceReset {calls : List MetricsCall} {x : MetricsCall} (h : x ∈ callsSinceReset calls) :
    x ∈ calls :=
  List.mem_reverse.mp ((List.takeWhile_prefix _).subset (List.mem_reverse.mp h))

theorem commandCallsSinceReset_of_not_recorded {calls : List MetricsCall} {c : String}
    (h : recorded calls c = false) : commandCallsSinceReset calls c = [] := by
  refine List.filter_eq_nil_iff.mpr fun x hx => ?_
  have := List.any_eq_false.mp h x (mem_of_mem_callsSinceReset hx)
  simpa using this

theorem recorded_append (calls : List MetricsCall) (x : MetricsCall) (c : String) :
    recorded (calls ++ [x]) c = (recorded calls c || x.command? == some c) := by
  simp [recorded, List.any_append]

theorem commandCallsSinceReset_append (calls : List MetricsCall) (x : MetricsCall) (c : String) :
    commandCallsSinceReset (calls ++ [x]) c =
      if x.isReset then [] else commandCallsSinceReset calls c ++ if x.command? == some c then [x] else [] := by
  rw [commandCallsSinceReset, callsSinceReset_append]
  split
  · rfl
  · rw [List.filter_append, commandCallsSinceReset]
    split <;> simp [*]

namespace Metrics

theorem commandMaps_recordCommand (m : Metrics) (command : String) (duration : Int) (err : Option String) :
    (m.recordCommand command duration err).commandCounts =
      addAt (if command ∈ m.commandCounts then m.commandCounts else m.commandCounts.insert command 0) command 1 ∧
    (m.recordCommand command duration err).commandDurations =
      addAt (if command ∈ m.commandCounts then m.commandDurations else m.commandDurations.insert command 0)
        command duration ∧
    (m.recordCommand command duration err).commandErrors =
      err.elim (if command ∈ m.commandCounts then m.commandErrors else m.commandErrors.insert command 0)
        fun _ => addAt (if command ∈ m.commandCounts then m.commandErrors else m.commandErrors.insert command 0)
          command 1 := by
  unfold recordCommand
  cases err <;> split <;> exact ⟨rfl, rfl, rfl⟩

theorem commandMaps_apply_other (m : Metrics) {x : MetricsCall} (hc : x.command? = none) (hr : x.isReset = false) :
    (m.apply x).commandCounts = m.commandCounts ∧ (m.apply x).commandDurations = m.commandDurations ∧
      (m.apply x).commandErrors = m.commandErrors := by
  cases x with
  | recordCommand => cases hc
  | reset => cases hr
  | recordConnection success | recordHealthCheck success now => cases success <;> exact ⟨rfl, rfl, rfl⟩
  | _ => exact ⟨rfl, rfl, rfl⟩

end Metrics

theorem CommandsOf.mem_iff {m : Metrics} {calls : List MetricsCall} (h : CommandsOf m calls) (c : String) :
    c ∈ m.commandCounts ↔ recorded calls c = true := by
  rw [← AList.lookup_isSome, h.counts c]
  split <;> simp [*]

namespace Metrics

theorem commandsOf_nil : CommandsOf newMetrics [] := ⟨fun _ => rfl, fun _ => rfl, fun _ => rfl⟩

theorem commandsOf_of_other {m m' : Metrics} {calls : List MetricsCall} {x : MetricsCall} (h : CommandsOf m calls)
    (hc : x.command? = none) (hr : x.isReset = false)
    (hm : m'.commandCounts = m.commandCounts ∧ m'.commandDurations = m.commandDurations ∧
      m'.commandErrors = m.commandErrors) : CommandsOf m' (calls ++ [x]) := by
  have hrec : ∀ c, recorded calls c = recorded (calls ++ [x]) c := fun c => by simp [recorded_append, hc]
  have hcalls : ∀ c, commandCallsSinceReset calls c = commandCallsSinceReset (calls ++ [x]) c := fun c => by
    simp [commandCallsSinceReset_append, hc, hr]
  obtain ⟨h1, h2, h3⟩ := hm
  exact ⟨h1 ▸ h.counts.congr hrec (by simp [hcalls]), h2 ▸ h.durations.congr hrec (by simp [hcalls]),
    h3 ▸ h.errors.congr hrec (by simp [hcalls])⟩

theorem commandsOf_reset {m : Metrics} {calls : List MetricsCall} (h : CommandsOf m calls) :
    CommandsOf m.reset (calls ++ [.reset]) := by
  have hkeys : ∀ c, c ∈ m.commandCounts.keys ↔ recorded calls c = true := fun c => AList.mem_keys.trans (h.mem_iff c)
  have hrec : ∀ c, recorded calls c = recorded (calls ++ [.reset]) c := fun c => by
    simp [recorded_append, MetricsCall.command?]
  have hnil : ∀ c, commandCallsSinceReset (calls ++ [.reset]) c = [] := fun c => by
    simp [commandCallsSinceReset_append, MetricsCall.isReset]
  exact ⟨(countsOf_storeZero h.counts hkeys).congr hrec (by simp [hnil]),
    (countsOf_storeZero h.durations hkeys).congr hrec (by simp [hnil]),
    (countsOf_storeZero h.errors hkeys).congr hrec (by simp [hnil])⟩

/-- `RecordCommand` adds the command's key if it is new and counts the call. -/
theorem commandsOf_recordCommand {m : Metrics} {calls : List MetricsCall} (h : CommandsOf m calls)
    (command : String) (duration : Int) (err : Option String) :
    CommandsOf (m.recordCommand command duration err) (calls ++ [.recordCommand command duration err]) := by
  obtain ⟨h1, h2, h3⟩ := commandMaps_recordCommand m command duration err
  have hif : ∀ mp : GoMap Int, (if command ∈ m.commandCounts then mp else mp.insert command 0) =
      if recorded calls command then mp else mp.insert command 0 := fun mp => by
    simp only [h.mem_iff]
  rw [hif] at h1 h2 h3
  have hrec : ∀ c, (recorded calls c || command == c) = recorded (calls ++ [.recordCommand command duration err]) c :=
    fun c => by simp [recorded_append, MetricsCall.command?]
  have hk : (recorded calls command || command == command) = true := by simp
  have hnil := @commandCallsSinceReset_of_not_recorded calls command
  have hcalls : ∀ c, commandCallsSinceReset (calls ++ [.recordCommand command duration err]) c =
      if c = command then commandCallsSinceReset calls c ++ [.recordCommand command duration err]
      else commandCallsSinceReset calls c := fun c => by
    rw [commandCallsSinceReset_append, if_neg (by simp [MetricsCall.isReset])]
    by_cases hc : c = command
    · subst hc; simp [MetricsCall.command?]
    · simp [MetricsCall.command?, hc, Ne.symm hc]
  refine ⟨?_, ?_, ?_⟩
  · rw [h1]
    refine (countsOf_addAt (countsOf_init h.counts command fun hr => by simp [hnil hr]) hk 1).congr hrec
      fun c _ => ?_
    rw [hcalls]; split <;> simp [*]
  · rw [h2]
    refine (countsOf_addAt (countsOf_init h.durations command fun hr => by simp [hnil hr]) hk duration).congr hrec
      fun c _ => ?_
    rw [hcalls]; split <;> simp [*, MetricsCall.duration?]
  · have hinit := countsOf_init h.errors command fun hr => by simp [hnil hr]
    rw [h3]
    cases err with
    | none => exact hinit.congr hrec fun c _ => by rw [hcalls]; split <;> simp [MetricsCall.error?]
    | some e =>
      exact (countsOf_addAt hinit hk 1).congr hrec fun c _ => by rw [hcalls]; split <;> simp [*, MetricsCall.error?]

/-- After any run, the command maps hold the counters of the commands'
calls since the last `Reset`, under a key for every command ever recorded. -/
theorem commandsOf_run (calls : List MetricsCall) : CommandsOf (newMetrics.run calls) calls := by
  induction calls using List.reverseRecOn with
  | nil => exact commandsOf_nil
  | append_singleton calls x ih =>
    rw [run_append]
    cases x with
    | recordCommand command duration err => exact commandsOf_recordCommand ih command duration err
    | reset => exact commandsOf_reset ih
    | _ => exact commandsOf_of_other ih rfl rfl (commandMaps_apply_other _ rfl rfl)

/-! ## The commands of `Snapshot` -/

theorem lookup_commandsLoop_of_not_mem (m : Metrics) {c : String} :
    ∀ {l : List (String × Int)} (acc : GoMap CommandMetrics), c ∉ l.map Prod.fst →
      (commandsLoop m acc l).lookup c = acc.lookup c
  | [], _, _ => rfl
  | (k, n) :: l, acc, hc => by
    rw [List.map_cons, List.mem_cons, not_or] at hc
    rw [commandsLoop, lookup_commandsLoop_of_not_mem m _ hc.2]
    split
    · rfl
    · exact AList.lookup_insert_ne hc.1

theorem lookup_commandsLoop_of_mem (m : Metrics) {c : String} {n : Int} :
    ∀ {l : List (String × Int)} (acc : GoMap CommandMetrics), (l.map Prod.fst).Nodup → (c, n) ∈ l →
      (commandsLoop m acc l).lookup c = if n = 0 then acc.lookup c else some (m.commandMetricsOf c n)
  | [], _, _, h => absurd h (List.not_mem_nil _)
  | (k, n') :: l, acc, hn, h => by
    rw [List.map_cons, List.nodup_cons] at hn
    rw [commandsLoop]
    rcases List.mem_cons.mp h with he | hl
    · obtain ⟨rfl, rfl⟩ := Prod.mk.inj he
      rw [lookup_commandsLoop_of_not_mem m _ hn.1]
      split
      · rfl
      · exact AList.lookup_insert _
    · have hk : c ≠ k := by
        rintro rfl
        exact hn.1 (List.mem_map.mpr ⟨(c, n), hl, rfl⟩)
      rw [lookup_commandsLoop_of_mem m _ hn.2 hl]
      split_ifs <;> simp [AList.lookup_insert_ne hk]

theorem commandMetricsOf_eq (m : Metrics) (c : String) (n d e : Int) (hd : m.commandDurations.lookup c = some d)
    (he : m.commandErrors.lookup c = some e) :
    m.commandMetricsOf c n = ⟨n, d, wrap64 (d.tdiv n), e, Float.ofInt e / Float.ofInt n⟩ := by
  simp only [commandMetricsOf, hd, he, Option.getD_some]

theorem lookup_snapshot_commands (m : Metrics) (c : String) :
    m.snapshot.commands.lookup c = (m.commandCounts.lookup c).bind fun n =>
      if n = 0 then none else some (m.commandMetricsOf c n) := by
  have hn : (m.commandCounts.pairs.map Prod.fst).Nodup := by
    simpa [GoMap.pairs, Function.comp_def] using m.commandCounts.nodupKeys
  show (commandsLoop m ∅ m.commandCounts.pairs).lookup c = _
  cases h : m.commandCounts.lookup c with
  | none =>
    refine lookup_commandsLoop_of_not_mem m ∅ fun hc => ?_
    obtain ⟨⟨k, n⟩, hm, rfl⟩ := List.mem_map.mp hc
    rw [GoMap.mem_pairs.mp hm] at h
    cases h
  | some n => exact lookup_commandsLoop_of_mem m ∅ hn (GoMap.mem_pairs.mpr h)

end Metrics

/-- The entry a command's calls `cs` since the last `Reset` should give in
`Snapshot`: none while the wrapped count is 0. -/
def commandReport (cs : List MetricsCall) : Option CommandMetrics :=
  let count := wrap64 cs.length
  let totalDuration := wrap64 (cs.filterMap MetricsCall.duration?).sum
  let errors := wrap64 (cs.filterMap MetricsCall.error?).length
  if count = 0 then none
  else some ⟨count, totalDuration, wrap64 (totalDuration.tdiv count), errors, Float.ofInt errors / Float.ofInt count⟩

namespace Metrics

/-- After any run, `Snapshot` reports each command from its calls since the
last `Reset`: the count, total duration and errors, wrapped, and their
quotients; a command with no such call is left out. -/
theorem snapshot_commands_run (calls : List MetricsCall) (c : String) :
    (newMetrics.run calls).snapshot.commands.lookup c = commandReport (commandCallsSinceReset calls c) := by
  have h := commandsOf_run calls
  rw [lookup_snapshot_commands, h.counts c, commandReport]
  cases hr : recorded calls c
  · rw [commandCallsSinceReset_of_not_recorded hr, if_pos (show wrap64 (([] : List MetricsCall).length : Int) = 0 from rfl)]
    rfl
  · rw [if_pos rfl, Option.some_bind]
    by_cases h0 : wrap64 ((commandCallsSinceReset calls c).length : Int) = 0
    · rw [if_pos h0, if_pos h0]
    · have hd := h.durations c
      have he := h.errors c
      rw [if_pos hr] at hd he
      rw [if_neg h0, if_neg h0, commandMetricsOf_eq _ c _ _ _ hd he]

end Metrics

end Gochoreo.Dragonfly
