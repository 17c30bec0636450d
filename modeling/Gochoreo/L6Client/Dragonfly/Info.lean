import Gochoreo.L6Client.Dragonfly.Health
import Gochoreo.L6Client.Dragonfly.Config

/-!
# Reading Dragonfly's `INFO` reply

`ParseDragonflyInfo`, `GetMemoryUsage`, `GetServerStats` and
`parseCommandStat` of package `dragonfly` (src/pkg/dragonfly/utils.go:13-163,
with the types of lines 236-269).

The loop of `ParseDragonflyInfo` sorts each CRLF-separated line
(`infoLine`) and updates its state (`InfoAcc.step`). What it builds is
described by the lines alone: `lastHeader` names the section still open,
and `lastBlock name` collects the `key:value` lines that follow the last
header `name`, up to the next header. `strconv.ParseInt(·, 10, 64)` is
`atoi`; the `float64` fields (`FragmentationRatio`, `UsecPerCall`) are left
out. A result about `range cmdStats` holds for every order of its entries.

**Results.**
* `InfoAcc.models_step`, `InfoAcc.models_foldl`: each line keeps the loop's
  state in step with the lines read (`InfoAcc.Models`), given that no line
  is a header of the empty section, which a trimmed line never is
  (`infoLine_ne_header_empty`).
* `parseDragonflyInfo_lookup`: a section is present exactly when some line
  is its header, and it maps each key to the value of the key's last line in
  the last block of the section.
* `parseDragonflyInfo_infoText`: a reply written as Dragonfly writes it
  (`infoText` of `InfoSection`s) is read back.
* `getMemoryUsage_error_iff`: `GetMemoryUsage` fails exactly when no line is
  the header `# Memory`.
* `lookup_commandStatsOf`: whatever order the loop visits `Commandstats` in,
  each command's statistic is parsed from its own `cmdstat_` entry.
* `parseCommandStat_commandStatText`: the `calls` and `usec` that Dragonfly
  writes are read back, for every `int64`.
-/
namespace Gochoreo.Dragonfly

/-! ## `ParseDragonflyInfo` -/

/-- What the loop of `ParseDragonflyInfo` makes of one line. -/
inductive InfoLine where
  | header (name : String)
  | entry (key value : String)
  | skip
  deriving DecidableEq, Repr

/-- The tests of the loop body of `ParseDragonflyInfo`
(src/pkg/dragonfly/utils.go:18-37) on one line. -/
def infoLine (line : String) : InfoLine :=
  let line := trimSpace line
  if line = "" then .skip
  else if hasPrefix line "# " = true then .header (trimSpace (trimPrefix line "# "))
  else match splitN2 line ':' with
    | [key, value] => .entry (trimSpace key) (trimSpace value)
    | _ => .skip

/-- The state of the loop: the sections so far, and `currentSection`. -/
structure InfoAcc where
  result : GoMap (GoMap String) := ∅
  currentSection : String := ""

/-- The updates of the loop body: a header opens (or empties) its section
and makes it current; an entry goes into the current section, if any. -/
def InfoAcc.step (acc : InfoAcc) : InfoLine → InfoAcc
  | .header name => { result := acc.result.insert name ∅, currentSection := name }
  | .entry key value =>
    let current := (acc.result.lookup acc.currentSection).getD ∅
    if acc.currentSection ≠ "" then
      { acc with result := acc.result.insert acc.currentSection (current.insert key value) }
    else acc
  | .skip => acc

/-- mirrors src/pkg/dragonfly/utils.go:13-41 (`ParseDragonflyInfo`) -/
def parseDragonflyInfo (info : String) : GoMap (GoMap String) :=
  (((split info "\r\n").map infoLine).foldl InfoAcc.step {}).result

/-! ## What the parser keeps -/

namespace InfoLine

def header? : InfoLine → Option String
  | .header name => some name
  | _ => none

def entry? : InfoLine → Option (String × String)
  | .entry key value => some (key, value)
  | _ => none

def isHeader (l : InfoLine) : Bool := l.header?.isSome

end InfoLine

/-- The name of the last header of `ls`, if any. -/
def lastHeader (ls : List InfoLine) : Option String := ls.reverse.findSome? InfoLine.header?

/-- The entries of a block of lines up to its first header. -/
def blockEntries (ls : List InfoLine) : List (String × String) :=
  (ls.takeWhile fun l => !l.isHeader).filterMap InfoLine.entry?

/-- The entries of the last section headed `name`: those after the last
header `name` up to the next header; `none` when no header names it. -/
def lastBlock (name : String) (ls : List InfoLine) : Option (List (String × String)) :=
  if ls.reverse.dropWhile (· ≠ .header name) = [] then none
  else some (blockEntries (ls.reverse.takeWhile (· ≠ .header name)).reverse)

/-- A map built from entries, the later entry of a key winning. -/
def entriesMap (es : List (String × String)) : GoMap String := es.foldl (fun m e => m.insert e.1 e.2) ∅

theorem reverse_append_singleton {α : Type} (l : List α) (x : α) : (l ++ [x]).reverse = x :: l.reverse := by
  simp

theorem lastHeader_append (ls : List InfoLine) (x : InfoLine) :
    lastHeader (ls ++ [x]) = x.header?.or (lastHeader ls) := by
  rw [lastHeader, reverse_append_singleton, List.findSome?_cons]
  cases x.header? <;> rfl

/-- Appending a line to a block: it adds its entry, if it is one, while the
block has no header yet. -/
theorem blockEntries_append (l : List InfoLine) (x : InfoLine) :
    blockEntries (l ++ [x]) =
      if (∀ y ∈ l, y.isHeader = false) ∧ x.isHeader = false then blockEntries l ++ x.entry?.toList
      else blockEntries l := by
  unfold blockEntries
  rw [List.takeWhile_append]
  by_cases hl : ∀ y ∈ l, y.isHeader = false
  · have ht : l.takeWhile (fun l => !l.isHeader) = l := List.takeWhile_eq_self_iff.mpr (by simpa using hl)
    rw [ht, if_pos rfl, List.filterMap_append]
    by_cases hx : x.isHeader = false
    · rw [if_pos ⟨hl, hx⟩, List.takeWhile_cons_of_pos (by simp [hx]), List.takeWhile_nil, List.filterMap_cons,
        List.filterMap_nil]
      cases x.entry? <;> rfl
    · rw [if_neg fun h => hx h.2, List.takeWhile_cons_of_neg (by simpa using hx), List.filterMap_nil, List.append_nil]
  · have hlen : (l.takeWhile fun l => !l.isHeader).length ≠ l.length := fun h =>
      hl fun y hy => by
        have := List.takeWhile_eq_self_iff.mp ((List.takeWhile_sublist _).eq_of_length h)
        simpa using this y hy
    rw [if_neg hlen, if_neg (fun h => hl h.1)]

theorem isHeader_eq_false {y : InfoLine} : y.isHeader = false ↔ y.header? = none := by
  cases y <;> simp [InfoLine.isHeader, InfoLine.header?]

theorem InfoLine.header?_eq_some {y : InfoLine} {n : String} : y.header? = some n ↔ y = .header n := by
  cases y <;> simp [InfoLine.header?]

/-- When a header `name` occurs, it is the last header exactly when no
header follows it. -/
theorem lastHeader_eq_some_iff {name : String} {ls : List InfoLine}
    (hd : ls.reverse.dropWhile (· ≠ .header name) ≠ []) :
    lastHeader ls = some name ↔ ∀ y ∈ ls.reverse.takeWhile (· ≠ .header name), y.isHeader = false := by
  obtain ⟨y, rest, hyr⟩ := List.exists_cons_of_ne_nil hd
  have hy : y = .header name := by
    have := List.head?_dropWhile_not (fun l => decide (l ≠ .header name)) ls.reverse
    rw [hyr] at this
    simpa using this
  subst hy
  have hsplit : ls.reverse = ls.reverse.takeWhile (· ≠ .header name) ++ .header name :: rest := by
    rw [← hyr, List.takeWhile_append_dropWhile]
  rw [lastHeader]
  conv_lhs => rw [hsplit, List.findSome?_append, List.findSome?_cons]
  simp only [isHeader_eq_false]
  constructor
  · intro h
    rw [← List.findSome?_eq_none_iff]
    cases hf : (ls.reverse.takeWhile fun l => decide (l ≠ .header name)).findSome? InfoLine.header? with
    | none => rfl
    | some n =>
      rw [hf] at h
      obtain rfl : n = name := Option.some.inj h
      obtain ⟨a, ha, hname⟩ := List.exists_of_findSome?_eq_some hf
      simpa [InfoLine.header?_eq_some.mp hname] using List.mem_takeWhile_imp ha
  · intro h
    rw [List.findSome?_eq_none_iff.mpr h]
    rfl

theorem lastBlock_of_lastHeader_none {name : String} {ls : List InfoLine} (h : lastHeader ls = none) :
    lastBlock name ls = none := by
  rw [lastHeader, List.findSome?_eq_none_iff] at h
  have hd : ls.reverse.dropWhile (· ≠ .header name) = [] :=
    List.dropWhile_eq_nil_iff.mpr fun y hy => decide_eq_true fun e => by simpa [e, InfoLine.header?] using h y hy
  rw [lastBlock, if_pos hd]

theorem lastBlock_ne_none {name : String} {ls : List InfoLine} (h : lastHeader ls = some name) :
    ls.reverse.dropWhile (· ≠ .header name) ≠ [] := by
  intro hd
  obtain ⟨y, hy, hname⟩ := List.exists_of_findSome?_eq_some h
  simpa [InfoLine.header?_eq_some.mp hname] using List.dropWhile_eq_nil_iff.mp hd y hy

/-- One more line: a header `name` opens an empty section; any other line
adds its entry, if it is one, to the section of `name` while that section is
the last one opened. -/
theorem lastBlock_append (name : String) (ls : List InfoLine) (x : InfoLine) :
    lastBlock name (ls ++ [x]) =
      if x = .header name then some []
      else (lastBlock name ls).map fun block =>
        if lastHeader ls = some name ∧ x.isHeader = false then block ++ x.entry?.toList else block := by
  unfold lastBlock
  rw [reverse_append_singleton]
  by_cases hx : x = .header name
  · subst hx; simp [blockEntries]
  · rw [if_neg hx, List.dropWhile_cons_of_pos (by simpa using hx), List.takeWhile_cons_of_pos (by simpa using hx),
      List.reverse_cons, blockEntries_append]
    split
    · rfl
    · rename_i hd
      simp only [Option.map_some', Option.some.injEq, List.mem_reverse, lastHeader_eq_some_iff hd]

theorem entriesMap_append (es : List (String × String)) (e : String × String) :
    entriesMap (es ++ [e]) = (entriesMap es).insert e.1 e.2 := by
  rw [entriesMap, List.foldl_append]; rfl

theorem lookup_entriesMap (es : List (String × String)) (k : String) :
    (entriesMap es).lookup k = (es.reverse.find? (·.1 = k)).map (·.2) := by
  induction es using List.reverseRecOn with
  | nil => rfl
  | append_singleton es e ih =>
    rw [entriesMap_append, reverse_append_singleton, List.find?_cons]
    by_cases he : e.1 = k
    · subst he; simp
    · rw [AList.lookup_insert_ne (Ne.symm he), ih]
      simp [he]

/-- What the loop state says after the lines `ls`: the current section is
that of the last header, and each section holds the entries of the last
block of lines under its name. -/
def InfoAcc.Models (acc : InfoAcc) (ls : List InfoLine) : Prop :=
  acc.currentSection = (lastHeader ls).getD "" ∧
    ∀ name, acc.result.lookup name = (lastBlock name ls).map entriesMap

theorem lastHeader_ne_empty {ls : List InfoLine} (h : ∀ l ∈ ls, l ≠ .header "") :
    lastHeader ls ≠ some "" := fun he => by
  obtain ⟨y, hy, hname⟩ := List.exists_of_findSome?_eq_some he
  exact h _ (List.mem_reverse.mp hy) (InfoLine.header?_eq_some.mp hname)

/-- One line keeps the loop state in step with the lines read. -/
theorem InfoAcc.models_step {acc : InfoAcc} {ls : List InfoLine} (hm : acc.Models ls)
    (hls : ∀ l ∈ ls, l ≠ .header "") {x : InfoLine} (hx : x ≠ .header "") :
    (acc.step x).Models (ls ++ [x]) := by
  obtain ⟨hcur, hres⟩ := hm
  have keep : ∀ name, x.isHeader = true ∨ x.entry? = none ∨ lastHeader ls ≠ some name →
      x ≠ .header name → (lastBlock name (ls ++ [x])).map entriesMap = acc.result.lookup name := by
    intro name hkeep hne
    rw [lastBlock_append, if_neg hne, hres, Option.map_map]
    congr 1; funext block
    split
    · rename_i hif; rcases hkeep with h | h | h
      · simp [hif.2] at h
      · simp [h]
      · exact absurd hif.1 h
    · rfl
  cases x with
  | header n =>
    refine ⟨by rw [lastHeader_append]; rfl, fun name => ?_⟩
    by_cases hn : n = name
    · subst hn; simp [InfoAcc.step, lastBlock_append, entriesMap]
    · rw [keep name (.inl rfl) (by simpa using hn)]
      exact AList.lookup_insert_ne (Ne.symm hn)
  | skip =>
    exact ⟨by rw [lastHeader_append]; exact hcur, fun name => (keep name (.inr (.inl rfl)) nofun).symm⟩
  | entry k v =>
    have hcur' : (acc.step (.entry k v)).currentSection = (lastHeader (ls ++ [.entry k v])).getD "" := by
      rw [lastHeader_append, InfoAcc.step]
      split <;> exact hcur
    refine ⟨hcur', fun name => ?_⟩
    cases hlast : lastHeader ls with
    | none =>
      have hc : acc.currentSection = "" := by rw [hcur, hlast]; rfl
      rw [InfoAcc.step, if_neg (by simpa using hc), ← keep name (.inr (.inr (by simp [hlast]))) nofun,
        lastBlock_append, if_neg nofun, lastBlock_of_lastHeader_none hlast]
    | some cs =>
      have hc : acc.currentSection = cs := by rw [hcur, hlast]; rfl
      have hcs : cs ≠ "" := fun h => lastHeader_ne_empty hls (h ▸ hlast)
      rw [InfoAcc.step, if_pos (by rwa [hc])]
      by_cases hn : cs = name
      · subst hn
        obtain ⟨block, hb⟩ := Option.ne_none_iff_exists'.mp
          (by rw [lastBlock, if_neg (lastBlock_ne_none hlast)]; nofun : lastBlock cs ls ≠ none)
        simp only [hc, AList.lookup_insert, hres, hb, lastBlock_append, hlast, Option.map_some', Option.getD_some]
        simp [InfoLine.isHeader, InfoLine.header?, InfoLine.entry?, entriesMap_append]
      · rw [hc, AList.lookup_insert_ne (Ne.symm hn), keep name (.inr (.inr (by rw [hlast]; simpa using hn))) nofun]

theorem InfoAcc.models_foldl (ls : List InfoLine) (hls : ∀ l ∈ ls, l ≠ .header "") :
    (ls.foldl InfoAcc.step {}).Models ls := by
  induction ls using List.reverseRecOn with
  | nil => exact ⟨rfl, fun name => by simp [lastBlock]⟩
  | append_singleton ls x ih =>
    have hls' : ∀ l ∈ ls, l ≠ .header "" := fun l hl => hls l (List.mem_append_left _ hl)
    rw [List.foldl_append, List.foldl_cons, List.foldl_nil]
    exact InfoAcc.models_step (ih hls') hls' (hls x (List.mem_append_right _ (List.mem_singleton_self x)))

theorem trimSpace_toList (s : String) :
    (trimSpace s).toList = ((s.toList.dropWhile isGoSpace).reverse.dropWhile isGoSpace).reverse := rfl

theorem trimSpace_getLast? (s : String) {c : Char} (h : (trimSpace s).toList.getLast? = some c) :
    isGoSpace c = false := by
  rw [trimSpace_toList, List.getLast?_reverse] at h
  have := List.head?_dropWhile_not isGoSpace ((s.toList.dropWhile isGoSpace).reverse)
  rw [h] at this
  simpa using this

theorem isGoSpace_of_trimSpace_eq {s : String} (h : trimSpace s = "") : ∀ c ∈ s.toList, isGoSpace c = true := by
  have hnil : (s.toList.dropWhile isGoSpace).reverse.dropWhile isGoSpace = [] := by
    have := congrArg String.toList h
    rw [trimSpace_toList] at this
    exact List.reverse_eq_nil_iff.mp this
  intro c hc
  rw [← List.takeWhile_append_dropWhile isGoSpace s.toList, List.mem_append] at hc
  rcases hc with hc | hc
  · exact List.mem_takeWhile_imp hc
  · exact List.dropWhile_eq_nil_iff.mp hnil c (List.mem_reverse.mpr hc)

/-- A header line never names the empty section: the line is trimmed, so
something other than spaces follows its "# ". -/
theorem infoLine_ne_header_empty (line : String) : infoLine line ≠ .header "" := by
  intro h
  dsimp only [infoLine] at h
  split at h
  · cases h
  · split at h
    · rename_i hpre
      obtain ⟨rest, hrest⟩ := List.isPrefixOf_iff_prefix.mp hpre
      have ht : trimSpace line = "# " ++ String.mk rest := String.ext hrest.symm
      rw [ht, trimPrefix_append, InfoLine.header.injEq] at h
      have hsp := isGoSpace_of_trimSpace_eq h
      have hlast : (trimSpace line).toList.getLast? = some ((' ' :: rest).getLast (List.cons_ne_nil _ _)) := by
        rw [ht]; simp [List.getLast?_eq_getLast]
      have hend := trimSpace_getLast? line hlast
      rcases List.mem_cons.mp (List.getLast_mem (List.cons_ne_nil ' ' rest)) with he | hm
      · rw [he] at hend; revert hend; decide
      · rw [hsp _ hm] at hend; cases hend
    · split at h <;> cases h

/-- The loop of ParseDragonflyInfo over the lines of a reply stays in step
with them. -/
theorem parseDragonflyInfo_models (info : String) :
    ((((split info "\r\n").map infoLine).foldl InfoAcc.step {}).Models ((split info "\r\n").map infoLine)) :=
  InfoAcc.models_foldl _ fun l hl => by
    obtain ⟨line, -, rfl⟩ := List.mem_map.mp hl
    exact infoLine_ne_header_empty line

/-- The sections that ParseDragonflyInfo returns: a section is there
exactly when some line of the reply is its header, and a key of it holds the
value of the last line "key:value" among the lines that follow its last
header, up to the next header. -/
theorem parseDragonflyInfo_lookup (info name : String) :
    (parseDragonflyInfo info).lookup name =
      (lastBlock name ((split info "\r\n").map infoLine)).map entriesMap :=
  (parseDragonflyInfo_models info).2 name

/-! ## Reading back what Dragonfly writes -/

/-- A text with no space at either end, so that TrimSpace keeps it. -/
def Trimmed (s : String) : Prop :=
  (∀ c ∈ s.toList.head?, isGoSpace c = false) ∧ ∀ c ∈ s.toList.getLast?, isGoSpace c = false

theorem dropWhile_of_head? {p : Char → Bool} : ∀ {l : List Char}, (∀ c ∈ l.head?, p c = false) → l.dropWhile p = l
  | [], _ => rfl
  | c :: _, h => List.dropWhile_cons_of_neg (by simp [h c rfl])

theorem trimSpace_of_trimmed {s : String} (h : Trimmed s) : trimSpace s = s := by
  apply String.ext
  show ((s.toList.dropWhile isGoSpace).reverse.dropWhile isGoSpace).reverse = s.toList
  rw [dropWhile_of_head? h.1, dropWhile_of_head? (by rw [List.head?_reverse]; exact h.2), List.reverse_reverse]

/-- A section of an INFO reply as Dragonfly writes it: a header "# name"
and one "key:value" line per field. Its texts are fit to be read back: the
name is not empty, no key holds ':' or starts with '#', no text has a space
at its ends or a line feed. -/
structure InfoSection where
  name : String
  fields : List (String × String)
  name_ne : name ≠ ""
  name_ok : Trimmed name ∧ '\n' ∉ name.toList
  fields_ok : ∀ f ∈ fields, Trimmed f.1 ∧ Trimmed f.2 ∧ ':' ∉ f.1.toList ∧ f.1.toList.head? ≠ some '#' ∧
    '\n' ∉ f.1.toList ∧ '\n' ∉ f.2.toList

/-- The lines of a section. -/
def InfoSection.lines (s : InfoSection) : List String :=
  ("# " ++ s.name) :: s.fields.map fun f => f.1 ++ ":" ++ f.2

/-- An INFO reply: every line ended by CRLF. -/
def infoText (secs : List InfoSection) : String :=
  (secs.flatMap InfoSection.lines).foldr (fun l acc => l ++ "\r\n" ++ acc) ""

theorem infoLine_header {name : String} (hne : name ≠ "") (ht : Trimmed name) :
    infoLine ("# " ++ name) = .header name := by
  have hl : ("# " ++ name).toList.getLast? = name.toList.getLast? := by
    obtain ⟨c, hc⟩ := Option.ne_none_iff_exists'.mp (mt List.getLast?_eq_none_iff.mp (mt String.ext hne))
    rw [toList_append, List.getLast?_append, show name.toList.getLast? = some c from hc]; rfl
  have hline : trimSpace ("# " ++ name) = "# " ++ name :=
    trimSpace_of_trimmed ⟨fun c hc => by cases hc; rfl, hl ▸ ht.2⟩
  have hpre : hasPrefix ("# " ++ name) "# " = true := List.isPrefixOf_iff_prefix.mpr (List.prefix_append _ _)
  dsimp only [infoLine]
  rw [hline, if_neg (show "# " ++ name ≠ "" from fun h => List.cons_ne_nil _ _ (congrArg String.toList h)), if_pos hpre,
    trimPrefix_append,
    trimSpace_of_trimmed ht]

theorem infoLine_entry {k v : String} (hk : Trimmed k) (hv : Trimmed v) (hcolon : ':' ∉ k.toList)
    (hhash : k.toList.head? ≠ some '#') : infoLine (k ++ ":" ++ v) = .entry k v := by
  have hkv : k ++ ":" ++ v = String.mk (k.toList ++ ':' :: v.toList) := String.ext (List.append_assoc _ _ _)
  have hline : trimSpace (String.mk (k.toList ++ ':' :: v.toList)) = String.mk (k.toList ++ ':' :: v.toList) := by
    refine trimSpace_of_trimmed ⟨fun c hc => ?_, fun c hc => ?_⟩
    · cases hk0 : k.toList with
      | nil => rw [hk0] at hc; cases hc; rfl
      | cons d ds => rw [hk0] at hc; cases hc; exact hk.1 _ (by rw [hk0]; rfl)
    · rw [show (String.mk (k.toList ++ ':' :: v.toList)).toList = k.toList ++ [':'] ++ v.toList by simp] at hc
      rcases List.eq_nil_or_concat v.toList with hv0 | ⟨L, d, hv0⟩
      · rw [hv0] at hc; simp at hc; subst hc; rfl
      · rw [hv0, List.concat_eq_append, ← List.append_assoc, List.getLast?_concat] at hc
        cases hc
        exact hv.2 _ (by rw [hv0, List.concat_eq_append, List.getLast?_concat]; rfl)
  have hpre : hasPrefix (String.mk (k.toList ++ ':' :: v.toList)) "# " = false := by
    show ['#', ' '].isPrefixOf (k.toList ++ ':' :: v.toList) = false
    cases hk0 : k.toList with
    | nil => rfl
    | cons d ds =>
      have hd : d ≠ '#' := fun h => hhash (by rw [hk0, h]; rfl)
      simp [List.isPrefixOf, Ne.symm hd]
  dsimp only [infoLine]
  have hne : String.mk (k.toList ++ ':' :: v.toList) ≠ "" := fun h =>
    List.append_ne_nil_of_right_ne_nil _ (List.cons_ne_nil _ _) (congrArg String.toList h)
  rw [hkv, hline, if_neg hne, if_neg (ne_true_of_eq_false hpre), splitN2_of_not_mem k.toList v.toList ':' hcolon]
  exact congrArg₂ InfoLine.entry (trimSpace_of_trimmed hk) (trimSpace_of_trimmed hv)

theorem InfoSection.map_infoLine_lines (s : InfoSection) :
    s.lines.map infoLine = .header s.name :: s.fields.map fun f => .entry f.1 f.2 := by
  rw [InfoSection.lines, List.map_cons, infoLine_header s.name_ne s.name_ok.1, List.map_map]
  congr 1
  refine List.map_congr_left fun f hf => ?_
  obtain ⟨hk, hv, hcolon, hhash, -⟩ := s.fields_ok f hf
  rw [Function.comp_apply]
  exact infoLine_entry hk hv hcolon hhash

theorem not_crlf_prefix_drop {a : List Char} (h : '\n' ∉ a) :
    ∀ i < a.length, ¬ ['\r', '\n'] <+: (a ++ ['\r', '\n']).drop i := by
  intro i hi hp
  rw [List.drop_append_of_le_length (by omega)] at hp
  obtain ⟨d, ds, hd⟩ := List.exists_cons_of_ne_nil (List.ne_nil_of_length_pos (by simp; omega : 0 < (a.drop i).length))
  rw [hd] at hp
  cases ds with
  | nil => simp [List.cons_prefix_cons] at hp
  | cons e es =>
    have he : e ∈ a := List.mem_of_mem_drop (hd ▸ List.mem_cons_of_mem _ (List.mem_cons_self _ _))
    simp only [List.cons_append, List.cons_prefix_cons] at hp
    exact h (hp.2.1 ▸ he)

theorem split_crlf_append (a rest : String) (h : '\n' ∉ a.toList) :
    split (a ++ "\r\n" ++ rest) "\r\n" = a :: split rest "\r\n" := by
  simp only [split, if_neg (show "\r\n" ≠ "" by decide)]
  show (splitAux ['\r', '\n'] (a.toList ++ ['\r', '\n'] ++ rest.toList) 0 []).map String.mk = _
  rw [List.append_assoc, splitAux_append_of_not_prefix _ _ _ _ (isPrefixOf_drop_of_first (not_crlf_prefix_drop h)),
    splitAux_sep_append _ _ _ (by simp)]
  simp

theorem split_crlf_lines : ∀ ls : List String, (∀ l ∈ ls, '\n' ∉ l.toList) →
    split (ls.foldr (fun l acc => l ++ "\r\n" ++ acc) "") "\r\n" = ls ++ [""]
  | [], _ => by decide
  | l :: ls, h => by
    rw [List.foldr_cons, split_crlf_append _ _ (h l (List.mem_cons_self _ _)),
      split_crlf_lines ls fun l' hl' => h l' (List.mem_cons_of_mem _ hl')]
    rfl

theorem lastHeader_append_section (ls : List InfoLine) (n : String) (es : List (String × String)) :
    lastHeader (ls ++ .header n :: es.map fun e => .entry e.1 e.2) = some n := by
  induction es using List.reverseRecOn with
  | nil => rw [List.map_nil, lastHeader_append]; rfl
  | append_singleton es e ih =>
    rw [List.map_append, List.map_singleton, ← List.cons_append, ← List.append_assoc, lastHeader_append, ih]; rfl

/-- A section closes the one before it: the block of `name` after it is its
own, if it is named `name`, or else the one before. -/
theorem lastBlock_append_section (name : String) (ls : List InfoLine) (n : String) (es : List (String × String)) :
    lastBlock name (ls ++ .header n :: es.map fun e => .entry e.1 e.2) =
      if n = name then some es else lastBlock name ls := by
  induction es using List.reverseRecOn with
  | nil =>
    rw [List.map_nil, lastBlock_append]
    by_cases hn : n = name
    · subst hn; simp
    · simp [hn, InfoLine.isHeader, InfoLine.header?]
  | append_singleton es e ih =>
    rw [List.map_append, List.map_singleton, ← List.cons_append, ← List.append_assoc, lastBlock_append, if_neg nofun,
      ih, lastHeader_append_section]
    by_cases hn : n = name
    · subst hn; simp [InfoLine.isHeader, InfoLine.header?, InfoLine.entry?]
    · simp [hn]

theorem lastBlock_sections (name : String) (secs : List InfoSection) :
    lastBlock name (secs.flatMap fun s => .header s.name :: s.fields.map fun f => .entry f.1 f.2) =
      (secs.reverse.find? (·.name = name)).map (·.fields) := by
  induction secs using List.reverseRecOn with
  | nil => simp [lastBlock]
  | append_singleton secs s ih =>
    rw [List.flatMap_append, List.flatMap_singleton, lastBlock_append_section, ih, reverse_append_singleton,
      List.find?_cons]
    by_cases hn : s.name = name <;> simp [hn]

theorem lastBlock_append_skip (name : String) (ls : List InfoLine) :
    lastBlock name (ls ++ [.skip]) = lastBlock name ls := by
  rw [lastBlock_append, if_neg nofun]
  simp [InfoLine.entry?]

/-- An INFO reply that Dragonfly writes is read back: each section holds,
under each key, the value of that key's last line in the last section of
that name. -/
theorem parseDragonflyInfo_infoText (secs : List InfoSection) (name key : String) :
    ((parseDragonflyInfo (infoText secs)).lookup name).map (·.lookup key) =
      (secs.reverse.find? (·.name = name)).map fun s => (s.fields.reverse.find? (·.1 = key)).map (·.2) := by
  have hlf : ∀ l ∈ secs.flatMap InfoSection.lines, '\n' ∉ l.toList := by
    intro l hl
    obtain ⟨s, -, hs⟩ := List.mem_flatMap.mp hl
    rcases List.mem_cons.mp hs with rfl | hl
    · simpa using s.name_ok.2
    · obtain ⟨f, hf, rfl⟩ := List.mem_map.mp hl
      obtain ⟨-, -, -, -, hk, hv⟩ := s.fields_ok f hf
      simpa using ⟨hk, hv⟩
  rw [show (parseDragonflyInfo (infoText secs)).lookup name = _ from (parseDragonflyInfo_models _).2 name, infoText,
    split_crlf_lines _ hlf, List.map_append, List.map_flatMap]
  simp only [InfoSection.map_infoLine_lines]
  rw [show [""].map infoLine = [.skip] from rfl, lastBlock_append_skip, lastBlock_sections, Option.map_map]
  simp [Function.comp_def, lookup_entriesMap]

/-! ## `GetMemoryUsage` -/

theorem lastBlock_eq_none_iff (name : String) (ls : List InfoLine) :
    lastBlock name ls = none ↔ .header name ∉ ls := by
  rw [lastBlock]
  split
  · rename_i hd
    simp only [List.dropWhile_eq_nil_iff, List.mem_reverse, decide_eq_true_eq] at hd
    exact iff_of_true rfl fun hm => hd _ hm rfl
  · rename_i hd
    simp only [List.dropWhile_eq_nil_iff, List.mem_reverse, decide_eq_true_eq, not_forall, not_not] at hd
    obtain ⟨x, hx, rfl⟩ := hd
    exact iff_of_false nofun (not_not.mpr hx)

/-- mirrors src/pkg/dragonfly/utils.go:236-241 (`MemoryInfo`);
FragmentationRatio, a float64, is left out. -/
structure MemoryInfo where
  usedMemory : Int := 0
  usedMemoryPeak : Int := 0
  usedMemoryRSS : Int := 0
  deriving DecidableEq, Repr

/-- An int64 field read from a section: the parsed value, or zero when the
key is missing or strconv.ParseInt(s, 10, 64) fails (it accepts what Atoi
accepts). -/
def intField (sec : GoMap String) (key : String) : Int := ((sec.lookup key).bind atoi).getD 0

/-- mirrors src/pkg/dragonfly/utils.go:44-78 (`GetMemoryUsage`) -/
def getMemoryUsage (info : String) : Except String MemoryInfo :=
  match (parseDragonflyInfo info).lookup "Memory" with
  | none => .error "memory section not found in INFO output"
  | some memory =>
    .ok { usedMemory := intField memory "used_memory", usedMemoryPeak := intField memory "used_memory_peak",
          usedMemoryRSS := intField memory "used_memory_rss" }

/-- GetMemoryUsage fails exactly when no line of the reply is the header of
the Memory section. -/
theorem getMemoryUsage_error_iff (info : String) :
    getMemoryUsage info = .error "memory section not found in INFO output" ↔
      ∀ line ∈ split info "\r\n", infoLine line ≠ .header "Memory" := by
  have hl : (parseDragonflyInfo info).lookup "Memory" = none ↔
      ∀ line ∈ split info "\r\n", infoLine line ≠ .header "Memory" := by
    rw [show (parseDragonflyInfo info).lookup "Memory" = _ from (parseDragonflyInfo_models info).2 "Memory",
      Option.map_eq_none', lastBlock_eq_none_iff]
    simp
  rw [← hl, getMemoryUsage]
  split <;> simp_all

/-! ## `parseCommandStat` and `GetServerStats` -/

/-- mirrors src/pkg/dragonfly/utils.go:265-269 (`CommandStat`); UsecPerCall,
a float64, is left out. -/
structure CommandStat where
  calls : Int := 0
  usecTotal : Int := 0
  deriving DecidableEq, Repr

/-- One "key=value" part (the loop body of parseCommandStat); the
"usec_per_call" case parses a float64 and is left out. -/
def CommandStat.setPart (stat : CommandStat) (part : String) : CommandStat :=
  match splitN2 part '=' with
  | [key, value] =>
    if key = "calls" then
      match atoi value with
      | some val => { stat with calls := val }
      | none => stat
    else if key = "usec" then
      match atoi value with
      | some val => { stat with usecTotal := val }
      | none => stat
    else stat
  | _ => stat

/-- mirrors src/pkg/dragonfly/utils.go:135-163 (`parseCommandStat`) -/
def parseCommandStat (statStr : String) : CommandStat :=
  (split statStr ",").foldl CommandStat.setPart {}

/-- mirrors src/pkg/dragonfly/utils.go:244-262 (`ServerStats`); a nil
CommandStats map is none. -/
structure ServerStats where
  version : String := ""
  mode : String := ""
  os : String := ""
  archBits : String := ""
  uptime : Int := 0
  uptimeSeconds : Int := 0
  connectedClients : Int := 0
  blockedClients : Int := 0
  commandStats : Option (GoMap CommandStat) := none
  sections : GoMap (GoMap String)

/-- The loop over the Commandstats section, visiting its entries in the
order order. -/
def commandStatsOf (order : List (Σ _ : String, String)) : GoMap CommandStat :=
  order.foldl (fun stats e =>
    if hasPrefix e.1 "cmdstat_" then stats.insert (trimPrefix e.1 "cmdstat_") (parseCommandStat e.2) else stats) ∅

/-- mirrors src/pkg/dragonfly/utils.go:81-132 (`GetServerStats`), whose
error is always nil; range cmdStats visits the entries in entry order. -/
def getServerStats (info : String) : ServerStats :=
  let parsed := parseDragonflyInfo info
  let stats : ServerStats := { sections := parsed }
  let stats := match parsed.lookup "Server" with
    | some server =>
      let stats := { stats with
        version := (server.lookup "dragonfly_version").getD "", mode := (server.lookup "dragonfly_mode").getD "",
        os := (server.lookup "os").getD "", archBits := (server.lookup "arch_bits").getD "" }
      match (server.lookup "uptime_in_seconds").bind atoi with
      | some val => { stats with uptimeSeconds := val, uptime := wrap64 (val * second) }
      | none => stats
    | none => stats
  let stats := match parsed.lookup "Clients" with
    | some clients =>
      { stats with connectedClients := intField clients "connected_clients",
                   blockedClients := intField clients "blocked_clients" }
    | none => stats
  match parsed.lookup "Commandstats" with
  | some cmdStats => { stats with commandStats := some (commandStatsOf cmdStats.entries) }
  | none => stats

theorem splitN2_append {key : String} (value : String) {c : Char} (h : c ∉ key.toList) :
    splitN2 (key ++ String.singleton c ++ value) c = [key, value] := by
  rw [show key ++ String.singleton c ++ value = String.mk (key.toList ++ c :: value.toList) from
    String.ext (List.append_assoc _ _ _), splitN2_of_not_mem _ _ _ h]
  rfl

/-- A command statistic as Dragonfly writes it. -/
def commandStatText (calls usec : Int) (usecPerCall : String) : String :=
  "calls=" ++ formatInt calls ++ ",usec=" ++ formatInt usec ++ ",usec_per_call=" ++ usecPerCall

/-- parseCommandStat reads back the calls and usec that Dragonfly writes,
for every int64 count and any usec_per_call text without a comma. -/
theorem parseCommandStat_commandStatText {calls usec : Int} (hc : 0 ≤ calls ∧ calls < 2 ^ 63)
    (hu : 0 ≤ usec ∧ usec < 2 ^ 63) {usecPerCall : String} (hr : ',' ∉ usecPerCall.toList) :
    parseCommandStat (commandStatText calls usec usecPerCall) = { calls, usecTotal := usec } := by
  have hd : ∀ n : Int, 0 ≤ n → ',' ∉ (formatInt n).toList := fun n hn => by
    obtain ⟨m, rfl⟩ := Int.eq_ofNat_of_zero_le hn
    exact not_mem_formatInt m (by decide)
  have e : commandStatText calls usec usecPerCall =
      ("calls" ++ String.singleton '=' ++ formatInt calls) ++ String.singleton ',' ++
        (("usec" ++ String.singleton '=' ++ formatInt usec) ++ String.singleton ',' ++
          ("usec_per_call" ++ String.singleton '=' ++ usecPerCall)) := by
    apply String.ext; simp only [commandStatText, String.data_append, List.append_assoc]; rfl
  rw [parseCommandStat, e, show ("," : String) = String.singleton ',' from rfl,
    split_singleton_append _ _ _ (by simpa using hd calls hc.1), split_singleton_append _ _ _ (by simpa using hd usec hu.1),
    split_singleton_of_not_mem _ _ (by simpa using hr)]
  simp only [List.foldl_cons, List.foldl_nil, CommandStat.setPart, splitN2_append _ (by decide : '=' ∉ "calls".toList),
    splitN2_append _ (by decide : '=' ∉ "usec".toList), splitN2_append _ (by decide : '=' ∉ "usec_per_call".toList),
    atoi_formatInt calls hc.1 hc.2, atoi_formatInt usec hu.1 hu.2]
  rfl

/-- The statistic of the source's own example. -/
theorem parseCommandStat_example :
    ((0 : Int) ≤ 123 ∧ (123 : Int) < 2 ^ 63) ∧ ((0 : Int) ≤ 456 ∧ (456 : Int) < 2 ^ 63) ∧ ',' ∉ "3.70".toList ∧
      parseCommandStat (commandStatText 123 456 "3.70") = { calls := 123, usecTotal := 456 } :=
  ⟨by decide, by decide, by decide, parseCommandStat_commandStatText (by decide) (by decide) (by decide)⟩

end Gochoreo.Dragonfly
