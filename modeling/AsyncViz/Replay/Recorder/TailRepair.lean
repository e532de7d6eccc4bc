/-
  AsyncViz.Replay.Recorder.TailRepair

  `repair_partial_tail` (`replay/recording/recording_integrity.py`) on the bytes of an event file.

  The loop goes back from line to line by positions in the bytes.  `repairPartialTail_lines` says
  what it comes to on the lines: those at the end that are not empty and on which `json.loads`
  raises `JSONDecodeError` go, along with a torn one, and the first other line, where the loop
  stops, decides whether it raises.  It goes wrong in three ways, and `repaired_iff_mendable`
  says on which files: an empty line stops it, a line that cannot be decoded makes it raise, and
  the lines that go count as one.
-/

import AsyncViz.Lib.Json.Bytes
import AsyncViz.Lib.Lines
import AsyncViz.Replay.Recorder.Writer
import Mathlib.Data.List.DropRight

namespace AsyncViz.Replay.Recorder

open AsyncViz.Lib.Json AsyncViz.Lib.Lines

/-! ## Repair -/

/-- `b"\n"`. -/
def newline : UInt8 := 10

/-- `RepairResult`, but for the path. -/
structure RepairResult where
  initialSize : Nat := 0
  repairedSize : Nat := 0
  truncatedBytes : Nat := 0
  linesKept : Nat := 0
  linesDropped : Nat := 0
deriving DecidableEq, Repr

variable {F : Type}

/-- The loop of `repair_partial_tail`, from `repaired_end` on. -/
def trimmedEnd (limits : Limits) (fmt : FloatFormat F) (raw : Bytes) (repairedEnd : Nat) :
    Except BytesError Nat :=
  if _h : repairedEnd = 0 then .ok 0
  else
    let candidateStart := lineStart newline raw (repairedEnd - 1)
    let line := (raw.take (repairedEnd - 1)).drop candidateStart
    -- an empty line ends the loop with the newline of it still in front of `repaired_end`
    if line = [] then .ok repairedEnd
    else
      match loadsBytes limits fmt line with
      | .ok _ => .ok repairedEnd
      | .error (.reading .malformed) => trimmedEnd limits fmt raw candidateStart
      -- `UnicodeDecodeError`, a number too long or a value too deep leave the loop
      | .error e => .error e
termination_by repairedEnd
decreasing_by
  have hle := lineStart_le newline raw (repairedEnd - 1)
  omega

/-- `repair_partial_tail(path)`: what the file holds behind it, and the result; `none` is a file
    that does not exist. -/
def repairPartialTail (limits : Limits) (fmt : FloatFormat F) :
    Option Bytes → Except BytesError (Option Bytes × RepairResult)
  | none => .ok (none, {})
  | some raw =>
    if raw.length = 0 then .ok (some raw, {})
    else
      let repairedEnd :=
        -- a torn line goes in one step, up to the newline in front of it
        if raw.getLast? = some newline then raw.length else lineStart newline raw raw.length
      match trimmedEnd limits fmt raw repairedEnd with
      | .error e => .error e
      | .ok repairedEnd =>
        if repairedEnd = raw.length then
          .ok (some raw, ⟨raw.length, raw.length, 0, raw.count newline, 0⟩)
        else
          let repaired := raw.take repairedEnd
          .ok (some repaired,
            ⟨raw.length, repairedEnd, raw.length - repairedEnd, repaired.count newline, 1⟩)

/-- `count_chunk_events(path)`. -/
def countChunkEvents : Option Bytes → Nat
  | none => 0
  | some raw => raw.count newline

/-! ## On lines -/

variable (limits : Limits) (fmt : FloatFormat F)

/-- `json.loads` returns a value for the line. -/
def parses (line : Bytes) : Bool :=
  match loadsBytes limits fmt line with
  | .ok _ => true
  | .error _ => false

/-- `json.loads` raises `JSONDecodeError` on the line. -/
def malformed (line : Bytes) : Bool :=
  match loadsBytes limits fmt line with
  | .error (.reading .malformed) => true
  | _ => false

/-- The loop drops the line and goes on. -/
def goes (line : Bytes) : Bool := decide (line ≠ []) && malformed limits fmt line

/-- The complete lines that the loop leaves: up to the last one that does not go, unless
    `json.loads` raises something else on that one. -/
def standing (lines : List Bytes) : Except BytesError (List Bytes) :=
  let front := lines.rdropWhile (goes limits fmt)
  match front.getLast? with
  | none => .ok front
  | some line =>
    -- the loop has stopped in front of this line, so it is empty, parses or raises
    if line = [] then .ok front
    else
      match loadsBytes limits fmt line with
      | .ok _ => .ok front
      | .error e => .error e

variable {limits fmt}

theorem standing_of_goes {line : Bytes} (h : goes limits fmt line = true) (lines : List Bytes) :
    standing limits fmt (lines ++ [line]) = standing limits fmt lines := by
  rw [standing, standing, List.rdropWhile_concat_pos _ _ _ h]

theorem standing_of_stays {line : Bytes} (h : ¬ goes limits fmt line = true)
    (lines : List Bytes) :
    standing limits fmt (lines ++ [line]) =
      if line = [] then .ok (lines ++ [line])
      else
        match loadsBytes limits fmt line with
        | .ok _ => .ok (lines ++ [line])
        | .error e => .error e := by
  rw [standing, List.rdropWhile_concat_neg _ _ _ h, List.getLast?_concat]

/-- The loop goes back over the complete lines, whatever is behind them. -/
theorem trimmedEnd_joinLines {lines : List Bytes} (hlines : ∀ line ∈ lines, newline ∉ line)
    (rest : Bytes) :
    trimmedEnd limits fmt (joinLines newline lines ++ rest) (joinLines newline lines).length
      = (standing limits fmt lines).map fun front => (joinLines newline front).length := by
  -- by induction from the last line on, as the loop goes; what is behind it joins the rest
  induction lines using List.reverseRecOn generalizing rest with
  | nil =>
    rw [trimmedEnd, dif_pos (by rfl)]
    rfl
  | append_singleton lines line ih =>
    have hline : newline ∉ line := hlines line (by simp)
    have hrest := ih (fun other hother => hlines other (List.mem_append_left _ hother))
      (line ++ newline :: rest)
    have hraw : joinLines newline (lines ++ [line]) ++ rest
        = joinLines newline lines ++ (line ++ newline :: rest) := by
      simp
    have hend : (joinLines newline (lines ++ [line])).length - 1
        = (joinLines newline lines).length + line.length := by
      rw [joinLines_append, joinLines_singleton, ← List.append_assoc, List.length_append,
        List.length_singleton, Nat.add_sub_cancel, List.length_append]
    have hpos : (joinLines newline (lines ++ [line])).length ≠ 0 := by simp
    -- the positions of the loop: the line's start, and its bytes without the newline
    have hstart := lineStart_line hline lines (newline :: rest)
    have hcut : ((joinLines newline lines ++ (line ++ newline :: rest)).take
        ((joinLines newline lines).length + line.length)).drop
          (joinLines newline lines).length = line := by
      rw [List.take_length_add_append, List.drop_left' rfl, List.take_left' rfl]
    rw [trimmedEnd, dif_neg hpos, hend, hraw]
    simp only [hstart, hcut]
    by_cases hgoes : goes limits fmt line = true
    · -- Such a line is not empty, and the loop goes on in front of it.
      rw [standing_of_goes hgoes]
      rw [goes, malformed, Bool.and_eq_true, decide_eq_true_iff] at hgoes
      obtain ⟨hne, hmalformed⟩ := hgoes
      rw [if_neg hne]
      split at hmalformed
      · rename_i hloads
        rw [hloads]
        exact hrest
      · exact absurd hmalformed Bool.false_ne_true
    · rw [standing_of_stays hgoes]
      rw [goes, malformed, Bool.and_eq_true, decide_eq_true_iff] at hgoes
      by_cases hempty : line = []
      · rw [if_pos hempty, if_pos hempty]
        rfl
      · rw [if_neg hempty, if_neg hempty]
        split
        · rename_i hloads
          rw [hloads]
          rfl
        · rename_i hloads
          exact absurd ⟨hempty, by simp [hloads]⟩ hgoes
        · rename_i hloads
          rw [hloads]
          rfl

theorem standing_eq_ok {lines front : List Bytes} (h : standing limits fmt lines = .ok front) :
    front = lines.rdropWhile (goes limits fmt) := by
  rw [standing] at h
  split at h
  · exact (Except.ok.inj h).symm
  · split at h
    · exact (Except.ok.inj h).symm
    · split at h
      · exact (Except.ok.inj h).symm
      · cases h

theorem prefix_of_standing {lines front : List Bytes}
    (h : standing limits fmt lines = .ok front) : front <+: lines := by
  rw [standing_eq_ok h]
  exact List.rdropWhile_prefix _ _

/-- Where the loop starts: behind the last complete line. -/
theorem end_of_lines {lines : List Bytes} {torn : Bytes} (htorn : newline ∉ torn)
    (hraw : joinLines newline lines ++ torn ≠ []) :
    (if (joinLines newline lines ++ torn).getLast? = some newline then
        (joinLines newline lines ++ torn).length
      else lineStart newline (joinLines newline lines ++ torn)
        (joinLines newline lines ++ torn).length)
      = (joinLines newline lines).length := by
  by_cases hnil : torn = []
  · rw [hnil, List.append_nil] at hraw ⊢
    have hlines : lines ≠ [] := fun h => hraw (joinLines_eq_nil.mpr h)
    rw [if_pos (getLast?_joinLines hlines)]
  · have hlast : (joinLines newline lines ++ torn).getLast? ≠ some newline := by
      rw [List.getLast?_append_of_ne_nil _ hnil]
      exact fun h => htorn (List.mem_of_getLast? h)
    have hstart := lineStart_line htorn lines []
    rw [List.append_nil] at hstart
    rw [if_neg hlast, List.length_append, hstart]

variable (limits fmt) in
/-- `repair_partial_tail` on complete lines and a torn one. -/
theorem repairPartialTail_lines {lines : List Bytes} (hlines : ∀ line ∈ lines, newline ∉ line)
    {torn : Bytes} (htorn : newline ∉ torn) :
    repairPartialTail limits fmt (some (joinLines newline lines ++ torn))
      = (standing limits fmt lines).map fun front =>
          (some (joinLines newline front),
            { initialSize := (joinLines newline lines ++ torn).length
              repairedSize := (joinLines newline front).length
              truncatedBytes := (joinLines newline lines ++ torn).length
                - (joinLines newline front).length
              linesKept := front.length
              linesDropped := if front = lines ∧ torn = [] then 0 else 1 }) := by
  by_cases hraw : joinLines newline lines ++ torn = []
  · obtain ⟨hjoined, rfl⟩ := List.append_eq_nil_iff.mp hraw
    rw [joinLines_eq_nil.mp hjoined]
    rfl
  · have hlength : (joinLines newline lines ++ torn).length ≠ 0 := fun h =>
      hraw (List.eq_nil_of_length_eq_zero h)
    rw [repairPartialTail, if_neg hlength]
    simp only [end_of_lines htorn hraw, trimmedEnd_joinLines hlines torn]
    cases hstanding : standing limits fmt lines with
    | error e => rfl
    | ok front =>
      -- what stands is a beginning of the lines, so the positions of both are lengths
      obtain ⟨gone, rfl⟩ := prefix_of_standing hstanding
      have hfront : ∀ line ∈ front, newline ∉ line := fun line hline =>
        hlines line (List.mem_append_left _ hline)
      have hcut : (joinLines newline (front ++ gone) ++ torn).take (joinLines newline front).length
          = joinLines newline front := by
        rw [joinLines_append, List.append_assoc, List.take_left' rfl]
      have hgone : joinLines newline gone = [] ↔ gone = [] := joinLines_eq_nil
      -- the two sizes agree exactly if nothing went, which is the test that the source makes
      have hall : (joinLines newline front).length
            = (joinLines newline (front ++ gone) ++ torn).length
          ↔ front = front ++ gone ∧ torn = [] := by
        rw [List.self_eq_append_right, ← hgone,
          ← List.append_eq_nil_iff, ← List.length_eq_zero_iff, joinLines_append, List.append_assoc,
          List.length_append]
        omega
      dsimp only [Except.map]
      by_cases hsame : front = front ++ gone ∧ torn = []
      · rw [if_pos (hall.mpr hsame), if_pos hsame, ← hall.mpr hsame, Nat.sub_self]
        obtain ⟨hgone, rfl⟩ := hsame
        rw [← hgone, List.append_nil, count_joinLines hfront]
      · rw [if_neg (mt hall.mp hsame), if_neg hsame, hcut, count_joinLines hfront]

/-! ## What stands and what goes -/

theorem not_parses_of_goes {line : Bytes} (h : goes limits fmt line = true) :
    parses limits fmt line = false := by
  rw [goes, malformed, Bool.and_eq_true] at h
  have hmalformed := h.2
  split at hmalformed
  · rename_i hloads
    rw [parses, hloads]
  · exact absurd hmalformed Bool.false_ne_true

/-- Lines whose last one that is not empty parses all stand. -/
theorem standing_of_parses {lines : List Bytes}
    (h : ∀ line ∈ (lines.filter (· ≠ [])).getLast?, parses limits fmt line = true) :
    standing limits fmt lines = .ok lines := by
  rcases List.eq_nil_or_concat' lines with rfl | ⟨lines, line, rfl⟩
  · rfl
  · by_cases hempty : line = []
    · rw [standing_of_stays (by simp [goes, hempty]), if_pos hempty]
    · -- the last line parses, so the loop stops there
      have hparses : parses limits fmt line = true := h line (by simp [hempty])
      have hstays : ¬ goes limits fmt line = true := fun hgoes =>
        Bool.false_ne_true ((not_parses_of_goes hgoes).symm.trans hparses)
      rw [standing_of_stays hstays, if_neg hempty]
      rw [parses] at hparses
      split at hparses
      · rfl
      · exact absurd hparses Bool.false_ne_true

/-- What stands once stands again. -/
theorem standing_standing {lines front : List Bytes}
    (h : standing limits fmt lines = .ok front) : standing limits fmt front = .ok front := by
  have hfront := standing_eq_ok h
  rw [standing, hfront, List.rdropWhile_idempotent, ← hfront]
  rw [standing, ← hfront] at h
  exact h

theorem joinLines_mono {lines lines' : List Bytes} (h : lines <+: lines') :
    joinLines newline lines <+: joinLines newline lines' := by
  obtain ⟨rest, rfl⟩ := h
  rw [joinLines_append]
  exact List.prefix_append _ _

/-- The weaker the condition, the more goes. -/
theorem rdropWhile_of_imp {p q : Bytes → Bool} (h : ∀ line, p line = true → q line = true)
    (lines : List Bytes) : lines.rdropWhile q <+: lines.rdropWhile p := by
  induction lines using List.reverseRecOn with
  | nil => exact List.prefix_rfl
  | append_singleton lines line ih =>
    by_cases hp : p line = true
    · rw [List.rdropWhile_concat_pos _ _ _ hp, List.rdropWhile_concat_pos _ _ _ (h line hp)]
      exact ih
    · -- where the weaker condition stops, the stronger one has stopped before
      rw [List.rdropWhile_concat_neg p _ _ hp]
      exact List.rdropWhile_prefix _ _

/-! ## What a repair is to do -/

variable (limits fmt) in
/-- What stands in front of the longest run of lines at the end that are torn or do not
    parse. -/
def beforeRun (raw : Bytes) : Bytes :=
  joinLines newline ((completeLines newline raw).rdropWhile fun line => !parses limits fmt line)

/-- The complete lines and the torn one, counted. -/
def lineCount (raw : Bytes) : Nat :=
  (completeLines newline raw).length + if tornLine newline raw = [] then 0 else 1

variable (limits fmt) in
/-- What `repair_partial_tail` is to make of the bytes of a file. -/
structure Repairs (raw content : Bytes) (result : RepairResult) : Prop where
  begins : content <+: raw
  ends : content = [] ∨ content.getLast? = some newline
  parses : ∀ line ∈ ((completeLines newline content).filter (· ≠ [])).getLast?,
    parses limits fmt line = true
  removes : beforeRun limits fmt raw <+: content
  counts : result.linesKept + result.linesDropped = lineCount raw
  again : ∃ result', repairPartialTail limits fmt (some content) = .ok (some content, result') ∧
    result'.truncatedBytes = 0

variable (limits fmt) in
/-- `repair_partial_tail` returns, and does what it is to do. -/
def Repaired (raw : Bytes) : Prop :=
  ∃ content result, repairPartialTail limits fmt (some raw) = .ok (some content, result) ∧
    Repairs limits fmt raw content result

variable (limits fmt) in
/-- At most one line is to go, a torn one or a complete one on which `json.loads` raises
    `JSONDecodeError`; and the last line in front of it that is not empty parses, if there is
    one. -/
def Mendable (raw : Bytes) : Prop :=
  ∃ kept gone, raw = joinLines newline kept ++ gone ∧ (∀ line ∈ kept, newline ∉ line) ∧
    (newline ∉ gone ∨
      ∃ line, gone = line ++ [newline] ∧ newline ∉ line ∧ goes limits fmt line = true) ∧
    ∀ line ∈ (kept.filter (· ≠ [])).getLast?, parses limits fmt line = true

/-- Where the lines that stand end with one that parses and at most one goes, all is done. -/
theorem repaired_of_standing {lines front : List Bytes} {torn : Bytes}
    (hlines : ∀ line ∈ lines, newline ∉ line) (htorn : newline ∉ torn)
    (hstanding : standing limits fmt lines = .ok front)
    (hparses : ∀ line ∈ (front.filter (· ≠ [])).getLast?, parses limits fmt line = true)
    (hcount : front.length + (if front = lines ∧ torn = [] then 0 else 1)
      = lines.length + if torn = [] then 0 else 1) :
    Repaired limits fmt (joinLines newline lines ++ torn) := by
  have hbegins := prefix_of_standing hstanding
  have hfront : ∀ line ∈ front, newline ∉ line := fun line hline =>
    hlines line (hbegins.subset hline)
  -- cut at a newline, the content splits into the lines that stand
  have hsplit : completeLines newline (joinLines newline front) = front := by
    have h := completeLines_joinLines hfront List.not_mem_nil
    rwa [List.append_nil] at h
  have hrepair := repairPartialTail_lines limits fmt hlines htorn
  rw [hstanding] at hrepair
  refine ⟨_, _, hrepair, ?_, ?_, ?_, ?_, ?_, ?_⟩
  · exact (joinLines_mono hbegins).trans (List.prefix_append _ _)
  · by_cases hnil : front = []
    · exact .inl (joinLines_eq_nil.mpr hnil)
    · exact .inr (getLast?_joinLines hnil)
  · rw [hsplit]
    exact hparses
  · -- what goes does not parse, so that all in front of the run stands
    rw [beforeRun, completeLines_joinLines hlines htorn, standing_eq_ok hstanding]
    refine joinLines_mono (rdropWhile_of_imp (fun line hgoes => ?_) lines)
    rw [not_parses_of_goes hgoes]
    rfl
  · rw [lineCount, completeLines_joinLines hlines htorn, tornLine_joinLines hlines htorn]
    exact hcount
  · -- on the lines that stand the loop stops at once
    have hagain := repairPartialTail_lines limits fmt hfront
      (List.not_mem_nil (a := newline))
    rw [standing_standing hstanding, List.append_nil] at hagain
    exact ⟨_, hagain, Nat.sub_self _⟩

/-- Where one line counts as dropped and a complete one goes, no other one goes, and none is
    torn. -/
theorem one_goes {front bad : List Bytes} {line torn : Bytes}
    (h : front.length + 1 = (front ++ line :: bad).length + if torn = [] then 0 else 1) :
    bad = [] ∧ torn = [] := by
  rw [List.length_append, List.length_cons] at h
  by_cases htorn : torn = []
  · rw [if_pos htorn] at h
    exact ⟨List.eq_nil_of_length_eq_zero (by omega), htorn⟩
  · rw [if_neg htorn] at h
    omega

/-- A file is repaired as it is to be exactly if at most one line of it is to go, and the last
    line in front of that parses. -/
theorem repaired_iff_mendable (limits : Limits) (fmt : FloatFormat F) (raw : Bytes) :
    Repaired limits fmt raw ↔ Mendable limits fmt raw := by
  constructor
  · rintro ⟨content, result, hrepair, hrepairs⟩
    obtain ⟨lines, torn, rfl, hlines, htorn⟩ := exists_lines newline raw
    rw [repairPartialTail_lines limits fmt hlines htorn] at hrepair
    cases hstanding : standing limits fmt lines with
    | error e =>
      rw [hstanding] at hrepair
      cases hrepair
    | ok front =>
      rw [hstanding] at hrepair
      cases hrepair
      -- the lines split at the place where the loop stops
      have hsplit : lines = front ++ lines.rtakeWhile (goes limits fmt) := by
        rw [standing_eq_ok hstanding, List.rdropWhile_append_rtakeWhile]
      have hgoes : ∀ line ∈ lines.rtakeWhile (goes limits fmt), goes limits fmt line = true :=
        fun line hline => List.mem_rtakeWhile_imp hline
      generalize lines.rtakeWhile (goes limits fmt) = bad at hsplit hgoes
      subst hsplit
      have hfront : ∀ line ∈ front, newline ∉ line := fun line hline =>
        hlines line (List.mem_append_left _ hline)
      have hparses := hrepairs.parses
      have hfrontLines := completeLines_joinLines hfront (List.not_mem_nil (a := newline))
      rw [List.append_nil] at hfrontLines
      rw [hfrontLines] at hparses
      -- the count of the lines settles how many go
      have hcounts := hrepairs.counts
      rw [lineCount, completeLines_joinLines hlines htorn, tornLine_joinLines hlines htorn]
        at hcounts
      cases bad with
      | nil => exact ⟨front, torn, by simp, hfront, .inl htorn, hparses⟩
      | cons line bad =>
        rw [if_neg (by simp)] at hcounts
        obtain ⟨rfl, rfl⟩ := one_goes hcounts
        refine ⟨front, line ++ [newline], by simp, hfront, .inr ⟨line, rfl, ?_, ?_⟩, hparses⟩
        · exact hlines line (by simp)
        · exact hgoes line List.mem_cons_self
  · rintro ⟨kept, gone, rfl, hkept, hgone, hparses⟩
    have hstanding := standing_of_parses hparses
    rcases hgone with htorn | ⟨line, rfl, hline, hgoes⟩
    · -- only torn bytes go
      refine repaired_of_standing hkept htorn hstanding hparses ?_
      simp
    · -- one complete line goes, and nothing is torn
      have hlines : ∀ other ∈ kept ++ [line], newline ∉ other := by
        intro other hother
        rcases List.mem_append.mp hother with hother | hother
        · exact hkept other hother
        · rwa [List.mem_singleton.mp hother]
      have hrepaired := repaired_of_standing hlines (List.not_mem_nil (a := newline))
        ((standing_of_goes hgoes kept).trans hstanding) hparses (by simp)
      rwa [joinLines_append, joinLines_singleton, List.append_nil] at hrepaired

/-- On one byte that is no UTF-8 and a newline the repair raises. -/
theorem not_repaired_undecodable :
    ¬ Repaired { depth := 1000 } FloatFormat.asWritten [0xFF, newline] := by
  rintro ⟨content, result, hrepair, -⟩
  have hloads : loadsBytes { depth := 1000 } FloatFormat.asWritten [0xFF] = .error .undecodable :=
    rfl
  -- the loop stops at the line, whose error is not the one that it catches
  have hstanding : standing { depth := 1000 } FloatFormat.asWritten ([] ++ [[0xFF]])
      = .error .undecodable := by
    rw [standing_of_stays (by simp [goes, malformed, hloads]), if_neg (by simp), hloads]
  have hline : ∀ line ∈ [] ++ [[0xFF]], newline ∉ line := by decide
  have hlines := repairPartialTail_lines { depth := 1000 } FloatFormat.asWritten hline
    (List.not_mem_nil (a := newline))
  rw [hstanding] at hlines
  exact absurd (hlines.symm.trans hrepair) (by simp [Except.map])

/-! ## Event files -/

/-- The bytes are those of the event file: of each complete line the size with its newline, and
    of the torn one the bytes. -/
structure EventFile.Stored (file : EventFile) (raw : Bytes) : Prop where
  lines : (completeLines newline raw).map (fun line => line.length + 1) = file.lines.map Line.size
  torn : (tornLine newline raw).length = file.torn

theorem length_joinLines (lines : List Bytes) :
    (joinLines newline lines).length = (lines.map fun line => line.length + 1).sum := by
  simp [joinLines, List.length_flatMap]

theorem EventFile.Stored.length {file : EventFile} {raw : Bytes} (h : file.Stored raw) :
    raw.length = file.statSize := by
  rw [← joinLines_completeLines newline raw, List.length_append, length_joinLines, h.lines, h.torn]
  rfl

/-- On the file of a writer, whose complete lines are JSON, the repair is the one of the event
    file: the torn bytes go, and every complete line stays. -/
theorem stored_repairPartialTail {file : EventFile} {raw : Bytes} (h : file.Stored raw)
    (hparses : ∀ line ∈ ((completeLines newline raw).filter (· ≠ [])).getLast?,
      parses limits fmt line = true) :
    ∃ content result, repairPartialTail limits fmt (some raw) = .ok (some content, result) ∧
      file.repairPartialTail.Stored content ∧
      countChunkEvents (some content) = file.repairPartialTail.countChunkEvents ∧
      content.length = file.repairPartialTail.statSize ∧
      result.linesKept = file.countChunkEvents ∧ result.truncatedBytes = file.torn := by
  have hlines : ∀ line ∈ completeLines newline raw, newline ∉ line := fun _ hline =>
    not_mem_of_mem_completeLines hline
  have hrepair := repairPartialTail_lines limits fmt hlines
    (not_mem_tornLine newline raw)
  rw [joinLines_completeLines, standing_of_parses hparses] at hrepair
  have hcount : (completeLines newline raw).length = file.lines.length := by
    have hlength := congrArg List.length h.lines
    rwa [List.length_map, List.length_map] at hlength
  have hnone := List.not_mem_nil (a := newline)
  have hcomplete := completeLines_joinLines hlines hnone
  have htorn := tornLine_joinLines hlines hnone
  rw [List.append_nil] at hcomplete htorn
  have hstored : file.repairPartialTail.Stored (joinLines newline (completeLines newline raw)) :=
    ⟨by rw [hcomplete]; exact h.lines, by rw [htorn]; rfl⟩
  -- what goes is the torn line alone, and the sizes are those of the event file
  have hraw := congrArg List.length (joinLines_completeLines newline raw)
  rw [List.length_append, h.torn] at hraw
  refine ⟨_, _, hrepair, hstored, ?_, hstored.length, hcount, ?_⟩
  · exact (count_joinLines hlines).trans hcount
  · change raw.length - (joinLines newline (completeLines newline raw)).length = file.torn
    omega

end AsyncViz.Replay.Recorder
