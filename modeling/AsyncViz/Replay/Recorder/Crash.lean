/-
  AsyncViz.Replay.Recorder.Crash

  What a crash leaves on disk.  The process dies in the middle of a batch or between two;
  closed files are complete, of the open one some lines survive and perhaps the torn start
  of the next.

  `Full` is what a directory keeps through crashes and restarts: only the last file can be
  without a line, since an empty chunk never rotates.
-/

import AsyncViz.Replay.Recorder.Log

namespace AsyncViz.Replay.Recorder

open AsyncViz.Lib.Bisect AsyncViz.Lib.SortedLog

/-- What the process was at when it died.  A `flush` or `stop` was writing the buffer
    (`flushing`), or the worker its batch; `written` lines of it had gone to the handle, and
    the file that the next line needs might be `opened` already.  Of the last file
    `surviving` lines are on disk, and `torn` bytes of another one. -/
structure Crash where
  flushing : Bool
  written : Nat
  opened : Bool
  surviving : Nat
  torn : Nat

/-- What is left of the file that was open. -/
def EventFile.lose (crash : Crash) (file : EventFile) : EventFile :=
  { file with lines := file.lines.take crash.surviving, torn := crash.torn }

/-- The file for the next line, if that line rotates. -/
def RecordingWriter.openNext (w : RecordingWriter) : List Line → RecordingWriter
  | [] => w
  | next :: _ => if w.wouldRotate next then w.rotateLocked else w

namespace LogRun

/-- The batch that was being written; after `stop` nobody writes. -/
def batch (s : LogRun) (crash : Crash) : List Line :=
  if s.stopped then [] else if crash.flushing then s.writer.buffer else s.held

/-- The writer at the moment of the crash. -/
def dying (s : LogRun) (crash : Crash) : RecordingWriter :=
  let w := s.writer.flushLocked ((s.batch crash).take crash.written)
  if crash.opened then w.openNext ((s.batch crash).drop crash.written) else w

/-- The event files that the crash leaves behind. -/
def disk (s : LogRun) (crash : Crash) : List EventFile :=
  (s.dying crash).files.dropLast ++
    (s.dying crash).files.getLast?.toList.map (EventFile.lose crash)

end LogRun

namespace RecordingWriter

variable {w : RecordingWriter} {older : List EventFile}

/-! ## A rotation by itself -/

theorem Shaped.openNew (h : Shaped older w) (hchunk : w.chunk = none) :
    Shaped older (w.openChunk (w.chunkIndex + 1)) := by
  have hnew : ∀ file ∈ w.files, file.index < w.chunkIndex + 1 :=
    fun file hfile => Int.lt_add_one_of_le (h.index_le file hfile)
  rw [openChunk_new hnew]
  exact h.newChunk hchunk []

theorem Shaped.openNext (h : Shaped older w) (lines : List Line) :
    Shaped older (w.openNext lines) := by
  cases lines with
  | nil => exact h
  | cons next lines =>
    rw [RecordingWriter.openNext]
    by_cases hrotate : w.wouldRotate next = true
    · rw [if_pos hrotate]
      exact h.closeCurrentChunk.openNew rfl
    · rw [if_neg hrotate]
      exact h

/-- A rotation puts an empty file behind the others. -/
theorem files_rotateLocked (h : Shaped older w) :
    w.rotateLocked.files = w.files ++ [{ index := w.chunkIndex + 1, lines := [] }] := by
  have hnew : ∀ file ∈ w.closeCurrentChunk.files, file.index < w.chunkIndex + 1 :=
    fun file hfile => Int.lt_add_one_of_le (h.index_le file hfile)
  rw [rotateLocked, openChunk_new hnew]
  rfl

/-! ## Only the last file can be empty -/

/-- The directory ends in a file, every file before it has a line, and file numbers are
    positive. -/
structure Full (files : List EventFile) : Prop where
  ends : ∃ front last, files = front ++ [last] ∧ ∀ file ∈ front, file.lines ≠ []
  positive : ∀ file ∈ files, 0 < file.index

/-- A chunk that rotates holds a line. -/
theorem ne_nil_of_wouldRotate {file : EventFile} {line : Line}
    (hchunk : w.chunk = some file.record) (hrotate : w.wouldRotate line = true) :
    file.lines ≠ [] := by
  intro hnil
  have hcount : file.record.eventCount = 0 := by rw [file.record_eventCount, hnil]; rfl
  rw [wouldRotate, hchunk, Option.any_some, hcount] at hrotate
  simp at hrotate

theorem full_snoc {front : List EventFile} {new : EventFile}
    (hfront : ∀ file ∈ front, file.lines ≠ []) (hpositive : ∀ file ∈ front, 0 < file.index)
    (hpos : 0 < new.index) : Full (front ++ [new]) := by
  refine ⟨⟨front, new, rfl, hfront⟩, fun file hfile => ?_⟩
  rcases List.mem_append.mp hfile with hin | hin
  · exact hpositive file hin
  · rw [List.mem_singleton.mp hin]
    exact hpos

/-- A file behind a full directory whose last file has a line. -/
theorem Full.snoc {files : List EventFile} (h : Full files) {front : List EventFile}
    {last new : EventFile} (hlast : files = front ++ [last]) (hne : last.lines ≠ [])
    (hpos : 0 < new.index) : Full (files ++ [new]) := by
  obtain ⟨front', last', hfiles, hbefore⟩ := h.ends
  obtain ⟨rfl, hsame⟩ := List.append_inj' (hlast.symm.trans hfiles) rfl
  obtain rfl := List.singleton_inj.mp hsame
  refine full_snoc (fun file hfile => ?_) h.positive hpos
  rw [hlast] at hfile
  rcases List.mem_append.mp hfile with hin | hin
  · exact hbefore file hin
  · rw [List.mem_singleton.mp hin]
    exact hne

theorem Full.chunkIndex_pos (hfull : Full w.files) (h : Shaped older w) : 0 < w.chunkIndex := by
  obtain ⟨front, last, hfiles, -⟩ := hfull.ends
  have hmem : last ∈ w.files := hfiles ▸ List.mem_append_right _ (List.mem_singleton_self last)
  exact (hfull.positive last hmem).trans_le (h.index_le last hmem)

/-- The rotating chunk is the last file, and it has a line. -/
theorem Full.rotated (hfull : Full w.files) (h : Shaped older w) {line : Line}
    (hrotate : w.wouldRotate line = true) (lines : List Line) :
    Full (w.files ++ [{ index := w.chunkIndex + 1, lines := lines }]) := by
  have hpos := hfull.chunkIndex_pos h
  cases hchunk : w.chunk with
  | none =>
    rw [wouldRotate, hchunk] at hrotate
    exact absurd hrotate (by simp)
  | some chunk =>
    obtain ⟨closed, file, hparts, -, rfl, -, -⟩ := h.last_file hchunk
    refine hfull.snoc hparts (ne_nil_of_wouldRotate hchunk hrotate) ?_
    change 0 < w.chunkIndex + 1
    omega

theorem Full.wrote (hfull : Full w.files) (h : Shaped older w) (hopen : w.chunk.isSome)
    {line : Line} {w' : RecordingWriter} (hwrote : Wrote w line w') :
    Full w'.files ∧ w'.chunk.isSome := by
  refine ⟨?_, hwrote.frame.2.2⟩
  cases hwrote with
  | appended front file hfiles _ _ =>
    obtain ⟨front', last, hends, hbefore⟩ := hfull.ends
    obtain ⟨rfl, -⟩ := List.append_inj' (hfiles.symm.trans hends) rfl
    refine ⟨⟨front, file.append line, rfl, hbefore⟩, fun other hother => ?_⟩
    obtain ⟨f, hf, heq⟩ := index_of_mem_append hother
    rw [← heq]
    exact hfull.positive f (hfiles ▸ hf)
  | rotated _ _ hrotate => exact hfull.rotated h hrotate [line]
  | reopened hnone =>
    rw [hnone] at hopen
    exact absurd hopen Bool.false_ne_true

theorem Full.flushLocked (hfull : Full w.files) (h : Shaped older w) (hopen : w.chunk.isSome)
    (drained : List Line) :
    Full (w.flushLocked drained).files ∧ (w.flushLocked drained).chunk.isSome :=
  (flushLocked_induction (I := fun u => Full u.files ∧ u.chunk.isSome)
    (fun _ _ _ hu hI hwrote => Full.wrote hI.1 hu hI.2 hwrote) h ⟨hfull, hopen⟩ drained).2

theorem Full.openNext (hfull : Full w.files) (h : Shaped older w) (lines : List Line) :
    Full (w.openNext lines).files := by
  cases lines with
  | nil => exact hfull
  | cons next lines =>
    rw [RecordingWriter.openNext]
    by_cases hrotate : w.wouldRotate next = true
    · rw [if_pos hrotate, files_rotateLocked h]
      exact hfull.rotated h hrotate []
    · rw [if_neg hrotate]
      exact hfull

theorem lines_openNext (h : Shaped older w) (lines : List Line) :
    (w.openNext lines).lines = w.lines := by
  cases lines with
  | nil => rfl
  | cons next lines =>
    rw [RecordingWriter.openNext]
    by_cases hrotate : w.wouldRotate next = true
    · rw [if_pos hrotate, RecordingWriter.lines, files_rotateLocked h]
      simp [RecordingWriter.lines]
    · rw [if_neg hrotate]

end RecordingWriter

namespace LogRun

variable {s : LogRun} {older : List EventFile}

/-! ## On the way to disk -/

/-- A step without an overlap moves the lines along, and `enqueue` puts one behind them or
    drops one. -/
theorem pipeline_stepped {s' : LogRun} {a : Action} (h : RecordingWriter.Shaped older s.writer)
    (horderly : Orderly s a) (hstep : Stepped s a s') :
    s'.pipeline = s.pipeline ∨ ∃ frame size, a = .enqueue frame size ∧
      s'.pipeline.Sublist (s.pipeline ++ [⟨s.calls, frame, size⟩]) := by
  cases hstep with
  | enqueued frame size buffer result hoffer =>
    refine .inr ⟨frame, size, rfl, ?_⟩
    change (s.writer.lines ++ s.held ++ buffer).Sublist
      (s.writer.lines ++ s.held ++ s.writer.buffer ++ [_])
    rw [List.append_assoc _ s.writer.buffer]
    refine List.Sublist.append_left ?_ _
    cases offered_of_offer hoffer with
    | accepted => exact List.Sublist.refl _
    | droppedNewest => exact List.sublist_append_left _ _
    | droppedOldest gone rest hbuffer =>
      rw [hbuffer]
      exact (List.sublist_cons_self gone rest).append_right _
  | drained hheld =>
    refine .inl ?_
    change s.writer.lines ++ s.writer.buffer.take _ ++ s.writer.buffer.drop _ = _
    rw [List.append_assoc, List.take_append_drop, pipeline, hheld, List.append_nil]
  | wrote hheld =>
    refine .inl ?_
    obtain ⟨-, hbuffer⟩ := RecordingWriter.flushLocked_frame h s.held
    change (s.writer.flushLocked s.held).lines ++ [] ++ (s.writer.flushLocked s.held).buffer = _
    rw [RecordingWriter.lines_flushLocked h, hbuffer, List.append_nil, pipeline]
  | flushed =>
    refine .inl ?_
    change s.writer.flush.lines ++ s.held ++ s.writer.flush.buffer = _
    rw [RecordingWriter.lines_flush h, (RecordingWriter.flush_frame h).2, List.append_nil, pipeline]
    -- one of the two is empty
    rcases horderly with hheld | hbuffer
    · rw [hheld, List.append_nil, List.append_nil]
    · rw [hbuffer, List.append_nil, List.append_nil]
  | stopped =>
    refine .inl ?_
    have hheld : s.held = [] := horderly
    change s.writer.flush.lines ++ s.held ++ s.writer.flush.buffer = _
    rw [RecordingWriter.lines_flush h, (RecordingWriter.flush_frame h).2, List.append_nil, pipeline,
      hheld, List.append_nil, List.append_nil]

/-- A running writer keeps its directory full and a chunk open. -/
theorem full_stepped {s' : LogRun} {a : Action} (h : RecordingWriter.Shaped older s.writer)
    (hfull : RecordingWriter.Full s.writer.files) (hopen : s.writer.chunk.isSome)
    (hstep : Stepped s a s') :
    RecordingWriter.Full s'.writer.files ∧
      (s'.stopped = false → s'.writer.chunk.isSome) := by
  have hflush := RecordingWriter.Full.flushLocked (w := { s.writer with buffer := [] }) hfull
    (h.withBuffer []) hopen s.writer.buffer
  cases hstep with
  | enqueued frame size buffer result hoffer => exact ⟨hfull, fun _ => hopen⟩
  | drained hheld => exact ⟨hfull, fun _ => hopen⟩
  | wrote hheld =>
    have hwritten := hfull.flushLocked h hopen s.held
    exact ⟨hwritten.1, fun _ => hwritten.2⟩
  | flushed => exact ⟨hflush.1, fun _ => hflush.2⟩
  | stopped => exact ⟨hflush.1, fun hgoes => absurd hgoes (by simp)⟩

/-! ## The dying writer -/

theorem shaped_dying (h : RecordingWriter.Shaped older s.writer) (crash : Crash) :
    RecordingWriter.Shaped older (s.dying crash) := by
  have hwritten := h.flushLocked ((s.batch crash).take crash.written)
  rw [dying]
  by_cases hopened : crash.opened = true
  · rw [if_pos hopened]
    exact hwritten.openNext _
  · rw [if_neg hopened]
    exact hwritten

theorem dying_stopped (hstopped : s.stopped = true) (crash : Crash) :
    s.dying crash = s.writer := by
  rw [dying, batch, if_pos hstopped, List.take_nil, List.drop_nil]
  by_cases hopened : crash.opened = true
  · rw [if_pos hopened]
    rfl
  · rw [if_neg hopened]
    rfl

theorem full_dying (h : RecordingWriter.Shaped older s.writer)
    (hfull : RecordingWriter.Full s.writer.files)
    (hopen : s.stopped = false → s.writer.chunk.isSome) (crash : Crash) :
    RecordingWriter.Full (s.dying crash).files := by
  cases hstopped : s.stopped with
  | true =>
    rw [dying_stopped hstopped]
    exact hfull
  | false =>
    have hwritten := hfull.flushLocked h (hopen hstopped) ((s.batch crash).take crash.written)
    rw [dying]
    by_cases hopened : crash.opened = true
    · rw [if_pos hopened]
      exact hwritten.1.openNext (h.flushLocked _) _
    · rw [if_neg hopened]
      exact hwritten.1

theorem lines_dying (h : RecordingWriter.Shaped older s.writer) (crash : Crash) :
    (s.dying crash).lines = s.writer.lines ++ (s.batch crash).take crash.written := by
  have hwritten := RecordingWriter.lines_flushLocked h ((s.batch crash).take crash.written)
  rw [dying]
  by_cases hopened : crash.opened = true
  · rw [if_pos hopened, RecordingWriter.lines_openNext (h.flushLocked _), hwritten]
  · rw [if_neg hopened, hwritten]

/-- What reached the disk is some of what was on its way. -/
theorem lines_dying_sublist (h : RecordingWriter.Shaped older s.writer) (crash : Crash) :
    (s.dying crash).lines.Sublist s.pipeline := by
  rw [lines_dying h, pipeline, List.append_assoc]
  refine List.Sublist.append_left ((List.take_sublist _ _).trans ?_) _
  rw [batch]
  by_cases hstopped : s.stopped = true
  · rw [if_pos hstopped]
    exact List.nil_sublist _
  · rw [if_neg hstopped]
    by_cases hflushing : crash.flushing = true
    · rw [if_pos hflushing]
      exact List.sublist_append_right _ _
    · rw [if_neg hflushing]
      exact List.sublist_append_left _ _

/-- The disk after a crash: the files of the dying writer, less some of the last one. -/
theorem disk_eq {crash : Crash} {front : List EventFile} {last : EventFile}
    (hfiles : (s.dying crash).files = front ++ [last]) :
    s.disk crash = front ++ [last.lose crash] := by
  rw [disk, hfiles]
  simp

end LogRun

end AsyncViz.Replay.Recorder
