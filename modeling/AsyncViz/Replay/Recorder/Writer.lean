/-
  AsyncViz.Replay.Recorder.Writer

  The recording writer (`replay/recording/recording_writer.py`,
  `recording_backpressure.py`): a bounded buffer with three policies, and a directory of
  chunk files with one open chunk at its end.

  A writer's counters live in memory and the lines on disk.  `Shaped` says how the two fit:
  the completed chunks and the open one are the last files of the directory, and their
  records are what the files say (`EventFile.record`).  `Wrote` lists what writing a line
  can do, and `wrote_writeLine` that it does nothing else.
-/

import AsyncViz.Replay.Recording
import Mathlib.Algebra.GroupWithZero.Nat
import Mathlib.Data.String.Basic

namespace AsyncViz.Replay.Recorder

open AsyncViz.Lib.Bisect AsyncViz.Lib.SortedLog

/-! ## Lines and files -/

/-- A serialized event.  `call` numbers the `enqueue` call that made it, which tells equal
    lines apart; `size` is `len(line)`, and the bytes of the line too, since `json.dumps`
    escapes what is not ASCII. -/
structure Line where
  call : Nat
  frame : ReplayFrame
  size : Nat

/-- An event file: its complete lines, and the bytes behind the last of them. -/
structure EventFile where
  index : Int
  lines : List Line
  torn : Nat := 0

namespace EventFile

variable (file : EventFile)

/-- `repair_partial_tail`. -/
def repairPartialTail : EventFile := { file with torn := 0 }

/-- `count_chunk_events`. -/
def countChunkEvents : Nat := file.lines.length

/-- `path.stat().st_size`. -/
def statSize : Nat := (file.lines.map Line.size).sum + file.torn

/-- `handle.write(line)`, behind what is there. -/
def append (line : Line) : EventFile := { file with lines := file.lines ++ [line] }

/-- The frames that a reader finds in the file. -/
def chunk : Chunk := { index := file.index, frames := file.lines.map Line.frame }

/-- The sequences stored in the file. -/
def sequences : List Int := file.lines.map fun line => line.frame.sequence

end EventFile

/-- `chunk_filename`. -/
def chunkFilename (index : Int) : String :=
  let digits := toString index
  "".pushn '0' (6 - digits.length) ++ digits ++ ".ndjson"

/-! ## Configuration -/

/-- `drop_policy`. -/
inductive DropPolicy where
  | dropNewest
  | dropOldest
  | block
deriving DecidableEq, Repr

/-- `RecordingConfig`, as far as the writer's log depends on it.  A chunk limit that is not
    positive is no limit. -/
structure RecordingConfig where
  bufferCapacity : Nat
  maxChunkBytes : Int
  maxChunkEvents : Int
  dropPolicy : DropPolicy
  capacity_pos : 0 < bufferCapacity

/-! ## The buffer -/

/-- `PolicyAction`.  A call that has waited for room reports `"blocked"` in place of
    `"accepted"`. -/
inductive PolicyAction where
  | accepted
  | droppedNewest
  | droppedOldest
deriving DecidableEq, Repr

/-- `EnqueueResult`. -/
structure EnqueueResult where
  action : PolicyAction
  evicted : Option Line := none

/-- `BoundedRingBuffer.offer`; `none` while the call waits for room. -/
def offer (config : RecordingConfig) (buffer : List Line) (item : Line) :
    Option (List Line × EnqueueResult) :=
  if buffer.length < config.bufferCapacity then
    some (buffer ++ [item], { action := .accepted })
  else
    match config.dropPolicy with
    | .dropNewest => some (buffer, { action := .droppedNewest, evicted := some item })
    | .dropOldest =>
      some (buffer.tail ++ [item], { action := .droppedOldest, evicted := buffer.head? })
    | .block => none

/-- What an offer that does not wait comes to. -/
inductive Offered (buffer : List Line) (item : Line) : List Line → EnqueueResult → Prop
  | accepted : Offered buffer item (buffer ++ [item]) { action := .accepted }
  | droppedNewest :
      Offered buffer item buffer { action := .droppedNewest, evicted := some item }
  | droppedOldest (gone : Line) (rest : List Line) :
      buffer = gone :: rest →
      Offered buffer item (rest ++ [item]) { action := .droppedOldest, evicted := some gone }

theorem offered_of_offer {config : RecordingConfig} {buffer buffer' : List Line} {item : Line}
    {result : EnqueueResult} (h : offer config buffer item = some (buffer', result)) :
    Offered buffer item buffer' result := by
  have hpos := config.capacity_pos
  by_cases hroom : buffer.length < config.bufferCapacity
  · simp only [offer, hroom, if_true, Option.some.injEq, Prod.mk.injEq] at h
    obtain ⟨rfl, rfl⟩ := h
    exact .accepted
  · cases hpolicy : config.dropPolicy with
    | dropNewest =>
      simp only [offer, hroom, if_false, hpolicy, Option.some.injEq, Prod.mk.injEq] at h
      obtain ⟨rfl, rfl⟩ := h
      exact .droppedNewest
    | dropOldest =>
      simp only [offer, hroom, if_false, hpolicy, Option.some.injEq, Prod.mk.injEq] at h
      obtain ⟨rfl, rfl⟩ := h
      -- a full buffer has an oldest line
      cases buffer with
      | nil => exact absurd hpos hroom
      | cons gone rest => exact .droppedOldest gone rest rfl
    | block => simp [offer, hroom, hpolicy] at h

/-- `BoundedRingBuffer.drain_batch`: the batch and what stays behind. -/
def drainBatch (maxItems : Nat) (buffer : List Line) : List Line × List Line :=
  (buffer.take maxItems, buffer.drop maxItems)

/-! ## Chunks -/

/-- `_ChunkState` without its handle.  `_to_chunk_record` copies the counters, so this is
    the `ChunkRecord` of a completed chunk as well. -/
structure ChunkState extends ChunkRecord where
  byteSize : Nat := 0
deriving DecidableEq, Repr

/-- The counters after `_write_to_chunk`. -/
def ChunkState.writeToChunk (chunk : ChunkState) (line : Line) : ChunkState :=
  { toChunkRecord := chunk.toChunkRecord.writeToChunk line.frame
    byteSize := chunk.byteSize + line.size }

/-- The record that describes a file. -/
def EventFile.record (file : EventFile) : ChunkState :=
  { toChunkRecord := file.chunk.record
    byteSize := file.statSize }

/-- `RecordingWriter`, with the files of its events directory. -/
structure RecordingWriter where
  config : RecordingConfig
  buffer : List Line := []
  chunk : Option ChunkState := none
  chunksCompleted : List ChunkState := []
  chunkIndex : Int := 0
  files : List EventFile

namespace RecordingWriter

variable (w : RecordingWriter)

/-- `_open_chunk(index)`: an existing file is repaired and appended to, and its size and
    line count are read from disk. -/
def openChunk (index : Int) : RecordingWriter :=
  match w.files.find? fun file => file.index = index with
  | some file =>
    { w with
      files := w.files.map fun f => if f.index = index then f.repairPartialTail else f
      chunk := some
        { index := index
          eventCount := file.repairPartialTail.countChunkEvents
          byteSize := file.repairPartialTail.statSize }
      chunkIndex := index }
  | none =>
    { w with
      files := w.files ++ [{ index := index, lines := [] }]
      chunk := some { index := index }
      chunkIndex := index }

/-- `_infer_starting_index`: the last file in the order of the names. -/
def inferStartingIndex (files : List EventFile) : Int :=
  (sortedBy chunkFilename (files.map EventFile.index)).getLast?.getD 0

/-- `_open_initial_chunk`. -/
def openInitialChunk : RecordingWriter :=
  let starting := inferStartingIndex w.files
  if starting > 0 then w.openChunk starting else w.openChunk 1

/-- `RecordingWriter(session_dir, config=…)`. -/
def new (config : RecordingConfig) (files : List EventFile) : RecordingWriter :=
  openInitialChunk { config := config, files := files }

/-- `_would_rotate(next_line)`. -/
def wouldRotate (line : Line) : Bool :=
  w.chunk.any fun chunk =>
    -- an empty chunk never rotates
    chunk.eventCount ≠ 0 &&
    ((0 < w.config.maxChunkBytes && w.config.maxChunkBytes < chunk.byteSize + line.size) ||
      (0 < w.config.maxChunkEvents && w.config.maxChunkEvents ≤ chunk.eventCount))

/-- `_close_current_chunk`. -/
def closeCurrentChunk : RecordingWriter :=
  { w with
    chunksCompleted := w.chunksCompleted ++ w.chunk.toList
    chunk := none }

/-- `_rotate_locked`. -/
def rotateLocked : RecordingWriter := w.closeCurrentChunk.openChunk (w.chunkIndex + 1)

/-- `_write_to_chunk`, to the file of the open chunk. -/
def writeToChunk (line : Line) : RecordingWriter :=
  { w with
    files := w.files.map fun file =>
      if w.chunk.any fun chunk => chunk.index = file.index then file.append line else file
    chunk := w.chunk.map fun chunk => chunk.writeToChunk line }

/-- The body of the loop of `_flush_locked`. -/
def writeLine (line : Line) : RecordingWriter :=
  let opened := if w.chunk.isNone then w.openChunk (w.chunkIndex + 1) else w
  let rotated := if opened.wouldRotate line then opened.rotateLocked else opened
  rotated.writeToChunk line

/-- `_flush_locked(drained=…)`. -/
def flushLocked (drained : List Line) : RecordingWriter := drained.foldl writeLine w

/-- `flush()`. -/
def flush : RecordingWriter := { w with buffer := [] }.flushLocked w.buffer

/-- `_drain_and_finalize`, with which `stop()` ends. -/
def drainAndFinalize : RecordingWriter := w.flush.closeCurrentChunk

/-- All lines on disk, in index order. -/
def lines : List Line := w.files.flatMap EventFile.lines

end RecordingWriter

/-! ## The record of a file -/

namespace EventFile

theorem record_append (file : EventFile) (line : Line) (hclean : file.torn = 0) :
    (file.append line).record = file.record.writeToChunk line := by
  have hsize : (file.append line).statSize = file.statSize + line.size := by
    simp [statSize, append, hclean]
  rw [record, hsize, ChunkState.writeToChunk]
  change ChunkState.mk (Chunk.record (chunk (append file line))) _ = _
  rw [chunk, append, Chunk.record, List.map_append, List.foldl_append]
  rfl

@[simp] theorem record_index (file : EventFile) : file.record.index = file.index :=
  file.chunk.record_index

theorem foldl_writeToChunk_eventCount (record : ChunkRecord) (frames : List ReplayFrame) :
    (frames.foldl ChunkRecord.writeToChunk record).eventCount
      = record.eventCount + frames.length := by
  induction frames generalizing record with
  | nil => rfl
  | cons f frames ih =>
    rw [List.foldl_cons, ih, List.length_cons]
    change record.eventCount + 1 + frames.length = _
    omega

@[simp] theorem record_eventCount (file : EventFile) :
    file.record.eventCount = file.lines.length := by
  change file.chunk.record.eventCount = _
  rw [Chunk.record, foldl_writeToChunk_eventCount, chunk, List.length_map]
  exact Nat.zero_add _

/-- The record says how many lines and bytes the file has, and which sequences its first and
    its last line carry; `-1` stands for no line. -/
structure Describes (record : ChunkState) (file : EventFile) : Prop where
  index : record.index = file.index
  eventCount : record.eventCount = file.lines.length
  byteSize : record.byteSize = file.statSize
  firstSequence : record.firstSequence = file.sequences.head?.getD (-1)
  lastSequence : record.lastSequence = file.sequences.getLast?.getD (-1)

/-- The start of a chunk is marked by a sequence that is not negative, so the record is
    right about a file without negative sequences. -/
theorem describes_record {file : EventFile} (hnonneg : ∀ q ∈ file.sequences, 0 ≤ q) :
    Describes file.record file := by
  obtain ⟨index, lines, torn⟩ := file
  cases lines with
  | nil => exact ⟨rfl, rfl, rfl, rfl, rfl⟩
  | cons line lines =>
    obtain ⟨hfirst, hlast⟩ := Chunk.record_cons index (f := line.frame) (lines.map Line.frame)
      (hnonneg line.frame.sequence List.mem_cons_self)
    refine ⟨record_index _, record_eventCount _, rfl, hfirst, hlast.trans ?_⟩
    rw [List.map_map, sequences, List.map_cons, List.getLast?_cons, Option.getD_some,
      List.getLastD_eq_getLast?]
    rfl

end EventFile

/-- The file keeps to the chunk limits; a single line may be longer than a chunk. -/
structure EventFile.Within (config : RecordingConfig) (file : EventFile) : Prop where
  events : 0 < config.maxChunkEvents → (file.lines.length : Int) ≤ config.maxChunkEvents
  bytes : 0 < config.maxChunkBytes →
    file.lines.length = 1 ∨ (file.statSize : Int) ≤ config.maxChunkBytes

theorem EventFile.within_single {config : RecordingConfig} {file : EventFile}
    (h : file.lines.length = 1) : file.Within config :=
  ⟨fun hpos => by omega, fun _ => .inl h⟩

/-! ## A writer and its directory -/

namespace RecordingWriter

/-- The writer has found `older` in its directory and put its own chunks behind them: the
    completed ones, then the open one, each recorded as it is on disk. -/
structure Shaped (older : List EventFile) (w : RecordingWriter) : Prop where
  indexed : Increasing EventFile.index w.files
  index_le : ∀ file ∈ w.files, file.index ≤ w.chunkIndex
  current : ∀ chunk ∈ w.chunk, chunk.index = w.chunkIndex
  parts : ∃ closed opened, w.files = older ++ closed ++ opened ∧
    closed.map EventFile.record = w.chunksCompleted ∧
    opened.map EventFile.record = w.chunk.toList ∧
    ∀ file ∈ closed ++ opened, file.torn = 0

/-- What writing `line` can do to a writer. -/
inductive Wrote (w : RecordingWriter) (line : Line) : RecordingWriter → Prop
  | appended (front : List EventFile) (file : EventFile) :
      w.files = front ++ [file] → w.chunk = some file.record →
      w.wouldRotate line = false →
      Wrote w line { w with
        files := front ++ [file.append line]
        chunk := some (file.append line).record }
  | rotated (chunk : ChunkState) :
      w.chunk = some chunk → w.wouldRotate line = true →
      Wrote w line { w with
        files := w.files ++ [{ index := w.chunkIndex + 1, lines := [line] }]
        chunk := some (EventFile.record { index := w.chunkIndex + 1, lines := [line] })
        chunksCompleted := w.chunksCompleted ++ [chunk]
        chunkIndex := w.chunkIndex + 1 }
  | reopened :
      w.chunk = none →
      Wrote w line { w with
        files := w.files ++ [{ index := w.chunkIndex + 1, lines := [line] }]
        chunk := some (EventFile.record { index := w.chunkIndex + 1, lines := [line] })
        chunkIndex := w.chunkIndex + 1 }

variable {w : RecordingWriter} {older : List EventFile}

/-- A chunk number above all others opens a new file. -/
theorem openChunk_new {index : Int} (hnew : ∀ file ∈ w.files, file.index < index) :
    w.openChunk index
      = { w with
          files := w.files ++ [{ index := index, lines := [] }]
          chunk := some { index := index }
          chunkIndex := index } := by
  have hfind : w.files.find? (fun file => decide (file.index = index)) = none := by
    rw [List.find?_eq_none]
    intro file hfile
    have := hnew file hfile
    simp only [decide_eq_true_eq]
    omega
  rw [openChunk, hfind]

/-- The lines go to the last file, since no other has its number. -/
theorem map_append_last {front : List EventFile} {file : EventFile} (line : Line)
    (hindexed : Increasing EventFile.index (front ++ [file])) :
    ((front ++ [file]).map fun f => if file.index = f.index then f.append line else f)
      = front ++ [file.append line] := by
  have hbefore := (increasing_snoc.mp hindexed).2
  rw [List.map_append, List.map_cons, List.map_nil, if_pos rfl]
  congr 1
  refine (List.map_congr_left fun f hf => ?_).trans front.map_id
  have hlt := hbefore f hf
  exact if_neg (by omega)

/-- An open chunk is the last file of the directory, with the record of that file. -/
theorem Shaped.last_file (h : Shaped older w) {chunk : ChunkState} (hchunk : w.chunk = some chunk) :
    ∃ closed file, w.files = older ++ closed ++ [file] ∧
      closed.map EventFile.record = w.chunksCompleted ∧ chunk = file.record ∧
      file.torn = 0 ∧ ∀ other ∈ closed, other.torn = 0 := by
  obtain ⟨closed, opened, hfiles, hclosed, hopened, hclean⟩ := h.parts
  rw [hchunk, Option.toList_some] at hopened
  obtain ⟨file, rest, rfl, hfile, hrest⟩ := List.map_eq_cons_iff.mp hopened
  obtain rfl := List.map_eq_nil_iff.mp hrest
  refine ⟨closed, file, hfiles, hclosed, hfile.symm, ?_, fun other hother => ?_⟩
  · exact hclean file (List.mem_append_right _ (List.mem_singleton_self file))
  · exact hclean other (List.mem_append_left _ hother)

/-- Writing to a chunk that has just been opened. -/
theorem writeToChunk_opened (w : RecordingWriter) (line : Line) {files : List EventFile}
    {index : Int} (hnew : ∀ file ∈ files, file.index < index) :
    writeToChunk { w with
        files := files ++ [{ index := index, lines := [] }]
        chunk := some { index := index }
        chunkIndex := index } line
      = { w with
          files := files ++ [{ index := index, lines := [line] }]
          chunk := some (EventFile.record { index := index, lines := [line] })
          chunkIndex := index } := by
  have hfiles : ((files ++ [({ index := index, lines := [] } : EventFile)]).map fun file =>
      if (some ({ index := index } : ChunkState)).any (fun chunk => decide (chunk.index = file.index))
      then file.append line else file) = files ++ [{ index := index, lines := [line] }] := by
    rw [List.map_append]
    congr 1
    · refine (List.map_congr_left fun file hfile => ?_).trans files.map_id
      have := hnew file hfile
      refine if_neg ?_
      simp only [Option.any_some, decide_eq_true_eq]
      omega
    · simp [EventFile.append]
  have hrecord : ChunkState.writeToChunk { index := index } line
      = EventFile.record { index := index, lines := [line] } :=
    (EventFile.record_append { index := index, lines := [] } line rfl).symm
  rw [writeToChunk]
  simp only [Option.map_some]
  rw [hfiles, hrecord]

theorem wrote_writeLine (h : Shaped older w) (line : Line) : Wrote w line (w.writeLine line) := by
  have hnew : ∀ file ∈ w.files, file.index < w.chunkIndex + 1 :=
    fun file hfile => Int.lt_add_one_of_le (h.index_le file hfile)
  cases hchunk : w.chunk with
  | none =>
    have hstays : (w.openChunk (w.chunkIndex + 1)).wouldRotate line = false := by
      rw [openChunk_new hnew]
      rfl
    have hwrite : w.writeLine line = (w.openChunk (w.chunkIndex + 1)).writeToChunk line := by
      rw [writeLine, hchunk]
      simp only [Option.isNone_none, if_true, hstays, Bool.false_eq_true, if_false]
    rw [hwrite, openChunk_new hnew, writeToChunk_opened w line hnew]
    exact .reopened hchunk
  | some chunk =>
    obtain ⟨closed, file, hfiles, -, rfl, hclean, -⟩ := h.last_file hchunk
    cases hrotate : w.wouldRotate line with
    | true =>
      have hwrite : w.writeLine line
          = (w.closeCurrentChunk.openChunk (w.chunkIndex + 1)).writeToChunk line := by
        rw [writeLine, hchunk]
        simp only [Option.isNone_some, Bool.false_eq_true, if_false, hrotate, if_true]
        rfl
      have hclosed : w.closeCurrentChunk
          = { w with chunksCompleted := w.chunksCompleted ++ [file.record], chunk := none } := by
        rw [closeCurrentChunk, hchunk]
        rfl
      rw [hwrite, hclosed, openChunk_new (w := { w with
        chunksCompleted := w.chunksCompleted ++ [file.record], chunk := none }) hnew]
      rw [writeToChunk_opened { w with
        chunksCompleted := w.chunksCompleted ++ [file.record], chunk := none } line hnew]
      exact .rotated file.record hchunk hrotate
    | false =>
      have hwrite : w.writeLine line = w.writeToChunk line := by
        rw [writeLine, hchunk]
        simp only [Option.isNone_some, Bool.false_eq_true, if_false, hrotate]
      have hindexed := h.indexed
      rw [hfiles] at hindexed
      have happended : w.writeToChunk line
          = { w with
              files := older ++ closed ++ [file.append line]
              chunk := some (file.append line).record } := by
        rw [writeToChunk, hchunk, hfiles, EventFile.record_append file line hclean,
          ← map_append_last line hindexed]
        simp
      rw [hwrite, happended]
      exact .appended (older ++ closed) file hfiles hchunk hrotate

/-! ## What a write preserves -/

theorem Wrote.lines {line : Line} {w' : RecordingWriter} (h : Wrote w line w') :
    w'.lines = w.lines ++ [line] := by
  cases h with
  | appended front file hfiles _ _ =>
    rw [RecordingWriter.lines, RecordingWriter.lines, hfiles]
    simp [EventFile.append]
  | rotated _ _ _ => simp [RecordingWriter.lines]
  | reopened _ => simp [RecordingWriter.lines]

theorem Wrote.frame {line : Line} {w' : RecordingWriter} (h : Wrote w line w') :
    w'.config = w.config ∧ w'.buffer = w.buffer ∧ w'.chunk.isSome := by
  cases h <;> exact ⟨rfl, rfl, rfl⟩

/-- A new file goes behind all others. -/
theorem increasing_append_new (h : Increasing EventFile.index w.files)
    (hle : ∀ file ∈ w.files, file.index ≤ w.chunkIndex) (opened : List Line) :
    Increasing EventFile.index
      (w.files ++ [{ index := w.chunkIndex + 1, lines := opened }]) := by
  exact increasing_snoc.mpr ⟨h, fun file hfile => Int.lt_add_one_of_le (hle file hfile)⟩

/-- A file keeps its number when it is written to. -/
theorem index_of_mem_append {front : List EventFile} {file other : EventFile} {line : Line}
    (hother : other ∈ front ++ [file.append line]) :
    ∃ f ∈ front ++ [file], f.index = other.index := by
  rcases List.mem_append.mp hother with hin | hin
  · exact ⟨other, List.mem_append_left _ hin, rfl⟩
  · rw [List.mem_singleton.mp hin]
    exact ⟨file, List.mem_append_right _ (List.mem_singleton_self file), rfl⟩

theorem Shaped.closeCurrentChunk (h : Shaped older w) : Shaped older w.closeCurrentChunk := by
  obtain ⟨closed, opened, hfiles, hclosed, hopened, hclean⟩ := h.parts
  refine ⟨h.indexed, h.index_le, ?_, closed ++ opened, [], ?_, ?_, rfl, ?_⟩
  · rintro chunk hsome
    exact absurd hsome (by simp [RecordingWriter.closeCurrentChunk])
  · rw [List.append_nil, ← List.append_assoc]
    exact hfiles
  · rw [List.map_append, hclosed, hopened]
    rfl
  · rw [List.append_nil]
    exact hclean

/-- A new chunk goes behind the others, once none is open. -/
theorem Shaped.newChunk (h : Shaped older w) (hchunk : w.chunk = none) (lines : List Line) :
    Shaped older { w with
      files := w.files ++ [{ index := w.chunkIndex + 1, lines := lines }]
      chunk := some (EventFile.record { index := w.chunkIndex + 1, lines := lines })
      chunkIndex := w.chunkIndex + 1 } := by
  obtain ⟨closed, opened, hparts, hclosed, hopened, hclean⟩ := h.parts
  rw [hchunk, Option.toList_none, List.map_eq_nil_iff] at hopened
  subst hopened
  rw [List.append_nil] at hparts hclean
  refine ⟨increasing_append_new h.indexed h.index_le lines, fun file hfile => ?_, ?_,
    closed, [{ index := w.chunkIndex + 1, lines := lines }], ?_, hclosed, rfl,
    fun file hfile => ?_⟩
  · rcases List.mem_append.mp hfile with hin | hin
    · exact (h.index_le file hin).trans (Int.le_add_one le_rfl)
    · rw [List.mem_singleton.mp hin]
  · rintro chunk hsome
    rw [← Option.some.inj hsome]
    exact EventFile.record_index _
  · rw [hparts]
  · rcases List.mem_append.mp hfile with hin | hin
    · exact hclean file hin
    · rw [List.mem_singleton.mp hin]

theorem Shaped.wrote (h : Shaped older w) {line : Line} {w' : RecordingWriter}
    (hwrote : Wrote w line w') : Shaped older w' := by
  cases hwrote with
  | appended front file hfiles hchunk _ =>
    obtain ⟨closed, last, hparts, hclosed, hrecord, hclean, hcleanBefore⟩ := h.last_file hchunk
    -- the open file that the step names is the last one
    obtain ⟨rfl, hlast⟩ := List.append_inj' (hfiles.symm.trans hparts) rfl
    obtain rfl := List.singleton_inj.mp hlast
    have hindex : file.index = w.chunkIndex :=
      (EventFile.record_index file).symm.trans (h.current _ hchunk)
    have hindexed := h.indexed
    rw [hfiles] at hindexed
    refine ⟨hindexed.replace_last rfl, fun other hother => ?_, ?_, closed,
      [file.append line], rfl, hclosed, rfl, fun other hother => ?_⟩
    · obtain ⟨f, hf, heq⟩ := index_of_mem_append hother
      rw [← heq]
      exact h.index_le f (hfiles ▸ hf)
    · rintro chunk hsome
      rw [← Option.some.inj hsome]
      exact (EventFile.record_index _).trans hindex
    · rcases List.mem_append.mp hother with hin | hin
      · exact hcleanBefore other hin
      · rw [List.mem_singleton.mp hin]
        exact hclean
  | rotated chunk hchunk _ =>
    have hclosed : w.closeCurrentChunk.chunksCompleted = w.chunksCompleted ++ [chunk] := by
      rw [RecordingWriter.closeCurrentChunk, hchunk]
      rfl
    have hnew := h.closeCurrentChunk.newChunk rfl [line]
    rw [hclosed] at hnew
    exact hnew
  | reopened hchunk => exact h.newChunk hchunk [line]

/-! ## Batches -/

/-- The rule for `_flush_locked`: what every write preserves, a batch preserves. -/
theorem flushLocked_induction {I : RecordingWriter → Prop}
    (hstep : ∀ w line w', Shaped older w → I w → Wrote w line w' → I w')
    (h : Shaped older w) (hI : I w) (drained : List Line) :
    Shaped older (w.flushLocked drained) ∧ I (w.flushLocked drained) := by
  induction drained generalizing w with
  | nil => exact ⟨h, hI⟩
  | cons line drained ih =>
    have hwrote := wrote_writeLine h line
    exact ih (h.wrote hwrote) (hstep w line _ h hI hwrote)

theorem Shaped.flushLocked (h : Shaped older w) (drained : List Line) :
    Shaped older (w.flushLocked drained) :=
  (flushLocked_induction (I := fun _ => True) (fun _ _ _ _ _ _ => trivial) h trivial drained).1

/-- A batch goes to the end of the log, in order. -/
theorem lines_flushLocked (h : Shaped older w) (drained : List Line) :
    (w.flushLocked drained).lines = w.lines ++ drained := by
  induction drained generalizing w with
  | nil => simp [RecordingWriter.flushLocked]
  | cons line drained ih =>
    have hwrote := wrote_writeLine h line
    have hrest := ih (h.wrote hwrote)
    rw [hwrote.lines, List.append_assoc] at hrest
    exact hrest

theorem flushLocked_frame (h : Shaped older w) (drained : List Line) :
    (w.flushLocked drained).config = w.config ∧ (w.flushLocked drained).buffer = w.buffer :=
  (flushLocked_induction (I := fun u => u.config = w.config ∧ u.buffer = w.buffer)
    (fun _ _ _ _ hI hwrote =>
      ⟨hwrote.frame.1.trans hI.1, hwrote.frame.2.1.trans hI.2⟩) h ⟨rfl, rfl⟩ drained).2

theorem Shaped.withBuffer (h : Shaped older w) (buffer : List Line) :
    Shaped older { w with buffer := buffer } :=
  ⟨h.indexed, h.index_le, h.current, h.parts⟩

theorem Shaped.flush (h : Shaped older w) : Shaped older w.flush :=
  (h.withBuffer []).flushLocked w.buffer

theorem lines_flush (h : Shaped older w) : w.flush.lines = w.lines ++ w.buffer :=
  lines_flushLocked (h.withBuffer []) w.buffer

theorem flush_frame (h : Shaped older w) : w.flush.config = w.config ∧ w.flush.buffer = [] :=
  flushLocked_frame (h.withBuffer []) w.buffer

theorem Shaped.drainAndFinalize (h : Shaped older w) : Shaped older w.drainAndFinalize :=
  h.flush.closeCurrentChunk

/-! ## Opening -/

theorem new_fresh (config : RecordingConfig) :
    new config [] = { config := config
                      chunk := some { index := 1 }
                      chunkIndex := 1
                      files := [{ index := 1, lines := [] }] } := rfl

/-- A writer that has just opened its chunk behind the files `front`. -/
theorem shaped_opened (config : RecordingConfig) {front : List EventFile} {index : Int}
    (hindexed : Increasing EventFile.index (front ++ [{ index := index, lines := [] }])) :
    Shaped front
      { config := config
        chunk := some { index := index }
        chunkIndex := index
        files := front ++ [{ index := index, lines := [] }] } := by
  refine ⟨hindexed, hindexed.le_last, ?_, [], [{ index := index, lines := [] }], by simp, rfl, rfl,
    fun file hfile => ?_⟩
  · rintro chunk hsome
    rw [← Option.some.inj hsome]
  · rw [List.mem_singleton.mp hfile]

theorem shaped_fresh (config : RecordingConfig) : Shaped [] (new config []) := by
  rw [new_fresh]
  exact shaped_opened config (List.pairwise_singleton _ _)

/-! ## Limits -/

/-- Every file keeps to the chunk limits. -/
def Limited (w : RecordingWriter) : Prop := ∀ file ∈ w.files, file.Within w.config

theorem within_append {file : EventFile} {line : Line} (hchunk : w.chunk = some file.record)
    (hclean : file.torn = 0) (hstays : w.wouldRotate line = false) :
    (file.append line).Within w.config := by
  have hlength : (file.append line).lines.length = file.lines.length + 1 := by
    simp [EventFile.append]
  have hsize : (file.append line).statSize = file.statSize + line.size := by
    simp [EventFile.statSize, EventFile.append, hclean]
  by_cases hempty : file.lines.length = 0
  · exact EventFile.within_single (by omega)
  · have hbelow : (0 < w.config.maxChunkBytes →
        (file.statSize : Int) + line.size ≤ w.config.maxChunkBytes) ∧
        (0 < w.config.maxChunkEvents → (file.lines.length : Int) < w.config.maxChunkEvents) := by
      rw [wouldRotate, hchunk] at hstays
      have hcount : file.record.eventCount = file.lines.length := file.record_eventCount
      have hbytes : file.record.byteSize = file.statSize := rfl
      simp only [Option.any_some, hcount, hbytes] at hstays
      simpa [hempty] using hstays
    obtain ⟨hbytes, hevents⟩ := hbelow
    refine ⟨fun hpos => ?_, fun hpos => .inr ?_⟩
    · have := hevents hpos
      omega
    · have := hbytes hpos
      omega

theorem Limited.wrote (h : Shaped older w) (hlimited : Limited w) {line : Line}
    {w' : RecordingWriter} (hwrote : Wrote w line w') : Limited w' := by
  intro other hother
  rw [hwrote.frame.1]
  cases hwrote with
  | appended front file hfiles hchunk hstays =>
    obtain ⟨closed, last, hparts, -, -, hclean, -⟩ := h.last_file hchunk
    obtain ⟨-, hlast⟩ := List.append_inj' (hfiles.symm.trans hparts) rfl
    obtain rfl := List.singleton_inj.mp hlast
    rcases List.mem_append.mp hother with hin | hin
    · exact hlimited other (hfiles ▸ List.mem_append_left _ hin)
    · rw [List.mem_singleton.mp hin]
      exact within_append hchunk hclean hstays
  | rotated _ _ _ =>
    rcases List.mem_append.mp hother with hin | hin
    · exact hlimited other hin
    · rw [List.mem_singleton.mp hin]
      exact EventFile.within_single rfl
  | reopened _ =>
    rcases List.mem_append.mp hother with hin | hin
    · exact hlimited other hin
    · rw [List.mem_singleton.mp hin]
      exact EventFile.within_single rfl

theorem Limited.flushLocked (h : Shaped older w) (hlimited : Limited w) (drained : List Line) :
    Limited (w.flushLocked drained) :=
  (flushLocked_induction (fun _ _ _ hu hI hwrote => Limited.wrote hu hI hwrote) h hlimited
    drained).2

end RecordingWriter

end AsyncViz.Replay.Recorder
