/-
  AsyncViz.Replay.Recorder.Recovery

  Recovery after a crash (`replay/recording/recording_recovery.py`, `recording_stream.py`):
  what the last manifest lists once `recover_session` has repaired the files and
  `patch_manifest_after_recovery` has counted them anew.

  Counts are taken from disk, the list of chunks and their ranges from the manifest.
  `Captured` says how far a manifest's chunks lag behind the directory, and
  `recovered_iff` what that comes to: the recovered recording is complete exactly if the
  manifest lists the last file, and no line of that file that is behind the manifest has
  survived.
-/

import AsyncViz.Replay.Recorder.RuntimeRecorder

namespace AsyncViz.Replay.Recorder

open AsyncViz.Lib.Bisect AsyncViz.Lib.SortedLog AsyncViz.Lib.Transition

/-! ## Repair and patch -/

/-- `RecoveryReport`. -/
structure RecoveryReport where
  repairedChunks : Nat
  truncatedBytesTotal : Nat
  chunksPresent : Nat
  inferredEventCount : Nat
  inferredLastSequence : Int
deriving DecidableEq, Repr

/-- The last event file in the order of the names. -/
def lastByName (files : List EventFile) : Option EventFile :=
  (sortedBy (fun file => chunkFilename file.index) files).getLast?

/-- `_read_last_line`, as far as the sequence in it. -/
def EventFile.lastLineSequence (file : EventFile) : Option Int := file.sequences.getLast?

/-- `recover_session`: the repaired files and the report. -/
def recoverSession (files : List EventFile) : List EventFile × RecoveryReport :=
  let repaired := files.map EventFile.repairPartialTail
  (repaired,
    { repairedChunks := files.countP fun file => file.torn > 0
      truncatedBytesTotal := (files.map EventFile.torn).sum
      chunksPresent := files.length
      inferredEventCount := (repaired.map EventFile.countChunkEvents).sum
      inferredLastSequence := ((lastByName repaired).bind EventFile.lastLineSequence).getD 0 })

/-- The event file of a chunk number, if it exists. -/
def fileAt (files : List EventFile) (index : Int) : Option EventFile :=
  files.find? fun file => file.index = index

/-- A chunk record with the counts of its file; the range stays. -/
def patchChunk (original : ChunkState) (file : EventFile) : ChunkState :=
  { original with eventCount := file.countChunkEvents, byteSize := file.statSize }

/-- `patch_manifest_after_recovery`. -/
def patchManifest (manifest : Manifest) (report : RecoveryReport) (files : List EventFile) :
    Manifest :=
  if report.chunksPresent = 0 then manifest
  else
    let newChunks := manifest.chunks.filterMap fun original =>
      (fileAt files original.index).map (patchChunk original)
    { eventCount := report.inferredEventCount
      chunkCount := if newChunks.length = 0 then manifest.chunkCount else newChunks.length
      lastSequence := max manifest.lastSequence report.inferredLastSequence
      finalized := false
      chunks := if newChunks.isEmpty then manifest.chunks else newChunks }

/-- The lines that a `RecordingStream` yields: those of the files that the manifest lists,
    or of all files if it lists none. -/
def streamLines (manifest : Manifest) (files : List EventFile) : List Line :=
  if manifest.chunks.isEmpty then
    (sortedBy (fun file => chunkFilename file.index) files).flatMap EventFile.lines
  else
    (sortedBy (fun chunk : ChunkState => chunk.index) manifest.chunks).flatMap fun chunk =>
      ((fileAt files chunk.index).map EventFile.lines).getD []

/-- After recovery from the files `files` the patched manifest lists every file, with its
    line count and a range that holds its sequences, and reading through it yields every
    complete line. -/
structure Recovered (manifest : Manifest) (files : List EventFile) : Prop where
  listed : ∀ file ∈ (recoverSession files).1,
    ∃ chunk ∈ (patchManifest manifest (recoverSession files).2 (recoverSession files).1).chunks,
      chunk.index = file.index ∧ chunk.eventCount = file.lines.length ∧
      ∀ q ∈ file.sequences, chunk.firstSequence ≤ q ∧ q ≤ chunk.lastSequence
  streamed :
    streamLines (patchManifest manifest (recoverSession files).2 (recoverSession files).1)
      (recoverSession files).1 = files.flatMap EventFile.lines
  counted :
    (streamLines (patchManifest manifest (recoverSession files).2 (recoverSession files).1)
      (recoverSession files).1).length = (recoverSession files).2.inferredEventCount

/-- The chunk that the manifest lists last is the last file, and of that file no more lines
    are on disk than the manifest counts. -/
def Covered (manifest : Manifest) (files : List EventFile) : Prop :=
  ∃ record ∈ manifest.chunks.getLast?, ∃ file ∈ files.getLast?,
    record.index = file.index ∧ file.lines.length ≤ record.eventCount

/-! ## How far a manifest lags behind -/

/-- `chunks` are the records of the directory as it was before `more` lines went to its last
    file and `rest` was added; that last file is left out if it was empty. -/
def Captured (files : List EventFile) (chunks : List ChunkState) : Prop :=
  ∃ front last more rest,
    files = front ++ { last with lines := last.lines ++ more } :: rest ∧
    (chunks = (front ++ [last]).map EventFile.record ∨
      chunks = front.map EventFile.record ∧ last.lines = [])

namespace Captured

variable {files : List EventFile} {chunks : List ChunkState}

theorem snoc (h : Captured files chunks) (new : EventFile) : Captured (files ++ [new]) chunks := by
  obtain ⟨front, last, more, rest, rfl, hchunks⟩ := h
  exact ⟨front, last, more, rest ++ [new], by simp, hchunks⟩

/-- The last file grows. -/
theorem append {front : List EventFile} {file : EventFile} (line : Line)
    (h : Captured (front ++ [file]) chunks) : Captured (front ++ [file.append line]) chunks := by
  obtain ⟨front', last, more, rest, hfiles, hchunks⟩ := h
  rcases List.eq_nil_or_concat rest with rfl | ⟨rest', end_, rfl⟩
  · obtain ⟨rfl, hlast⟩ := List.append_inj' hfiles rfl
    rw [List.singleton_inj.mp hlast]
    refine ⟨front, last, more ++ [line], [], ?_, hchunks⟩
    simp [EventFile.append]
  · rw [List.concat_eq_append, ← List.cons_append, ← List.append_assoc] at hfiles
    obtain ⟨rfl, hlast⟩ := List.append_inj' hfiles rfl
    refine ⟨front', last, more, rest' ++ [file.append line], ?_, hchunks⟩
    simp

theorem wrote {w w' : RecordingWriter} {line : Line} (h : Captured w.files chunks)
    (hwrote : RecordingWriter.Wrote w line w') : Captured w'.files chunks := by
  cases hwrote with
  | appended front file hfiles _ _ => exact (hfiles ▸ h).append line
  | rotated _ _ _ => exact h.snoc _
  | reopened _ => exact h.snoc _

theorem flushLocked {older : List EventFile} {w : RecordingWriter}
    (hshaped : RecordingWriter.Shaped older w) (h : Captured w.files chunks)
    (drained : List Line) : Captured (w.flushLocked drained).files chunks :=
  (RecordingWriter.flushLocked_induction (I := fun u => Captured u.files chunks)
    (fun _ _ _ _ hu hwrote => hu.wrote hwrote) hshaped h drained).2

theorem stepped {older : List EventFile} {run run' : LogRun} {a : LogRun.Action}
    (hshaped : RecordingWriter.Shaped older run.writer) (h : Captured run.writer.files chunks)
    (hstep : LogRun.Stepped run a run') : Captured run'.writer.files chunks := by
  have hflush := flushLocked (hshaped.withBuffer []) h run.writer.buffer
  cases hstep with
  | enqueued frame size buffer result hoffer => exact h
  | drained hheld => exact h
  | wrote hheld => exact flushLocked hshaped h run.held
  | flushed => exact hflush
  | stopped => exact hflush

theorem dying {older : List EventFile} {run : LogRun}
    (hshaped : RecordingWriter.Shaped older run.writer) (h : Captured run.writer.files chunks)
    (crash : Crash) : Captured (run.dying crash).files chunks := by
  have hwritten := flushLocked hshaped h ((run.batch crash).take crash.written)
  rw [LogRun.dying]
  by_cases hopened : crash.opened = true
  · rw [if_pos hopened]
    cases (run.batch crash).drop crash.written with
    | nil => exact hwritten
    | cons next lines =>
      rw [RecordingWriter.openNext]
      by_cases hrotate : (run.writer.flushLocked
          ((run.batch crash).take crash.written)).wouldRotate next = true
      · rw [if_pos hrotate, RecordingWriter.files_rotateLocked (hshaped.flushLocked _)]
        exact hwritten.snoc _
      · rw [if_neg hrotate]
        exact hwritten
  · rw [if_neg hopened]
    exact hwritten

/-- What `_write_manifest_locked` has read, if no chunk was closed between its two reads. -/
theorem read {w : RecordingWriter} (hshaped : RecordingWriter.Shaped [] w)
    (hfull : RecordingWriter.Full w.files) :
    Captured w.files (RuntimeRecorder.allChunks w w.chunksCompleted) := by
  cases hchunk : w.chunk with
  | none =>
    obtain ⟨closed, opened, hfiles, hclosed, hopened, -⟩ := hshaped.parts
    rw [hchunk, Option.toList_none, List.map_eq_nil_iff] at hopened
    rw [hopened, List.append_nil, List.nil_append] at hfiles
    obtain ⟨front, last, hends, -⟩ := hfull.ends
    refine ⟨front, last, [], [], by simp [hends], .inl ?_⟩
    rw [RuntimeRecorder.allChunks, hchunk, ← hclosed, ← hfiles, hends]
    exact List.append_nil _
  | some chunk =>
    obtain ⟨closed, file, hfiles, hclosed, rfl, -, -⟩ := hshaped.last_file hchunk
    refine ⟨closed, file, [], [], by simp [hfiles], ?_⟩
    rw [RuntimeRecorder.allChunks, hchunk, Option.toList_some, ← hclosed]
    cases hlines : file.lines with
    | nil =>
      refine .inr ⟨?_, rfl⟩
      rw [List.filter_cons_of_neg (by simp [hlines]), List.filter_nil, List.append_nil]
    | cons line lines =>
      refine .inl ?_
      rw [List.filter_cons_of_pos (by simp [hlines]), List.filter_nil, List.map_append]
      rfl

end Captured

namespace RuntimeRecorder

/-! ## Runs -/

/-- The step does not overlap with the worker, appends come in increasing order, and no
    chunk has been closed between the two reads of a manifest write. -/
def Traceable (s : RuntimeRecorder) : Action → Prop
  | .append frame _ =>
    0 ≤ frame.sequence ∧ ∀ line ∈ s.run.pipeline, line.frame.sequence < frame.sequence
  | .flush => s.run.held = [] ∨ s.run.writer.buffer = []
  | .stop => s.run.held = []
  | .advance =>
    ∀ chunks, s.writing = some (.completed chunks) → chunks = s.run.writer.chunksCompleted
  | _ => True

/-- What has been read of the current chunk, too, lags behind the directory. -/
def TracedCapture (s : RuntimeRecorder) : Capture → Prop
  | .current chunks | .counted chunks _ => Captured s.run.writer.files chunks
  | _ => True

/-- What a traceable run keeps. -/
structure Traced (s : RuntimeRecorder) : Prop where
  shaped : RecordingWriter.Shaped [] s.run.writer
  full : RecordingWriter.Full s.run.writer.files
  opened : s.run.stopped = false → s.run.writer.chunk.isSome
  sorted : Increasing (fun line => line.frame.sequence) s.run.pipeline
  nonneg : ∀ line ∈ s.run.pipeline, 0 ≤ line.frame.sequence
  writing : ∀ capture ∈ s.writing, TracedCapture s capture
  manifest : ∀ manifest ∈ s.manifest, Captured s.run.writer.files manifest.chunks

/-- The directory holds nothing yet, or an empty first file. -/
def Blank (files : List EventFile) : Prop :=
  files = [] ∨ ∃ index torn, 0 < index ∧ files = [{ index := index, lines := [], torn := torn }]

/-- A writer on a blank directory has one empty file. -/
theorem new_blank (config : RecordingConfig) {files : List EventFile} (h : Blank files) :
    ∃ index, 0 < index ∧ RecordingWriter.new config files
      = { config := config
          chunk := some { index := index }
          chunkIndex := index
          files := [{ index := index, lines := [] }] } := by
  rcases h with rfl | ⟨index, torn, hpos, rfl⟩
  · exact ⟨1, by decide, RecordingWriter.new_fresh config⟩
  · refine ⟨index, hpos, ?_⟩
    change RecordingWriter.new config ([] ++ [_]) = _
    refine Restarts.new_resumed config (fun file hfile _ => ?_)
      (fun file hfile => absurd hfile List.not_mem_nil) (List.pairwise_singleton _ _) hpos
    rw [List.mem_singleton.mp hfile]

theorem traced_start (config : RecordingConfig) {files : List EventFile} (h : Blank files) :
    Traced (start config files) := by
  obtain ⟨index, hpos, hnew⟩ := new_blank config h
  have hwriter : (start config files).run.writer
      = { config := config
          chunk := some { index := index }
          chunkIndex := index
          files := [{ index := index, lines := [] }] } := hnew
  have hpipeline : (start config files).run.pipeline = [] := by
    rw [LogRun.pipeline, hwriter]
    rfl
  refine ⟨?_, ?_, fun _ => ?_, ?_, ?_, fun capture hcapture => ?_, fun m hm => ?_⟩
  · rw [hwriter]
    exact RecordingWriter.shaped_opened config (List.pairwise_singleton _ _)
  · rw [hwriter]
    exact RecordingWriter.full_snoc (fun _ hfile => absurd hfile List.not_mem_nil)
      (fun _ hfile => absurd hfile List.not_mem_nil) hpos
  · rw [hwriter]
    rfl
  · rw [hpipeline]
    exact List.Pairwise.nil
  · rw [hpipeline]
    exact fun line hline => absurd hline List.not_mem_nil
  · rw [← Option.some.inj hcapture]
    trivial
  · exact absurd hm (by simp [start])

/-- A step of the log carries everything along but the manifest write. -/
theorem Traced.logged {s : RuntimeRecorder} (h : Traced s) {run : LogRun} (a : LogRun.Action)
    (hrunning : s.run.stopped = false) (horderly : s.run.Orderly a)
    (ha : ∀ frame size, a ≠ .enqueue frame size) (hstepped : LogRun.Stepped s.run a run)
    (session : RecordingSession) {writing : Option Capture}
    (hwriting : ∀ capture ∈ writing, capture = .begun ∨ capture ∈ s.writing) :
    Traced { s with run := run, session := session, writing := writing } := by
  have hfull := LogRun.full_stepped h.shaped h.full (h.opened hrunning) hstepped
  have hpipeline : run.pipeline = s.run.pipeline :=
    (LogRun.pipeline_stepped h.shaped horderly hstepped).resolve_right
      fun ⟨frame, size, heq, _⟩ => ha frame size heq
  refine ⟨LogRun.shaped_stepped h.shaped hstepped, hfull.1, hfull.2, ?_, ?_,
    fun capture hcapture => ?_, fun m hm => (h.manifest m hm).stepped h.shaped hstepped⟩
  · change Increasing _ run.pipeline
    rw [hpipeline]
    exact h.sorted
  · change ∀ line ∈ run.pipeline, _
    rw [hpipeline]
    exact h.nonneg
  · rcases hwriting capture hcapture with rfl | hin
    · trivial
    · have htraced := h.writing capture hin
      cases capture with
      | begun => trivial
      | completed chunks => trivial
      | current chunks => exact Captured.stepped h.shaped htraced hstepped
      | counted chunks eventCount => exact Captured.stepped h.shaped htraced hstepped

theorem Traced.appended {s : RuntimeRecorder} (h : Traced s) {run : LogRun} {frame : ReplayFrame}
    {size : Nat} (hlogged : Logged s.run frame size run) (hnonneg : 0 ≤ frame.sequence)
    (habove : ∀ line ∈ s.run.pipeline, line.frame.sequence < frame.sequence) :
    Traced { s with run := run, appending := s.appending ++ [frame.sequence] } := by
  obtain ⟨buffer, hwriter, -, hstopped⟩ := hlogged.writer
  have horderly : s.run.Orderly (.enqueue frame size) := hnonneg
  have hmoved : run.pipeline.Sublist (s.run.pipeline ++ [⟨s.run.calls, frame, size⟩]) := by
    rcases LogRun.pipeline_stepped h.shaped horderly hlogged.stepped with
      hsame | ⟨frame', size', heq, hsublist⟩
    · rw [hsame]
      exact List.sublist_append_left _ _
    · obtain ⟨rfl, rfl⟩ := LogRun.Action.enqueue.inj heq
      exact hsublist
  have hfiles : run.writer.files = s.run.writer.files := by rw [hwriter]
  refine ⟨hwriter ▸ h.shaped.withBuffer buffer, hfiles ▸ h.full, fun hgoes => ?_, ?_,
    fun line hline => ?_, fun capture hcapture => ?_, fun m hm => hfiles ▸ h.manifest m hm⟩
  · change run.writer.chunk.isSome
    rw [hwriter]
    exact h.opened (hstopped.symm.trans hgoes)
  · exact List.Pairwise.sublist hmoved (increasing_snoc.mpr ⟨h.sorted, habove⟩)
  · rcases List.mem_append.mp (hmoved.subset hline) with hin | hin
    · exact h.nonneg line hin
    · rw [List.mem_singleton.mp hin]
      exact hnonneg
  · have htraced := h.writing capture hcapture
    cases capture with
    | begun => trivial
    | completed chunks => trivial
    | current chunks =>
      change Captured run.writer.files chunks
      exact hfiles ▸ htraced
    | counted chunks eventCount =>
      change Captured run.writer.files chunks
      exact hfiles ▸ htraced

theorem Traced.advanced {s : RuntimeRecorder} (h : Traced s) (htraceable : Traceable s .advance)
    {capture : Capture} (hwriting : s.writing = some capture) : Traced (s.advance capture) := by
  have htraced := h.writing capture hwriting
  cases capture with
  | begun =>
    refine ⟨h.shaped, h.full, h.opened, h.sorted, h.nonneg, fun capture hcapture => ?_, h.manifest⟩
    rw [← Option.some.inj hcapture]
    trivial
  | completed chunks =>
    refine ⟨h.shaped, h.full, h.opened, h.sorted, h.nonneg, fun capture hcapture => ?_, h.manifest⟩
    rw [← Option.some.inj hcapture, htraceable chunks hwriting]
    exact Captured.read h.shaped h.full
  | current chunks =>
    refine ⟨h.shaped, h.full, h.opened, h.sorted, h.nonneg, fun capture hcapture => ?_, h.manifest⟩
    rw [← Option.some.inj hcapture]
    exact htraced
  | counted chunks eventCount =>
    refine ⟨h.shaped, h.full, h.opened, h.sorted, h.nonneg, fun capture hcapture => ?_,
      fun m hm => ?_⟩
    · exact absurd hcapture (by simp [advance])
    · rw [← Option.some.inj hm]
      exact htraced

theorem Traced.step {s s' : RuntimeRecorder} {a : Action} (h : Traced s)
    (htraceable : Traceable s a) (hstep : RuntimeRecorder.step s a = some s') : Traced s' := by
  cases stepped_of_step hstep with
  | appended frame size run hlogged => exact h.appended hlogged htraceable.1 htraceable.2
  | recorded i sequence hget =>
    exact ⟨h.shaped, h.full, h.opened, h.sorted, h.nonneg, fun capture hcapture => by
      have htraced := h.writing capture hcapture
      cases capture <;> exact htraced, h.manifest⟩
  | drained run hrunning hstepped =>
    exact h.logged .drain hrunning trivial (fun _ _ => by simp) hstepped s.session
      fun _ hc => .inr hc
  | wrote run hrunning hstepped =>
    exact h.logged .write hrunning trivial (fun _ _ => by simp) hstepped s.session
      fun _ hc => .inr hc
  | flushed run hrunning _ hstepped =>
    exact h.logged .flush hrunning htraceable (fun _ _ => by simp) hstepped s.session
      fun _ hc => .inl (Option.some.inj hc).symm
  | stopped run hrunning _ hstepped =>
    exact h.logged .stop hrunning htraceable (fun _ _ => by simp) hstepped _
      fun _ hc => .inl (Option.some.inj hc).symm
  | advanced capture hwriting => exact h.advanced htraceable hwriting

end RuntimeRecorder

/-! ## Listing the files -/

/-- The record has the number of the file and a range that holds its sequences. -/
structure Matches (record : ChunkState) (file : EventFile) : Prop where
  index : record.index = file.index
  range : ∀ q ∈ file.sequences, record.firstSequence ≤ q ∧ q ≤ record.lastSequence

/-- The record has the line count of the file besides. -/
structure Lists (record : ChunkState) (file : EventFile) : Prop extends Matches record file where
  eventCount : record.eventCount = file.lines.length

section Listing

variable {all : List EventFile}

/-- Records that match the files are patched to records that list them. -/
theorem forall₂_patched (hindexed : Increasing EventFile.index all) {chunks : List ChunkState}
    {files : List EventFile} (h : List.Forall₂ Matches chunks files)
    (hmem : ∀ file ∈ files, file ∈ all) :
    List.Forall₂ Lists
      (chunks.filterMap fun original => (fileAt all original.index).map (patchChunk original))
      files := by
  induction h with
  | nil => exact .nil
  | @cons original file chunks files hmatches _ ih =>
    have hfile : fileAt all original.index = some file := by
      rw [hmatches.index]
      exact hindexed.find?_key (hmem file List.mem_cons_self)
    rw [List.filterMap_cons_some (b := patchChunk original file) (by rw [hfile]; rfl)]
    exact .cons ⟨⟨hmatches.index, hmatches.range⟩, rfl⟩
      (ih fun other hother => hmem other (List.mem_cons_of_mem file hother))

/-- Reading through records that list the files yields their lines. -/
theorem flatMap_fileAt (hindexed : Increasing EventFile.index all) {chunks : List ChunkState}
    {files : List EventFile} (h : List.Forall₂ Lists chunks files)
    (hmem : ∀ file ∈ files, file ∈ all) :
    (chunks.flatMap fun chunk => ((fileAt all chunk.index).map EventFile.lines).getD [])
      = files.flatMap EventFile.lines := by
  induction h with
  | nil => rfl
  | @cons chunk file chunks files hlists _ ih =>
    have hfile : fileAt all chunk.index = some file := by
      rw [hlists.index]
      exact hindexed.find?_key (hmem file List.mem_cons_self)
    rw [List.flatMap_cons, List.flatMap_cons, hfile,
      ih fun other hother => hmem other (List.mem_cons_of_mem file hother)]
    rfl

theorem exists_of_forall₂ {chunks : List ChunkState} {files : List EventFile}
    (h : List.Forall₂ Lists chunks files) {file : EventFile} (hfile : file ∈ files) :
    ∃ chunk ∈ chunks, Lists chunk file := by
  induction h with
  | nil => exact absurd hfile List.not_mem_nil
  | @cons chunk other chunks files hlists _ ih =>
    rcases List.mem_cons.mp hfile with rfl | hin
    · exact ⟨chunk, List.mem_cons_self, hlists⟩
    · obtain ⟨found, hfound, hrest⟩ := ih hin
      exact ⟨found, List.mem_cons_of_mem _ hfound, hrest⟩

theorem increasing_of_forall₂ {chunks : List ChunkState} {files : List EventFile}
    (h : List.Forall₂ Lists chunks files) (hindexed : Increasing EventFile.index files) :
    Increasing (fun chunk : ChunkState => chunk.index) chunks := by
  have hkeys : chunks.map (fun chunk => chunk.index) = files.map EventFile.index := by
    induction h with
    | nil => rfl
    | cons hlists _ ih =>
      rw [List.map_cons, List.map_cons, hlists.index, ih (List.pairwise_cons.mp hindexed).2]
  have hpairwise : (chunks.map fun chunk => chunk.index).Pairwise (· < ·) := by
    rw [hkeys]
    exact List.pairwise_map.mpr hindexed
  exact List.pairwise_map.mp hpairwise

/-- A record in the patched manifest has number and range from one in the manifest. -/
theorem origin_of_patched {manifest : Manifest} {report : RecoveryReport} {chunk : ChunkState}
    (h : chunk ∈ (patchManifest manifest report all).chunks) :
    ∃ original ∈ manifest.chunks, chunk.index = original.index ∧
      chunk.firstSequence = original.firstSequence ∧
      chunk.lastSequence = original.lastSequence := by
  rw [patchManifest] at h
  by_cases hpresent : report.chunksPresent = 0
  · rw [if_pos hpresent] at h
    exact ⟨chunk, h, rfl, rfl, rfl⟩
  · rw [if_neg hpresent] at h
    by_cases hempty : (manifest.chunks.filterMap fun original =>
        (fileAt all original.index).map (patchChunk original)).isEmpty = true
    · simp only [hempty, if_true] at h
      exact ⟨chunk, h, rfl, rfl, rfl⟩
    · simp only [hempty] at h
      obtain ⟨original, horiginal, hsome⟩ := List.mem_filterMap.mp h
      obtain ⟨file, -, rfl⟩ := Option.map_eq_some_iff.mp hsome
      exact ⟨original, horiginal, rfl, rfl, rfl⟩

/-- Records that match all files, of which there are some, are patched to list them. -/
theorem patchManifest_chunks (hindexed : Increasing EventFile.index all) {manifest : Manifest}
    {report : RecoveryReport} (h : List.Forall₂ Matches manifest.chunks all)
    (hne : all ≠ []) (hpresent : report.chunksPresent ≠ 0) :
    List.Forall₂ Lists (patchManifest manifest report all).chunks all ∧
      (patchManifest manifest report all).chunks ≠ [] := by
  have hlists := forall₂_patched hindexed h fun _ hfile => hfile
  have hsome : ¬ (manifest.chunks.filterMap fun original =>
      (fileAt all original.index).map (patchChunk original)).isEmpty = true := by
    intro hempty
    rw [List.isEmpty_iff.mp hempty] at hlists
    exact hne (List.forall₂_nil_left_iff.mp hlists)
  rw [patchManifest, if_neg hpresent]
  simp only [hsome]
  exact ⟨hlists, fun hnil => hsome (List.isEmpty_iff.mpr hnil)⟩

end Listing

/-! ## The files that a crash leaves -/

section Left

variable {front : List EventFile}

/-- What recovery makes of the last file. -/
def EventFile.left (crash : Crash) (file : EventFile) : EventFile :=
  { file with lines := file.lines.take crash.surviving, torn := 0 }

theorem recoverSession_fst (last : EventFile) (crash : Crash)
    (hclean : ∀ file ∈ front, file.torn = 0) :
    (recoverSession (front ++ [last.lose crash])).1 = front ++ [last.left crash] := by
  change (front ++ [last.lose crash]).map EventFile.repairPartialTail = _
  rw [List.map_append]
  congr 1
  refine (List.map_congr_left fun file hfile => ?_).trans front.map_id
  rw [EventFile.repairPartialTail, ← hclean file hfile]
  rfl

theorem recoverSession_snd (last : EventFile) (crash : Crash)
    (hclean : ∀ file ∈ front, file.torn = 0) :
    (recoverSession (front ++ [last.lose crash])).2.chunksPresent ≠ 0 ∧
    (recoverSession (front ++ [last.lose crash])).2.inferredEventCount
      = ((front ++ [last.left crash]).flatMap EventFile.lines).length := by
  constructor
  · rw [recoverSession]
    simp
  · have hrepaired := recoverSession_fst last crash hclean
    rw [← hrepaired, List.length_flatMap]
    rfl

theorem flatMap_lines_lose (last : EventFile) (crash : Crash) :
    (front ++ [last.lose crash]).flatMap EventFile.lines
      = (front ++ [last.left crash]).flatMap EventFile.lines := by
  rw [List.flatMap_append, List.flatMap_append]
  rfl

end Left

/-- The directory of the dying writer, as far as recovery depends on it. -/
structure Sorted (files : List EventFile) : Prop where
  indexed : Increasing EventFile.index files
  clean : ∀ file ∈ files, file.torn = 0
  sorted : Increasing (fun line : Line => line.frame.sequence) (files.flatMap EventFile.lines)
  nonneg : ∀ line ∈ files.flatMap EventFile.lines, 0 ≤ line.frame.sequence

theorem Sorted.spans {files : List EventFile} (h : Sorted files) {file : EventFile}
    {lines : List Line} (hfile : file ∈ files) (hlines : lines.Sublist file.lines) :
    Restarts.Spans (EventFile.record { file with lines := lines })
      { file with lines := lines } := by
  refine Restarts.spans_record (fun q hq => ?_) ?_
  · obtain ⟨line, hline, rfl⟩ := List.mem_map.mp hq
    exact h.nonneg line (List.mem_flatMap.mpr ⟨file, hfile, hlines.subset hline⟩)
  · exact List.pairwise_map.mpr
      (((List.pairwise_flatMap.mp h.sorted).1 file hfile).sublist hlines)

theorem matches_of_spans {record : ChunkState} {file : EventFile}
    (h : Restarts.Spans record file) : Matches record file := by
  refine ⟨h.index, fun q hq => ?_⟩
  have hne : file.sequences ≠ [] := List.ne_nil_of_mem hq
  exact ⟨(h.smallest hne).2 hq, (h.largest hne).2 hq⟩

section Crashed

variable {files front rest : List EventFile} {last : EventFile} {more : List Line} {crash : Crash}

/-- The records of `front` and of `last` as it was match the files as they are left, if
    nothing of `more` is. -/
theorem forall₂_matches
    (h : Sorted (front ++ [{ last with lines := last.lines ++ more }]))
    (hless : ((last.lines ++ more).take crash.surviving).length ≤ last.lines.length) :
    List.Forall₂ Matches ((front ++ [last]).map EventFile.record)
      (front ++ [EventFile.left crash { last with lines := last.lines ++ more }]) := by
  have hmem : ({ last with lines := last.lines ++ more } : EventFile)
      ∈ front ++ [{ last with lines := last.lines ++ more }] :=
    List.mem_append_right _ (List.mem_singleton_self _)
  have hspans := h.spans hmem (List.sublist_append_left last.lines more)
  have hlast : Matches last.record last := matches_of_spans hspans
  rw [List.map_append]
  refine List.rel_append ?_ (.cons ⟨hlast.index, fun q hq => hlast.range q ?_⟩ .nil)
  · rw [List.forall₂_map_left_iff, List.forall₂_same]
    exact fun file hfile => matches_of_spans
      (h.spans (List.mem_append_left _ hfile) (List.Sublist.refl file.lines))
  · -- what is left is a prefix of the lines that the record is about
    have hpre : (last.lines ++ more).take crash.surviving <+: last.lines :=
      List.prefix_of_prefix_length_le (List.take_prefix _ _) (List.prefix_append _ _) hless
    exact (hpre.map _).subset hq

/-- The lines behind the record lie above its range. -/
theorem above_record (h : Sorted (front ++ [{ last with lines := last.lines ++ more }]))
    {line : Line} (hline : line ∈ more) : last.record.lastSequence < line.frame.sequence := by
  have hmem : ({ last with lines := last.lines ++ more } : EventFile)
      ∈ front ++ [{ last with lines := last.lines ++ more }] :=
    List.mem_append_right _ (List.mem_singleton_self _)
  have hlines : ∀ other ∈ last.lines ++ more,
      other ∈ (front ++ [{ last with lines := last.lines ++ more }]).flatMap EventFile.lines :=
    fun other hother => List.mem_flatMap.mpr ⟨_, hmem, hother⟩
  have hsorted := (List.pairwise_flatMap.mp h.sorted).1 _ hmem
  have hbehind := (List.pairwise_append.mp hsorted).2.2
  have hdescribes : last.record.lastSequence = last.sequences.getLast?.getD (-1) := by
    refine (EventFile.describes_record fun q hq => ?_).lastSequence
    obtain ⟨other, hother, rfl⟩ := List.mem_map.mp hq
    exact h.nonneg other (hlines other (List.mem_append_left _ hother))
  rw [hdescribes]
  cases hend : last.sequences.getLast? with
  | none =>
    have hnonneg := h.nonneg line (hlines line (List.mem_append_right _ hline))
    change (-1 : Int) < line.frame.sequence
    omega
  | some q =>
    obtain ⟨other, hother, rfl⟩ := List.mem_map.mp (List.mem_of_getLast? hend)
    exact hbehind other hother line hline

/-- No more lines of the last file are left than its record counts, if the range of the record
    holds them. -/
theorem length_left_le (h : Sorted (front ++ [{ last with lines := last.lines ++ more }]))
    (hrange : ∀ line ∈ (last.lines ++ more).take crash.surviving,
      line.frame.sequence ≤ last.record.lastSequence) :
    ((last.lines ++ more).take crash.surviving).length ≤ last.lines.length := by
  by_contra hmany
  -- the first line that is not counted
  have hlonger : last.lines.length < ((last.lines ++ more).take crash.surviving).length :=
    not_le.mp hmany
  have hget : ((last.lines ++ more).take crash.surviving)[last.lines.length]
      ∈ (last.lines ++ more).take crash.surviving := List.getElem_mem hlonger
  have hmore : ((last.lines ++ more).take crash.surviving)[last.lines.length] ∈ more := by
    have hlength := hlonger
    rw [List.length_take, List.length_append] at hlength
    rw [List.getElem_take, List.getElem_append_right (le_refl _)]
    exact List.getElem_mem _
  have habove := above_record h hmore
  have hinside := hrange _ hget
  omega

/-- If the last file is the one that was last when the manifest was read, nothing has been
    added behind it. -/
theorem rest_eq_nil {frontNow : List EventFile} {lastNow : EventFile}
    (hindexed : Increasing EventFile.index files)
    (hnow : files = frontNow ++ [lastNow])
    (hthen : files = front ++ { last with lines := last.lines ++ more } :: rest)
    (hsame : last.index = lastNow.index) :
    frontNow = front ∧ lastNow = { last with lines := last.lines ++ more } := by
  have hlastThen : ({ last with lines := last.lines ++ more } : EventFile) ∈ files := by
    rw [hthen]
    exact List.mem_append_right _ List.mem_cons_self
  have hlastNow : lastNow ∈ files := by
    rw [hnow]
    exact List.mem_append_right _ (List.mem_singleton_self _)
  have heq : ({ last with lines := last.lines ++ more } : EventFile) = lastNow :=
    hindexed.eq_of_key_eq hlastThen hlastNow hsame
  rcases List.eq_nil_or_concat rest with rfl | ⟨rest', end_, rfl⟩
  · obtain ⟨hfront, hlast⟩ := List.append_inj' (hnow.symm.trans hthen) rfl
    exact ⟨hfront, List.singleton_inj.mp hlast⟩
  · -- otherwise the last file stands behind itself
    rw [List.concat_eq_append] at hthen
    have hend : lastNow = end_ := by
      have hlast := congrArg List.getLast? (hnow.symm.trans hthen)
      rw [← List.cons_append, ← List.append_assoc, List.getLast?_concat,
        List.getLast?_concat] at hlast
      exact Option.some.inj hlast
    rw [hthen] at hindexed
    have hbehind := (List.pairwise_cons.mp (List.pairwise_append.mp hindexed).2.1).1 end_
      (List.mem_append_right _ (List.mem_singleton_self _))
    change last.index < end_.index at hbehind
    rw [← hend] at hbehind
    omega

/-- A record with the number of the last file is of the file that was last when the manifest
    was read, and only lines have been added since. -/
theorem Captured.eq_last {frontNow : List EventFile} {lastNow : EventFile}
    {chunks : List ChunkState} {record : ChunkState}
    (h : Captured (frontNow ++ [lastNow]) chunks)
    (hindexed : Increasing EventFile.index (frontNow ++ [lastNow]))
    (hrecord : record ∈ chunks) (hnumber : record.index = lastNow.index) :
    ∃ last more, record = last.record ∧ lastNow = { last with lines := last.lines ++ more } ∧
      chunks = (frontNow ++ [last]).map EventFile.record := by
  obtain ⟨front, last, more, rest, hthen, hchunks⟩ := h
  -- no file before the one that was last has the number
  have hnotFront : ∀ file ∈ front, file.record ≠ record := by
    rintro file hfile rfl
    have hgrown : { last with lines := last.lines ++ more } ∈ frontNow ++ [lastNow] := by
      rw [hthen]
      exact List.mem_append_right _ List.mem_cons_self
    have hle : last.index ≤ lastNow.index :=
      hindexed.le_last { last with lines := last.lines ++ more } hgrown
    rw [hthen] at hindexed
    have hbefore : file.index < last.index :=
      (List.pairwise_append.mp hindexed).2.2 file hfile
        { last with lines := last.lines ++ more } List.mem_cons_self
    rw [EventFile.record_index] at hnumber
    omega
  rcases hchunks with hall | ⟨hfront, -⟩
  · rw [hall] at hrecord
    obtain ⟨file, hfile, rfl⟩ := List.mem_map.mp hrecord
    obtain rfl : file = last := by
      rcases List.mem_append.mp hfile with hin | hin
      · exact absurd rfl (hnotFront file hin)
      · exact List.mem_singleton.mp hin
    rw [EventFile.record_index] at hnumber
    obtain ⟨rfl, hlast⟩ := rest_eq_nil hindexed rfl hthen hnumber
    exact ⟨file, more, rfl, hlast, hall⟩
  · rw [hfront] at hrecord
    obtain ⟨file, hfile, heq⟩ := List.mem_map.mp hrecord
    exact absurd heq (hnotFront file hfile)

/-- Recovery is complete if the records match the files that are left. -/
theorem recovered_of_matches {manifest : Manifest} (hclean : ∀ file ∈ front, file.torn = 0)
    (hindexed : Increasing EventFile.index (front ++ [last.left crash]))
    (hmatches : List.Forall₂ Matches manifest.chunks (front ++ [last.left crash])) :
    Recovered manifest (front ++ [last.lose crash]) := by
  have hrepaired := recoverSession_fst last crash hclean
  obtain ⟨hpresent, hinferred⟩ := recoverSession_snd last crash hclean
  obtain ⟨hlists, hsome⟩ := patchManifest_chunks hindexed hmatches (by simp) hpresent
  have hstream : streamLines
      (patchManifest manifest (recoverSession (front ++ [last.lose crash])).2
        (front ++ [last.left crash])) (front ++ [last.left crash])
      = (front ++ [last.left crash]).flatMap EventFile.lines := by
    rw [streamLines, if_neg (fun hempty => hsome (List.isEmpty_iff.mp hempty)),
      sortedBy_eq_self ((increasing_of_forall₂ hlists hindexed).imp le_of_lt)]
    exact flatMap_fileAt hindexed hlists fun _ hfile => hfile
  constructor
  · rw [hrepaired]
    intro file hfile
    obtain ⟨chunk, hchunk, hlisted⟩ := exists_of_forall₂ hlists hfile
    exact ⟨chunk, hchunk, hlisted.index, hlisted.eventCount, hlisted.range⟩
  · rw [hrepaired, hstream, flatMap_lines_lose]
  · rw [hrepaired, hstream, hinferred]

theorem covered_of_recovered {manifest : Manifest} (h : Sorted (front ++ [last]))
    (hcaptured : Captured (front ++ [last]) manifest.chunks)
    (hrecovered : Recovered manifest (front ++ [last.lose crash])) :
    Covered manifest (front ++ [last.lose crash]) := by
  have hrepaired := recoverSession_fst last crash fun file hfile =>
    h.clean file (List.mem_append_left _ hfile)
  obtain ⟨chunk, hchunk, hindex, -, hrange⟩ := hrecovered.listed (last.left crash) (by
    rw [hrepaired]
    exact List.mem_append_right _ (List.mem_singleton_self _))
  rw [hrepaired] at hchunk
  obtain ⟨original, horiginal, hsame, -, hend⟩ := origin_of_patched hchunk
  obtain ⟨file, more, rfl, rfl, hchunks⟩ :=
    hcaptured.eq_last h.indexed horiginal (hsame.symm.trans hindex)
  refine ⟨file.record, ?_, _, by rw [List.getLast?_concat]; rfl, ?_, ?_⟩
  · rw [hchunks, List.map_append, List.map_singleton, List.getLast?_concat]
    rfl
  · rw [EventFile.record_index]
    rfl
  · rw [EventFile.record_eventCount]
    refine length_left_le h fun line hline => ?_
    rw [← hend]
    exact (hrange _ (List.mem_map_of_mem hline)).2

theorem recovered_of_covered {manifest : Manifest} (h : Sorted (front ++ [last]))
    (hcaptured : Captured (front ++ [last]) manifest.chunks)
    (hcovered : Covered manifest (front ++ [last.lose crash])) :
    Recovered manifest (front ++ [last.lose crash]) := by
  obtain ⟨record, hrecord, file, hfile, hnumber, hless⟩ := hcovered
  rw [List.getLast?_concat] at hfile
  obtain rfl := Option.some.inj hfile
  obtain ⟨file, more, rfl, rfl, hchunks⟩ :=
    hcaptured.eq_last h.indexed (List.mem_of_getLast? hrecord) hnumber
  rw [EventFile.record_eventCount] at hless
  have hmatches : List.Forall₂ Matches ((front ++ [file]).map EventFile.record)
      (front ++ [EventFile.left crash { file with lines := file.lines ++ more }]) :=
    forall₂_matches h hless
  rw [← hchunks] at hmatches
  exact recovered_of_matches (fun other hother => h.clean other (List.mem_append_left _ hother))
    (h.indexed.replace_last rfl) hmatches

end Crashed

namespace RuntimeRecorder

/-- The directory of the dying writer is sorted. -/
theorem Traced.sorted_dying {s : RuntimeRecorder} (h : Traced s) (crash : Crash) :
    Sorted (s.run.dying crash).files := by
  have hshaped := LogRun.shaped_dying h.shaped crash
  have hsublist := LogRun.lines_dying_sublist h.shaped crash
  refine ⟨hshaped.indexed, fun file hfile => ?_, h.sorted.sublist hsublist,
    fun line hline => h.nonneg line (hsublist.subset hline)⟩
  obtain ⟨closed, opened, hfiles, -, -, hclean⟩ := hshaped.parts
  rw [hfiles, List.nil_append] at hfile
  exact hclean file hfile

theorem Traced.recovered_iff_covered {s : RuntimeRecorder} (h : Traced s) {manifest : Manifest}
    (hmanifest : s.manifest = some manifest) (crash : Crash) :
    Recovered manifest (s.run.disk crash) ↔ Covered manifest (s.run.disk crash) := by
  obtain ⟨front, last, hnow, -⟩ := (LogRun.full_dying h.shaped h.full h.opened crash).ends
  rw [LogRun.disk_eq hnow]
  have hsorted := hnow ▸ h.sorted_dying crash
  have hcaptured := hnow ▸ (h.manifest manifest hmanifest).dying h.shaped crash
  exact ⟨covered_of_recovered hsorted hcaptured, recovered_of_covered hsorted hcaptured⟩

/-- After a traceable run from a blank directory and a crash, recovery from the last
    manifest is complete exactly if that manifest lists the last file and no line of it
    that is not counted there has survived. -/
theorem recovered_iff (config : RecordingConfig) {files : List EventFile} (hblank : Blank files)
    {acts : List Action} {s : RuntimeRecorder}
    (hall : AllSteps step Traceable (start config files) acts)
    (hrun : exec step (start config files) acts = some s) {manifest : Manifest}
    (hmanifest : s.manifest = some manifest) (crash : Crash) :
    Recovered manifest (s.run.disk crash) ↔ Covered manifest (s.run.disk crash) :=
  (exec_invariant_of_allSteps
    (fun _ _ _ htraced htraceable hstep => Traced.step htraced htraceable hstep)
    (traced_start config hblank) hall hrun).recovered_iff_covered hmanifest crash

/-! ## Instances -/

/-- An event, and a `flush` of the recorder with its manifest. -/
def flushOnce : List Action :=
  writeManifest ++ [.append (LogRun.frameAt 1) 10, .record 0, .flush] ++ writeManifest

/-- A crash that leaves one line of the last file, and the start of another. -/
def tornTail : Crash :=
  { flushing := false, written := 0, opened := false, surviving := 1, torn := 3 }

theorem recovered_flushOnce :
    ∃ s manifest, exec step (start LogRun.twoLines []) flushOnce = some s ∧
      s.manifest = some manifest ∧ Recovered manifest (s.run.disk tornTail) := by
  have hquiet : ∀ s : RuntimeRecorder, (∀ chunks, s.writing = some (.completed chunks) →
      chunks = s.run.writer.chunksCompleted) → Traceable s .advance := fun _ h => h
  have hread : ∀ chunks : List ChunkState, ∀ others,
      some (Capture.completed chunks) = some (.completed others) → others = chunks :=
    fun chunks others heq => (Capture.completed.inj (Option.some.inj heq)).symm
  have hall : AllSteps step Traceable (start LogRun.twoLines []) flushOnce := by
    refine .cons rfl (hquiet _ fun _ heq => by cases heq) (.cons rfl (hquiet _ (hread _))
      (.cons rfl (hquiet _ fun _ heq => by cases heq)
      (.cons rfl (hquiet _ fun _ heq => by cases heq)
      (.cons rfl ⟨by decide, fun line hline => absurd hline List.not_mem_nil⟩
      (.cons rfl trivial (.cons rfl (.inl rfl)
      (.cons rfl (hquiet _ fun _ heq => by cases heq) (.cons rfl (hquiet _ (hread _))
      (.cons rfl (hquiet _ fun _ heq => by cases heq)
      (.cons rfl (hquiet _ fun _ heq => by cases heq) trivial))))))))))
  exact ⟨_, _, rfl, rfl, (recovered_iff LogRun.twoLines (.inl rfl) hall rfl rfl tornTail).mpr
    ⟨_, rfl, _, rfl, rfl, by decide⟩⟩

/-- Chunks of one event. -/
def oneEvent : RecordingConfig :=
  { bufferCapacity := 2, maxChunkBytes := 0, maxChunkEvents := 1, dropPolicy := .dropNewest
    capacity_pos := Nat.two_pos }

/-- After the manifest the worker writes another event, to a new file. -/
def rotateOnce : List Action :=
  flushOnce ++ [.append (LogRun.frameAt 2) 10, .record 0, .drain, .write]

theorem not_recovered_rotateOnce :
    ∃ s manifest, exec step (start oneEvent []) rotateOnce = some s ∧
      s.manifest = some manifest ∧
      (recoverSession (s.run.disk tornTail)).2.inferredEventCount = 2 ∧
      ¬ Recovered manifest (s.run.disk tornTail) := by
  refine ⟨_, _, rfl, rfl, rfl, fun hrecovered => ?_⟩
  have hcounted := hrecovered.counted
  exact absurd hcounted (by decide : (1 : Nat) ≠ 2)

end RuntimeRecorder

end AsyncViz.Replay.Recorder
