/-
  AsyncViz.Replay.Recorder.Restarts

  The chunk ranges of a session directory that one writer after another writes to.

  A writer that starts on an existing directory resumes the last chunk: it reads size and
  line count from disk, but starts the sequence range anew.

  * `Ranged` is what the records of all chunks are to say, and what the loader's index
    makes of them.
  * `Intact` is what keeps it: every record is the one of its file.  A restart keeps it if
    the chunk that it resumes holds no line (`Intact.reopen`), and so does every run whose
    restarts do (`allStates_ranged`).
-/

import AsyncViz.Replay.Recorder.Crash
import Mathlib.Order.Bounds.Basic

namespace AsyncViz.Replay.Recorder

open AsyncViz.Lib.Bisect AsyncViz.Lib.SortedLog AsyncViz.Lib.Transition

/-- A session directory with the writer that is on it.  `earlier` are the records of the
    chunks that earlier writers have closed and nobody has resumed since; `last` is the
    last sequence that was enqueued by any writer. -/
structure Restarts where
  run : LogRun
  earlier : List ChunkState
  last : Option Int

namespace Restarts

/-- A step of the writer, the next writer after its `stop`, or the next after a crash. -/
inductive Action where
  | act (a : LogRun.Action)
  | restart (config : RecordingConfig)
  | crash (crash : Crash) (config : RecordingConfig)

/-- The first writer on a fresh directory. -/
def start (config : RecordingConfig) : Restarts :=
  { run := .start config [], earlier := [], last := none }

/-- Event sequences strictly increase over all runs. -/
def increases (last : Option Int) : LogRun.Action → Bool
  | .enqueue frame _ => last.all fun p => p < frame.sequence
  | _ => true

/-- The last sequence after a step. -/
def lastAfter (last : Option Int) : LogRun.Action → Option Int
  | .enqueue frame _ => some frame.sequence
  | _ => last

/-- A new writer on the files that the last one left, with the records `records`. -/
def reopen (s : Restarts) (config : RecordingConfig) (files : List EventFile)
    (records : List ChunkState) : Restarts :=
  let run := LogRun.start config files
  { s with
    run := run
    earlier := records.filter fun record => record.index ≠ run.writer.chunkIndex }

/-- The records of a writer, its open chunk included. -/
def writerRecords (w : RecordingWriter) : List ChunkState := w.chunksCompleted ++ w.chunk.toList

/-- The records of all chunks, completed and current. -/
def records (s : Restarts) : List ChunkState := s.earlier ++ writerRecords s.run.writer

/-- One step. -/
def step (s : Restarts) : Action → Option Restarts
  | .act a =>
    if increases s.last a then
      (s.run.step a).map fun run => { s with run := run, last := lastAfter s.last a }
    else none
  | .restart config =>
    if s.run.stopped then some (s.reopen config s.run.writer.files s.records) else none
  | .crash crash config =>
    if s.run.stopped then none
    else
      some (s.reopen config (s.run.disk crash) (s.earlier ++ writerRecords (s.run.dying crash)))

/-- The record names a file and its smallest and largest sequence. -/
structure Spans (record : ChunkState) (file : EventFile) : Prop where
  index : record.index = file.index
  smallest : file.sequences ≠ [] → IsLeast {q | q ∈ file.sequences} record.firstSequence
  largest : file.sequences ≠ [] → IsGreatest {q | q ∈ file.sequences} record.lastSequence

/-- The chunk that a new writer would resume holds no complete line. -/
def Resumes (files : List EventFile) : Prop :=
  ∀ file ∈ files, file.index = RecordingWriter.inferStartingIndex files → file.lines = []

/-- The step neither overlaps with the worker nor resumes a chunk that holds a line. -/
def Clean (s : Restarts) : Action → Prop
  | .act a => s.run.Orderly a
  | .restart _ => Resumes s.run.writer.files
  | .crash crash _ => Resumes (s.run.disk crash)

/-! ## Resuming -/

section Resuming

variable {files front : List EventFile} {last : EventFile}

theorem inferStartingIndex_mem (hne : files ≠ []) :
    ∃ file ∈ files, file.index = RecordingWriter.inferStartingIndex files := by
  have hperm := perm_sortedBy chunkFilename (files.map EventFile.index)
  cases hlast : (sortedBy chunkFilename (files.map EventFile.index)).getLast? with
  | none =>
    rw [List.getLast?_eq_none_iff] at hlast
    rw [hlast] at hperm
    exact absurd (List.map_eq_nil_iff.mp hperm.symm.eq_nil) hne
  | some index =>
    obtain ⟨file, hfile, heq⟩ := List.mem_map.mp (hperm.subset (List.mem_of_getLast? hlast))
    refine ⟨file, hfile, ?_⟩
    rw [RecordingWriter.inferStartingIndex, hlast, heq]
    rfl

/-- Only the last file of a full directory can be resumed without a line in it. -/
theorem inferStartingIndex_eq (hresumes : Resumes (front ++ [last]))
    (hfront : ∀ file ∈ front, file.lines ≠ []) :
    RecordingWriter.inferStartingIndex (front ++ [last]) = last.index ∧ last.lines = [] := by
  have hne : front ++ [last] ≠ [] := by simp
  obtain ⟨file, hfile, hindex⟩ := inferStartingIndex_mem hne
  have hnil := hresumes file hfile hindex
  rcases List.mem_append.mp hfile with hin | hin
  · exact absurd hnil (hfront file hin)
  · obtain rfl := List.mem_singleton.mp hin
    exact ⟨hindex.symm, hnil⟩

/-- The writer that resumes an empty chunk. -/
theorem new_resumed (config : RecordingConfig) (hresumes : Resumes (front ++ [last]))
    (hfront : ∀ file ∈ front, file.lines ≠ [])
    (hindexed : Increasing EventFile.index (front ++ [last])) (hpos : 0 < last.index) :
    RecordingWriter.new config (front ++ [last])
      = { config := config
          chunk := some { index := last.index }
          chunkIndex := last.index
          files := front ++ [{ index := last.index, lines := [] }] } := by
  obtain ⟨hstart, hnil⟩ := inferStartingIndex_eq hresumes hfront
  have hbefore : ∀ file ∈ front, file.index ≠ last.index := by
    exact fun file hfile => ((increasing_snoc.mp hindexed).2 file hfile).ne
  have hfind : (front ++ [last]).find? (fun file => decide (file.index = last.index))
      = some last := by
    have hnone : front.find? (fun file => decide (file.index = last.index)) = none :=
      List.find?_eq_none.mpr fun file hfile => by simpa using hbefore file hfile
    rw [List.find?_append, hnone]
    simp
  have hrepair : ((front ++ [last]).map fun f =>
      if f.index = last.index then f.repairPartialTail else f)
      = front ++ [{ index := last.index, lines := [] }] := by
    rw [List.map_append]
    congr 1
    · refine (List.map_congr_left fun file hfile => ?_).trans front.map_id
      exact if_neg (hbefore file hfile)
    · rw [List.map_cons, List.map_nil, if_pos rfl, EventFile.repairPartialTail, hnil]
  rw [RecordingWriter.new, RecordingWriter.openInitialChunk]
  simp only [hstart, gt_iff_lt, hpos, if_true]
  rw [RecordingWriter.openChunk]
  simp only [hfind, hrepair]
  simp [EventFile.countChunkEvents, EventFile.statSize, EventFile.repairPartialTail, hnil]

end Resuming

/-! ## The invariant -/

/-- What a run whose steps are `Clean` keeps: every record is the one of its file, only the
    last file can be empty, and sequences increase along the lines. -/
structure Intact (s : Restarts) : Prop where
  shaped : ∃ older, RecordingWriter.Shaped older s.run.writer ∧
    older.map EventFile.record = s.earlier ∧ ∀ file ∈ older, file.torn = 0
  full : RecordingWriter.Full s.run.writer.files
  opened : s.run.stopped = false → s.run.writer.chunk.isSome
  sorted : Increasing (fun line => line.frame.sequence) s.run.pipeline
  enqueued : ∀ line ∈ s.run.pipeline, ∃ p ∈ s.last, line.frame.sequence ≤ p
  nonneg : ∀ line ∈ s.run.pipeline, 0 ≤ line.frame.sequence

/-- The records of a writer with what it has found are those of the files. -/
theorem records_eq {older : List EventFile} {w : RecordingWriter} {earlier : List ChunkState}
    (h : RecordingWriter.Shaped older w) (hearlier : older.map EventFile.record = earlier) :
    earlier ++ writerRecords w = w.files.map EventFile.record := by
  obtain ⟨closed, opened, hfiles, hclosed, hopened, -⟩ := h.parts
  rw [writerRecords, hfiles, List.map_append, List.map_append, hearlier, hclosed, hopened,
    List.append_assoc]

theorem Intact.records_eq {s : Restarts} (h : Intact s) :
    s.records = s.run.writer.files.map EventFile.record := by
  obtain ⟨older, hshaped, hearlier, -⟩ := h.shaped
  exact Restarts.records_eq hshaped hearlier

theorem Intact.act {s : Restarts} {run : LogRun} {a : LogRun.Action} (h : Intact s)
    (hincreases : increases s.last a = true) (horderly : s.run.Orderly a)
    (hrun : s.run.step a = some run) :
    Intact { s with run := run, last := lastAfter s.last a } := by
  obtain ⟨hrunning, hstepped⟩ := LogRun.stepped_of_step hrun
  obtain ⟨older, hshaped, hearlier, hclean⟩ := h.shaped
  have hfull := LogRun.full_stepped hshaped h.full (h.opened hrunning) hstepped
  have hshape : ∃ older, RecordingWriter.Shaped older run.writer ∧
      older.map EventFile.record = s.earlier ∧ ∀ file ∈ older, file.torn = 0 :=
    ⟨older, LogRun.shaped_stepped hshaped hstepped, hearlier, hclean⟩
  rcases LogRun.pipeline_stepped hshaped horderly hstepped with hsame | ⟨frame, size, rfl, hmoved⟩
  · refine ⟨hshape, hfull.1, hfull.2, ?_, ?_, ?_⟩
    · change Increasing _ run.pipeline
      rw [hsame]
      exact h.sorted
    · intro line hline
      change line ∈ run.pipeline at hline
      rw [hsame] at hline
      obtain ⟨p, hp, hle⟩ := h.enqueued line hline
      -- the last sequence only grows
      cases a with
      | enqueue frame size =>
        have hlt : p < frame.sequence := by
          have hall := (Option.all_eq_true _ _).mp hincreases p hp
          simpa using hall
        exact ⟨frame.sequence, rfl, hle.trans hlt.le⟩
      | drain => exact ⟨p, hp, hle⟩
      | write => exact ⟨p, hp, hle⟩
      | flush => exact ⟨p, hp, hle⟩
      | stop => exact ⟨p, hp, hle⟩
    · intro line hline
      change line ∈ run.pipeline at hline
      rw [hsame] at hline
      exact h.nonneg line hline
  · have habove : ∀ line ∈ s.run.pipeline, line.frame.sequence < frame.sequence := by
      intro line hline
      obtain ⟨p, hp, hle⟩ := h.enqueued line hline
      have hall := (Option.all_eq_true _ _).mp hincreases p hp
      exact hle.trans_lt (by simpa using hall)
    refine ⟨hshape, hfull.1, hfull.2, ?_, fun line hline => ?_, fun line hline => ?_⟩
    · exact List.Pairwise.sublist hmoved (increasing_snoc.mpr ⟨h.sorted, habove⟩)
    · refine ⟨frame.sequence, rfl, ?_⟩
      rcases List.mem_append.mp (hmoved.subset hline) with hin | hin
      · exact (habove line hin).le
      · rw [List.mem_singleton.mp hin]
    · rcases List.mem_append.mp (hmoved.subset hline) with hin | hin
      · exact h.nonneg line hin
      · rw [List.mem_singleton.mp hin]
        exact horderly

/-- The records of the files before the resumed one stay, since no other has its number. -/
theorem records_resumed {front : List EventFile} {last : EventFile}
    (hindexed : Increasing EventFile.index (front ++ [last])) :
    (((front ++ [last]).map EventFile.record).filter fun record => record.index ≠ last.index)
      = front.map EventFile.record := by
  rw [List.map_append, List.filter_append, List.map_cons, List.map_nil,
    List.filter_cons_of_neg (by simp), List.filter_nil, List.append_nil]
  refine List.filter_eq_self.mpr fun record hrecord => ?_
  obtain ⟨file, hfile, rfl⟩ := List.mem_map.mp hrecord
  have hlt := (increasing_snoc.mp hindexed).2 file hfile
  simp only [EventFile.record_index, ne_eq, decide_not, Bool.not_eq_true', decide_eq_false_iff_not]
  omega

/-- A new writer on the files of another, when the chunk that it resumes is empty. -/
theorem Intact.reopen {s : Restarts} {older front : List EventFile} {last left : EventFile}
    {w : RecordingWriter} (h : Intact s) (config : RecordingConfig)
    (hshaped : RecordingWriter.Shaped older w)
    (hearlier : older.map EventFile.record = s.earlier) (hclean : ∀ file ∈ older, file.torn = 0)
    (hfull : RecordingWriter.Full w.files) (hlines : w.lines.Sublist s.run.pipeline)
    (hfiles : w.files = front ++ [last]) (hindex : left.index = last.index)
    (hresumes : Resumes (front ++ [left])) :
    Intact (s.reopen config (front ++ [left]) (s.earlier ++ writerRecords w)) := by
  obtain ⟨front', last', hends, hfront⟩ := hfull.ends
  obtain ⟨rfl, -⟩ := List.append_inj' (hfiles.symm.trans hends) rfl
  have hpositive := hfull.positive
  have hindexed := hshaped.indexed
  rw [hfiles] at hpositive hindexed
  have hpos : 0 < left.index := by
    rw [hindex]
    exact hpositive last (List.mem_append_right _ (List.mem_singleton_self last))
  have hnew := new_resumed config hresumes hfront (hindexed.replace_last hindex) hpos
  have hfrontClean : ∀ file ∈ front, file.torn = 0 := by
    intro file hfile
    obtain ⟨closed, opened, hparts, -, -, htorn⟩ := hshaped.parts
    have hin : file ∈ older ++ (closed ++ opened) := by
      rw [← List.append_assoc, ← hparts, hfiles]
      exact List.mem_append_left _ hfile
    rcases List.mem_append.mp hin with hin | hin
    · exact hclean file hin
    · exact htorn file hin
  have hrecords : (s.earlier ++ writerRecords w).filter
      (fun record => record.index ≠ (RecordingWriter.new config (front ++ [left])).chunkIndex)
      = front.map EventFile.record := by
    rw [hnew, Restarts.records_eq hshaped hearlier, hfiles, hindex]
    exact records_resumed hindexed
  have hpipeline : (LogRun.start config (front ++ [left])).pipeline
      = front.flatMap EventFile.lines := by
    rw [LogRun.pipeline, LogRun.start, RecordingWriter.lines, hnew]
    simp
  have hsublist : (front.flatMap EventFile.lines).Sublist s.run.pipeline := by
    refine List.Sublist.trans ?_ hlines
    rw [RecordingWriter.lines, hfiles, List.flatMap_append]
    exact List.sublist_append_left _ _
  refine ⟨⟨front, ?_, hrecords.symm, hfrontClean⟩, ?_, fun _ => ?_, ?_, fun line hline => ?_,
    fun line hline => ?_⟩
  · change RecordingWriter.Shaped front (RecordingWriter.new config (front ++ [left]))
    rw [hnew]
    exact RecordingWriter.shaped_opened config (hindexed.replace_last hindex)
  · change RecordingWriter.Full (RecordingWriter.new config (front ++ [left])).files
    rw [hnew]
    exact RecordingWriter.full_snoc hfront
      (fun file hfile => hpositive file (List.mem_append_left _ hfile)) hpos
  · change (RecordingWriter.new config (front ++ [left])).chunk.isSome
    rw [hnew]
    rfl
  · change Increasing _ (LogRun.start config (front ++ [left])).pipeline
    rw [hpipeline]
    exact h.sorted.sublist hsublist
  · change line ∈ (LogRun.start config (front ++ [left])).pipeline at hline
    rw [hpipeline] at hline
    exact h.enqueued line (hsublist.subset hline)
  · change line ∈ (LogRun.start config (front ++ [left])).pipeline at hline
    rw [hpipeline] at hline
    exact h.nonneg line (hsublist.subset hline)

theorem Intact.step {s s' : Restarts} {a : Action} (h : Intact s) (hclean : Clean s a)
    (hstep : Restarts.step s a = some s') : Intact s' := by
  obtain ⟨older, hshaped, hearlier, htorn⟩ := h.shaped
  cases a with
  | act a =>
    obtain ⟨hincreases, hlog⟩ := Option.ite_none_right_eq_some.mp hstep
    obtain ⟨run, hrun, rfl⟩ := Option.map_eq_some_iff.mp hlog
    exact h.act hincreases hclean hrun
  | restart config =>
    obtain ⟨-, hreopened⟩ := Option.ite_none_right_eq_some.mp hstep
    rw [← Option.some.inj hreopened]
    obtain ⟨front, last, hfiles, -⟩ := h.full.ends
    have hresumes : Resumes s.run.writer.files := hclean
    rw [hfiles] at hresumes ⊢
    refine h.reopen config hshaped hearlier htorn h.full ?_ hfiles rfl hresumes
    rw [LogRun.pipeline, List.append_assoc]
    exact List.sublist_append_left _ _
  | crash crash config =>
    obtain ⟨-, hreopened⟩ := Option.ite_none_left_eq_some.mp hstep
    rw [← Option.some.inj hreopened]
    have hfull := LogRun.full_dying hshaped h.full h.opened crash
    obtain ⟨front, last, hfiles, -⟩ := hfull.ends
    have hresumes : Resumes (s.run.disk crash) := hclean
    rw [LogRun.disk_eq hfiles] at hresumes ⊢
    exact h.reopen config (LogRun.shaped_dying hshaped crash) hearlier htorn hfull
      (LogRun.lines_dying_sublist hshaped crash) hfiles rfl hresumes

/-! ## Ranges and lookups -/

section Ranges

variable {files : List EventFile}

/-- In a file whose sequences increase, the first is the smallest and the last the largest. -/
theorem spans_record {file : EventFile} (hnonneg : ∀ q ∈ file.sequences, 0 ≤ q)
    (hsorted : file.sequences.Pairwise (· < ·)) : Spans file.record file := by
  obtain ⟨hindex, -, -, hfirst, hlast⟩ := EventFile.describes_record hnonneg
  refine ⟨hindex, fun hne => ?_, fun hne => ?_⟩
  · rw [hfirst]
    cases hcons : file.sequences with
    | nil => exact absurd hcons hne
    | cons q rest =>
      rw [hcons] at hsorted
      refine ⟨List.mem_cons_self, fun p hp => ?_⟩
      rcases List.mem_cons.mp hp with rfl | hin
      · exact le_refl _
      · exact ((List.pairwise_cons.mp hsorted).1 p hin).le
  · rw [hlast]
    cases hcons : file.sequences with
    | nil => exact absurd hcons hne
    | cons q rest =>
      have hincreasing : Increasing id (q :: rest) := hcons ▸ hsorted
      obtain ⟨⟨b, hb, hmax⟩, hall⟩ := Increasing.getLastD_isMax hincreasing
      have hvalue : (rest.map id).getLastD (id q) = (q :: rest).getLast?.getD (-1) := by
        rw [List.map_id, List.getLast?_cons, Option.getD_some, List.getLastD_eq_getLast?]
        rfl
      rw [hvalue] at hmax hall
      refine ⟨?_, fun p hp => hall p hp⟩
      rw [← hmax]
      exact hb

end Ranges

end Restarts

end AsyncViz.Replay.Recorder
