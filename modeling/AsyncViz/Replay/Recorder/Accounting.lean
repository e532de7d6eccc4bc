/-
  AsyncViz.Replay.Recorder.Accounting

  What the finalized manifest says about the recording.

  The session counts an event when it is appended, the chunks count it when it is written.
  The manifest that `stop()` writes adds up (`Balanced`) if nothing comes between the two: no
  append is dropped, none comes between the final drain and the manifest, and none is still
  uncounted when the manifest reads the counter (`Unhurried`).  `Accounted` is what such a
  run keeps: the session has counted what the pipeline holds, less the appends that are
  under way.
-/

import AsyncViz.Replay.Recorder.RuntimeRecorder

namespace AsyncViz.Replay.Recorder

open AsyncViz.Lib.SortedLog AsyncViz.Lib.Transition

/-- The counters of a manifest fit its chunks and the lines on disk. -/
structure Balanced (manifest : Manifest) (w : RecordingWriter) : Prop where
  chunks : manifest.eventCount = (manifest.chunks.map fun chunk => chunk.eventCount).sum
  lines : (manifest.chunks.map fun chunk => chunk.eventCount).sum = w.lines.length
  none : w.lines = [] → manifest.lastSequence = 0
  largest : w.lines ≠ [] →
    IsGreatest {q | ∃ line ∈ w.lines, line.frame.sequence = q} manifest.lastSequence

namespace RuntimeRecorder

/-- `stop()` has returned. -/
def Finished (s : RuntimeRecorder) : Prop := s.run.stopped = true ∧ s.writing = none

/-- The finalized manifest, once it is written, balances. -/
def Balances (s : RuntimeRecorder) : Prop :=
  ∀ manifest, s.manifest = some manifest → manifest.finalized = true →
    Balanced manifest s.run.writer

/-- An append finds room or waits for it, and none gets between the final drain and the
    final manifest.  The final drain finds no drained batch, and when the final manifest
    reads the counter every append has been counted. -/
def Unhurried (s : RuntimeRecorder) : Action → Prop
  | .append frame _ =>
    s.Finished ∨ s.run.stopped = false ∧ 0 ≤ frame.sequence ∧
      (s.run.writer.buffer.length < s.run.writer.config.bufferCapacity ∨
        s.run.writer.config.dropPolicy = .block)
  | .stop => s.run.held = []
  | .advance =>
    s.run.stopped = true → (∃ chunks, s.writing = some (.current chunks)) → s.appending = []
  | _ => True

/-- What is read for the final manifest is final. -/
def FinalCapture (s : RuntimeRecorder) : Capture → Prop
  | .begun => True
  | .completed chunks | .current chunks => chunks = s.run.writer.chunksCompleted
  | .counted chunks eventCount =>
    chunks = s.run.writer.chunksCompleted ∧ eventCount = s.session.eventCount ∧
      s.appending = []

/-- The session has counted the lines of the pipeline, less the appends under way. -/
structure Accounted (s : RuntimeRecorder) : Prop where
  shaped : RecordingWriter.Shaped [] s.run.writer
  opened : s.run.stopped = true → s.run.writer.chunk = none
  counted : s.session.eventCount + s.appending.length = s.run.pipeline.length
  atMost : ∀ line ∈ s.run.pipeline,
    line.frame.sequence ≤ s.session.lastSequence ∨ line.frame.sequence ∈ s.appending
  attained : s.session.lastSequence = 0 ∨
    ∃ line ∈ s.run.pipeline, line.frame.sequence = s.session.lastSequence
  appending : ∀ q ∈ s.appending, ∃ line ∈ s.run.pipeline, line.frame.sequence = q
  nonneg : ∀ line ∈ s.run.pipeline, 0 ≤ line.frame.sequence
  drained : s.run.stopped = true → s.run.held = [] ∧ s.run.writer.buffer = []
  captured : s.run.stopped = true → ∀ capture ∈ s.writing, FinalCapture s capture
  manifest : ∀ manifest ∈ s.manifest, manifest.finalized = false

/-! ## Steps -/

/-- An append that finds room, or waits for it, goes to the end of the buffer. -/
theorem Logged.accepted {run run' : LogRun} {frame : ReplayFrame} {size : Nat}
    (h : Logged run frame size run')
    (hroom : run.writer.buffer.length < run.writer.config.bufferCapacity ∨
      run.writer.config.dropPolicy = .block) :
    run'.pipeline = run.pipeline ++ [⟨run.calls, frame, size⟩] := by
  obtain ⟨buffer, result, hoffer⟩ := h
  have hbuffer : buffer = run.writer.buffer ++ [⟨run.calls, frame, size⟩] := by
    by_cases hfits : run.writer.buffer.length < run.writer.config.bufferCapacity
    · simp only [offer, hfits, if_true, Option.some.injEq, Prod.mk.injEq] at hoffer
      exact hoffer.1.symm
    · -- a waiting call is no step
      have hblock := hroom.resolve_left hfits
      simp [offer, hfits, hblock] at hoffer
  rw [hbuffer, LogRun.pipeline, LogRun.pipeline, List.append_assoc _ run.writer.buffer]
  rfl

theorem Accounted.appended {s : RuntimeRecorder} (h : Accounted s) {frame : ReplayFrame}
    {size : Nat} {run : LogRun} (hrunning : s.run.stopped = false) (hnonneg : 0 ≤ frame.sequence)
    (hlogged : Logged s.run frame size run)
    (hpipeline : run.pipeline = s.run.pipeline ++ [⟨s.run.calls, frame, size⟩]) :
    Accounted { s with run := run, appending := s.appending ++ [frame.sequence] } := by
  obtain ⟨buffer, hwriter, -, hstopped⟩ := hlogged.writer
  have hgoes : ∀ {P : Prop}, run.stopped = true → P := fun hstop =>
    absurd (hrunning.symm.trans (hstopped.symm.trans hstop)) Bool.false_ne_true
  have hold : ∀ line ∈ s.run.pipeline, line ∈ run.pipeline := fun line hline =>
    hpipeline ▸ List.mem_append_left _ hline
  have hmem : ∀ line ∈ run.pipeline, line ∈ s.run.pipeline ∨ line = ⟨s.run.calls, frame, size⟩ := by
    intro line hline
    rw [hpipeline] at hline
    exact (List.mem_append.mp hline).imp_right List.mem_singleton.mp
  refine ⟨hwriter ▸ h.shaped.withBuffer buffer, hgoes, ?_, fun line hline => ?_, ?_,
    fun q hq => ?_, fun line hline => ?_, hgoes, hgoes, h.manifest⟩
  · change s.session.eventCount + (s.appending ++ [frame.sequence]).length = run.pipeline.length
    have hcounted := h.counted
    rw [hpipeline, List.length_append, List.length_append, List.length_singleton,
      List.length_singleton]
    omega
  · rcases hmem line hline with hin | rfl
    · exact (h.atMost line hin).imp_right (List.mem_append_left _)
    · exact .inr (List.mem_append_right _ (List.mem_singleton_self _))
  · exact h.attained.imp_right fun ⟨line, hline, heq⟩ => ⟨line, hold line hline, heq⟩
  · rcases List.mem_append.mp hq with hin | hin
    · obtain ⟨line, hline, heq⟩ := h.appending q hin
      exact ⟨line, hold line hline, heq⟩
    · refine ⟨⟨s.run.calls, frame, size⟩, ?_, (List.mem_singleton.mp hin).symm⟩
      change _ ∈ run.pipeline
      rw [hpipeline]
      exact List.mem_append_right _ (List.mem_singleton_self _)
  · rcases hmem line hline with hin | rfl
    · exact h.nonneg line hin
    · exact hnonneg

/-- `record_event` moves an append under way into the counters. -/
theorem Accounted.recorded {s : RuntimeRecorder} (h : Accounted s) {i : Nat} {sequence : Int}
    (hget : s.appending[i]? = some sequence) :
    Accounted { s with
      session := s.session.recordEvent sequence
      appending := s.appending.eraseIdx i } := by
  obtain ⟨hi, hvalue⟩ := List.getElem?_eq_some_iff.mp hget
  have hmem : sequence ∈ s.appending := hvalue ▸ List.getElem_mem hi
  have hmax : s.session.lastSequence ≤ (s.session.recordEvent sequence).lastSequence ∧
      sequence ≤ (s.session.recordEvent sequence).lastSequence := by
    simp only [RecordingSession.recordEvent]
    by_cases hnew : sequence > s.session.lastSequence
    · rw [if_pos hnew]
      omega
    · rw [if_neg hnew]
      omega
  refine ⟨h.shaped, h.opened, ?_, fun line hline => ?_, ?_, fun q hq => ?_, h.nonneg, h.drained,
    fun hstopped capture hcapture => ?_, h.manifest⟩
  · change s.session.eventCount + 1 + (s.appending.eraseIdx i).length = _
    have hcounted := h.counted
    rw [List.length_eraseIdx_of_lt hi]
    change _ = s.run.pipeline.length
    omega
  · rcases h.atMost line hline with hle | hin
    · exact .inl (hle.trans hmax.1)
    · -- the one that is counted now, or another
      obtain ⟨j, hj, heq⟩ := List.getElem_of_mem hin
      by_cases hij : j = i
      · subst hij
        refine .inl ?_
        rw [← heq, hvalue]
        exact hmax.2
      · refine .inr (List.mem_eraseIdx_iff_getElem?.mpr ⟨j, hij, ?_⟩)
        rw [List.getElem?_eq_getElem hj, heq]
  · simp only [RecordingSession.recordEvent]
    by_cases hnew : sequence > s.session.lastSequence
    · rw [if_pos hnew]
      exact .inr (h.appending sequence hmem)
    · rw [if_neg hnew]
      exact h.attained
  · exact h.appending q (List.mem_of_mem_eraseIdx hq)
  · have hread := h.captured hstopped capture hcapture
    cases capture with
    | begun => trivial
    | completed chunks => exact hread
    | current chunks => exact hread
    | counted chunks eventCount =>
      -- the counter has been read, so no append was left
      rw [hread.2.2] at hmem
      exact absurd hmem List.not_mem_nil

/-- The worker and `flush` move lines along. -/
theorem Accounted.moved {s : RuntimeRecorder} (h : Accounted s) {run : LogRun}
    {a : LogRun.Action} (hstepped : LogRun.Stepped s.run a run)
    (ha : ∀ frame size, a ≠ .enqueue frame size) (hrunning : run.stopped = false)
    (writing : Option Capture) :
    Accounted { s with run := run, writing := writing } := by
  have hperm := LogRun.pipeline_perm h.shaped hstepped ha
  have hgoes : ∀ {P : Prop}, run.stopped = true → P := fun hstop =>
    absurd (hrunning.symm.trans hstop) Bool.false_ne_true
  refine ⟨LogRun.shaped_stepped h.shaped hstepped, hgoes, h.counted.trans hperm.length_eq.symm,
    fun line hline => h.atMost line (hperm.subset hline), ?_, fun q hq => ?_,
    fun line hline => h.nonneg line (hperm.subset hline), hgoes, hgoes, h.manifest⟩
  · exact h.attained.imp_right fun ⟨line, hline, heq⟩ => ⟨line, hperm.symm.subset hline, heq⟩
  · obtain ⟨line, hline, heq⟩ := h.appending q hq
    exact ⟨line, hperm.symm.subset hline, heq⟩

/-- The final drain, with no drained batch. -/
theorem Accounted.stopped {s : RuntimeRecorder} (h : Accounted s) {run : LogRun}
    (hstepped : LogRun.Stepped s.run .stop run) (hheld : s.run.held = []) :
    Accounted { s with
      run := run
      session := { s.session with chunkCount := run.writer.chunksCompleted.length }
      writing := some .begun } := by
  have hperm := LogRun.pipeline_perm h.shaped hstepped (fun _ _ => by simp)
  have hshaped := LogRun.shaped_stepped h.shaped hstepped
  cases hstepped with
  | stopped =>
    refine ⟨hshaped, fun _ => rfl, h.counted.trans hperm.length_eq.symm,
      fun line hline => h.atMost line (hperm.subset hline), ?_, fun q hq => ?_,
      fun line hline => h.nonneg line (hperm.subset hline),
      fun _ => ⟨hheld, (RecordingWriter.flush_frame h.shaped).2⟩, ?_, h.manifest⟩
    · exact h.attained.imp_right fun ⟨line, hline, heq⟩ => ⟨line, hperm.symm.subset hline, heq⟩
    · obtain ⟨line, hline, heq⟩ := h.appending q hq
      exact ⟨line, hperm.symm.subset hline, heq⟩
    · rintro - capture hcapture
      rw [← Option.some.inj hcapture]
      trivial

/-! ## The final manifest -/

/-- The event counts of the records of the files add up to the lines. -/
theorem sum_eventCount (files : List EventFile) :
    ((files.map EventFile.record).map fun chunk => chunk.eventCount).sum
      = (files.flatMap EventFile.lines).length := by
  rw [List.map_map, List.length_flatMap]
  congr 1
  exact List.map_congr_left fun file _ => file.record_eventCount

theorem Accounted.lines_eq {s : RuntimeRecorder} (h : Accounted s)
    (hstopped : s.run.stopped = true) : s.run.writer.lines = s.run.pipeline := by
  obtain ⟨hheld, hbuffer⟩ := h.drained hstopped
  rw [LogRun.pipeline, hheld, hbuffer, List.append_nil, List.append_nil]

theorem Accounted.balanced {s : RuntimeRecorder} (h : Accounted s)
    (hstopped : s.run.stopped = true) (happending : s.appending = []) (chunkCount : Nat) :
    Balanced
      { eventCount := s.session.eventCount
        chunkCount := chunkCount
        lastSequence := s.session.lastSequence
        finalized := true
        chunks := s.run.writer.chunksCompleted } s.run.writer := by
  have hlines := h.lines_eq hstopped
  have hsum : (s.run.writer.chunksCompleted.map fun chunk => chunk.eventCount).sum
      = s.run.writer.lines.length := by
    obtain ⟨closed, opened, hfiles, hclosed, hopened, -⟩ := h.shaped.parts
    rw [h.opened hstopped, Option.toList_none, List.map_eq_nil_iff] at hopened
    rw [← hclosed, sum_eventCount, RecordingWriter.lines, hfiles, hopened, List.append_nil,
      List.nil_append]
  have hcount : s.session.eventCount = s.run.writer.lines.length := by
    have hcounted := h.counted
    rw [happending, List.length_nil, Nat.add_zero] at hcounted
    rw [hcounted, hlines]
  have hmost : ∀ line ∈ s.run.writer.lines, line.frame.sequence ≤ s.session.lastSequence := by
    intro line hline
    rw [hlines] at hline
    refine (h.atMost line hline).resolve_right fun hin => ?_
    rw [happending] at hin
    exact List.not_mem_nil hin
  refine ⟨hcount.trans hsum.symm, hsum, fun hnil => ?_, fun hne => ⟨?_, ?_⟩⟩
  · refine h.attained.resolve_right ?_
    rintro ⟨line, hline, -⟩
    rw [← hlines, hnil] at hline
    exact List.not_mem_nil hline
  · -- the largest sequence is `0`, and some line carries it, or it is attained anyway
    rcases h.attained with hzero | ⟨line, hline, heq⟩
    · obtain ⟨line, hline⟩ := List.exists_mem_of_ne_nil _ hne
      have hle := hmost line hline
      have hge := h.nonneg line (hlines ▸ hline)
      exact ⟨line, hline, by change line.frame.sequence = s.session.lastSequence; omega⟩
    · exact ⟨line, hlines ▸ hline, heq⟩
  · rintro q ⟨line, hline, rfl⟩
    exact hmost line hline

/-- The reads of a manifest write, and the write. -/
theorem Accounted.advanced {s : RuntimeRecorder} (h : Accounted s)
    (hunhurried : Unhurried s .advance) {capture : Capture} (hwriting : s.writing = some capture) :
    Accounted (s.advance capture) ∨
      (s.advance capture).Finished ∧ (s.advance capture).Balances := by
  have hread : s.run.stopped = true → FinalCapture s capture := fun hstopped =>
    h.captured hstopped capture hwriting
  cases capture with
  | begun =>
    refine .inl ⟨h.shaped, h.opened, h.counted, h.atMost, h.attained, h.appending, h.nonneg,
      h.drained, fun _ capture hcapture => ?_, h.manifest⟩
    rw [← Option.some.inj hcapture]
    rfl
  | completed chunks =>
    refine .inl ⟨h.shaped, h.opened, h.counted, h.atMost, h.attained, h.appending, h.nonneg,
      h.drained, fun hstopped capture hcapture => ?_, h.manifest⟩
    have hnone := h.opened hstopped
    rw [← Option.some.inj hcapture]
    change allChunks s.run.writer chunks = s.run.writer.chunksCompleted
    rw [allChunks, hnone, hread hstopped]
    exact List.append_nil _
  | current chunks =>
    refine .inl ⟨h.shaped, h.opened, h.counted, h.atMost, h.attained, h.appending, h.nonneg,
      h.drained, fun hstopped capture hcapture => ?_, h.manifest⟩
    rw [← Option.some.inj hcapture]
    exact ⟨hread hstopped, rfl, hunhurried hstopped ⟨chunks, hwriting⟩⟩
  | counted chunks eventCount =>
    cases hstopped : s.run.stopped with
    | true =>
      refine .inr ⟨⟨hstopped, rfl⟩, fun manifest hmanifest _ => ?_⟩
      obtain ⟨rfl, rfl, happending⟩ := hread hstopped
      rw [← Option.some.inj hmanifest, hstopped]
      exact h.balanced hstopped happending _
    | false =>
      have hgoes : ∀ {P : Prop}, s.run.stopped = true → P := fun hstop =>
        absurd (hstopped.symm.trans hstop) Bool.false_ne_true
      refine .inl ⟨h.shaped, h.opened, h.counted, h.atMost, h.attained, h.appending, h.nonneg,
        h.drained, hgoes, fun manifest hmanifest => ?_⟩
      rw [← Option.some.inj hmanifest]
      exact hstopped

/-! ## Runs -/

/-- After `stop()` nothing that the final manifest is about changes any more. -/
theorem finished_stepped {s s' : RuntimeRecorder} {a : Action} (hfinished : s.Finished)
    (h : s.Balances) (hstep : Stepped s a s') : s'.Finished ∧ s'.Balances := by
  obtain ⟨hstopped, hwriting⟩ := hfinished
  have hgoes : ∀ {P : Prop}, s.run.stopped = false → P := fun hrunning =>
    absurd (hrunning.symm.trans hstopped) Bool.false_ne_true
  cases hstep with
  | appended frame size run hlogged =>
    obtain ⟨buffer, hwriter, -, hsame⟩ := hlogged.writer
    refine ⟨⟨hsame.trans hstopped, hwriting⟩, fun manifest hmanifest hfinal => ?_⟩
    change Balanced manifest run.writer
    have hbalanced := h manifest hmanifest hfinal
    rw [hwriter]
    exact ⟨hbalanced.chunks, hbalanced.lines, hbalanced.none, hbalanced.largest⟩
  | recorded i sequence hget => exact ⟨⟨hstopped, hwriting⟩, h⟩
  | drained run hrunning _ => exact hgoes hrunning
  | wrote run hrunning _ => exact hgoes hrunning
  | flushed run hrunning _ _ => exact hgoes hrunning
  | stopped run hrunning _ _ => exact hgoes hrunning
  | advanced capture hcapture =>
    rw [hwriting] at hcapture
    exact absurd hcapture (by simp)

theorem accounted_stepped {s s' : RuntimeRecorder} {a : Action} (h : Accounted s)
    (hunhurried : Unhurried s a) (hstep : Stepped s a s') :
    Accounted s' ∨ s'.Finished ∧ s'.Balances := by
  cases hstep with
  | appended frame size run hlogged =>
    rcases hunhurried with hfinished | ⟨hrunning, hnonneg, hroom⟩
    · -- it has nothing finalized to balance
      obtain ⟨buffer, hwriter, -, hsame⟩ := hlogged.writer
      refine .inr ⟨⟨hsame.trans hfinished.1, hfinished.2⟩, fun manifest hmanifest hfinal => ?_⟩
      exact absurd ((h.manifest manifest hmanifest).symm.trans hfinal) Bool.false_ne_true
    · exact .inl (h.appended hrunning hnonneg hlogged (hlogged.accepted hroom))
  | recorded i sequence hget => exact .inl (h.recorded hget)
  | drained run hrunning hstepped =>
    refine .inl (h.moved hstepped (fun _ _ => by simp) ?_ s.writing)
    cases hstepped
    exact hrunning
  | wrote run hrunning hstepped =>
    refine .inl (h.moved hstepped (fun _ _ => by simp) ?_ s.writing)
    cases hstepped
    exact hrunning
  | flushed run hrunning _ hstepped =>
    refine .inl (h.moved hstepped (fun _ _ => by simp) ?_ (some .begun))
    cases hstepped
    exact hrunning
  | stopped run _ _ hstepped =>
    exact .inl (h.stopped hstepped hunhurried)
  | advanced capture hwriting => exact h.advanced hunhurried hwriting

theorem accounted_start (config : RecordingConfig) : Accounted (start config []) := by
  have hnil : (start config []).run.pipeline = [] := rfl
  refine ⟨RecordingWriter.shaped_fresh config, fun h => ?_, by rw [hnil]; rfl, ?_, .inl rfl, ?_, ?_,
    fun h => ?_, fun h => ?_, ?_⟩
  · exact absurd h Bool.false_ne_true
  · rw [hnil]
    exact fun line hline => absurd hline List.not_mem_nil
  · exact fun q hq => absurd hq List.not_mem_nil
  · rw [hnil]
    exact fun line hline => absurd hline List.not_mem_nil
  · exact absurd h Bool.false_ne_true
  · exact absurd h Bool.false_ne_true
  · exact fun manifest hmanifest => absurd hmanifest (by simp [start])

/-- In an unhurried run the finalized manifest balances. -/
theorem allStates_balances (config : RecordingConfig) (acts : List Action)
    (h : AllSteps step Unhurried (start config []) acts) :
    AllStates step Balances (start config []) acts := by
  refine (allStates_of_allSteps
    (I := fun s => Accounted s ∨ s.Finished ∧ s.Balances) (fun s a s' hs hunhurried hstep => ?_)
    (.inl (accounted_start config)) h).mono fun s hs => ?_
  · have hstepped := stepped_of_step hstep
    rcases hs with haccounted | ⟨hfinished, hbalances⟩
    · exact accounted_stepped haccounted hunhurried hstepped
    · exact .inr (finished_stepped hfinished hbalances hstepped)
  · rcases hs with haccounted | ⟨-, hbalances⟩
    · intro manifest hmanifest hfinal
      exact absurd ((haccounted.manifest manifest hmanifest).symm.trans hfinal)
        Bool.false_ne_true
    · exact hbalances

/-! ## Instances -/

/-- Two appends, each counted, and `stop()`; the worker does not get to run. -/
def twoAppends : List Action :=
  writeManifest ++ [.append (LogRun.frameAt 1) 10, .record 0, .append (LogRun.frameAt 2) 10,
    .record 0, .stop] ++ writeManifest

theorem allStates_balances_twoAppends :
    AllSteps step Unhurried (start LogRun.twoLines []) twoAppends ∧
    AllStates step Balances (start LogRun.twoLines []) twoAppends := by
  have hroom : ∀ n : Nat, n < 2 → (n < LogRun.twoLines.bufferCapacity ∨
      LogRun.twoLines.dropPolicy = .block) := fun _ hn => .inl hn
  have hunhurried : AllSteps step Unhurried (start LogRun.twoLines []) twoAppends := by
    have hread : ∀ s : RuntimeRecorder, s.appending = [] → Unhurried s .advance :=
      fun _ happending _ _ => happending
    refine .cons rfl (hread _ rfl) (.cons rfl (hread _ rfl) (.cons rfl (hread _ rfl)
      (.cons rfl (hread _ rfl)
      (.cons rfl (.inr ⟨rfl, by decide, hroom 0 (by decide)⟩) (.cons rfl trivial
      (.cons rfl (.inr ⟨rfl, by decide, hroom 1 (by decide)⟩) (.cons rfl trivial
      (.cons rfl rfl (.cons rfl (hread _ rfl) (.cons rfl (hread _ rfl)
      (.cons rfl (hread _ rfl) (.cons rfl (hread _ rfl) trivial))))))))))))
  exact ⟨hunhurried, allStates_balances LogRun.twoLines twoAppends hunhurried⟩

/-- Room for one line. -/
def oneLine : RecordingConfig :=
  { bufferCapacity := 1, maxChunkBytes := 0, maxChunkEvents := 0, dropPolicy := .dropNewest
    capacity_pos := Nat.one_pos }

/-- The second append is dropped and counted all the same. -/
theorem not_balances_dropped :
    ∃ s manifest, exec step (start oneLine []) twoAppends = some s ∧
      s.manifest = some manifest ∧ manifest.finalized = true ∧ manifest.eventCount = 2 ∧
      manifest.lastSequence = 2 ∧ s.run.writer.lines.length = 1 ∧ ¬ s.Balances := by
  refine ⟨_, _, rfl, rfl, rfl, rfl, rfl, rfl, fun hbalances => ?_⟩
  have hbalanced := hbalances _ rfl rfl
  have hcount := hbalanced.chunks.trans hbalanced.lines
  exact absurd hcount (by decide : (2 : Nat) ≠ 1)

end RuntimeRecorder

end AsyncViz.Replay.Recorder
