/-
  AsyncViz.Replay.Recorder.RuntimeRecorder

  The runtime recorder (`replay/recording/runtime_recorder.py`, `recording_session.py`): a
  writer, the session counters and the manifest.

  None of its operations is one step.  `append_event` enqueues and then counts;
  `_write_manifest_locked` reads the completed chunks, the current chunk and the counters
  one after the other, while appends and the worker go on.  `Stepped` lists the steps,
  `RuntimeRecorder.stepped_of_step` shows that there are no others.
-/

import AsyncViz.Replay.Recorder.Restarts

namespace AsyncViz.Replay.Recorder

open AsyncViz.Lib.SortedLog AsyncViz.Lib.Transition

/-- The counters of `RecordingSession`. -/
structure RecordingSession where
  eventCount : Nat := 0
  chunkCount : Nat := 0
  lastSequence : Int := 0
deriving DecidableEq, Repr

/-- `session.record_event(sequence)`. -/
def RecordingSession.recordEvent (session : RecordingSession) (sequence : Int) :
    RecordingSession :=
  { session with
    eventCount := session.eventCount + 1
    lastSequence := if sequence > session.lastSequence then sequence else session.lastSequence }

/-- `RecordingMetadata`, as the recorder writes it. -/
structure Manifest where
  eventCount : Nat
  chunkCount : Nat
  lastSequence : Int
  finalized : Bool
  chunks : List ChunkState
deriving Repr

/-- How far `_write_manifest_locked` is, with what it has read. -/
inductive Capture where
  | begun
  | completed (chunks : List ChunkState)
  | current (allChunks : List ChunkState)
  | counted (allChunks : List ChunkState) (eventCount : Nat)

/-- `RuntimeRecorder`.  `appending` are the sequences of the `append_event` calls that have
    enqueued and not counted yet; `writing` is a manifest write under the recorder's lock. -/
structure RuntimeRecorder where
  run : LogRun
  session : RecordingSession := {}
  appending : List Int := []
  writing : Option Capture := none
  manifest : Option Manifest := none

namespace RuntimeRecorder

/-- A step of some thread. -/
inductive Action where
  | append (frame : ReplayFrame) (size : Nat)
  | record (i : Nat)
  | drain
  | write
  | flush
  | stop
  | advance

/-- `start()`, up to its manifest write. -/
def start (config : RecordingConfig) (files : List EventFile) : RuntimeRecorder :=
  { run := .start config files, writing := some .begun }

/-- `all_chunks`: an open chunk without an event is left out. -/
def allChunks (w : RecordingWriter) (completed : List ChunkState) : List ChunkState :=
  completed ++ w.chunk.toList.filter fun chunk => chunk.eventCount > 0

/-- The next read or the write of `_write_manifest_locked`. -/
def advance (s : RuntimeRecorder) : Capture → RuntimeRecorder
  | .begun => { s with writing := some (.completed s.run.writer.chunksCompleted) }
  | .completed chunks => { s with writing := some (.current (allChunks s.run.writer chunks)) }
  | .current chunks => { s with writing := some (.counted chunks s.session.eventCount) }
  | .counted chunks eventCount =>
    { s with
      writing := none
      manifest := some
        { eventCount := eventCount
          chunkCount := max chunks.length s.session.chunkCount
          lastSequence := s.session.lastSequence
          finalized := s.run.stopped
          chunks := chunks } }

/-- One step.  `flush()` and `stop()` wait for the recorder's lock and go on with a manifest
    write; `append_event` does not wait, not even for `stop`. -/
def step (s : RuntimeRecorder) : Action → Option RuntimeRecorder
  | .append frame size =>
    (s.run.enqueue frame size).map fun run =>
      { s with run := run, appending := s.appending ++ [frame.sequence] }
  | .record i =>
    s.appending[i]?.map fun sequence =>
      { s with
        session := s.session.recordEvent sequence
        appending := s.appending.eraseIdx i }
  | .drain => (s.run.step .drain).map fun run => { s with run := run }
  | .write => (s.run.step .write).map fun run => { s with run := run }
  | .flush =>
    if s.writing.isSome then none
    else (s.run.step .flush).map fun run => { s with run := run, writing := some .begun }
  | .stop =>
    if s.writing.isSome then none
    else
      (s.run.step .stop).map fun run =>
        { s with
          run := run
          session := { s.session with chunkCount := run.writer.chunksCompleted.length }
          writing := some .begun }
  | .advance => s.writing.map s.advance

/-- A whole manifest write. -/
def writeManifest : List Action := [.advance, .advance, .advance, .advance]

/-! ## Steps -/

/-- What the log makes of an `append_event`: as long as the writer runs, its own step. -/
inductive Logged (run : LogRun) (frame : ReplayFrame) (size : Nat) : LogRun → Prop
  | mk (buffer : List Line) (result : EnqueueResult) :
      offer run.writer.config run.writer.buffer ⟨run.calls, frame, size⟩
        = some (buffer, result) →
      Logged run frame size { run with
        writer := { run.writer with buffer := buffer }
        calls := run.calls + 1
        kept := LogRun.keep run.kept ⟨run.calls, frame, size⟩ result }

/-- What a step does. -/
inductive Stepped (s : RuntimeRecorder) : Action → RuntimeRecorder → Prop
  | appended (frame : ReplayFrame) (size : Nat) (run : LogRun) :
      Logged s.run frame size run →
      Stepped s (.append frame size)
        { s with run := run, appending := s.appending ++ [frame.sequence] }
  | recorded (i : Nat) (sequence : Int) :
      s.appending[i]? = some sequence →
      Stepped s (.record i) { s with
        session := s.session.recordEvent sequence
        appending := s.appending.eraseIdx i }
  | drained (run : LogRun) :
      s.run.stopped = false → LogRun.Stepped s.run .drain run →
      Stepped s .drain { s with run := run }
  | wrote (run : LogRun) :
      s.run.stopped = false → LogRun.Stepped s.run .write run →
      Stepped s .write { s with run := run }
  | flushed (run : LogRun) :
      s.run.stopped = false → s.writing = none → LogRun.Stepped s.run .flush run →
      Stepped s .flush { s with run := run, writing := some .begun }
  | stopped (run : LogRun) :
      s.run.stopped = false → s.writing = none → LogRun.Stepped s.run .stop run →
      Stepped s .stop { s with
        run := run
        session := { s.session with chunkCount := run.writer.chunksCompleted.length }
        writing := some .begun }
  | advanced (capture : Capture) :
      s.writing = some capture → Stepped s .advance (s.advance capture)

theorem stepped_of_step {s s' : RuntimeRecorder} {a : Action} (h : step s a = some s') :
    Stepped s a s' := by
  cases a with
  | append frame size =>
    obtain ⟨run, hrun, rfl⟩ := Option.map_eq_some_iff.mp h
    obtain ⟨⟨buffer, result⟩, hoffer, rfl⟩ := Option.map_eq_some_iff.mp hrun
    exact .appended frame size _ (.mk buffer result hoffer)
  | record i =>
    obtain ⟨sequence, hget, rfl⟩ := Option.map_eq_some_iff.mp h
    exact .recorded i sequence hget
  | drain =>
    obtain ⟨run, hrun, rfl⟩ := Option.map_eq_some_iff.mp h
    obtain ⟨hrunning, hstepped⟩ := LogRun.stepped_of_step hrun
    exact .drained run hrunning hstepped
  | write =>
    obtain ⟨run, hrun, rfl⟩ := Option.map_eq_some_iff.mp h
    obtain ⟨hrunning, hstepped⟩ := LogRun.stepped_of_step hrun
    exact .wrote run hrunning hstepped
  | flush =>
    obtain ⟨hidle, hlog⟩ := Option.ite_none_left_eq_some.mp h
    obtain ⟨run, hrun, rfl⟩ := Option.map_eq_some_iff.mp hlog
    obtain ⟨hrunning, hstepped⟩ := LogRun.stepped_of_step hrun
    exact .flushed run hrunning (Option.not_isSome_iff_eq_none.mp hidle) hstepped
  | stop =>
    obtain ⟨hidle, hlog⟩ := Option.ite_none_left_eq_some.mp h
    obtain ⟨run, hrun, rfl⟩ := Option.map_eq_some_iff.mp hlog
    obtain ⟨hrunning, hstepped⟩ := LogRun.stepped_of_step hrun
    exact .stopped run hrunning (Option.not_isSome_iff_eq_none.mp hidle) hstepped
  | advance =>
    obtain ⟨capture, hwriting, rfl⟩ := Option.map_eq_some_iff.mp h
    exact .advanced capture hwriting

/-- Appending does not touch the files. -/
theorem Logged.writer {run run' : LogRun} {frame : ReplayFrame} {size : Nat}
    (h : Logged run frame size run') :
    ∃ buffer, run'.writer = { run.writer with buffer := buffer } ∧ run'.held = run.held ∧
      run'.stopped = run.stopped := by
  obtain ⟨buffer, result, -⟩ := h
  exact ⟨buffer, rfl, rfl, rfl⟩

/-- While the writer runs, an append is a step of the log. -/
theorem Logged.stepped {run run' : LogRun} {frame : ReplayFrame} {size : Nat}
    (h : Logged run frame size run') : LogRun.Stepped run (.enqueue frame size) run' := by
  obtain ⟨buffer, result, hoffer⟩ := h
  exact .enqueued frame size buffer result hoffer

end RuntimeRecorder

end AsyncViz.Replay.Recorder
