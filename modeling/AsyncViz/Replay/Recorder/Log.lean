/-
  AsyncViz.Replay.Recorder.Log

  The log of one writer, from a fresh directory to `stop()`.

  Two threads write: the worker drains a batch and writes it in two critical sections,
  `flush()` and `stop()` do both in one.  A `flush()` between the worker's two sections
  writes newer lines ahead of the batch, and a `stop()` that no longer waits for the
  worker leaves the batch out.

  * `Sound` is what the log is to be: at the end the kept lines in order, and at all times
    closed chunks within the limits and records that describe their files.
  * `allStates_sound` shows it for every run without such an overlap, and `lines_eq_iff`
    that the log comes out right only then.
-/

import AsyncViz.Lib.Transition
import AsyncViz.Replay.Recorder.Writer

namespace AsyncViz.Replay.Recorder

open AsyncViz.Lib.SortedLog AsyncViz.Lib.Transition

/-- A writer and what its threads are at.  `held` is the batch that the worker has drained
    and not written yet; `kept` are the lines whose `enqueue` was not dropped, less the
    evicted ones. -/
structure LogRun where
  writer : RecordingWriter
  held : List Line
  calls : Nat
  kept : List Line
  stopped : Bool

namespace LogRun

/-- A call of another thread, or a critical section of the worker. -/
inductive Action where
  | enqueue (frame : ReplayFrame) (size : Nat)
  | drain
  | write
  | flush
  | stop

/-- A new writer on a directory. -/
def start (config : RecordingConfig) (files : List EventFile) : LogRun :=
  { writer := .new config files, held := [], calls := 0, kept := [], stopped := false }

/-- `kept` after an `enqueue` of `line`: a dropped or evicted line is none of them. -/
def keep (kept : List Line) (line : Line) (result : EnqueueResult) : List Line :=
  (kept ++ [line]).filter fun other => result.evicted.all fun gone => gone.call ≠ other.call

/-- `enqueue`; `none` while it waits for room. -/
def enqueue (s : LogRun) (frame : ReplayFrame) (size : Nat) : Option LogRun :=
  let line : Line := { call := s.calls, frame := frame, size := size }
  (offer s.writer.config s.writer.buffer line).map fun (buffer, result) =>
    { s with
      writer := { s.writer with buffer := buffer }
      calls := s.calls + 1
      kept := keep s.kept line result }

/-- One step.  The worker drains only after it has written; `stop` drains, finalizes and is
    the last step, be it that the worker is done or that `join` has timed out. -/
def step (s : LogRun) : Action → Option LogRun
  | .enqueue frame size => if s.stopped then none else s.enqueue frame size
  | .drain =>
    if s.stopped ∨ s.held ≠ [] then none else
    let (batch, rest) := drainBatch s.writer.config.bufferCapacity s.writer.buffer
    some { s with writer := { s.writer with buffer := rest }, held := batch }
  | .write =>
    if s.stopped ∨ s.held = [] then none else
    some { s with writer := s.writer.flushLocked s.held, held := [] }
  | .flush => if s.stopped then none else some { s with writer := s.writer.flush }
  | .stop =>
    if s.stopped then none else
    some { s with writer := s.writer.drainAndFinalize, stopped := true }

/-- What the log of a writer is to be. -/
structure Sound (s : LogRun) : Prop where
  log : s.stopped = true → s.writer.lines = s.kept
  indexed : Increasing EventFile.index s.writer.files
  chunks : ∃ closed opened, s.writer.files = closed ++ opened ∧
    List.Forall₂ EventFile.Describes s.writer.chunksCompleted closed ∧
    List.Forall₂ EventFile.Describes s.writer.chunk.toList opened ∧
    ∀ file ∈ closed, file.Within s.writer.config

/-- The step does not overlap with the worker: a `flush` with something to write and the
    `stop` find no drained batch.  And no line has a negative sequence. -/
def Orderly (s : LogRun) : Action → Prop
  | .enqueue frame _ => 0 ≤ frame.sequence
  | .flush => s.held = [] ∨ s.writer.buffer = []
  | .stop => s.held = []
  | _ => True

/-! ## Steps -/

/-- What a step does. -/
inductive Stepped (s : LogRun) : Action → LogRun → Prop
  | enqueued (frame : ReplayFrame) (size : Nat) (buffer : List Line) (result : EnqueueResult) :
      offer s.writer.config s.writer.buffer ⟨s.calls, frame, size⟩ = some (buffer, result) →
      Stepped s (.enqueue frame size) { s with
        writer := { s.writer with buffer := buffer }
        calls := s.calls + 1
        kept := keep s.kept ⟨s.calls, frame, size⟩ result }
  | drained :
      s.held = [] →
      Stepped s .drain { s with
        writer := { s.writer with
          buffer := s.writer.buffer.drop s.writer.config.bufferCapacity }
        held := s.writer.buffer.take s.writer.config.bufferCapacity }
  | wrote :
      s.held ≠ [] →
      Stepped s .write { s with writer := s.writer.flushLocked s.held, held := [] }
  | flushed : Stepped s .flush { s with writer := s.writer.flush }
  | stopped : Stepped s .stop { s with writer := s.writer.drainAndFinalize, stopped := true }

theorem stepped_of_step {s s' : LogRun} {a : Action} (h : step s a = some s') :
    s.stopped = false ∧ Stepped s a s' := by
  have hrunning : ¬ s.stopped = true := by
    intro hstopped
    cases a <;> simp [step, hstopped] at h
  refine ⟨Bool.eq_false_iff.mpr hrunning, ?_⟩
  cases a with
  | enqueue frame size =>
    rw [step, if_neg hrunning] at h
    obtain ⟨⟨buffer, result⟩, hoffer, rfl⟩ := Option.map_eq_some_iff.mp h
    exact .enqueued frame size buffer result hoffer
  | drain =>
    obtain ⟨hfree, hdrained⟩ := Option.ite_none_left_eq_some.mp h
    rw [← Option.some.inj hdrained]
    exact .drained (not_not.mp (not_or.mp hfree).2)
  | write =>
    obtain ⟨hfree, hwrote⟩ := Option.ite_none_left_eq_some.mp h
    rw [← Option.some.inj hwrote]
    exact .wrote (not_or.mp hfree).2
  | flush =>
    rw [step, if_neg hrunning] at h
    rw [← Option.some.inj h]
    exact .flushed
  | stop =>
    rw [step, if_neg hrunning] at h
    rw [← Option.some.inj h]
    exact .stopped

/-! ## Files and records -/

theorem shaped_stepped {older : List EventFile} {s s' : LogRun} {a : Action}
    (h : RecordingWriter.Shaped older s.writer) (hstep : Stepped s a s') :
    RecordingWriter.Shaped older s'.writer := by
  cases hstep with
  | enqueued frame size buffer result hoffer => exact h.withBuffer buffer
  | drained hheld => exact h.withBuffer _
  | wrote hheld => exact h.flushLocked s.held
  | flushed => exact h.flush
  | stopped => exact h.drainAndFinalize

/-- What holds of the writer in every state, whatever overlaps. -/
structure Tidy (older : List EventFile) (s : LogRun) : Prop where
  shaped : RecordingWriter.Shaped older s.writer
  fits : s.writer.buffer.length ≤ s.writer.config.bufferCapacity
  finished : s.stopped = true → s.writer.buffer = []

theorem offer_fits {config : RecordingConfig} {buffer buffer' : List Line} {item : Line}
    {result : EnqueueResult} (hfits : buffer.length ≤ config.bufferCapacity)
    (h : offer config buffer item = some (buffer', result)) :
    buffer'.length ≤ config.bufferCapacity := by
  have hpos := config.capacity_pos
  by_cases hroom : buffer.length < config.bufferCapacity
  · simp only [offer, hroom, if_true, Option.some.injEq, Prod.mk.injEq] at h
    rw [← h.1, List.length_append, List.length_singleton]
    omega
  · cases hpolicy : config.dropPolicy with
    | dropNewest =>
      simp only [offer, hroom, if_false, hpolicy, Option.some.injEq, Prod.mk.injEq] at h
      rw [← h.1]
      exact hfits
    | dropOldest =>
      simp only [offer, hroom, if_false, hpolicy, Option.some.injEq, Prod.mk.injEq] at h
      rw [← h.1, List.length_append, List.length_singleton, List.length_tail]
      omega
    | block => simp [offer, hroom, hpolicy] at h

theorem Tidy.stepped {older : List EventFile} {s s' : LogRun} {a : Action} (h : Tidy older s)
    (hrunning : s.stopped = false) (hstep : Stepped s a s') : Tidy older s' := by
  have hfits := h.fits
  have hgoes : ∀ {P : Prop}, s.stopped = true → P := fun hstopped =>
    absurd (hrunning.symm.trans hstopped) Bool.false_ne_true
  have hempty := (RecordingWriter.flush_frame h.shaped).2
  have hflush : s.writer.flush.buffer.length ≤ s.writer.flush.config.bufferCapacity := by
    rw [hempty]
    exact Nat.zero_le _
  refine ⟨shaped_stepped h.shaped hstep, ?_, fun hstopped => ?_⟩
  · cases hstep with
    | enqueued frame size buffer result hoffer => exact offer_fits hfits hoffer
    | drained hheld =>
      change (s.writer.buffer.drop s.writer.config.bufferCapacity).length ≤ _
      rw [List.length_drop]
      omega
    | wrote hheld =>
      obtain ⟨hconfig, hbuffer⟩ := RecordingWriter.flushLocked_frame h.shaped s.held
      change (s.writer.flushLocked s.held).buffer.length ≤ _
      rw [hbuffer, hconfig]
      exact hfits
    | flushed => exact hflush
    | stopped => exact hflush
  · cases hstep with
    | enqueued frame size buffer result hoffer => exact hgoes hstopped
    | drained hheld => exact hgoes hstopped
    | wrote hheld => exact hgoes hstopped
    | flushed => exact hgoes hstopped
    | stopped => exact hempty

/-- The worker's batch is the whole buffer. -/
theorem Tidy.take_eq {older : List EventFile} {s : LogRun} (h : Tidy older s) :
    s.writer.buffer.take s.writer.config.bufferCapacity = s.writer.buffer ∧
      s.writer.buffer.drop s.writer.config.bufferCapacity = [] :=
  ⟨List.take_of_length_le h.fits, List.drop_of_length_le h.fits⟩

/-! ## Where the lines are -/

/-- The lines on disk and those on their way there. -/
def pipeline (s : LogRun) : List Line := s.writer.lines ++ s.held ++ s.writer.buffer

/-- What holds of the lines in every state, whatever overlaps: none is lost or doubled, and
    what is buffered is newer than what is drained or written. -/
structure Numbered (s : LogRun) : Prop where
  perm : (s.writer.lines ++ s.held ++ s.writer.buffer).Perm s.kept
  kept_increasing : Increasing Line.call s.kept
  kept_lt : ∀ line ∈ s.kept, line.call < s.calls
  held_increasing : Increasing Line.call s.held
  buffer_increasing : Increasing Line.call s.writer.buffer
  behind : ∀ line ∈ s.writer.lines ++ s.held, ∀ next ∈ s.writer.buffer, line.call < next.call

/-- What is written or drained stands in the order of the calls. -/
def Ordered (s : LogRun) : Prop := Increasing Line.call (s.writer.lines ++ s.held)

theorem Numbered.eq_kept {s : LogRun} (h : Numbered s) (hordered : Ordered s) :
    s.writer.lines ++ s.held ++ s.writer.buffer = s.kept := by
  have hall : Increasing Line.call (s.writer.lines ++ s.held ++ s.writer.buffer) :=
    List.pairwise_append.mpr ⟨hordered, h.buffer_increasing, h.behind⟩
  refine List.Perm.eq_of_pairwise (fun a b _ _ hab hba => ?_) hall h.kept_increasing h.perm
  exact absurd hab (by omega)

theorem numbered_start (config : RecordingConfig) : Numbered (start config []) := by
  rw [start, RecordingWriter.new_fresh]
  refine ⟨.refl _, List.Pairwise.nil, ?_, List.Pairwise.nil, List.Pairwise.nil, ?_⟩
  · exact fun line hline => absurd hline List.not_mem_nil
  · exact fun line hline => absurd hline List.not_mem_nil

section Keep

variable {kept : List Line} {line : Line}

theorem keep_accepted (action : PolicyAction) :
    keep kept line { action := action } = kept ++ [line] :=
  List.filter_eq_self.mpr fun _ _ => rfl

theorem keep_droppedNewest (action : PolicyAction) (hlt : ∀ other ∈ kept, other.call < line.call) :
    keep kept line { action := action, evicted := some line } = kept := by
  rw [keep, List.filter_append]
  have hold : (kept.filter fun other => (some line).all fun gone => gone.call ≠ other.call)
      = kept := by
    refine List.filter_eq_self.mpr fun other hother => ?_
    have := hlt other hother
    simp only [Option.all_some, ne_eq, decide_not, Bool.not_eq_true', decide_eq_false_iff_not]
    omega
  have hnew : ([line].filter fun other => (some line).all fun gone => gone.call ≠ other.call)
      = [] := by simp
  rw [hold, hnew, List.append_nil]

theorem keep_droppedOldest {gone : Line} (action : PolicyAction) (hlt : gone.call < line.call) :
    keep kept line { action := action, evicted := some gone }
      = (kept.filter fun other => gone.call ≠ other.call) ++ [line] := by
  have hne : gone.call ≠ line.call := by omega
  rw [keep, List.filter_append]
  congr 1
  simp [hne]

end Keep

/-- A new line goes behind what stays buffered and kept. -/
theorem Numbered.snoc {s : LogRun} (h : Numbered s) (frame : ReplayFrame) (size : Nat)
    {kept buffer : List Line} (hperm : (s.writer.lines ++ s.held ++ buffer).Perm kept)
    (hkept : kept.Sublist s.kept) (hbuffer : buffer.Sublist s.writer.buffer) :
    Numbered { s with
      writer := { s.writer with buffer := buffer ++ [⟨s.calls, frame, size⟩] }
      calls := s.calls + 1
      kept := kept ++ [⟨s.calls, frame, size⟩] } := by
  -- every line that is somewhere is older than the new one
  have hlt : ∀ line ∈ kept, line.call < s.calls :=
    fun line hline => h.kept_lt line (hkept.subset hline)
  have hold : ∀ line ∈ s.writer.lines ++ s.held ++ buffer, line.call < s.calls :=
    fun line hline => hlt line (hperm.subset hline)
  refine ⟨?_, ?_, fun line hline => ?_, h.held_increasing, ?_, fun line hline next hnext => ?_⟩
  · change (s.writer.lines ++ s.held ++ (buffer ++ [_])).Perm _
    rw [← List.append_assoc]
    exact hperm.append_right _
  · exact increasing_snoc.mpr ⟨List.Pairwise.sublist hkept h.kept_increasing, hlt⟩
  · rcases List.mem_append.mp hline with hin | hin
    · exact (hlt line hin).trans (Nat.lt_succ_self _)
    · rw [List.mem_singleton.mp hin]
      exact Nat.lt_succ_self _
  · exact increasing_snoc.mpr ⟨List.Pairwise.sublist hbuffer h.buffer_increasing,
      fun line hline => hold line (List.mem_append_right _ hline)⟩
  · rcases List.mem_append.mp hnext with hin | hin
    · exact h.behind line hline next (hbuffer.subset hin)
    · rw [List.mem_singleton.mp hin]
      exact hold line (List.mem_append_left _ hline)

/-- An accepted line goes to the end of the buffer and of what is kept. -/
theorem Numbered.enqueued {s : LogRun} (h : Numbered s) (frame : ReplayFrame) (size : Nat)
    {buffer : List Line} {result : EnqueueResult}
    (hoffered : Offered s.writer.buffer ⟨s.calls, frame, size⟩ buffer result) :
    Numbered { s with
      writer := { s.writer with buffer := buffer }
      calls := s.calls + 1
      kept := keep s.kept ⟨s.calls, frame, size⟩ result } := by
  cases hoffered with
  | accepted =>
    rw [keep_accepted]
    exact h.snoc frame size h.perm (List.Sublist.refl _) (List.Sublist.refl _)
  | droppedNewest =>
    rw [keep_droppedNewest _ h.kept_lt]
    exact ⟨h.perm, h.kept_increasing,
      fun line hline => (h.kept_lt line hline).trans (Nat.lt_succ_self _),
      h.held_increasing, h.buffer_increasing, h.behind⟩
  | droppedOldest gone rest hbuffer =>
    have hperm := h.perm
    have hincreasing := h.buffer_increasing
    have hbehind := h.behind
    rw [hbuffer] at hperm hincreasing hbehind
    obtain ⟨hgone, -⟩ := List.pairwise_cons.mp hincreasing
    have hgoneLt : gone.call < s.calls :=
      h.kept_lt gone (hperm.subset (List.mem_append_right _ List.mem_cons_self))
    rw [keep_droppedOldest _ hgoneLt]
    -- only the evicted line has its number
    have hfilter : ((s.writer.lines ++ s.held ++ gone :: rest).filter fun other =>
        gone.call ≠ other.call) = s.writer.lines ++ s.held ++ rest := by
      rw [List.filter_append, List.filter_cons_of_neg (by simp)]
      congr 1
      · refine List.filter_eq_self.mpr fun other hother => ?_
        have := hbehind other hother gone List.mem_cons_self
        simp only [ne_eq, decide_not, Bool.not_eq_true', decide_eq_false_iff_not]
        omega
      · refine List.filter_eq_self.mpr fun other hother => ?_
        have := hgone other hother
        simp only [ne_eq, decide_not, Bool.not_eq_true', decide_eq_false_iff_not]
        omega
    have hless := hperm.filter fun other => gone.call ≠ other.call
    rw [hfilter] at hless
    refine h.snoc frame size hless List.filter_sublist ?_
    rw [hbuffer]
    exact List.sublist_cons_self gone rest

theorem perm_flushed (written held buffer : List Line) :
    (written ++ buffer ++ held ++ []).Perm (written ++ held ++ buffer) := by
  rw [List.append_nil, List.append_assoc, List.append_assoc]
  exact List.perm_append_comm.append_left written

/-- A step of the worker, of `flush` or of `stop` keeps the lines, in whatever order. -/
theorem pipeline_perm {older : List EventFile} {s s' : LogRun} {a : Action}
    (h : RecordingWriter.Shaped older s.writer) (hstep : Stepped s a s')
    (ha : ∀ frame size, a ≠ .enqueue frame size) : s'.pipeline.Perm s.pipeline := by
  have hflush := perm_flushed s.writer.lines s.held s.writer.buffer
  rw [← RecordingWriter.lines_flush h, ← (RecordingWriter.flush_frame h).2] at hflush
  cases hstep with
  | enqueued frame size buffer result hoffer => exact absurd rfl (ha frame size)
  | drained hheld =>
    refine .of_eq ?_
    change s.writer.lines ++ s.writer.buffer.take _ ++ s.writer.buffer.drop _ = _
    rw [List.append_assoc, List.take_append_drop, pipeline, hheld, List.append_nil]
  | wrote hheld =>
    refine .of_eq ?_
    obtain ⟨-, hbuffer⟩ := RecordingWriter.flushLocked_frame h s.held
    change (s.writer.flushLocked s.held).lines ++ [] ++ (s.writer.flushLocked s.held).buffer = _
    rw [RecordingWriter.lines_flushLocked h, hbuffer, List.append_nil, pipeline]
  | flushed => exact hflush
  | stopped => exact hflush

/-- Nothing is newer than what is drained or written once the buffer is empty. -/
theorem Numbered.emptied {s s' : LogRun} (h : Numbered s) (hperm : s'.pipeline.Perm s.pipeline)
    (hkept : s'.kept = s.kept) (hcalls : s'.calls = s.calls)
    (hheld : Increasing Line.call s'.held) (hbuffer : s'.writer.buffer = []) : Numbered s' := by
  refine ⟨?_, ?_, ?_, hheld, ?_, fun line hline next hnext => ?_⟩
  · rw [hkept]
    exact hperm.trans h.perm
  · rw [hkept]
    exact h.kept_increasing
  · rw [hkept, hcalls]
    exact h.kept_lt
  · rw [hbuffer]
    exact List.Pairwise.nil
  · rw [hbuffer] at hnext
    exact absurd hnext List.not_mem_nil

theorem Numbered.stepped {s s' : LogRun} {a : Action} (htidy : Tidy [] s) (h : Numbered s)
    (hstep : Stepped s a s') : Numbered s' := by
  have hperm := pipeline_perm htidy.shaped hstep
  have hempty := (RecordingWriter.flush_frame htidy.shaped).2
  cases hstep with
  | enqueued frame size buffer result hoffer =>
    exact h.enqueued frame size (offered_of_offer hoffer)
  | drained hheld =>
    obtain ⟨htake, hdrop⟩ := htidy.take_eq
    refine h.emptied (hperm fun _ _ => by simp) rfl rfl ?_ hdrop
    change Increasing Line.call (s.writer.buffer.take _)
    rw [htake]
    exact h.buffer_increasing
  | wrote hheld =>
    have hlines := RecordingWriter.lines_flushLocked htidy.shaped s.held
    obtain ⟨-, hbuffer⟩ := RecordingWriter.flushLocked_frame htidy.shaped s.held
    refine ⟨(hperm fun _ _ => by simp).trans h.perm, h.kept_increasing, h.kept_lt,
      List.Pairwise.nil, ?_, fun line hline => ?_⟩
    · change Increasing Line.call (s.writer.flushLocked s.held).buffer
      rw [hbuffer]
      exact h.buffer_increasing
    · change line ∈ (s.writer.flushLocked s.held).lines ++ [] at hline
      change ∀ next ∈ (s.writer.flushLocked s.held).buffer, _
      rw [hlines, List.append_nil] at hline
      rw [hbuffer]
      exact h.behind line hline
  | flushed => exact h.emptied (hperm fun _ _ => by simp) rfl rfl h.held_increasing hempty
  | stopped => exact h.emptied (hperm fun _ _ => by simp) rfl rfl h.held_increasing hempty

/-! ## Order -/

/-- The step writes nothing ahead of a drained batch. -/
def Apart (s : LogRun) : Action → Prop
  | .flush | .stop => s.held = [] ∨ s.writer.buffer = []
  | _ => True

theorem increasing_flushed_iff {s : LogRun} (h : Numbered s) :
    Increasing Line.call (s.writer.lines ++ s.writer.buffer ++ s.held) ↔
      Ordered s ∧ (s.held = [] ∨ s.writer.buffer = []) := by
  constructor
  · intro hincreasing
    refine ⟨hincreasing.sublist ?_, ?_⟩
    · exact (List.sublist_append_left _ _).append_right _
    · by_contra hboth
      obtain ⟨hheld, hbuffer⟩ := not_or.mp hboth
      obtain ⟨line, hline⟩ := List.exists_mem_of_ne_nil _ hheld
      obtain ⟨next, hnext⟩ := List.exists_mem_of_ne_nil _ hbuffer
      -- the batch is older than the buffer, but would stand behind it
      have hbehind := h.behind line (List.mem_append_right _ hline) next hnext
      have hahead := (List.pairwise_append.mp hincreasing).2.2 next
        (List.mem_append_right _ hnext) line hline
      omega
  · rintro ⟨hordered, hheld | hbuffer⟩
    · rw [Ordered, hheld, List.append_nil] at hordered
      rw [hheld, List.append_nil]
      exact List.pairwise_append.mpr ⟨hordered, h.buffer_increasing,
        fun line hline => h.behind line (List.mem_append_left _ hline)⟩
    · rw [hbuffer, List.append_nil]
      exact hordered

theorem ordered_stepped_iff {s s' : LogRun} {a : Action} (htidy : Tidy [] s) (h : Numbered s)
    (hstep : Stepped s a s') : Ordered s' ↔ Ordered s ∧ Apart s a := by
  cases hstep with
  | enqueued frame size buffer result hoffer => exact ⟨fun hs => ⟨hs, trivial⟩, And.left⟩
  | drained hheld =>
    obtain ⟨htake, -⟩ := htidy.take_eq
    rw [Ordered, Ordered, hheld, List.append_nil]
    change Increasing Line.call (s.writer.lines ++ s.writer.buffer.take _) ↔ _
    rw [htake]
    constructor
    · exact fun hincreasing => ⟨hincreasing.sublist (List.sublist_append_left _ _), trivial⟩
    · rintro ⟨hlines, -⟩
      exact List.pairwise_append.mpr ⟨hlines, h.buffer_increasing,
        fun line hline => h.behind line (List.mem_append_left _ hline)⟩
  | wrote hheld =>
    rw [Ordered, Ordered]
    change Increasing Line.call ((s.writer.flushLocked s.held).lines ++ []) ↔ _
    rw [RecordingWriter.lines_flushLocked htidy.shaped, List.append_nil]
    exact ⟨fun hs => ⟨hs, trivial⟩, And.left⟩
  | flushed =>
    have hboth := increasing_flushed_iff h
    rw [← RecordingWriter.lines_flush htidy.shaped] at hboth
    exact hboth
  | stopped =>
    have hboth := increasing_flushed_iff h
    rw [← RecordingWriter.lines_flush htidy.shaped] at hboth
    exact hboth

/-! ## Runs -/

/-- No kept line has a negative sequence. -/
def Nonneg (s : LogRun) : Prop := ∀ line ∈ s.kept, 0 ≤ line.frame.sequence

/-- What an orderly run keeps. -/
structure Kept (s : LogRun) : Prop where
  tidy : Tidy [] s
  limited : s.writer.Limited
  numbered : Numbered s
  ordered : Ordered s
  nonneg : Nonneg s
  awaited : s.stopped = true → s.held = []

theorem tidy_start (config : RecordingConfig) : Tidy [] (start config []) :=
  ⟨RecordingWriter.shaped_fresh config, Nat.zero_le _, fun _ => rfl⟩

theorem kept_start (config : RecordingConfig) : Kept (start config []) := by
  refine ⟨tidy_start config, ?_, numbered_start config, List.Pairwise.nil, ?_, fun h => ?_⟩
  · intro file hfile
    change file ∈ [({ index := 1, lines := [] } : EventFile)] at hfile
    rw [List.mem_singleton.mp hfile]
    refine ⟨fun hpos => ?_, fun hpos => .inr ?_⟩
    · exact hpos.le
    · exact hpos.le
  · exact fun line hline => absurd hline List.not_mem_nil
  · exact absurd h Bool.false_ne_true

theorem limited_stepped {older : List EventFile} {s s' : LogRun} {a : Action}
    (htidy : Tidy older s) (h : s.writer.Limited) (hstep : Stepped s a s') : s'.writer.Limited := by
  have hflush : s.writer.flush.Limited :=
    RecordingWriter.Limited.flushLocked (htidy.shaped.withBuffer []) h s.writer.buffer
  cases hstep with
  | enqueued _ _ _ _ _ => exact h
  | drained _ => exact h
  | wrote _ => exact RecordingWriter.Limited.flushLocked htidy.shaped h s.held
  | flushed => exact hflush
  | stopped => exact hflush

theorem nonneg_stepped {s s' : LogRun} {a : Action} (h : Nonneg s) (hseq : Orderly s a)
    (hstep : Stepped s a s') : Nonneg s' := by
  cases hstep with
  | enqueued frame size buffer result hoffer =>
    intro line hline
    rcases List.mem_append.mp (List.mem_of_mem_filter hline) with hin | hin
    · exact h line hin
    · rw [List.mem_singleton.mp hin]
      exact hseq
  | drained _ => exact h
  | wrote _ => exact h
  | flushed => exact h
  | stopped => exact h

theorem Orderly.apart {s : LogRun} {a : Action} (h : Orderly s a) : Apart s a := by
  cases a with
  | enqueue frame size => trivial
  | drain => trivial
  | write => trivial
  | flush => exact h
  | stop => exact .inl h

theorem Kept.step {s s' : LogRun} {a : Action} (h : Kept s) (hseq : Orderly s a)
    (hstep : LogRun.step s a = some s') : Kept s' := by
  obtain ⟨hrunning, hstepped⟩ := stepped_of_step hstep
  refine ⟨h.tidy.stepped hrunning hstepped, limited_stepped h.tidy h.limited hstepped,
    h.numbered.stepped h.tidy hstepped,
    (ordered_stepped_iff h.tidy h.numbered hstepped).mpr ⟨h.ordered, hseq.apart⟩,
    nonneg_stepped h.nonneg hseq hstepped, fun hstopped => ?_⟩
  cases hstepped with
  | enqueued _ _ _ _ _ => exact absurd hstopped (by simp [hrunning])
  | drained _ => exact absurd hstopped (by simp [hrunning])
  | wrote _ => exact absurd hstopped (by simp [hrunning])
  | flushed => exact absurd hstopped (by simp [hrunning])
  | stopped => exact hseq

/-- The records of files without negative sequences describe them. -/
theorem forall₂_describes {files : List EventFile} {records : List ChunkState}
    (hrecords : files.map EventFile.record = records)
    (hnonneg : ∀ file ∈ files, ∀ q ∈ file.sequences, 0 ≤ q) :
    List.Forall₂ EventFile.Describes records files := by
  rw [← hrecords, List.forall₂_map_left_iff, List.forall₂_same]
  exact fun file hfile => EventFile.describes_record (hnonneg file hfile)

theorem Kept.sound {s : LogRun} (h : Kept s) : Sound s := by
  have hall := h.numbered.eq_kept h.ordered
  obtain ⟨closed, opened, hfiles, hclosed, hopened, -⟩ := h.tidy.shaped.parts
  rw [List.nil_append] at hfiles
  have hnonneg : ∀ file ∈ s.writer.files, ∀ q ∈ file.sequences, 0 ≤ q := by
    intro file hfile q hq
    obtain ⟨line, hline, rfl⟩ := List.mem_map.mp hq
    have hwritten : line ∈ s.writer.lines := List.mem_flatMap.mpr ⟨file, hfile, hline⟩
    refine h.nonneg line ?_
    rw [← hall, List.append_assoc]
    exact List.mem_append_left _ hwritten
  refine ⟨fun hstopped => ?_, h.tidy.shaped.indexed, closed, opened, hfiles,
    forall₂_describes hclosed fun file hfile => hnonneg file ?_,
    forall₂_describes hopened fun file hfile => hnonneg file ?_, fun file hfile => ?_⟩
  · rw [← hall, h.awaited hstopped, h.tidy.finished hstopped, List.append_nil, List.append_nil]
  · rw [hfiles]
    exact List.mem_append_left _ hfile
  · rw [hfiles]
    exact List.mem_append_right _ hfile
  · refine h.limited file ?_
    rw [hfiles]
    exact List.mem_append_left _ hfile

/-- In a run without overlaps the log is what it is to be, in every state. -/
theorem allStates_sound (config : RecordingConfig) (acts : List Action)
    (h : AllSteps step Orderly (start config []) acts) :
    AllStates step Sound (start config []) acts :=
  (allStates_of_allSteps (fun _ _ _ hkept hseq hstep => Kept.step hkept hseq hstep)
    (kept_start config) h).mono fun _ hkept => hkept.sound

/-! ## Instances -/

/-- Room for two lines, and no chunk limit. -/
def twoLines : RecordingConfig :=
  { bufferCapacity := 2, maxChunkBytes := 0, maxChunkEvents := 0, dropPolicy := .dropNewest
    capacity_pos := Nat.two_pos }

/-- A frame that only its sequence tells from others. -/
def frameAt (sequence : Int) : ReplayFrame :=
  { sequence := sequence, monotonicNs := 0, payloadType := "", payload := default }

/-- The worker writes one line, `stop` the next. -/
def twoWriters : List Action :=
  [.enqueue (frameAt 1) 10, .drain, .write, .enqueue (frameAt 2) 10, .stop]

theorem allStates_sound_twoWriters :
    AllSteps step Orderly (start twoLines []) twoWriters ∧
    AllStates step Sound (start twoLines []) twoWriters := by
  have horderly : AllSteps step Orderly (start twoLines []) twoWriters := by
    refine .cons rfl (by decide : (0 : Int) ≤ 1) (.cons rfl trivial (.cons rfl trivial
      (.cons rfl (by decide : (0 : Int) ≤ 2) (.cons rfl rfl trivial))))
  exact ⟨horderly, allStates_sound twoLines twoWriters horderly⟩

/-- A `flush` comes between the worker's `drain_batch` and its `_flush_locked`. -/
def flushBetween : List Action :=
  [.enqueue (frameAt 1) 10, .drain, .enqueue (frameAt 2) 10, .flush, .write, .stop]

theorem not_sound_flushBetween :
    ∃ s, exec step (start twoLines []) flushBetween = some s ∧ s.stopped = true ∧
      s.writer.lines.map Line.call = [1, 0] ∧ s.kept.map Line.call = [0, 1] ∧ ¬ Sound s := by
  refine ⟨_, rfl, rfl, rfl, rfl, fun hsound => ?_⟩
  have hlog := congrArg (List.map Line.call) (hsound.log rfl)
  exact absurd hlog (by decide : ([1, 0] : List Nat) ≠ [0, 1])

end LogRun

end AsyncViz.Replay.Recorder
