/-
  AsyncViz.Frontend.Live.Delivery

  That nothing which was made dirty is left undrawn: whenever no flush is pending the tracker is
  clean, and the renderer has been called after every push.

  A flush is pending exactly as long as the batcher waits for a callback that the event loop has
  (`Wired`), and every push asks for one.  What is drained goes to the frame scheduler, which drops
  it when the last request is not long enough ago: nobody keeps the batch.  So all goes well until
  a flush is throttled (`right_iff_unthrottled`), and till then the renderer gets every batch at
  once, with the reason of that batch (`Delivered`).
-/

import AsyncViz.Frontend.Live.Engine
import AsyncViz.Lib.Transition

namespace AsyncViz.Frontend.Live

open AsyncViz.Lib AsyncViz.Lib.Transition

/-! ## What is claimed of a run -/

/-- The regions that were pushed. -/
def pushedRegions (journal : List LiveEvent) : List DirtyRegion :=
  journal.filterMap fun
    | .pushed region => some region
    | .drained _ | .invalidated _ => none

/-- The regions of all batches, one batch after the other. -/
def drainedRegions (journal : List LiveEvent) : List DirtyRegion :=
  journal.flatMap fun
    | .drained regions => regions
    | .pushed _ | .invalidated _ => []

/-- After every push and every batch the renderer was called. -/
def Served (journal : List LiveEvent) : Prop :=
  ∀ before event after, journal = before ++ event :: after →
    (∃ reason, event = .invalidated reason) ∨ ∃ reason, .invalidated reason ∈ after

/-- Every region that was pushed is in one batch or still waits; a flush that is pending is one that
    the event loop will run; and where none is, nothing waits and the renderer was called. -/
structure Right (e : TimelineLiveEngine) : Prop where
  batched : pushedRegions e.journal = drainedRegions e.journal ++ e.tracker.regions
  microtask : e.batcher.pendingMicrotask = true → .flush ∈ e.loop.microtasks
  handle : ∀ handle, e.batcher.pendingRafHandle = some handle →
    e.loop.frames.get? handle = some .flush
  settled : e.batcher.isPending = false → e.tracker.regions = [] ∧ Served e.journal

/-- The frame scheduler lets a request through. -/
def Lets (s : TimelineFrameScheduler) (now : ℚ) : Prop :=
  s.maxFlushesPerSecond > 0 → tooSoon s.maxFlushesPerSecond s.lastRequestMs now = false

/-- If the action flushes dirty regions, then not too soon after the last flush. -/
def Unthrottled (e : TimelineLiveEngine) : LiveAction → Prop
  | .processReplayBatch _ now => Lets e.frameScheduler now
  | .flushNow now => e.tracker.regions ≠ [] → Lets e.frameScheduler now
  | .runMicrotask now =>
    e.batcher.pendingMicrotask = true → e.tracker.regions ≠ [] → Lets e.frameScheduler now
  | .runFrame handle now =>
    e.loop.frames.get? handle = some .flush → e.tracker.regions ≠ [] → Lets e.frameScheduler now
  | _ => True

/-! ## Journals -/

/-- A journal in which every batch goes to the renderer at once, and the regions that wait. -/
inductive Delivered : List LiveEvent → List DirtyRegion → Prop where
  | nil : Delivered [] []
  | push {journal : List LiveEvent} {waiting : List DirtyRegion} (region : DirtyRegion) :
    Delivered journal waiting → Delivered (journal ++ [.pushed region]) (waiting ++ [region])
  | flush {journal : List LiveEvent} {waiting : List DirtyRegion} :
    Delivered journal waiting →
      Delivered (journal ++ [.drained waiting,
        .invalidated (batchToRendererReason (coalesceRegions waiting))]) []

variable {journal : List LiveEvent} {waiting : List DirtyRegion}

theorem Delivered.batched (h : Delivered journal waiting) :
    pushedRegions journal = drainedRegions journal ++ waiting := by
  induction h with
  | nil => rfl
  | push region _ ih =>
    rw [pushedRegions, List.filterMap_append, drainedRegions, List.flatMap_append]
    show pushedRegions _ ++ [region] = drainedRegions _ ++ [] ++ _
    rw [ih, List.append_nil, List.append_assoc]
  | flush _ ih =>
    rw [pushedRegions, List.filterMap_append, drainedRegions, List.flatMap_append]
    show pushedRegions _ ++ [] = drainedRegions _ ++ (_ ++ []) ++ []
    rw [ih, List.append_nil, List.append_nil, List.append_nil]

/-- Several regions are pushed one after the other. -/
theorem Delivered.pushAll (h : Delivered journal waiting) (regions : List DirtyRegion) :
    Delivered (journal ++ regions.map .pushed) (waiting ++ regions) := by
  induction regions generalizing journal waiting with
  | nil => simpa using h
  | cons region regions ih =>
    have hrest := ih (h.push region)
    rwa [List.append_assoc, List.append_assoc] at hrest

/-- Where nothing waits, the last event is a call of the renderer. -/
theorem Delivered.served (h : Delivered journal []) : Served journal := by
  generalize hwaiting : ([] : List DirtyRegion) = waiting at h
  cases h with
  | nil =>
    intro before event after heq
    cases (List.nil_eq_append_iff.mp heq).2
  | push region h =>
    exact absurd hwaiting.symm (List.append_ne_nil_of_right_ne_nil _ (List.cons_ne_nil _ _))
  | @flush journal waiting h =>
    intro before event after heq
    rcases List.eq_nil_or_concat' after with rfl | ⟨rest, last, rfl⟩
    · have hlast := congrArg List.getLast? heq
      rw [List.getLast?_append, List.getLast?_append] at hlast
      exact .inl ⟨_, (Option.some.inj hlast).symm⟩
    · have hlast := congrArg List.getLast? heq
      rw [List.getLast?_append, ← List.cons_append, ← List.append_assoc, List.getLast?_append]
        at hlast
      have hsame := Option.some.inj hlast
      refine .inr ⟨_, List.mem_append_right _ (List.mem_singleton.mpr hsame)⟩

/-! ## The event loop -/

/-- What the batcher and the clock wait for is what the event loop has for them. -/
structure Wired (b : TimelineUpdateBatcher) (c : TimelineAnimationClock) (loop : LiveLoop) :
    Prop where
  microtask : b.pendingMicrotask = true → b.strategy = .microtask ∧ .flush ∈ loop.microtasks
  handle : ∀ handle, b.pendingRafHandle = some handle → loop.frames.get? handle = some .flush
  frame : ∀ handle, loop.frames.get? handle = some .flush → b.strategy = .raf
  tick : ∀ handle, c.pendingHandle = some handle → loop.frames.get? handle = some .clockTick

section Wiring

variable {b : TimelineUpdateBatcher} {c : TimelineAnimationClock} {loop loop' : LiveLoop}

theorem Wired.schedule (h : Wired b c loop) :
    Wired (b.schedule loop).1 c (b.schedule loop).2 ∧ (b.schedule loop).1.isPending = true := by
  unfold TimelineUpdateBatcher.schedule
  cases hstrategy : b.strategy with
  | microtask =>
    dsimp only
    by_cases hpending : b.pendingMicrotask = true
    · rw [if_pos hpending]
      refine ⟨h, ?_⟩
      rw [TimelineUpdateBatcher.isPending, hpending]
      rfl
    · rw [if_neg hpending]
      refine ⟨⟨fun _ => ⟨rfl, EventLoop.mem_queueMicrotask⟩, h.handle, ?_, h.tick⟩, rfl⟩
      exact fun handle hget => hstrategy.symm.trans (h.frame handle hget)
  | raf =>
    dsimp only
    cases hpending : b.pendingRafHandle with
    | some handle =>
      refine ⟨h, ?_⟩
      rw [TimelineUpdateBatcher.isPending, hpending]
      exact Bool.or_true _
    | none =>
      refine ⟨⟨?_, ?_, fun _ _ => rfl, ?_⟩, Bool.or_true _⟩
      · intro hmicrotask
        cases hstrategy.symm.trans (h.microtask hmicrotask).1
      · intro handle heq
        cases heq
        exact EventLoop.get?_raf_self
      · exact fun handle heq => EventLoop.get?_raf_of_get? (h.tick handle heq)

theorem Wired.cancelPending (h : Wired b c loop) :
    Wired (b.cancelPending loop).1 c (b.cancelPending loop).2 ∧
      (b.cancelPending loop).1.isPending = false := by
  unfold TimelineUpdateBatcher.cancelPending
  dsimp only
  cases hpending : b.pendingRafHandle with
  | none =>
    refine ⟨⟨?_, ?_, h.frame, h.tick⟩, rfl⟩
    · intro hfalse
      cases hfalse
    · intro handle heq
      cases heq
  | some handle =>
    refine ⟨⟨?_, ?_, ?_, ?_⟩, rfl⟩
    · intro hfalse
      cases hfalse
    · intro handle heq
      cases heq
    · exact fun other hget => h.frame other (EventLoop.get?_of_get?_caf hget)
    · intro other heq
      exact EventLoop.get?_caf_of_get? (h.tick other heq) (h.handle handle hpending)
        fun hsame => by cases hsame

/-- A microtask that has been taken is not pending any more. -/
theorem Wired.takeMicrotask (h : Wired b c loop)
    (htake : loop.takeMicrotask .flush = some loop') :
    Wired { b with pendingMicrotask := false } c loop' := by
  obtain ⟨-, hframes⟩ := EventLoop.takeMicrotask_eq_some htake
  refine ⟨?_, ?_, ?_, ?_⟩
  · intro hfalse
    cases hfalse
  · rw [hframes]
    exact h.handle
  · rw [hframes]
    exact h.frame
  · rw [hframes]
    exact h.tick

/-- A frame that has been taken for a flush is not pending any more, nor is any other. -/
theorem Wired.takeFlush (h : Wired b c loop) {handle : Nat}
    (hget : loop.frames.get? handle = some .flush) :
    Wired { b with pendingRafHandle := none } c (loop.caf handle) ∧
      ({ b with pendingRafHandle := none } : TimelineUpdateBatcher).isPending = false := by
  refine ⟨⟨h.microtask, ?_, ?_, ?_⟩, ?_⟩
  · intro other heq
    cases heq
  · exact fun other hother => h.frame other (EventLoop.get?_of_get?_caf hother)
  · intro other heq
    exact EventLoop.get?_caf_of_get? (h.tick other heq) hget fun hsame => by cases hsame
  · show (b.pendingMicrotask || false) = false
    rw [Bool.or_false]
    refine Bool.eq_false_iff.mpr fun hmicrotask => ?_
    cases (h.microtask hmicrotask).1.symm.trans (h.frame handle hget)

/-- A frame that has been taken for the clock leaves the batcher's. -/
theorem Wired.takeTick (h : Wired b c loop) {handle : Nat}
    (hget : loop.frames.get? handle = some .clockTick) :
    Wired b { c with pendingHandle := none } (loop.caf handle) := by
  refine ⟨h.microtask, ?_, ?_, ?_⟩
  · intro other heq
    exact EventLoop.get?_caf_of_get? (h.handle other heq) hget fun hsame => by cases hsame
  · exact fun other hother => h.frame other (EventLoop.get?_of_get?_caf hother)
  · intro other heq
    cases heq

/-- Only its handle ties the clock to the event loop. -/
theorem Wired.congr_clock (h : Wired b c loop) {c' : TimelineAnimationClock}
    (hsame : c'.pendingHandle = c.pendingHandle) : Wired b c' loop := by
  refine ⟨h.microtask, h.handle, h.frame, ?_⟩
  rw [hsame]
  exact h.tick

theorem Wired.scheduleNext (h : Wired b c loop) :
    Wired b (c.scheduleNext loop).1 (c.scheduleNext loop).2 := by
  unfold TimelineAnimationClock.scheduleNext
  by_cases hrunning : c.running = true
  · rw [if_pos hrunning]
    cases hpending : c.pendingHandle with
    | some handle => exact h
    | none =>
      refine ⟨h.microtask, ?_, ?_, ?_⟩
      · exact fun handle heq => EventLoop.get?_raf_of_get? (h.handle handle heq)
      · intro handle hget
        rcases EventLoop.get?_raf hget with hfalse | hget
        · cases hfalse
        · exact h.frame handle hget
      · intro handle heq
        cases heq
        exact EventLoop.get?_raf_self
  · rw [if_neg hrunning]
    exact h

theorem Wired.start (h : Wired b c loop) : Wired b (c.start loop).1 (c.start loop).2 := by
  unfold TimelineAnimationClock.start
  by_cases hrunning : c.running = true
  · rw [if_pos hrunning]
    exact h
  · rw [if_neg hrunning]
    exact (h.congr_clock rfl : Wired b { c with running := true } loop).scheduleNext

theorem Wired.stop (h : Wired b c loop) : Wired b (c.stop loop).1 (c.stop loop).2 := by
  unfold TimelineAnimationClock.stop
  dsimp only
  cases hpending : c.pendingHandle with
  | none => exact h.congr_clock hpending.symm
  | some handle => exact (h.takeTick (h.tick handle hpending)).congr_clock rfl

theorem Wired.setActiveSegmentCount (h : Wired b c loop) (count : Nat) :
    Wired b (c.setActiveSegmentCount loop count).1 (c.setActiveSegmentCount loop count).2 := by
  have hnext : Wired b { c with activeCount := count } loop := h.congr_clock rfl
  unfold TimelineAnimationClock.setActiveSegmentCount
  dsimp only
  split
  · exact h
  split
  · exact hnext.start
  split
  · exact hnext.stop
  · exact hnext

theorem Wired.pause (h : Wired b c loop) : Wired b (c.pause loop).1 (c.pause loop).2 := by
  unfold TimelineAnimationClock.pause
  split
  · exact h.stop
  · exact h

theorem Wired.resume (h : Wired b c loop) : Wired b (c.resume loop).1 (c.resume loop).2 := by
  unfold TimelineAnimationClock.resume
  split
  · exact h
  · exact h.start

end Wiring

/-! ## The engine -/

section Engine

variable {e e' : TimelineLiveEngine} {now : ℚ}

/-- What holds of an engine none of whose flushes was throttled. -/
structure Kept (e : TimelineLiveEngine) : Prop where
  wired : Wired e.batcher e.animationClock e.loop
  delivered : Delivered e.journal e.tracker.regions
  pending : e.tracker.regions ≠ [] → e.batcher.isPending = true

theorem Kept.right (h : Kept e) : Right e := by
  refine ⟨h.delivered.batched, fun hmicrotask => (h.wired.microtask hmicrotask).2, h.wired.handle,
    fun hidle => ?_⟩
  have hclean : e.tracker.regions = [] := by
    by_contra hdirty
    exact Bool.false_ne_true (hidle.symm.trans (h.pending hdirty))
  have hdelivered := h.delivered
  rw [hclean] at hdelivered
  exact ⟨hclean, hdelivered.served⟩

theorem kept_new (strategy : ScheduleStrategy) (maxFlushesPerSecond maxTicksPerSecond : ℚ)
    (startLive : Bool) :
    Kept (.new strategy maxFlushesPerSecond maxTicksPerSecond startLive) := by
  refine ⟨⟨?_, ?_, ?_, ?_⟩, .nil, fun hdirty => absurd rfl hdirty⟩
  · intro hfalse
    cases hfalse
  · intro handle heq
    cases heq
  · intro handle heq
    cases heq
  · intro handle heq
    cases heq

/-! ### Pushes -/

theorem delivered_track (h : Delivered e.journal e.tracker.regions)
    {tracker : TimelineInvalidationTracker} (hextends : Extends e.tracker tracker) :
    Delivered (e.track tracker).journal (e.track tracker).tracker.regions := by
  obtain ⟨new, hnew⟩ := hextends
  show Delivered (e.journal ++ (tracker.regions.drop e.tracker.regions.length).map .pushed)
    tracker.regions
  rw [hnew, List.drop_left]
  exact h.pushAll new

/-- A flush is scheduled where something waits, whether or not one was pending. -/
theorem kept_scheduleFlush (hwired : Wired e.batcher e.animationClock e.loop)
    (hdelivered : Delivered e.journal e.tracker.regions) : Kept e.scheduleFlush := by
  unfold TimelineLiveEngine.scheduleFlush
  by_cases hdirty : e.tracker.isDirty = true
  · rw [if_pos hdirty]
    obtain ⟨hschedule, hpending⟩ := hwired.schedule
    exact ⟨hschedule, hdelivered, fun _ => hpending⟩
  · rw [if_neg hdirty]
    exact ⟨hwired, hdelivered, fun h =>
      absurd (TimelineInvalidationTracker.isDirty_iff.mpr h) hdirty⟩

theorem Kept.invalidate (h : Kept e) (region : DirtyRegion) : Kept (e.invalidate region) :=
  kept_scheduleFlush h.wired (delivered_track h.delivered (extends_push _ region))

/-- An envelope that pushes something says so. -/
theorem Kept.processEnvelope (h : Kept e) (envelope : RuntimeEnvelope) :
    Kept (e.processEnvelope envelope) := by
  obtain ⟨hextends, hsame⟩ := process_spec envelope e.tracker (-1)
  unfold TimelineLiveEngine.processEnvelope
  dsimp only
  by_cases hinvalidated : (process envelope e.tracker).1.invalidated = true
  · rw [if_pos hinvalidated]
    exact kept_scheduleFlush h.wired (delivered_track h.delivered hextends)
  · rw [if_neg hinvalidated, hsame (Bool.eq_false_iff.mpr hinvalidated)]
    exact ⟨h.wired, delivered_track h.delivered (.refl _), h.pending⟩

/-! ### Flushes -/

theorem lets_iff {s : TimelineFrameScheduler} : Lets s now ↔ (s.requestFrame now).1 = true := by
  unfold Lets TimelineFrameScheduler.requestFrame
  by_cases hcap : s.maxFlushesPerSecond > 0
  · rw [if_pos hcap]
    cases htooSoon : tooSoon s.maxFlushesPerSecond s.lastRequestMs now with
    | true => exact iff_of_false (fun h => by cases h hcap) Bool.false_ne_true
    | false => exact iff_of_true (fun _ => rfl) rfl
  · rw [if_neg hcap]
    exact iff_of_true (fun h => absurd h hcap) rfl

theorem flush_clean (hclean : e.tracker.regions = []) : e.flushBatchInternal now = e := by
  refine if_neg fun hdirty => ?_
  exact TimelineInvalidationTracker.isDirty_iff.mp hdirty hclean

/-- A flush drains all that waits, and the renderer is called if the scheduler lets it. -/
theorem flush_dirty (hdirty : e.tracker.regions ≠ []) :
    e.flushBatchInternal now =
      { e with
        tracker := {}
        frameScheduler := (e.frameScheduler.requestFrame now).2
        journal := e.journal ++ .drained e.tracker.regions ::
          if (e.frameScheduler.requestFrame now).1 then
            [.invalidated (batchToRendererReason (coalesceRegions e.tracker.regions))]
          else [] } := by
  unfold TimelineLiveEngine.flushBatchInternal
  rw [if_pos (TimelineInvalidationTracker.isDirty_iff.mpr hdirty)]
  dsimp only [TimelineInvalidationTracker.drain]
  rw [if_pos (batchIsActionable_iff.mpr hdirty)]
  cases (e.frameScheduler.requestFrame now).1 with
  | true => rw [if_pos rfl, if_pos rfl, List.append_assoc, List.singleton_append]
  | false => rw [if_neg Bool.false_ne_true, if_neg Bool.false_ne_true]

theorem kept_flush (hwired : Wired e.batcher e.animationClock e.loop)
    (hdelivered : Delivered e.journal e.tracker.regions)
    (hlets : e.tracker.regions ≠ [] → Lets e.frameScheduler now) :
    Kept (e.flushBatchInternal now) := by
  by_cases hclean : e.tracker.regions = []
  · rw [flush_clean hclean]
    exact ⟨hwired, hdelivered, fun hdirty => absurd hclean hdirty⟩
  · rw [flush_dirty hclean, if_pos (lets_iff.mp (hlets hclean))]
    exact ⟨hwired, hdelivered.flush, fun hdirty => absurd rfl hdirty⟩

/-- A batch that the scheduler does not let through is lost. -/
theorem not_right_flush (hidle : e.batcher.isPending = false)
    (hnot : ¬ (e.tracker.regions ≠ [] → Lets e.frameScheduler now)) :
    ¬ Right (e.flushBatchInternal now) := by
  obtain ⟨hdirty, hlets⟩ := Classical.not_imp.mp hnot
  intro hright
  rw [flush_dirty hdirty, if_neg fun h => hlets (lets_iff.mpr h)] at hright
  obtain ⟨-, hserved⟩ := hright.settled hidle
  rcases hserved e.journal (.drained e.tracker.regions) [] rfl with ⟨reason, hreason⟩ |
    ⟨reason, hreason⟩
  · cases hreason
  · cases hreason

/-! ### Steps -/

/-- The clock only asks for frames of its own. -/
theorem Kept.of_clock (h : Kept e) {replayCoordinator : TimelineReplayCoordinator}
    {animationClock : TimelineAnimationClock} {loop : LiveLoop}
    (hwired : Wired e.batcher animationClock loop) :
    Kept { e with
      replayCoordinator := replayCoordinator
      animationClock := animationClock
      loop := loop } :=
  ⟨hwired, h.delivered, h.pending⟩

theorem Kept.scheduleNext (h : Kept e) : Kept e.scheduleNext := h.of_clock h.wired.scheduleNext

/-- A tick of the clock pushes a region, or does nothing to the tracker. -/
theorem Kept.clockTick (h : Kept e) {loop : LiveLoop}
    (hwired : Wired e.batcher { e.animationClock with pendingHandle := none } loop) :
    Kept ({ e with loop := loop }.clockTick now) := by
  have hticked : ∀ lastTickMs, Kept { e with
      loop := loop
      animationClock := { e.animationClock with
        pendingHandle := none
        lastTickMs := lastTickMs } } :=
    fun _ => h.of_clock (hwired.congr_clock rfl)
  unfold TimelineLiveEngine.clockTick
  dsimp only
  split
  · split
    · split
      · exact (hticked _).scheduleNext
      · exact ((hticked _).invalidate _).scheduleNext
    · exact ((hticked _).invalidate _).scheduleNext
  · exact hticked _

theorem extends_applyReplayBatch (c : TimelineReplayCoordinator)
    (envelopes : List RuntimeEnvelope) (t : TimelineInvalidationTracker) :
    Extends t (c.applyReplayBatch envelopes t).2 ∧
      (c.applyReplayBatch envelopes t).2.regions ≠ [] :=
  ⟨(extends_applyEnvelopes envelopes t 0).trans (extends_push _ _),
    List.append_ne_nil_of_right_ne_nil _ (List.cons_ne_nil _ _)⟩

/-- What a step can do: keep everything, or flush, with nothing pending any more. -/
theorem step_cases (h : Kept e) {a : LiveAction} (hstep : e.step a = some e') :
    (Kept e' ∧ Unthrottled e a) ∨
      ∃ (mid : TimelineLiveEngine) (now : ℚ), e' = mid.flushBatchInternal now ∧
        Wired mid.batcher mid.animationClock mid.loop ∧
        Delivered mid.journal mid.tracker.regions ∧ mid.batcher.isPending = false ∧
        (Unthrottled e a ↔ (mid.tracker.regions ≠ [] → Lets mid.frameScheduler now)) := by
  cases a with
  | processEnvelope envelope =>
    cases hstep
    exact .inl ⟨h.processEnvelope envelope, trivial⟩
  | processReplayBatch envelopes now =>
    cases hstep
    obtain ⟨hextends, hdirty⟩ := extends_applyReplayBatch e.replayCoordinator.beginReplay
      envelopes e.tracker
    obtain ⟨hwired, hidle⟩ := h.wired.cancelPending
    refine .inr ⟨_, now, rfl, hwired, delivered_track h.delivered hextends, hidle, ?_⟩
    exact ⟨fun hlets _ => hlets, fun hlets => hlets hdirty⟩
  | goLive =>
    cases hstep
    exact .inl ⟨⟨h.wired, h.delivered, h.pending⟩, trivial⟩
  | pause =>
    cases hstep
    exact .inl ⟨h.of_clock h.wired.pause, trivial⟩
  | resume =>
    cases hstep
    exact .inl ⟨h.of_clock h.wired.resume, trivial⟩
  | invalidateAll =>
    cases hstep
    exact .inl ⟨h.invalidate _, trivial⟩
  | invalidateRow taskId sequence =>
    cases hstep
    exact .inl ⟨h.invalidate _, trivial⟩
  | invalidateSegment segmentId taskId sequence =>
    cases hstep
    exact .inl ⟨h.invalidate _, trivial⟩
  | setActiveSegmentCount count =>
    cases hstep
    exact .inl ⟨h.of_clock (h.wired.setActiveSegmentCount count), trivial⟩
  | scheduleFlush =>
    cases hstep
    exact .inl ⟨kept_scheduleFlush h.wired h.delivered, trivial⟩
  | flushNow now =>
    cases hstep
    obtain ⟨hwired, hidle⟩ := h.wired.cancelPending
    exact .inr ⟨_, now, rfl, hwired, h.delivered, hidle, Iff.rfl⟩
  | runMicrotask now =>
    obtain ⟨loop, htake, rfl⟩ := Option.map_eq_some_iff.mp hstep
    have hwired := h.wired.takeMicrotask htake
    cases hpending : e.batcher.pendingMicrotask with
    | true =>
      have hflush : ({ e with loop := loop } : TimelineLiveEngine).runMicrotaskFlush now =
          ({ e with
            loop := loop
            batcher := { e.batcher with pendingMicrotask := false } } :
              TimelineLiveEngine).flushBatchInternal now := if_pos hpending
      refine .inr ⟨_, now, hflush, hwired, h.delivered, ?_, ?_⟩
      · show e.batcher.pendingRafHandle.isSome = false
        refine Bool.eq_false_iff.mpr fun hsome => ?_
        obtain ⟨handle, hhandle⟩ := Option.isSome_iff_exists.mp hsome
        have hraf := h.wired.frame handle (h.wired.handle handle hhandle)
        cases (h.wired.microtask hpending).1.symm.trans hraf
      · exact ⟨fun hlets => hlets hpending, fun hlets _ => hlets⟩
    | false =>
      have hskip : ({ e with loop := loop } : TimelineLiveEngine).runMicrotaskFlush now =
          { e with loop := loop } := if_neg (Bool.eq_false_iff.mp hpending)
      have hsame : ({ e.batcher with pendingMicrotask := false } : TimelineUpdateBatcher) =
          e.batcher := by
        rw [← hpending]
      rw [hsame] at hwired
      rw [hskip]
      refine .inl ⟨h.of_clock hwired, fun htrue => ?_⟩
      cases hpending.symm.trans htrue
  | runFrame handle now =>
    obtain ⟨⟨cb, loop⟩, htake, rfl⟩ := Option.map_eq_some_iff.mp hstep
    obtain ⟨hget, rfl⟩ := EventLoop.takeFrame_eq_some htake
    cases cb with
    | flush =>
      obtain ⟨hwired, hidle⟩ := h.wired.takeFlush hget
      refine .inr ⟨_, now, rfl, hwired, h.delivered, hidle, ?_⟩
      exact ⟨fun hlets => hlets hget, fun hlets _ => hlets⟩
    | clockTick =>
      refine .inl ⟨h.clockTick (h.wired.takeTick hget), fun hflush => ?_⟩
      cases hget.symm.trans hflush

theorem Kept.step (h : Kept e) {a : LiveAction} (hlets : Unthrottled e a)
    (hstep : e.step a = some e') : Kept e' := by
  rcases step_cases h hstep with ⟨hkept, -⟩ | ⟨mid, now, rfl, hwired, hdelivered, -, hiff⟩
  · exact hkept
  · exact kept_flush hwired hdelivered (hiff.mp hlets)

/-- Nothing is left undrawn throughout a run exactly if no flush of it is throttled. -/
theorem right_iff_unthrottled (strategy : ScheduleStrategy)
    (maxFlushesPerSecond maxTicksPerSecond : ℚ) (startLive : Bool) {acts : List LiveAction}
    (hrun : exec TimelineLiveEngine.step
      (.new strategy maxFlushesPerSecond maxTicksPerSecond startLive) acts = some e) :
    AllStates TimelineLiveEngine.step Right
        (.new strategy maxFlushesPerSecond maxTicksPerSecond startLive) acts ↔
      AllSteps TimelineLiveEngine.step Unthrottled
        (.new strategy maxFlushesPerSecond maxTicksPerSecond startLive) acts := by
  refine allStates_iff_allSteps_of_keep (K := Kept) (fun _ h => h.right)
    (fun _ _ _ h hlets hstep => h.step hlets hstep) (fun e a e' h hnot hstep => ?_)
    (kept_new strategy maxFlushesPerSecond maxTicksPerSecond startLive) hrun
  rcases step_cases h hstep with ⟨-, hlets⟩ | ⟨mid, now, rfl, -, -, hidle, hiff⟩
  · exact absurd hlets hnot
  · exact not_right_flush hidle fun hlets => hnot (hiff.mpr hlets)

/-- A row is made dirty twice within a millisecond, and both times flushed. -/
private def twoRows : List LiveAction :=
  [.invalidateRow "task" none, .runMicrotask 0, .invalidateRow "task" none, .runMicrotask 1]

/-- The same with 17 ms in between. -/
private def twoRowsApart : List LiveAction :=
  [.invalidateRow "task" none, .runMicrotask 0, .invalidateRow "task" none, .runMicrotask 17]

/-- At 60 a second that is enough, and both flushes reach the renderer. -/
theorem right_twoRows :
    (exec TimelineLiveEngine.step (.new .microtask 60 0 true) twoRowsApart).isSome = true ∧
      AllStates TimelineLiveEngine.step Right (.new .microtask 60 0 true) twoRowsApart := by
  refine ⟨rfl, (right_iff_unthrottled .microtask 60 0 true rfl).mpr ?_⟩
  exact .cons rfl trivial (.cons rfl (fun _ _ _ => by decide +kernel) (.cons rfl trivial
    (.cons rfl (fun _ _ _ => by decide +kernel) trivial)))

/-- With at most 60 a second the second one is lost: nothing is pending, and nothing comes. -/
theorem not_right_of_throttled :
    ¬ AllStates TimelineLiveEngine.step Right (.new .microtask 60 0 true) twoRows := by
  intro h
  have hlast := (((h.2 _ rfl).2 _ rfl).2 _ rfl).2 _ rfl
  have hserved := (hlast.settled (by decide +kernel)).2
  let region : DirtyRegion := { reason := .row, taskIds := some ["task"] }
  rcases hserved [.pushed region, .drained [region], .invalidated .data, .pushed region]
    (.drained [region]) [] (by decide +kernel) with ⟨reason, hreason⟩ | ⟨reason, hreason⟩
  · cases hreason
  · cases hreason

end Engine

end AsyncViz.Frontend.Live
