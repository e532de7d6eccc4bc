/-
  AsyncViz.Frontend.Virtualization.CacheSoundness

  The caches of the virtualization engine over whole runs of calls.

  A window is a function of its key, and a cached frame is the one that its key
  and the dataset of the current sequence give, since a change of the sequence
  clears the cache.  The spatial index has validity markers of its own, a
  sequence and a length, and a dataset without segments leaves both them and the
  index as they are: a later dataset of that sequence and length is answered by
  the index of the earlier one.  `IndexFits` says that this does not show, and
  `agrees_iff_indexFits` that nothing else goes wrong.
-/

import AsyncViz.Frontend.Virtualization.Engine
import AsyncViz.Lib.Transition

namespace AsyncViz.Frontend.Timeline

open AsyncViz.Lib AsyncViz.Lib.Transition TimelineSegmentSpatialIndex

variable {TRow TSegment : Type _}

/-! ## A window is a function of its key -/

namespace ViewportKey

/-- The camera and the viewport whose numbers the key joins. -/
def coords (key : ViewportKey) : TimelineCoordinateSystem :=
  { camera :=
      { timeStart := key.timeStart
        timeEnd := key.timeEnd
        rowStart := key.rowStart
        rowHeight := key.rowHeight }
    viewport :=
      { cssWidth := key.cssWidth
        cssHeight := key.cssHeight
        devicePixelRatio := key.devicePixelRatio } }

/-- The window of the key. -/
def window (key : ViewportKey) : TimelineViewportWindowSnapshot :=
  { rows := resolveRowWindow key.coords key.totalRows key.rowOverscan
    time := resolveTimeWindow key.coords key.timeOverscanSeconds
    key := key }

end ViewportKey

/-- The last window, if one is kept, is that of its key. -/
def TimelineViewportWindow.Kept (w : TimelineViewportWindow) : Prop :=
  ∀ last, w.last = some last → last = last.key.window

/-- Kept or resolved anew, the window is that of the key. -/
theorem TimelineViewportWindow.resolve_spec {w : TimelineViewportWindow} (h : w.Kept)
    (coords : TimelineCoordinateSystem) (totalRows : Nat) (sequence : Int) :
    (w.resolve coords totalRows sequence).1 =
        (makeKey coords totalRows sequence w.overscan).window ∧
      (w.resolve coords totalRows sequence).2.Kept ∧
      (w.resolve coords totalRows sequence).2.overscan = w.overscan := by
  rw [TimelineViewportWindow.resolve.eq_def]
  have hnew : TimelineViewportWindow.Kept
      { w with last := some (makeKey coords totalRows sequence w.overscan).window } := by
    intro last hlast
    rw [← Option.some.inj hlast]
    rfl
  cases hlast : w.last with
  | none => exact ⟨rfl, hnew, rfl⟩
  | some last =>
    dsimp only
    split
    · next hkey =>
      refine ⟨?_, h, rfl⟩
      rw [← hkey]
      exact h last hlast
    · exact ⟨rfl, hnew, rfl⟩

/-- An overscan that changes drops the window. -/
theorem TimelineViewportWindow.kept_setOverscan {w : TimelineViewportWindow} (h : w.Kept)
    (overscan : PartialOverscan) : (w.setOverscan overscan).Kept := by
  rw [TimelineViewportWindow.setOverscan]
  split
  · intro last hlast
    cases hlast
  · exact h

/-! ## What a fresh engine finds -/

/-- The segments that a windowing without an index of its own finds. -/
def freshSegments [SpatialIndexable TSegment] (options : SegmentWindowingOptions)
    (segments : List TSegment) (sequence : Int) (window : TimelineViewportWindowSnapshot) :
    List TSegment :=
  (({ options := options } : TimelineSegmentWindowing TSegment).resolve segments sequence
    window.rows.toTimelineRowWindow window.time).1

/-- The frame of a key and a dataset. -/
def freshFrame [SpatialIndexable TSegment] (options : SegmentWindowingOptions) (key : ViewportKey)
    (inputs : VirtualizationInputs TRow TSegment) : VirtualizationFrame TRow TSegment :=
  { window := key.window
    rows := cullRowsByWindow inputs.rows key.window.rows.toTimelineRowWindow
    segments := freshSegments options inputs.segments inputs.sequence key.window
    rowsConsidered := inputs.rows.length
    segmentsConsidered := inputs.segments.length }

/-- The index that is kept answers for the segments, where it is asked: in a window in which
    its markers are those of the inputs, it finds what an index of the segments finds. -/
def TimelineSegmentWindowing.Answers [SpatialIndexable TSegment]
    (w : TimelineSegmentWindowing TSegment) (segments : List TSegment) (sequence : Int)
    (window : TimelineViewportWindowSnapshot) : Prop :=
  segments.length ≠ 0 → w.options.disableIndex = false →
    w.options.indexMinSegments ≤ segments.length →
    w.builtForSequence = sequence → w.builtForLength = segments.length →
    ∀ index, w.index = some index →
      cullSegmentsIndexed index window.rows.toTimelineRowWindow window.time =
        cullSegmentsIndexed (new segments) window.rows.toTimelineRowWindow window.time

/-- The windowing finds what a fresh one finds exactly where its index answers. -/
theorem TimelineSegmentWindowing.resolve_eq_fresh_iff [SpatialIndexable TSegment]
    (w : TimelineSegmentWindowing TSegment) (segments : List TSegment) (sequence : Int)
    (window : TimelineViewportWindowSnapshot) :
    (w.resolve segments sequence window.rows.toTimelineRowWindow window.time).1 =
        freshSegments w.options segments sequence window ↔
      w.Answers segments sequence window := by
  rw [Answers, freshSegments, TimelineSegmentWindowing.resolve.eq_def,
    TimelineSegmentWindowing.resolve.eq_def]
  by_cases hempty : segments.length = 0
  · rw [if_pos hempty, if_pos hempty]
    exact iff_of_true rfl fun h => absurd hempty h
  rw [if_neg hempty, if_neg hempty]
  dsimp only
  by_cases hlinear : w.options.disableIndex ∨ segments.length < w.options.indexMinSegments
  · rw [if_pos hlinear, if_pos hlinear]
    refine iff_of_true rfl fun _ henabled hmin => ?_
    rcases hlinear with hdisabled | hsmall
    · rw [henabled] at hdisabled
      cases hdisabled
    · exact absurd hsmall (Nat.not_lt.mpr hmin)
  rw [if_neg hlinear, if_neg hlinear]
  obtain ⟨henabled, hmin⟩ := not_or.mp hlinear
  cases hindex : w.index with
  | none => exact iff_of_true rfl fun _ _ _ _ _ index hsome => by cases hsome
  | some index =>
    by_cases hbuilt : w.builtForSequence = sequence ∧ w.builtForLength = segments.length
    · rw [decide_eq_true hbuilt]
      constructor
      · intro heq _ _ _ _ _ other hother
        rw [← Option.some.inj hother]
        exact heq
      · intro hanswers
        exact hanswers hempty (Bool.eq_false_iff.mpr henabled) (Nat.not_lt.mp hmin) hbuilt.1
          hbuilt.2 index rfl
    · rw [decide_eq_false hbuilt]
      exact iff_of_true rfl fun _ _ _ hsequence hlength => absurd ⟨hsequence, hlength⟩ hbuilt

theorem TimelineSegmentWindowing.resolve_options [SpatialIndexable TSegment]
    (w : TimelineSegmentWindowing TSegment) (segments : List TSegment) (sequence : Int)
    (rowWindow : TimelineRowWindow) (timeWindow : TimelineTimeWindow) :
    (w.resolve segments sequence rowWindow timeWindow).2.options = w.options := by
  rw [TimelineSegmentWindowing.resolve.eq_def]
  split_ifs
  · rfl
  · rfl
  · split <;> rfl

/-! ## One resolution -/

namespace TimelineVirtualizationEngine

variable [SpatialIndexable TSegment] {e : TimelineVirtualizationEngine TRow TSegment}
  {coords : TimelineCoordinateSystem} {inputs : VirtualizationInputs TRow TSegment}
  {key : ViewportKey}

/-- A cached frame is returned as it is. -/
theorem resolveFrame_of_cached (hkept : e.viewportWindow.Kept)
    (hkey : key = makeKey coords inputs.rows.length inputs.sequence e.viewportWindow.overscan)
    {frame : VirtualizationFrame TRow TSegment}
    (hcached : (e.cache.syncSequence inputs.sequence).map.get? key = some frame) :
    e.resolveFrame coords inputs =
      (frame,
        { e with
          viewportWindow :=
            (e.viewportWindow.resolve coords inputs.rows.length inputs.sequence).2
          cache :=
            { e.cache.syncSequence inputs.sequence with
              map := (e.cache.syncSequence inputs.sequence).map.touch key } }) := by
  obtain ⟨hwindow, -, -⟩ := TimelineViewportWindow.resolve_spec hkept coords inputs.rows.length
    inputs.sequence
  rw [← hkey] at hwindow
  have hget : (e.cache.syncSequence inputs.sequence).get key =
      (some frame, { e.cache.syncSequence inputs.sequence with
        map := (e.cache.syncSequence inputs.sequence).map.touch key }) := by
    rw [TimelineVirtualizationCache.get, hcached]
  rw [resolveFrame.eq_def]
  dsimp only
  rw [hwindow, show key.window.key = key from rfl, hget]

/-- Any other frame is computed from the inputs and cached. -/
theorem resolveFrame_of_missed (hkept : e.viewportWindow.Kept)
    (hkey : key = makeKey coords inputs.rows.length inputs.sequence e.viewportWindow.overscan)
    (hmissed : (e.cache.syncSequence inputs.sequence).map.get? key = none) :
    e.resolveFrame coords inputs =
      let resolved := e.segmentWindowing.resolve inputs.segments inputs.sequence
        key.window.rows.toTimelineRowWindow key.window.time
      let frame : VirtualizationFrame TRow TSegment :=
        { window := key.window
          rows := cullRowsByWindow inputs.rows key.window.rows.toTimelineRowWindow
          segments := resolved.1
          rowsConsidered := inputs.rows.length
          segmentsConsidered := inputs.segments.length }
      (frame,
        { viewportWindow := (e.viewportWindow.resolve coords inputs.rows.length inputs.sequence).2
          segmentWindowing := resolved.2
          cache := (e.cache.syncSequence inputs.sequence).set key frame }) := by
  obtain ⟨hwindow, -, -⟩ := TimelineViewportWindow.resolve_spec hkept coords inputs.rows.length
    inputs.sequence
  rw [← hkey] at hwindow
  have hget : (e.cache.syncSequence inputs.sequence).get key =
      (none, e.cache.syncSequence inputs.sequence) := by
    rw [TimelineVirtualizationCache.get, hmissed]
  rw [resolveFrame.eq_def]
  dsimp only
  rw [hwindow, show key.window.key = key from rfl, hget]

end TimelineVirtualizationEngine

/-! ## Runs of calls -/

/-- An engine and the inputs of its last `resolveFrame`. -/
structure VirtualizationRun (TRow TSegment : Type _) where
  engine : TimelineVirtualizationEngine TRow TSegment
  last : Option (VirtualizationInputs TRow TSegment) := none

/-- A call on the engine. -/
inductive VirtualizationCall (TRow TSegment : Type _) where
  | resolveFrame (coords : TimelineCoordinateSystem) (inputs : VirtualizationInputs TRow TSegment)
  | setOverscan (overscan : PartialOverscan)
  | invalidate

/-- The part of the options that the windowing is made with. -/
def TimelineVirtualizationEngineOptions.windowing (options : TimelineVirtualizationEngineOptions) :
    SegmentWindowingOptions :=
  { disableIndex := options.disableSpatialIndex, indexMinSegments := options.indexMinSegments }

/-- A new engine with the options of the old one and its overscan of now. -/
def TimelineVirtualizationEngine.fresh (e : TimelineVirtualizationEngine TRow TSegment)
    (options : TimelineVirtualizationEngineOptions) : TimelineVirtualizationEngine TRow TSegment :=
  .new { options with
    overscan :=
      { rowOverscan := some e.viewportWindow.overscan.rowOverscan
        timeOverscanSeconds := some e.viewportWindow.overscan.timeOverscanSeconds } }

namespace VirtualizationRun

/-- The run before its first call. -/
def start (options : TimelineVirtualizationEngineOptions) : VirtualizationRun TRow TSegment :=
  { engine := .new options }

variable [SpatialIndexable TSegment]

/-- One call. -/
def step (r : VirtualizationRun TRow TSegment) :
    VirtualizationCall TRow TSegment → Option (VirtualizationRun TRow TSegment)
  | .resolveFrame coords inputs =>
    some { engine := (r.engine.resolveFrame coords inputs).2, last := some inputs }
  | .setOverscan overscan => some { r with engine := r.engine.setOverscan overscan }
  | .invalidate => some { r with engine := r.engine.invalidate }

/-- Rows and segments are those of the last call as long as the sequence is. -/
def ChangesTogether (r : VirtualizationRun TRow TSegment) :
    VirtualizationCall TRow TSegment → Prop
  | .resolveFrame _ inputs =>
    ∀ last, r.last = some last → inputs.sequence = last.sequence → inputs = last
  | .setOverscan _ | .invalidate => True

/-- The call returns the frame that a fresh engine returns. -/
def Agrees (options : TimelineVirtualizationEngineOptions) (r : VirtualizationRun TRow TSegment) :
    VirtualizationCall TRow TSegment → Prop
  | .resolveFrame coords inputs =>
    (r.engine.resolveFrame coords inputs).1 =
      ((r.engine.fresh options).resolveFrame coords inputs).1
  | .setOverscan _ | .invalidate => True

/-- The key of the call's window. -/
def key (r : VirtualizationRun TRow TSegment) (coords : TimelineCoordinateSystem)
    (inputs : VirtualizationInputs TRow TSegment) : ViewportKey :=
  makeKey coords inputs.rows.length inputs.sequence r.engine.viewportWindow.overscan

/-- Where the frame is not cached, the spatial index that is kept answers for the segments. -/
def IndexFits (r : VirtualizationRun TRow TSegment) : VirtualizationCall TRow TSegment → Prop
  | .resolveFrame coords inputs =>
    (r.engine.cache.syncSequence inputs.sequence).map.get? (r.key coords inputs) = none →
      r.engine.segmentWindowing.Answers inputs.segments inputs.sequence
        (r.key coords inputs).window
  | .setOverscan _ | .invalidate => True

/-- What the caches hold as long as no answer was wrong. -/
structure Kept (options : TimelineVirtualizationEngineOptions)
    (r : VirtualizationRun TRow TSegment) : Prop where
  overscan : 0 ≤ r.engine.viewportWindow.overscan.rowOverscan ∧
    0 ≤ r.engine.viewportWindow.overscan.timeOverscanSeconds
  windowing : r.engine.segmentWindowing.options = options.windowing
  window : r.engine.viewportWindow.Kept
  frames : ∀ key frame, r.engine.cache.map.get? key = some frame →
    ∃ last, r.last = some last ∧ r.engine.cache.sequence = last.sequence ∧
      frame = freshFrame options.windowing key last

variable {options : TimelineVirtualizationEngineOptions} {r : VirtualizationRun TRow TSegment}

theorem over_nonneg (overscan : PartialOverscan) (base : OverscanConfig) :
    0 ≤ (overscan.over base).rowOverscan ∧ 0 ≤ (overscan.over base).timeOverscanSeconds :=
  ⟨le_max_left _ _, le_max_left _ _⟩

theorem kept_start : Kept options (start options : VirtualizationRun TRow TSegment) where
  overscan := over_nonneg _ _
  windowing := rfl
  window := fun last hlast => by cases hlast
  frames := fun key frame hframe => by cases hframe

/-- A fresh engine returns the frame of the key. -/
theorem resolveFrame_fresh (h : Kept options r) (coords : TimelineCoordinateSystem)
    (inputs : VirtualizationInputs TRow TSegment) :
    ((r.engine.fresh options).resolveFrame coords inputs).1 =
      freshFrame options.windowing (r.key coords inputs) inputs := by
  -- the overscan of now is not rounded or cut any more
  have hoverscan : (r.engine.fresh options).viewportWindow.overscan =
      r.engine.viewportWindow.overscan := by
    have hover : PartialOverscan.over
        { rowOverscan := some (r.engine.viewportWindow.overscan.rowOverscan : ℚ)
          timeOverscanSeconds := some r.engine.viewportWindow.overscan.timeOverscanSeconds }
        defaultOverscan = r.engine.viewportWindow.overscan := by
      rw [PartialOverscan.over]
      simp only [Option.getD_some, Int.floor_intCast, max_eq_right h.overscan.1,
        max_eq_right h.overscan.2]
    exact hover
  have hkept : (r.engine.fresh options).viewportWindow.Kept := fun last hlast => by cases hlast
  have hkey : r.key coords inputs = makeKey coords inputs.rows.length inputs.sequence
      (r.engine.fresh options).viewportWindow.overscan := by
    rw [hoverscan]
    rfl
  have hmissed : ((r.engine.fresh options).cache.syncSequence inputs.sequence).map.get?
      (r.key coords inputs) = none := by
    rw [TimelineVirtualizationCache.syncSequence]
    split <;> rfl
  rw [TimelineVirtualizationEngine.resolveFrame_of_missed hkept hkey hmissed]
  rfl

/-- A cached frame is the one that a fresh engine would return. -/
theorem cached_eq_fresh (h : Kept options r) {inputs : VirtualizationInputs TRow TSegment}
    {coords : TimelineCoordinateSystem}
    (htogether : r.ChangesTogether (.resolveFrame coords inputs)) {key : ViewportKey}
    {frame : VirtualizationFrame TRow TSegment}
    (hcached : (r.engine.cache.syncSequence inputs.sequence).map.get? key = some frame) :
    frame = freshFrame options.windowing key inputs := by
  rw [TimelineVirtualizationCache.syncSequence] at hcached
  split at hcached
  · cases hcached
  · next hsame =>
    obtain ⟨last, hlast, hsequence, hframe⟩ := h.frames key frame hcached
    rw [htogether last hlast ((not_not.mp hsame).trans hsequence)]
    exact hframe

/-- A resolution agrees with a fresh engine exactly when the index fits. -/
theorem agrees_iff_of_kept (h : Kept options r) {call : VirtualizationCall TRow TSegment}
    (htogether : r.ChangesTogether call) : Agrees options r call ↔ r.IndexFits call := by
  cases call with
  | resolveFrame coords inputs =>
    show (r.engine.resolveFrame coords inputs).1 =
      ((r.engine.fresh options).resolveFrame coords inputs).1 ↔ _
    rw [resolveFrame_fresh h]
    cases hcached : (r.engine.cache.syncSequence inputs.sequence).map.get?
        (r.key coords inputs) with
    | some frame =>
      rw [TimelineVirtualizationEngine.resolveFrame_of_cached h.window rfl hcached]
      refine iff_of_true (cached_eq_fresh h htogether hcached) fun hnone => ?_
      rw [hcached] at hnone
      cases hnone
    | none =>
      rw [TimelineVirtualizationEngine.resolveFrame_of_missed h.window rfl hcached]
      have hexact := r.engine.segmentWindowing.resolve_eq_fresh_iff inputs.segments
        inputs.sequence (r.key coords inputs).window
      rw [h.windowing] at hexact
      constructor
      · intro heq _
        exact hexact.mp (congrArg VirtualizationFrame.segments heq)
      · intro hfits
        rw [freshFrame, ← hexact.mpr (hfits hcached)]
        rfl
  | setOverscan overscan => exact Iff.rfl
  | invalidate => exact Iff.rfl

/-- An agreeing call keeps what the caches hold. -/
theorem kept_step (h : Kept options r) {r' : VirtualizationRun TRow TSegment}
    {call : VirtualizationCall TRow TSegment} (htogether : r.ChangesTogether call)
    (hagrees : Agrees options r call) (hstep : r.step call = some r') : Kept options r' := by
  cases call with
  | resolveFrame coords inputs =>
    obtain rfl := Option.some.inj hstep
    rw [Agrees, resolveFrame_fresh h] at hagrees
    obtain ⟨-, hwindow, hoverscan⟩ := TimelineViewportWindow.resolve_spec h.window coords
      inputs.rows.length inputs.sequence
    -- behind `syncSequence` every cached frame is one of the new inputs
    have hsynced : ∀ key frame,
        (r.engine.cache.syncSequence inputs.sequence).map.get? key = some frame →
          frame = freshFrame options.windowing key inputs :=
      fun key frame hcached => cached_eq_fresh h htogether hcached
    have hsequence : (r.engine.cache.syncSequence inputs.sequence).sequence = inputs.sequence := by
      rw [TimelineVirtualizationCache.syncSequence]
      split
      · rfl
      · next hsame => exact (not_not.mp hsame).symm
    cases hcached : (r.engine.cache.syncSequence inputs.sequence).map.get?
        (r.key coords inputs) with
    | some frame =>
      rw [TimelineVirtualizationEngine.resolveFrame_of_cached h.window rfl hcached]
      refine ⟨?_, h.windowing, hwindow, fun key other hother => ⟨inputs, rfl, hsequence, ?_⟩⟩
      · show 0 ≤ (r.engine.viewportWindow.resolve _ _ _).2.overscan.rowOverscan ∧ _
        rw [hoverscan]
        exact h.overscan
      · exact hsynced key other ((Lru.get?_touch _ _ key).symm.trans hother)
    | none =>
      rw [TimelineVirtualizationEngine.resolveFrame_of_missed h.window rfl hcached] at hagrees ⊢
      refine ⟨?_, ?_, hwindow, fun key other hother => ⟨inputs, rfl, hsequence, ?_⟩⟩
      · show 0 ≤ (r.engine.viewportWindow.resolve _ _ _).2.overscan.rowOverscan ∧ _
        rw [hoverscan]
        exact h.overscan
      · exact (TimelineSegmentWindowing.resolve_options _ _ _ _ _).trans h.windowing
      · rcases Lru.get?_insert hother with ⟨hkey, hframe⟩ | hold
        · rw [hframe, hkey]
          exact hagrees
        · exact hsynced key other hold
  | setOverscan overscan =>
    obtain rfl := Option.some.inj hstep
    refine ⟨?_, h.windowing, ?_, fun key frame hframe => by cases hframe⟩
    · show 0 ≤ (r.engine.viewportWindow.setOverscan overscan).overscan.rowOverscan ∧
        0 ≤ (r.engine.viewportWindow.setOverscan overscan).overscan.timeOverscanSeconds
      rw [TimelineViewportWindow.setOverscan]
      split
      · exact over_nonneg _ _
      · exact h.overscan
    · exact TimelineViewportWindow.kept_setOverscan h.window overscan
  | invalidate =>
    obtain rfl := Option.some.inj hstep
    refine ⟨h.overscan, h.windowing, fun last hlast => ?_, fun key frame hframe => ?_⟩
    · cases hlast
    · cases hframe

/-! ## Whole runs -/

/-- Every resolution of a run in which rows and segments change only together with the
    sequence returns the frame of a fresh engine exactly when the spatial index fits in each. -/
theorem agrees_iff_indexFits (options : TimelineVirtualizationEngineOptions)
    (calls : List (VirtualizationCall TRow TSegment))
    (htogether : AllSteps step ChangesTogether (start options) calls) :
    AllSteps step (Agrees options) (start options) calls ↔
      AllSteps step IndexFits (start options) calls := by
  exact allSteps_iff_of_keep (K := Kept options) (fun _ _ h htogether =>
      agrees_iff_of_kept h htogether)
    (fun _ _ _ h htogether hagrees hstep => kept_step h htogether hagrees hstep) kept_start
    htogether

/-- The segments of the call are those that the dataset has under its sequence. -/
def Shows (dataset : Int → List TSegment) (_ : VirtualizationRun TRow TSegment) :
    VirtualizationCall TRow TSegment → Prop
  | .resolveFrame _ inputs => inputs.segments = dataset inputs.sequence
  | .setOverscan _ | .invalidate => True

/-- Where a sequence always stands for the same segments, the index fits: an index outlives
    its dataset only under another sequence. -/
theorem indexFits_of_dataset (dataset : Int → List TSegment)
    (options : TimelineVirtualizationEngineOptions)
    {calls : List (VirtualizationCall TRow TSegment)}
    (hshows : AllSteps step (Shows dataset) (start options) calls) :
    AllSteps step IndexFits (start options) calls := by
  refine allSteps_of_keep (K := fun r =>
    r.engine.viewportWindow.Kept ∧
      TimelineSegmentWindowing.FreshFor dataset r.engine.segmentWindowing)
    (fun r call hr hcall => ?_) (fun r call r' hr hcall hstep => ?_) ?_ hshows
  · cases call with
    | resolveFrame coords inputs =>
      intro _ _ _ _ hsequence _ index hindex
      rw [hr.2 index hindex, hsequence, ← hcall]
    | setOverscan overscan => trivial
    | invalidate => trivial
  · cases call with
    | resolveFrame coords inputs =>
      obtain rfl := Option.some.inj hstep
      obtain ⟨-, hwindow, -⟩ := TimelineViewportWindow.resolve_spec hr.1 coords
        inputs.rows.length inputs.sequence
      have hresolved := hr.2.resolve inputs.sequence
        (r.key coords inputs).window.rows.toTimelineRowWindow (r.key coords inputs).window.time
      rw [← hcall] at hresolved
      cases hcached : (r.engine.cache.syncSequence inputs.sequence).map.get?
          (r.key coords inputs) with
      | some frame =>
        rw [TimelineVirtualizationEngine.resolveFrame_of_cached hr.1 rfl hcached]
        exact ⟨hwindow, hr.2⟩
      | none =>
        rw [TimelineVirtualizationEngine.resolveFrame_of_missed hr.1 rfl hcached]
        exact ⟨hwindow, hresolved⟩
    | setOverscan overscan =>
      obtain rfl := Option.some.inj hstep
      exact ⟨TimelineViewportWindow.kept_setOverscan hr.1 overscan, hr.2⟩
    | invalidate =>
      obtain rfl := Option.some.inj hstep
      refine ⟨fun last hlast => ?_, TimelineSegmentWindowing.FreshFor.invalidate⟩
      cases hlast
  · refine ⟨fun last hlast => ?_, fun index hindex => ?_⟩
    · cases hlast
    · cases hindex

/-! ## A dataset without segments in between -/

private def staleCoords : TimelineCoordinateSystem :=
  { camera := { timeStart := 0, timeEnd := 10, rowStart := 0, rowHeight := 20 }
    viewport := { cssWidth := 100, cssHeight := 100, devicePixelRatio := 1 } }

private def staleInputs (sequence : Int) (segments : List PlainSegment) :
    VirtualizationInputs Unit PlainSegment :=
  { rows := [()], segments := segments, sequence := sequence }

private def earlySegment : PlainSegment := { rowIndex := 0, startSeconds := 1, endSeconds := 2 }

private def lateSegment : PlainSegment := { rowIndex := 0, startSeconds := 3, endSeconds := 4 }

/-- A segment, no segment, and another segment. -/
def emptiedRun (last : Int) : List (VirtualizationCall Unit PlainSegment) :=
  [.resolveFrame staleCoords (staleInputs 1 [earlySegment]),
    .resolveFrame staleCoords (staleInputs 2 []),
    .resolveFrame staleCoords (staleInputs last [lateSegment])]

private theorem changesTogether_emptiedRun {last : Int} (h : last ≠ 2) :
    AllSteps step ChangesTogether (start { indexMinSegments := 1 }) (emptiedRun last) := by
  refine AllSteps.cons rfl (fun _ hnone => ?_) (AllSteps.cons rfl (fun _ hsome hsame => ?_)
    (AllSteps.cons rfl (fun _ hsome hsame => ?_) trivial))
  · cases hnone
  · rw [← Option.some.inj hsome] at hsame
    exact absurd hsame (by decide)
  · rw [← Option.some.inj hsome] at hsame
    exact absurd hsame h

/-- Under the first sequence again, the second dataset is answered by the index of the first:
    it shows the segment that is gone, and not the one that is there. -/
theorem not_agrees_emptiedRun :
    AllSteps step ChangesTogether (start { indexMinSegments := 1 }) (emptiedRun 1) ∧
      ¬ AllSteps step (Agrees { indexMinSegments := 1 }) (start { indexMinSegments := 1 })
        (emptiedRun 1) := by
  refine ⟨changesTogether_emptiedRun (by decide), fun hagrees => ?_⟩
  have hthird := ((hagrees.2 _ rfl).2 _ rfl).1
  have hsegments := congrArg VirtualizationFrame.segments hthird
  revert hsegments
  decide +kernel

/-- Under a third sequence the index is built anew. -/
theorem agrees_iff_indexFits_emptiedRun :
    AllSteps step (Agrees { indexMinSegments := 1 }) (start { indexMinSegments := 1 })
      (emptiedRun 3) := by
  refine (agrees_iff_indexFits _ _ (changesTogether_emptiedRun (by decide))).mpr ?_
  refine indexFits_of_dataset
    (fun sequence => if sequence = 1 then [earlySegment]
      else if sequence = 2 then [] else [lateSegment]) _ ?_
  exact AllSteps.cons rfl rfl (AllSteps.cons rfl rfl (AllSteps.cons rfl rfl trivial))

end VirtualizationRun

end AsyncViz.Frontend.Timeline
