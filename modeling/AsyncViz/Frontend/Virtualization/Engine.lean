/-
  AsyncViz.Frontend.Virtualization.Engine

  The virtualization engine of the timeline
  (`dashboard/timeline/virtualization/TimelineVirtualizationEngine.ts`) with its
  three caches: the last viewport window (`TimelineViewportWindow.ts`), the frames
  by window key (`TimelineVirtualizationCache.ts`) and the spatial index
  (`TimelineSegmentWindowing.ts`).

  Numbers are rationals.  `makeKey` joins the numbers of a window to a string;
  here the key is the tuple of them, as the text of a number is that of no other.
  The metrics, the traces and `resolvedAtMs`, a reading of the clock, are left
  out.
-/

import AsyncViz.Frontend.SegmentCulling
import AsyncViz.Lib.Lru
import Mathlib.Data.Rat.Floor

namespace AsyncViz.Frontend.Timeline

open AsyncViz.Lib

/-! ## Camera and viewport -/

/-- `TimelineCamera`. -/
structure TimelineCamera where
  timeStart : ℚ
  timeEnd : ℚ
  rowStart : ℚ
  rowHeight : ℚ

/-- `TimelineViewport`. -/
structure TimelineViewport where
  cssWidth : ℚ
  cssHeight : ℚ
  devicePixelRatio : ℚ

/-- `TimelineCoordinateSystem`, as far as the engine reads it. -/
structure TimelineCoordinateSystem where
  camera : TimelineCamera
  viewport : TimelineViewport

/-- `coords.visibleRowRange(totalRows)`: the start and the end.  A height of zero divides the
    positive height of a canvas to infinity. -/
def TimelineCoordinateSystem.visibleRowRange (coords : TimelineCoordinateSystem)
    (totalRows : Nat) : Int × Int :=
  let rowHeight := coords.camera.rowHeight
  let startIndex := max 0 ⌊coords.camera.rowStart⌋
  if rowHeight = 0 then (startIndex, totalRows)
  else
    let visibleCount := ⌈coords.viewport.cssHeight / rowHeight⌉ + 1
    (startIndex, min totalRows (startIndex + visibleCount))

/-! ## Overscan -/

/-- `OverscanConfig`. -/
structure OverscanConfig where
  rowOverscan : Int
  timeOverscanSeconds : ℚ
deriving DecidableEq

/-- `DEFAULT_OVERSCAN`. -/
def defaultOverscan : OverscanConfig := { rowOverscan := 4, timeOverscanSeconds := 0 }

/-- `Partial<OverscanConfig>`. -/
structure PartialOverscan where
  rowOverscan : Option ℚ := none
  timeOverscanSeconds : Option ℚ := none

/-- The configuration that a partial one makes of `base`. -/
def PartialOverscan.over (overscan : PartialOverscan) (base : OverscanConfig) : OverscanConfig :=
  { rowOverscan := max 0 ⌊overscan.rowOverscan.getD base.rowOverscan⌋
    timeOverscanSeconds := max 0 (overscan.timeOverscanSeconds.getD base.timeOverscanSeconds) }

/-! ## The viewport window -/

/-- `TimelineRowWindow` in full. -/
structure ViewportRowWindow extends TimelineRowWindow where
  startIndex : Int
  endIndex : Int
  totalRows : Nat

/-- What `makeKey` joins. -/
structure ViewportKey where
  timeStart : ℚ
  timeEnd : ℚ
  rowStart : ℚ
  rowHeight : ℚ
  cssWidth : ℚ
  cssHeight : ℚ
  devicePixelRatio : ℚ
  totalRows : Nat
  sequence : Int
  rowOverscan : Int
  timeOverscanSeconds : ℚ
deriving DecidableEq

/-- `makeKey(coords, totalRows, sequence, overscan)`. -/
def makeKey (coords : TimelineCoordinateSystem) (totalRows : Nat) (sequence : Int)
    (overscan : OverscanConfig) : ViewportKey :=
  { timeStart := coords.camera.timeStart
    timeEnd := coords.camera.timeEnd
    rowStart := coords.camera.rowStart
    rowHeight := coords.camera.rowHeight
    cssWidth := coords.viewport.cssWidth
    cssHeight := coords.viewport.cssHeight
    devicePixelRatio := coords.viewport.devicePixelRatio
    totalRows := totalRows
    sequence := sequence
    rowOverscan := overscan.rowOverscan
    timeOverscanSeconds := overscan.timeOverscanSeconds }

/-- `TimelineViewportWindowSnapshot`. -/
structure TimelineViewportWindowSnapshot where
  rows : ViewportRowWindow
  time : TimelineTimeWindow
  key : ViewportKey

/-- `resolveRowWindow(coords, totalRows, rowOverscan)`. -/
def resolveRowWindow (coords : TimelineCoordinateSystem) (totalRows : Nat) (rowOverscan : Int) :
    ViewportRowWindow :=
  let baseRange := coords.visibleRowRange totalRows
  { startIndex := baseRange.1
    endIndex := baseRange.2
    overscanStartIndex := max 0 (baseRange.1 - rowOverscan)
    overscanEndIndex := min totalRows (baseRange.2 + rowOverscan)
    totalRows := totalRows }

/-- `resolveTimeWindow(coords, timeOverscanSeconds)`. -/
def resolveTimeWindow (coords : TimelineCoordinateSystem) (timeOverscanSeconds : ℚ) :
    TimelineTimeWindow :=
  { startSeconds := coords.camera.timeStart
    endSeconds := coords.camera.timeEnd
    overscanStartSeconds := coords.camera.timeStart - timeOverscanSeconds
    overscanEndSeconds := coords.camera.timeEnd + timeOverscanSeconds }

/-- `TimelineViewportWindow`. -/
structure TimelineViewportWindow where
  overscan : OverscanConfig
  last : Option TimelineViewportWindowSnapshot := none

namespace TimelineViewportWindow

/-- `new TimelineViewportWindow({ overscan })`. -/
def new (overscan : PartialOverscan) : TimelineViewportWindow :=
  { overscan := overscan.over defaultOverscan }

/-- `viewportWindow.setOverscan(overscan)`. -/
def setOverscan (w : TimelineViewportWindow) (overscan : PartialOverscan) :
    TimelineViewportWindow :=
  let next := overscan.over w.overscan
  if next ≠ w.overscan then { overscan := next, last := none } else w

/-- `viewportWindow.resolve(coords, totalRows, sequence)`. -/
def resolve (w : TimelineViewportWindow) (coords : TimelineCoordinateSystem) (totalRows : Nat)
    (sequence : Int) : TimelineViewportWindowSnapshot × TimelineViewportWindow :=
  let key := makeKey coords totalRows sequence w.overscan
  let snapshot : TimelineViewportWindowSnapshot :=
    { rows := resolveRowWindow coords totalRows w.overscan.rowOverscan
      time := resolveTimeWindow coords w.overscan.timeOverscanSeconds
      key := key }
  match w.last with
  | some last => if last.key = key then (last, w) else (snapshot, { w with last := some snapshot })
  | none => (snapshot, { w with last := some snapshot })

/-- `viewportWindow.invalidate()`. -/
def invalidate (w : TimelineViewportWindow) : TimelineViewportWindow := { w with last := none }

end TimelineViewportWindow

/-! ## Rows and frames -/

/-- `cullRowsByWindow(rows, window)`. -/
def cullRowsByWindow {TRow : Type _} (rows : List TRow) (window : TimelineRowWindow) : List TRow :=
  let start := max 0 window.overscanStartIndex
  let stop := min (rows.length : Int) window.overscanEndIndex
  if stop ≤ start then [] else (rows.take stop.toNat).drop start.toNat

/-- `VirtualizationFrame`. -/
structure VirtualizationFrame (TRow TSegment : Type _) where
  window : TimelineViewportWindowSnapshot
  rows : List TRow
  segments : List TSegment
  rowsConsidered : Nat
  segmentsConsidered : Nat
  fromCache : Bool := false

/-- `VirtualizationInputs`. -/
structure VirtualizationInputs (TRow TSegment : Type _) where
  rows : List TRow
  segments : List TSegment
  sequence : Int

/-! ## The cache of frames -/

/-- `TimelineVirtualizationCache`, whose `Map` is kept in the order of use; it never holds more
    than the whole part of its capacity. -/
structure TimelineVirtualizationCache (TRow TSegment : Type _) where
  map : Lru ViewportKey (VirtualizationFrame TRow TSegment)
  sequence : Int := -1

namespace TimelineVirtualizationCache

variable {TRow TSegment : Type _}

/-- `DEFAULT_CAPACITY`. -/
def defaultCapacity : ℚ := 16

/-- `new TimelineVirtualizationCache(capacity)`. -/
def new (capacity : Option ℚ) : TimelineVirtualizationCache TRow TSegment :=
  { map := .empty ⌊max 2 (capacity.getD defaultCapacity)⌋₊ }

/-- `cache.syncSequence(sequence)`. -/
def syncSequence (c : TimelineVirtualizationCache TRow TSegment) (sequence : Int) :
    TimelineVirtualizationCache TRow TSegment :=
  if sequence ≠ c.sequence then { map := .empty c.map.capacity, sequence := sequence } else c

/-- `cache.get(key)`: what it finds is the newest entry from then on. -/
def get (c : TimelineVirtualizationCache TRow TSegment) (key : ViewportKey) :
    Option (VirtualizationFrame TRow TSegment) × TimelineVirtualizationCache TRow TSegment :=
  match c.map.get? key with
  | none => (none, c)
  | some frame => (some frame, { c with map := c.map.touch key })

/-- `cache.set(key, frame)`. -/
def set (c : TimelineVirtualizationCache TRow TSegment) (key : ViewportKey)
    (frame : VirtualizationFrame TRow TSegment) : TimelineVirtualizationCache TRow TSegment :=
  { c with map := c.map.insert key frame }

/-- `cache.clear()`. -/
def clear (c : TimelineVirtualizationCache TRow TSegment) :
    TimelineVirtualizationCache TRow TSegment :=
  { map := .empty c.map.capacity }

end TimelineVirtualizationCache

/-! ## The engine -/

/-- `TimelineVirtualizationEngineOptions`. -/
structure TimelineVirtualizationEngineOptions where
  overscan : PartialOverscan := {}
  cacheCapacity : Option ℚ := none
  disableSpatialIndex : Bool := false
  indexMinSegments : Nat := 256

/-- `TimelineVirtualizationEngine`. -/
structure TimelineVirtualizationEngine (TRow TSegment : Type _) where
  viewportWindow : TimelineViewportWindow
  segmentWindowing : TimelineSegmentWindowing TSegment
  cache : TimelineVirtualizationCache TRow TSegment

namespace TimelineVirtualizationEngine

variable {TRow TSegment : Type _}

/-- `new TimelineVirtualizationEngine(options)`. -/
def new (options : TimelineVirtualizationEngineOptions) :
    TimelineVirtualizationEngine TRow TSegment :=
  { viewportWindow := .new options.overscan
    segmentWindowing :=
      { options :=
          { disableIndex := options.disableSpatialIndex
            indexMinSegments := options.indexMinSegments } }
    cache := .new options.cacheCapacity }

/-- `engine.resolveFrame({ coords, inputs })`. -/
def resolveFrame [SpatialIndexable TSegment] (e : TimelineVirtualizationEngine TRow TSegment)
    (coords : TimelineCoordinateSystem) (inputs : VirtualizationInputs TRow TSegment) :
    VirtualizationFrame TRow TSegment × TimelineVirtualizationEngine TRow TSegment :=
  let cache := e.cache.syncSequence inputs.sequence
  let (window, viewportWindow) :=
    e.viewportWindow.resolve coords inputs.rows.length inputs.sequence
  let (cached, cache) := cache.get window.key
  match cached with
  | some frame => (frame, { e with viewportWindow := viewportWindow, cache := cache })
  | none =>
    let rows := cullRowsByWindow inputs.rows window.rows.toTimelineRowWindow
    let (segments, segmentWindowing) := e.segmentWindowing.resolve inputs.segments inputs.sequence
      window.rows.toTimelineRowWindow window.time
    let frame : VirtualizationFrame TRow TSegment :=
      { window := window
        rows := rows
        segments := segments
        rowsConsidered := inputs.rows.length
        segmentsConsidered := inputs.segments.length }
    (frame,
      { viewportWindow := viewportWindow
        segmentWindowing := segmentWindowing
        cache := cache.set window.key frame })

/-- `engine.invalidate()`. -/
def invalidate (e : TimelineVirtualizationEngine TRow TSegment) :
    TimelineVirtualizationEngine TRow TSegment :=
  { viewportWindow := e.viewportWindow.invalidate
    segmentWindowing := e.segmentWindowing.invalidate
    cache := e.cache.clear }

/-- `engine.setOverscan(overscan)`. -/
def setOverscan (e : TimelineVirtualizationEngine TRow TSegment) (overscan : PartialOverscan) :
    TimelineVirtualizationEngine TRow TSegment :=
  { e with
    viewportWindow := e.viewportWindow.setOverscan overscan
    cache := e.cache.clear }

end TimelineVirtualizationEngine

end AsyncViz.Frontend.Timeline
