/-
  AsyncViz.Frontend.SegmentCulling

  The culling of timeline segments: the linear scan, and the lookup in
  `TimelineSegmentSpatialIndex`
  (`frontend/src/dashboard/timeline/virtualization/`, `utils/spatialIndex.ts`,
  `TimelineVisibilityCulling.ts`, `TimelineSegmentWindowing.ts`).

  The index bisects on the start of a segment and steps back by at most 32
  entries, whatever their ends are.  `linear_perm` says what that leaves out: the
  segments of `missed`, and nothing else.  The query and lookup counters are not
  modelled.
-/

import AsyncViz.Lib.Dict
import AsyncViz.Lib.Regroup
import AsyncViz.Lib.StableSort
import Mathlib.Algebra.Order.Ring.Rat
import Mathlib.Data.List.Perm.Basic

namespace AsyncViz.Frontend.Timeline

open AsyncViz.Lib AsyncViz.Lib.Bisect AsyncViz.Lib.Regroup

/-- `SpatialIndexable`. -/
class SpatialIndexable (TSegment : Type _) where
  rowIndex : TSegment → Int
  startSeconds : TSegment → ℚ
  endSeconds : TSegment → ℚ
  isActive : TSegment → Option Bool

open SpatialIndexable

/-- `TimelineRowWindow`, as far as the culling reads it. -/
structure TimelineRowWindow where
  overscanStartIndex : Int
  overscanEndIndex : Int

/-- `TimelineTimeWindow`. -/
structure TimelineTimeWindow where
  startSeconds : ℚ
  endSeconds : ℚ
  overscanStartSeconds : ℚ
  overscanEndSeconds : ℚ

variable {TSegment : Type _} [SpatialIndexable TSegment]

/-- The end of a segment, which is at least `cameraEnd` as long as it is active. -/
def effectiveEnd (cameraEnd : ℚ) (seg : TSegment) : ℚ :=
  if isActive seg = some true then max (endSeconds seg) cameraEnd else endSeconds seg

/-! ## Linear culling -/

/-- The segment's row is in the overscan rows. -/
def InRows (rowWindow : TimelineRowWindow) (seg : TSegment) : Prop :=
  ¬ (rowIndex seg < rowWindow.overscanStartIndex ∨ rowIndex seg ≥ rowWindow.overscanEndIndex)

/-- The segment's time meets the overscan time. -/
def InTime (timeWindow : TimelineTimeWindow) (seg : TSegment) : Prop :=
  ¬ effectiveEnd timeWindow.endSeconds seg < timeWindow.overscanStartSeconds ∧
    ¬ startSeconds seg > timeWindow.overscanEndSeconds

instance (rowWindow : TimelineRowWindow) (seg : TSegment) : Decidable (InRows rowWindow seg) :=
  instDecidableNot

instance (timeWindow : TimelineTimeWindow) (seg : TSegment) : Decidable (InTime timeWindow seg) :=
  instDecidableAnd

/-- `cullSegmentsLinear({ segments, rowWindow, timeWindow })`. -/
def cullSegmentsLinear (segments : List TSegment) (rowWindow : TimelineRowWindow)
    (timeWindow : TimelineTimeWindow) : List TSegment :=
  segments.filter fun seg => InRows rowWindow seg ∧ InTime timeWindow seg

/-! ## The index -/

/-- `TimelineSegmentSpatialIndex`. -/
structure TimelineSegmentSpatialIndex (TSegment : Type _) where
  bucketsByRow : Dict Int (List TSegment)
  builtCount : Nat

namespace TimelineSegmentSpatialIndex

/-- One segment goes to the bucket of its row. -/
def pushSegment (buckets : Dict Int (List TSegment)) (segment : TSegment) :
    Dict Int (List TSegment) :=
  match buckets.get? (rowIndex segment) with
  | none => buckets.set (rowIndex segment) [segment]
  | some bucket => buckets.set (rowIndex segment) (bucket ++ [segment])

/-- `new TimelineSegmentSpatialIndex(segments)`; the sort of a bucket is stable. -/
def new (segments : List TSegment) : TimelineSegmentSpatialIndex TSegment where
  bucketsByRow := (segments.foldl pushSegment .empty).mapValues (sortedBy startSeconds)
  builtCount := segments.length

/-- `lowerBoundByEnd(segments, floorStart, _cameraEnd)`. -/
def lowerBoundByEnd (segments : List TSegment) (floorStart : ℚ) : Nat :=
  let lo := partitionPoint (fun seg => startSeconds seg < floorStart) segments
  let walkback := min lo 32
  max 0 (lo - walkback)

/-- The loop over what is left of a bucket. -/
def scanBucket (windowStart windowEnd cameraEnd : ℚ) : List TSegment → List TSegment
  | [] => []
  | seg :: rest =>
    if startSeconds seg > windowEnd then []
    else if effectiveEnd cameraEnd seg < windowStart then
      scanBucket windowStart windowEnd cameraEnd rest
    else seg :: scanBucket windowStart windowEnd cameraEnd rest

/-- The rows from `startRowIndex` up to `endRowIndex`. -/
def rowRange (startRowIndex endRowIndex : Int) : List Int :=
  (List.range (endRowIndex - startRowIndex).toNat).map fun k : Nat => startRowIndex + k

/-- What the query finds in one row. -/
def queryRow (index : TimelineSegmentSpatialIndex TSegment) (windowStart windowEnd cameraEnd : ℚ)
    (row : Int) : List TSegment :=
  match index.bucketsByRow.get? row with
  | none => []
  | some bucket =>
    scanBucket windowStart windowEnd cameraEnd (bucket.drop (lowerBoundByEnd bucket windowStart))

/-- `index.query({ startRowIndex, endRowIndex, startSeconds, endSeconds, cameraEndSeconds })`. -/
def query (index : TimelineSegmentSpatialIndex TSegment) (startRowIndex endRowIndex : Int)
    (windowStart windowEnd : ℚ) (cameraEndSeconds : Option ℚ) : List TSegment :=
  if index.bucketsByRow.size = 0 then []
  else
    let cameraEnd := cameraEndSeconds.getD windowEnd
    (rowRange startRowIndex endRowIndex).flatMap (index.queryRow windowStart windowEnd cameraEnd)

end TimelineSegmentSpatialIndex

open TimelineSegmentSpatialIndex

/-- `cullSegmentsIndexed({ index, rowWindow, timeWindow })`. -/
def cullSegmentsIndexed (index : TimelineSegmentSpatialIndex TSegment)
    (rowWindow : TimelineRowWindow) (timeWindow : TimelineTimeWindow) : List TSegment :=
  index.query rowWindow.overscanStartIndex rowWindow.overscanEndIndex
    timeWindow.overscanStartSeconds timeWindow.overscanEndSeconds (some timeWindow.endSeconds)

/-! ## What is in a bucket -/

/-- The segments of a row, by start. -/
def bucketOf (segments : List TSegment) (row : Int) : List TSegment :=
  sortedBy startSeconds (segments.filter (rowIndex · = row))

theorem getD_foldl_pushSegment (segments : List TSegment) (buckets : Dict Int (List TSegment))
    (row : Int) :
    ((segments.foldl pushSegment buckets).get? row).getD []
      = (buckets.get? row).getD [] ++ segments.filter (rowIndex · = row) := by
  induction segments generalizing buckets with
  | nil => simp
  | cons seg segments ih =>
    have hpush : ((pushSegment buckets seg).get? row).getD []
        = (buckets.get? row).getD [] ++ [seg].filter (rowIndex · = row) := by
      unfold pushSegment
      -- a segment goes to the end of its row's bucket, and no other bucket changes
      by_cases hrow : rowIndex seg = row
      · subst hrow
        cases hget : buckets.get? (rowIndex seg) <;> simp
      · have hne : row ≠ rowIndex seg := fun h => hrow h.symm
        cases hget : buckets.get? (rowIndex seg)
        all_goals rw [Dict.get?_set_of_ne _ _ hne]
        all_goals simp [hrow]
    rw [List.foldl_cons, ih, hpush, List.append_assoc, ← List.filter_append, List.singleton_append]

theorem getD_new (segments : List TSegment) (row : Int) :
    ((new segments).bucketsByRow.get? row).getD [] = bucketOf segments row := by
  have hfold := getD_foldl_pushSegment segments .empty row
  rw [Dict.get?_empty, Option.getD_none, List.nil_append] at hfold
  rw [new, Dict.get?_mapValues, bucketOf, ← hfold]
  -- a row without a bucket is an empty one, sorted or not
  cases (segments.foldl pushSegment .empty).get? row <;> rfl

theorem mem_bucketOf {segments : List TSegment} {row : Int} {seg : TSegment} :
    seg ∈ bucketOf segments row ↔ seg ∈ segments ∧ rowIndex seg = row := by
  rw [bucketOf, (perm_sortedBy _ _).mem_iff, List.mem_filter, decide_eq_true_iff]

/-- A bound on the start cuts a bucket in two. -/
theorem cutBy_bucketOf (segments : List TSegment) (row : Int) {p : TSegment → Bool}
    (hp : ∀ a b : TSegment, startSeconds a ≤ startSeconds b → p b → p a) :
    CutBy p (bucketOf segments row) :=
  List.Pairwise.imp (fun {a b} hle => hp a b hle) (pairwise_sortedBy startSeconds _)

theorem scanBucket_eq_filter (timeWindow : TimelineTimeWindow) {l : List TSegment}
    (h : l.Pairwise fun a b => startSeconds a ≤ startSeconds b) :
    scanBucket timeWindow.overscanStartSeconds timeWindow.overscanEndSeconds
        timeWindow.endSeconds l
      = l.filter (InTime timeWindow ·) := by
  induction l with
  | nil => rfl
  | cons seg rest ih =>
    obtain ⟨hhead, htail⟩ := List.pairwise_cons.mp h
    rw [scanBucket]
    by_cases hlate : startSeconds seg > timeWindow.overscanEndSeconds
    · -- whatever follows starts even later
      have hnone : ∀ s ∈ seg :: rest, ¬ InTime timeWindow s := by
        intro s hs hin
        rcases List.mem_cons.mp hs with rfl | hs
        · exact hin.2 hlate
        · exact hin.2 (lt_of_lt_of_le hlate (hhead s hs))
      rw [if_pos hlate, List.filter_eq_nil_iff.mpr fun s hs => by simpa using hnone s hs]
    · rw [if_neg hlate]
      by_cases hended : effectiveEnd timeWindow.endSeconds seg < timeWindow.overscanStartSeconds
      · rw [if_pos hended, ih htail, List.filter_cons_of_neg (by simp [InTime, hended])]
      · rw [if_neg hended, ih htail, List.filter_cons_of_pos (by simp [InTime, hended, hlate])]

/-! ## What the index finds, and what it leaves out -/

/-- The segments of a row that the walk-back does not reach. -/
def beyondWalkback (segments : List TSegment) (timeWindow : TimelineTimeWindow) (row : Int) :
    List TSegment :=
  (bucketOf segments row).take
    (lowerBoundByEnd (bucketOf segments row) timeWindow.overscanStartSeconds)

/-- The visible segments that the index leaves out. -/
def missed (segments : List TSegment) (rowWindow : TimelineRowWindow)
    (timeWindow : TimelineTimeWindow) : List TSegment :=
  (rowRange rowWindow.overscanStartIndex rowWindow.overscanEndIndex).flatMap fun row =>
    (beyondWalkback segments timeWindow row).filter (InTime timeWindow ·)

theorem queryRow_new (segments : List TSegment) (timeWindow : TimelineTimeWindow) (row : Int) :
    (new segments).queryRow timeWindow.overscanStartSeconds timeWindow.overscanEndSeconds
        timeWindow.endSeconds row
      = ((bucketOf segments row).drop
          (lowerBoundByEnd (bucketOf segments row) timeWindow.overscanStartSeconds)).filter
            (InTime timeWindow ·) := by
  -- the walk-back drops a beginning of the bucket; what is left is sorted still
  have hsorted : (bucketOf segments row).Pairwise fun a b => startSeconds a ≤ startSeconds b :=
    pairwise_sortedBy _ _
  rw [← getD_new] at hsorted ⊢
  rw [queryRow]
  cases hget : (new segments).bucketsByRow.get? row with
  | none => rfl
  | some bucket =>
    rw [hget] at hsorted
    exact scanBucket_eq_filter timeWindow (hsorted.sublist (List.drop_sublist _ _))

theorem pairwise_rowRange (startRowIndex endRowIndex : Int) :
    (rowRange startRowIndex endRowIndex).Pairwise (· < ·) :=
  List.pairwise_map.mpr (List.pairwise_lt_range.imp fun {a b} hlt => by omega)

theorem mem_rowRange {startRowIndex endRowIndex row : Int} :
    row ∈ rowRange startRowIndex endRowIndex ↔ startRowIndex ≤ row ∧ row < endRowIndex := by
  rw [rowRange, List.mem_map]
  constructor
  · rintro ⟨k, hk, rfl⟩
    rw [List.mem_range] at hk
    omega
  · rintro ⟨hle, hlt⟩
    exact ⟨(row - startRowIndex).toNat, by rw [List.mem_range]; omega, by omega⟩

theorem cullSegmentsIndexed_eq (segments : List TSegment) (rowWindow : TimelineRowWindow)
    (timeWindow : TimelineTimeWindow) :
    cullSegmentsIndexed (new segments) rowWindow timeWindow
      = (rowRange rowWindow.overscanStartIndex rowWindow.overscanEndIndex).flatMap fun row =>
          ((bucketOf segments row).drop
            (lowerBoundByEnd (bucketOf segments row) timeWindow.overscanStartSeconds)).filter
              (InTime timeWindow ·) := by
  rw [cullSegmentsIndexed, query]
  dsimp only [Option.getD_some]
  have hrow := funext (queryRow_new segments timeWindow)
  split
  next hempty =>
    -- no bucket, so every row is empty
    have hnone : ∀ row, bucketOf segments row = [] := by
      intro row
      have hnot : row ∉ (new segments).bucketsByRow := by
        intro hmem
        obtain ⟨p, hp, -⟩ := List.mem_map.mp hmem
        rw [List.eq_nil_of_length_eq_zero hempty] at hp
        exact List.not_mem_nil hp
      rw [← getD_new, Dict.get?_eq_none_iff.mpr hnot]
      rfl
    symm
    rw [List.flatMap_eq_nil_iff]
    intro row _
    rw [hnone, List.drop_nil, List.filter_nil]
  next => rw [← hrow]

/-- The linear scan finds what the index finds and what it leaves out. -/
theorem linear_perm (segments : List TSegment) (rowWindow : TimelineRowWindow)
    (timeWindow : TimelineTimeWindow) :
    (missed segments rowWindow timeWindow ++
        cullSegmentsIndexed (new segments) rowWindow timeWindow).Perm
      (cullSegmentsLinear segments rowWindow timeWindow) := by
  have hnodup : (rowRange rowWindow.overscanStartIndex rowWindow.overscanEndIndex).Nodup :=
    (pairwise_rowRange _ _).imp ne_of_lt
  -- each visible segment is of a row of the window, so that the rows between them have them all
  have hcover : ∀ seg ∈ cullSegmentsLinear segments rowWindow timeWindow,
      rowIndex seg ∈ rowRange rowWindow.overscanStartIndex rowWindow.overscanEndIndex := by
    intro seg hseg
    obtain ⟨-, hvisible⟩ := List.mem_filter.mp hseg
    have hrow : InRows rowWindow seg := (of_decide_eq_true hvisible).1
    unfold InRows at hrow
    exact mem_rowRange.mpr (by omega)
  rw [cullSegmentsIndexed_eq, missed]
  -- row by row, what is left out comes before what is found
  refine (List.flatMap_append_perm _ _ _).trans (List.Perm.trans ?_
    (perm_flatMap_filter_key hnodup rowIndex hcover))
  refine List.Perm.flatMap_left _ fun row hrow => ?_
  obtain ⟨hfrom, hto⟩ := mem_rowRange.mp hrow
  rw [beyondWalkback, ← List.filter_append, List.take_append_drop, cullSegmentsLinear,
    List.filter_filter]
  refine ((perm_sortedBy startSeconds _).filter _).trans (List.Perm.of_eq ?_)
  rw [List.filter_filter]
  refine List.filter_congr fun seg _ => ?_
  by_cases heq : rowIndex seg = row
  · have hin : InRows rowWindow seg := by unfold InRows; omega
    simp [heq, hin]
  · simp [heq]

/-- Row by row, and by start in a row. -/
def RowMajor (a b : TSegment) : Prop :=
  rowIndex a < rowIndex b ∨ rowIndex a = rowIndex b ∧ startSeconds a ≤ startSeconds b

theorem pairwise_cullSegmentsIndexed (segments : List TSegment) (rowWindow : TimelineRowWindow)
    (timeWindow : TimelineTimeWindow) :
    (cullSegmentsIndexed (new segments) rowWindow timeWindow).Pairwise RowMajor := by
  rw [cullSegmentsIndexed_eq, List.pairwise_flatMap]
  constructor
  · -- in one row the segments stand by start, and the drop and the filter keep that
    intro row _
    have hsorted : (bucketOf segments row).Pairwise RowMajor := by
      refine List.Pairwise.imp_of_mem (fun {a b} ha hb hle => .inr ⟨?_, hle⟩)
        (pairwise_sortedBy startSeconds _)
      rw [(mem_bucketOf.mp ha).2, (mem_bucketOf.mp hb).2]
    exact hsorted.sublist (List.filter_sublist.trans (List.drop_sublist _ _))
  · refine (pairwise_rowRange _ _).imp fun {row row'} hlt a ha b hb => .inl ?_
    have hrow := (mem_bucketOf.mp (List.mem_of_mem_drop (List.mem_filter.mp ha).1)).2
    have hrow' := (mem_bucketOf.mp (List.mem_of_mem_drop (List.mem_filter.mp hb).1)).2
    rw [hrow, hrow']
    exact hlt

/-! ## When the two agree -/

/-- Every visible segment that starts before the overscan has fewer than 32 segments of its row
    behind it, by start and place in the list, that start before the overscan too. -/
def WalkbackReaches (segments : List TSegment) (rowWindow : TimelineRowWindow)
    (timeWindow : TimelineTimeWindow) : Prop :=
  ∀ e ∈ segments.zipIdx, InRows rowWindow e.1 → InTime timeWindow e.1 →
    startSeconds e.1 < timeWindow.overscanStartSeconds →
    (segments.zipIdx.countP fun f =>
      rowIndex f.1 = rowIndex e.1 ∧ startSeconds f.1 < timeWindow.overscanStartSeconds ∧
        Follows startSeconds e f) < 32

/-- The segments of a row with their places, by start. -/
def placedBucket (segments : List TSegment) (row : Int) : List (TSegment × Nat) :=
  sortedBy (placeKey startSeconds) (segments.zipIdx.filter (rowIndex ·.1 = row))

theorem pairwise_filter_zipIdx (segments : List TSegment) (row : Int) :
    (segments.zipIdx.filter (rowIndex ·.1 = row)).Pairwise fun e f => e.2 < f.2 := by
  refine List.Pairwise.filter _ (List.pairwise_map.mp ?_)
  rw [List.zipIdx_map_snd]
  exact List.pairwise_lt_range'

theorem map_fst_placedBucket (segments : List TSegment) (row : Int) :
    (placedBucket segments row).map Prod.fst = bucketOf segments row := by
  rw [placedBucket, ← sortedBy_map_fst (pairwise_filter_zipIdx segments row), bucketOf]
  congr 1
  conv_rhs => rw [← List.zipIdx_map_fst 0 segments, List.filter_map]
  rfl

/-- What the walk-back does not reach, in terms of what is behind it. -/
theorem mem_beyondWalkback_iff {segments : List TSegment} {timeWindow : TimelineTimeWindow}
    {row : Int} {seg : TSegment} :
    seg ∈ beyondWalkback segments timeWindow row ↔
      ∃ e ∈ segments.zipIdx, e.1 = seg ∧ rowIndex e.1 = row ∧
        startSeconds e.1 < timeWindow.overscanStartSeconds ∧
        32 ≤ segments.zipIdx.countP fun f =>
          rowIndex f.1 = rowIndex e.1 ∧ startSeconds f.1 < timeWindow.overscanStartSeconds ∧
            Follows startSeconds e f := by
  -- the entries before the bisect position, with their places
  set early := (placedBucket segments row).filter
    (startSeconds ·.1 < timeWindow.overscanStartSeconds) with hearly
  have hcut : CutBy (fun s : TSegment => startSeconds s < timeWindow.overscanStartSeconds)
      (bucketOf segments row) :=
    cutBy_bucketOf segments row fun a b hle hb =>
      decide_eq_true (lt_of_le_of_lt hle (of_decide_eq_true hb))
  have htake : (bucketOf segments row).takeWhile
      (startSeconds · < timeWindow.overscanStartSeconds) = early.map Prod.fst := by
    rw [← hcut.filter_eq_takeWhile, ← map_fst_placedBucket, List.filter_map]
    rfl
  have hbeyond : beyondWalkback segments timeWindow row
      = (early.take (early.length - 32)).map Prod.fst := by
    have hlen : lowerBoundByEnd (bucketOf segments row) timeWindow.overscanStartSeconds
        = early.length - 32 := by
      rw [lowerBoundByEnd, partitionPoint_eq hcut, htake, List.length_map]
      omega
    have hstart : (bucketOf segments row).takeWhile
        (startSeconds · < timeWindow.overscanStartSeconds) <+: bucketOf segments row :=
      List.takeWhile_prefix _
    rw [List.prefix_iff_eq_take, htake, List.length_map] at hstart
    rw [beyondWalkback, hlen, List.map_take, hstart, List.take_take, Nat.min_eq_left (by omega)]
  -- the entries follow each other strictly, so that places tell equal segments apart
  have hstrict : early.Pairwise (Follows startSeconds) :=
    (pairwise_follows_sortedBy (pairwise_filter_zipIdx segments row)).filter _
  have hmem : ∀ e, e ∈ early ↔ e ∈ segments.zipIdx ∧ rowIndex e.1 = row ∧
      startSeconds e.1 < timeWindow.overscanStartSeconds := by
    intro e
    rw [hearly, List.mem_filter, placedBucket, (perm_sortedBy _ _).mem_iff, List.mem_filter,
      decide_eq_true_iff, decide_eq_true_iff, and_assoc]
  -- the entries behind `e` are those of its row that start early and follow it
  have hcount : ∀ e, rowIndex e.1 = row → early.countP (fun f => Follows startSeconds e f)
      = segments.zipIdx.countP fun f =>
          rowIndex f.1 = rowIndex e.1 ∧ startSeconds f.1 < timeWindow.overscanStartSeconds ∧
            Follows startSeconds e f := by
    intro e hrow
    rw [hearly, List.countP_filter, placedBucket, (perm_sortedBy _ _).countP_eq,
      List.countP_filter]
    refine List.countP_congr fun f _ => ?_
    simp only [Bool.and_eq_true, decide_eq_true_iff, hrow]
    tauto
  -- what is left out of `early` are the entries with at least 32 behind them
  rw [hbeyond, List.mem_map]
  constructor
  · rintro ⟨e, he, rfl⟩
    obtain ⟨hin, hbehind⟩ := (mem_take_iff follows_irrefl follows_asymm hstrict 32).mp he
    obtain ⟨hzip, hrow, hbefore⟩ := (hmem e).mp hin
    exact ⟨e, hzip, rfl, hrow, hbefore, hcount e hrow ▸ hbehind⟩
  · rintro ⟨e, hzip, rfl, hrow, hbefore, hbehind⟩
    refine ⟨e, (mem_take_iff follows_irrefl follows_asymm hstrict 32).mpr ?_, rfl⟩
    exact ⟨(hmem e).mpr ⟨hzip, hrow, hbefore⟩, (hcount e hrow).symm ▸ hbehind⟩

theorem missed_eq_nil_iff {segments : List TSegment} {rowWindow : TimelineRowWindow}
    {timeWindow : TimelineTimeWindow} :
    missed segments rowWindow timeWindow = [] ↔
      WalkbackReaches segments rowWindow timeWindow := by
  rw [missed, List.flatMap_eq_nil_iff]
  constructor
  · -- a visible segment that the walk-back does not reach is one of those left out
    intro hnone e he hrow htime hbefore
    by_contra hbehind
    unfold InRows at hrow
    have hin : rowIndex e.1 ∈ rowRange rowWindow.overscanStartIndex rowWindow.overscanEndIndex :=
      mem_rowRange.mpr (by omega)
    have hlost : e.1 ∈ beyondWalkback segments timeWindow (rowIndex e.1) :=
      mem_beyondWalkback_iff.mpr ⟨e, he, rfl, rfl, hbefore, Nat.le_of_not_lt hbehind⟩
    exact List.filter_eq_nil_iff.mp (hnone _ hin) e.1 hlost (decide_eq_true htime)
  · intro hreach row hrow
    rw [List.filter_eq_nil_iff]
    intro seg hlost htime
    obtain ⟨e, he, rfl, rfl, hbefore, hbehind⟩ := mem_beyondWalkback_iff.mp hlost
    obtain ⟨hfrom, hto⟩ := mem_rowRange.mp hrow
    have hin : InRows rowWindow e.1 := by unfold InRows; omega
    exact absurd (hreach e he hin (of_decide_eq_true htime) hbefore) (Nat.not_lt.mpr hbehind)

/-- The indexed culling returns what the linear culling returns, every segment once for each
    place that it has in the list, in row-major and start-ascending order. -/
structure Agrees (segments : List TSegment) (rowWindow : TimelineRowWindow)
    (timeWindow : TimelineTimeWindow) : Prop where
  perm : (cullSegmentsIndexed (new segments) rowWindow timeWindow).Perm
    (cullSegmentsLinear segments rowWindow timeWindow)
  nodup : segments.Nodup → (cullSegmentsIndexed (new segments) rowWindow timeWindow).Nodup
  ordered : (cullSegmentsIndexed (new segments) rowWindow timeWindow).Pairwise RowMajor

/-- The indexed culling agrees with the linear one iff the walk-back reaches every visible
    segment. -/
theorem agrees_iff_walkbackReaches (segments : List TSegment) (rowWindow : TimelineRowWindow)
    (timeWindow : TimelineTimeWindow) :
    Agrees segments rowWindow timeWindow ↔ WalkbackReaches segments rowWindow timeWindow := by
  have hperm := linear_perm segments rowWindow timeWindow
  rw [← missed_eq_nil_iff]
  constructor
  · intro hagrees
    -- of two lists that agree up to order, one is no longer than the other
    have hlen := (hperm.trans hagrees.perm.symm).length_eq
    rw [List.length_append] at hlen
    exact List.eq_nil_of_length_eq_zero (by omega)
  · intro hnone
    rw [hnone, List.nil_append] at hperm
    refine ⟨hperm, fun hnodup => ?_, pairwise_cullSegmentsIndexed segments rowWindow timeWindow⟩
    exact hperm.nodup_iff.mpr (hnodup.filter _)

/-- A segment that has nothing but what the index reads of it. -/
structure PlainSegment where
  rowIndex : Int
  startSeconds : ℚ
  endSeconds : ℚ
  isActive : Option Bool := none
deriving DecidableEq

instance : SpatialIndexable PlainSegment where
  rowIndex := PlainSegment.rowIndex
  startSeconds := PlainSegment.startSeconds
  endSeconds := PlainSegment.endSeconds
  isActive := PlainSegment.isActive

/-- A segment of 100 seconds, and 32 of one second that start behind it. -/
def longAndShorts : List PlainSegment :=
  { rowIndex := 0, startSeconds := 0, endSeconds := 100 } ::
    List.replicate 32 { rowIndex := 0, startSeconds := 1, endSeconds := 2 }

/-- With the camera at 10 to 20 seconds the linear scan finds the long segment, the index finds
    nothing. -/
theorem not_agrees_longAndShorts :
    (∀ seg ∈ longAndShorts, seg.startSeconds ≤ seg.endSeconds) ∧
      ¬ Agrees longAndShorts ⟨0, 1⟩ ⟨10, 20, 10, 20⟩ := by
  refine ⟨by decide +kernel, fun hagrees => ?_⟩
  have hlinear : (cullSegmentsLinear longAndShorts ⟨0, 1⟩ ⟨10, 20, 10, 20⟩).length = 1 := by
    decide +kernel
  have hindexed : (cullSegmentsIndexed (new longAndShorts) ⟨0, 1⟩ ⟨10, 20, 10, 20⟩).length = 0 := by
    decide +kernel
  have hlen := hagrees.perm.length_eq
  omega

/-! ## The windowing facade -/

/-- `SegmentWindowingOptions`. -/
structure SegmentWindowingOptions where
  disableIndex : Bool := false
  indexMinSegments : Nat := 256

/-- `TimelineSegmentWindowing`. -/
structure TimelineSegmentWindowing (TSegment : Type _) where
  index : Option (TimelineSegmentSpatialIndex TSegment) := none
  builtForSequence : Int := -1
  builtForLength : Int := -1
  options : SegmentWindowingOptions := {}
  builds : Nat := 0

namespace TimelineSegmentWindowing

/-- `windowing.resolve({ segments, sequence, rowWindow, timeWindow })`. -/
def resolve (w : TimelineSegmentWindowing TSegment) (segments : List TSegment) (sequence : Int)
    (rowWindow : TimelineRowWindow) (timeWindow : TimelineTimeWindow) :
    List TSegment × TimelineSegmentWindowing TSegment :=
  if segments.length = 0 then ([], w)
  -- a small list, or an index that is switched off: the linear scan
  else if w.options.disableIndex ∨ segments.length < w.options.indexMinSegments then
    (cullSegmentsLinear segments rowWindow timeWindow,
      { w with index := none, builtForSequence := sequence, builtForLength := segments.length })
  else
    -- the index that is kept serves the same sequence and length, else a new one is built
    match w.index, decide (w.builtForSequence = sequence ∧ w.builtForLength = segments.length) with
    | some index, true => (cullSegmentsIndexed index rowWindow timeWindow, w)
    | _, _ =>
      (cullSegmentsIndexed (new segments) rowWindow timeWindow,
        { w with
          index := some (new segments)
          builtForSequence := sequence
          builtForLength := segments.length
          builds := w.builds + 1 })

/-- `windowing.invalidate()`. -/
def invalidate (w : TimelineSegmentWindowing TSegment) : TimelineSegmentWindowing TSegment :=
  { w with index := none, builtForSequence := -1, builtForLength := -1 }

/-- The index that is kept is the one of the segments at its sequence. -/
def FreshFor (dataset : Int → List TSegment) (w : TimelineSegmentWindowing TSegment) : Prop :=
  ∀ index, w.index = some index → index = new (dataset w.builtForSequence)

variable {dataset : Int → List TSegment} {w : TimelineSegmentWindowing TSegment}

theorem FreshFor.invalidate : FreshFor dataset w.invalidate := fun _ h => nomatch h

theorem FreshFor.resolve (h : FreshFor dataset w) (sequence : Int) (rowWindow : TimelineRowWindow)
    (timeWindow : TimelineTimeWindow) :
    FreshFor dataset (w.resolve (dataset sequence) sequence rowWindow timeWindow).2 := by
  unfold TimelineSegmentWindowing.resolve
  split_ifs
  · exact h
  · exact fun _ hnone => nomatch hnone
  · split
    next => exact h
    next => exact fun _ hsome => (Option.some.inj hsome).symm

end TimelineSegmentWindowing

end AsyncViz.Frontend.Timeline
