/-
  AsyncViz.Replay.StateLoader

  `reconstruct_state` (`replay/loading/replay_state_loader.py`): the nearest snapshot at
  or before the target, and the frames behind it reduced onto its payload.

  What the function reduces depends on how its seek to the first frame behind the
  snapshot ends (`reconstructState_covered`, `reconstructState_uncovered`).  Where no
  chunk covers that sequence, the cursor stays at the start of the recording and every
  frame up to the target is reduced, those that the snapshot holds already included.
  So the result is the state at the target exactly for the targets that are `Resumable`
  (`reconstructs_iff_resumable`).
-/

import AsyncViz.Replay.Seek

namespace AsyncViz.Replay

open AsyncViz.Lib.Bisect AsyncViz.Lib.SortedLog

variable {σ : Type _}

/-- `StateReconstructionResult`. -/
structure StateReconstructionResult (σ : Type _) where
  targetSequence : Int
  state : σ
  snapshotUsed : Option (SnapshotEntry σ)
  framesReplayed : Nat
  seekResult : SeekResult

/-- `_ReducerSink`. -/
structure ReducerSink (σ : Type _) where
  state : σ
  framesSeen : Nat := 0

namespace ReducerSink

/-- Reduce one frame. -/
def reduce (reducer : σ → ReplayFrame → σ) (sink : ReducerSink σ) (frame : ReplayFrame) :
    ReducerSink σ :=
  { state := reducer sink.state frame, framesSeen := sink.framesSeen + 1 }

/-- The loop over the frames behind the cursor; it ends at the first one above the target. -/
def drain (reducer : σ → ReplayFrame → σ) (targetSequence : Int) (sink : ReducerSink σ) :
    List ReplayFrame → ReducerSink σ
  | [] => sink
  | frame :: frames =>
    if frame.sequence > targetSequence then sink
    else drain reducer targetSequence (sink.reduce reducer frame) frames

theorem drain_eq (reducer : σ → ReplayFrame → σ) (target : Int) (sink : ReducerSink σ)
    (frames : List ReplayFrame) :
    sink.drain reducer target frames =
      { state := (frames.takeWhile fun f => f.sequence ≤ target).foldl reducer sink.state
        framesSeen :=
          sink.framesSeen + (frames.takeWhile fun f => f.sequence ≤ target).length } := by
  induction frames generalizing sink with
  | nil => rfl
  | cons f frames ih =>
    rw [drain]
    by_cases hover : f.sequence > target
    · rw [if_pos hover, List.takeWhile_cons_of_neg (by simpa using hover)]
      rfl
    · rw [if_neg hover, ih, List.takeWhile_cons_of_pos (by simpa using hover)]
      simp only [reduce, List.foldl_cons, List.length_cons, ReducerSink.mk.injEq, true_and]
      omega

end ReducerSink

/-- Where a snapshot leaves off: `sequence_at_capture`, or `0` without a snapshot. -/
def captureOf : Option (SnapshotEntry σ) → Int
  | some snapshot => snapshot.sequenceAtCapture
  | none => 0

/-- The state that the reducer starts from: the payload, or `{}` without a snapshot. -/
def seedOf (empty : σ) : Option (SnapshotEntry σ) → σ
  | some snapshot => loadSnapshotPayload snapshot
  | none => empty

namespace ReplaySession

variable (session : ReplaySession σ) (reducer : σ → ReplayFrame → σ) (empty : σ)

/-- `loader.reconstruct_state_at(target_sequence)`; `empty` is `{}`. -/
def reconstructState (targetSequence : Int) : StateReconstructionResult σ :=
  let snapshot := session.snapshotIndex.nearestAtOrBefore targetSequence
  let sink : ReducerSink σ := { state := seedOf empty snapshot }
  let startSequence := captureOf snapshot + 1
  let seekResult := session.seekToSequence startSequence
  let cursor := seekResult.cursor
  -- the early exit; a cursor that stayed at the start never takes it
  if cursor.lastSequence > targetSequence then
    { targetSequence := targetSequence
      state := sink.state
      snapshotUsed := snapshot
      framesReplayed := 0
      seekResult := seekResult }
  else
    -- the cursor stands behind the landed frame, so that one is reduced by itself
    let landed := match seekResult.landedFrame with
      | some frame => if frame.sequence ≤ targetSequence then sink.reduce reducer frame else sink
      | none => sink
    let done := landed.drain reducer targetSequence (iterFromCursor cursor session.chunks)
    { targetSequence := targetSequence
      state := done.state
      snapshotUsed := snapshot
      framesReplayed := done.framesSeen
      seekResult := seekResult }

/-- Where the nearest snapshot of a target leaves off. -/
def resumePoint (target : Int) : Int := captureOf (session.snapshotIndex.nearestAtOrBefore target)

/-- `result` is what reducing the frames of `log` onto the nearest snapshot gives. -/
structure Replays (target : Int) (log : List ReplayFrame) (landed : Option ReplayFrame)
    (result : StateReconstructionResult σ) : Prop where
  snapshotUsed : result.snapshotUsed = session.snapshotIndex.nearestAtOrBefore target
  state : result.state
    = log.foldl reducer (seedOf empty (session.snapshotIndex.nearestAtOrBefore target))
  framesReplayed : result.framesReplayed = log.length
  landed : result.seekResult.landedFrame = landed

/-- State reconstruction: the frames behind the nearest snapshot up to the target, in
    order, are reduced onto its payload, and counted. -/
structure Reconstructs (target : Int) (result : StateReconstructionResult σ) : Prop where
  nearest : IsNearest (session.snapshots.map SnapshotFile.entry) SnapshotEntry.sequenceAtCapture
    target result.snapshotUsed
  state : result.state = (within ReplayFrame.sequence session.frames
    (captureOf result.snapshotUsed) target).foldl reducer (seedOf empty result.snapshotUsed)
  framesReplayed : result.framesReplayed = (within ReplayFrame.sequence session.frames
    (captureOf result.snapshotUsed) target).length

/-- Some chunk covers the sequence behind the nearest snapshot. -/
def CoversNext (target : Int) : Prop :=
  ∃ c ∈ session.chunks, c.Covers (session.resumePoint target + 1)

/-- The recording can be resumed behind the nearest snapshot: some chunk covers the next
    sequence, or there is no frame that the snapshot holds.  Below `0` nothing is read. -/
def Resumable (target : Int) : Prop :=
  target < 0 ∨ session.CoversNext target ∨
    ∀ f ∈ session.frames, session.resumePoint target < f.sequence

variable {session}

theorem resumePoint_nonneg (target : Int) : 0 ≤ session.resumePoint target := by
  rw [resumePoint]
  cases hnearest : session.snapshotIndex.nearestAtOrBefore target with
  | none => exact le_refl _
  | some entry => exact (session.captured_of_nearest hnearest).1

theorem resumePoint_le {target : Int} (htarget : 0 ≤ target) :
    session.resumePoint target ≤ target := by
  rw [resumePoint]
  cases hnearest : session.snapshotIndex.nearestAtOrBefore target with
  | none => exact htarget
  | some entry => exact (session.captured_of_nearest hnearest).2

/-! ## The two paths -/

/-- A chunk covers the sequence behind the snapshot: the seek lands on the first frame
    behind it, and exactly the frames from there up to the target are reduced. -/
theorem reconstructState_covered {target : Int} (hcovered : session.CoversNext target) :
    ∃ f, IsNext ReplayFrame.sequence session.frames (session.resumePoint target) f ∧
      session.Replays reducer empty target
        (within ReplayFrame.sequence session.frames (session.resumePoint target) target) (some f)
        (session.reconstructState reducer empty target) := by
  have hnonneg := session.resumePoint_nonneg target
  obtain ⟨c, hc, hcovers⟩ := hcovered
  obtain ⟨d, hd, f, hf, hlanded, hchunk, hlast, hnext⟩ :=
    session.seekToSequence_covered (by omega) hc hcovers
  rw [Int.add_sub_cancel] at hnext
  -- the seek was to the sequence behind the snapshot, and it found `f`
  refine ⟨f, hnext, ?_⟩
  have hiter := session.iterFromCursor_landed hd hf hchunk hlast
  rw [resumePoint] at hlanded hchunk hlast hiter hnext ⊢
  rw [reconstructState]
  by_cases hover : f.sequence > target
  · -- the seek overshot: no frame stands between the snapshot and the target
    have hempty : within ReplayFrame.sequence session.frames
        (captureOf (session.snapshotIndex.nearestAtOrBefore target)) target = [] := by
      refine List.filter_eq_nil_iff.mpr fun g hg => ?_
      simp only [decide_eq_true_eq, not_and, not_le]
      intro hlt
      have := hnext.first g hg hlt
      omega
    rw [hempty]
    simp only [hlast, hover, if_true]
    exact ⟨rfl, rfl, rfl, hlanded⟩
  · have hwithin : within ReplayFrame.sequence session.frames
        (captureOf (session.snapshotIndex.nearestAtOrBefore target)) target
        = f :: (after ReplayFrame.sequence session.frames f.sequence).takeWhile
            (fun g => g.sequence ≤ target) := by
      rw [takeWhile_after session.sorted,
        ← within_append_within session.sorted hnext.lt.le (not_lt.mp hover),
        within_of_isNext session.sorted hnext, List.singleton_append]
    rw [hwithin]
    simp only [hlast, hover, if_false, hlanded, if_pos (not_lt.mp hover), ReducerSink.drain_eq,
      hiter]
    refine ⟨rfl, rfl, ?_, hlanded⟩
    simp only [ReducerSink.reduce, List.length_cons]
    omega

/-- No chunk covers it: the cursor stays at the start of the recording, and every frame
    up to the target is reduced. -/
theorem reconstructState_uncovered {target : Int} (htarget : 0 ≤ target)
    (huncovered : ¬ session.CoversNext target) :
    session.Replays reducer empty target (upTo ReplayFrame.sequence session.frames target) none
      (session.reconstructState reducer empty target) := by
  have hnonneg := session.resumePoint_nonneg target
  have hseek := session.seekToSequence_uncovered (by omega) fun c hc hcovers =>
    huncovered ⟨c, hc, hcovers⟩
  rw [resumePoint] at hseek
  have hstart : ¬ ReplayCursor.atStart.lastSequence > target := not_lt.mpr htarget
  rw [reconstructState]
  simp only [hseek, hstart, if_false, ReducerSink.drain_eq, iterFromCursor_atStart]
  rw [takeWhile_le session.sorted]
  exact ⟨rfl, rfl, Nat.zero_add _, rfl⟩

/-- Below `0` nothing is read. -/
theorem reconstructState_uncovered_neg {target : Int} (htarget : target < 0)
    (huncovered : ¬ session.CoversNext target) :
    session.Replays reducer empty target [] none
      (session.reconstructState reducer empty target) := by
  have hnonneg := session.resumePoint_nonneg target
  have hseek := session.seekToSequence_uncovered (by omega) fun c hc hcovers =>
    huncovered ⟨c, hc, hcovers⟩
  rw [resumePoint] at hseek
  rw [reconstructState]
  simp only [hseek, ReplayCursor.atStart, gt_iff_lt, htarget, if_true]
  exact ⟨rfl, rfl, rfl, rfl⟩

/-! ## Exactness -/

theorem landedFrame_uncovered {target : Int} (huncovered : ¬ session.CoversNext target) :
    (session.reconstructState reducer empty target).seekResult.landedFrame = none := by
  rcases lt_or_ge target 0 with hneg | htarget
  · exact (session.reconstructState_uncovered_neg reducer empty hneg huncovered).landed
  · exact (session.reconstructState_uncovered reducer empty htarget huncovered).landed

/-- Where the recording can be resumed, what is reduced onto the nearest snapshot is what
    stands behind it. -/
theorem replays_of_resumable {target : Int} (h : session.Resumable target) :
    session.Replays reducer empty target
      (within ReplayFrame.sequence session.frames (session.resumePoint target) target)
      (session.reconstructState reducer empty target).seekResult.landedFrame
      (session.reconstructState reducer empty target) := by
  by_cases hcovered : session.CoversNext target
  · obtain ⟨f, -, hreplays⟩ := session.reconstructState_covered reducer empty hcovered
    exact hreplays.landed ▸ hreplays
  rcases lt_or_ge target 0 with hneg | htarget
  · -- below `0` there is no frame to reduce
    have hreplays := session.reconstructState_uncovered_neg reducer empty hneg hcovered
    rw [← within_eq_nil (hneg.le.trans (session.resumePoint_nonneg target))] at hreplays
    exact hreplays.landed ▸ hreplays
  · have hreplays := session.reconstructState_uncovered reducer empty htarget hcovered
    rcases h with hneg | hcov | hbehind
    · omega
    · exact absurd hcov hcovered
    · rw [← within_eq_upTo hbehind] at hreplays
      exact hreplays.landed ▸ hreplays

variable {reducer empty}

theorem Replays.reconstructs {target : Int} {landed : Option ReplayFrame}
    {result : StateReconstructionResult σ}
    (h : session.Replays reducer empty target
      (within ReplayFrame.sequence session.frames (session.resumePoint target) target) landed
      result) :
    session.Reconstructs reducer empty target result where
  nearest := h.snapshotUsed ▸ session.nearestAtOrBefore_isNearest target
  state := by rw [h.state, h.snapshotUsed]; rfl
  framesReplayed := by rw [h.framesReplayed, h.snapshotUsed]; rfl

/-- State reconstruction is right for exactly the targets behind whose nearest snapshot
    the recording can be resumed. -/
theorem reconstructs_iff_resumable (session : ReplaySession σ) (reducer : σ → ReplayFrame → σ)
    (empty : σ) (target : Int) :
    session.Reconstructs reducer empty target (session.reconstructState reducer empty target) ↔
      session.Resumable target := by
  constructor
  · intro h
    -- otherwise frames that the snapshot holds are reduced once more, and the count tells
    by_contra hnot
    rw [Resumable, not_or, not_or] at hnot
    obtain ⟨htarget, huncovered, hheld⟩ := hnot
    have hreplays :=
      session.reconstructState_uncovered reducer empty (not_lt.mp htarget) huncovered
    -- as many frames as stand behind the snapshot, so none stands before
    have hcount := h.framesReplayed
    rw [hreplays.framesReplayed, hreplays.snapshotUsed] at hcount
    change _ = (within ReplayFrame.sequence session.frames (session.resumePoint target)
      target).length at hcount
    rw [← upTo_append_within session.sorted (session.resumePoint_le (not_lt.mp htarget)),
      List.length_append] at hcount
    have hnil : upTo ReplayFrame.sequence session.frames (session.resumePoint target) = [] :=
      List.eq_nil_of_length_eq_zero (by omega)
    refine hheld fun f hf => ?_
    by_contra hle
    exact List.not_mem_nil (hnil ▸ mem_upTo.mpr ⟨hf, not_lt.mp hle⟩)
  · intro h
    exact (session.replays_of_resumable reducer empty h).reconstructs

end ReplaySession

/-! ## The snapshot of `stop` -/

/-- `default_collecting_reducer`, on the list that it keeps under `frames`. -/
def collectFrames (state : List ReplayFrame) (frame : ReplayFrame) : List ReplayFrame :=
  state ++ [frame]

/-- Two events in one chunk, and the snapshot that `stop` takes after them. -/
private def stoppedSession : ReplaySession (List ReplayFrame) where
  chunks := [{ index := 1, frames := [ReplayFrame.sample 1, ReplayFrame.sample 2] }]
  snapshots :=
    [{ record := { index := 1, sequenceAtCapture := 2, kind := "stop" }
       payload := [ReplayFrame.sample 1, ReplayFrame.sample 2] }]
  indexed := by simp [Increasing]
  index_pos := by simp
  increasing := by simp [Increasing, ReplayFrame.sample]
  nonneg := by simp [ReplayFrame.sample]
  captured := by simp

/-- At the last sequence the stop snapshot is the state, but both of its frames are
    reduced onto it once more. -/
theorem stop_snapshot_not_reconstructed :
    ¬ stoppedSession.Reconstructs collectFrames [] 2
      (stoppedSession.reconstructState collectFrames [] 2) := by
  intro h
  -- two frames were reduced where none stands behind the snapshot
  have hreplayed : (stoppedSession.reconstructState collectFrames [] 2).framesReplayed = 2 := rfl
  have hbehind : (within ReplayFrame.sequence stoppedSession.frames
      (captureOf (stoppedSession.reconstructState collectFrames [] 2).snapshotUsed) 2).length = 0 :=
    rfl
  have hcount := h.framesReplayed
  rw [hreplayed, hbehind] at hcount
  exact absurd hcount (by decide)

end AsyncViz.Replay
