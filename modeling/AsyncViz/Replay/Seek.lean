/-
  AsyncViz.Replay.Seek

  The loader's seek (`replay/loading/replay_cursor.py`, `replay_seek.py`): the plan that
  picks a chunk, the walk that lands on a frame, and the iteration that carries on from
  the cursor of a landing.

  A seek ends in one of two ways (`seekToSequence_covered`, `seekToSequence_uncovered`):
  some chunk covers the target, and the seek lands on the first frame at or after it; or
  none does, and the cursor stays at the start.  `iterFromCursor` then yields the frames
  after the landing, respectively all frames.
-/

import AsyncViz.Replay.Recording
import Mathlib.Data.List.Flatten

namespace AsyncViz.Replay

open AsyncViz.Lib.Bisect AsyncViz.Lib.SortedLog

/-- `ReplayCursor`. -/
structure ReplayCursor where
  chunkIndex : Int := 0
  lastSequence : Int := 0
  framesConsumed : Nat := 0
  lastMonotonicNs : Int := 0
  snapshotIndex : Int := -1
deriving DecidableEq, Repr

namespace ReplayCursor

/-- `ReplayCursor.at_start()`. -/
def atStart : ReplayCursor := {}

/-- `cursor.advance(chunk_index=…, sequence=…, monotonic_ns=…)`. -/
def advance (cursor : ReplayCursor) (chunkIndex sequence monotonicNs : Int) : ReplayCursor :=
  { cursor with
    chunkIndex := chunkIndex
    lastSequence := sequence
    framesConsumed := cursor.framesConsumed + 1
    lastMonotonicNs := monotonicNs }

/-- `cursor.with_snapshot(snapshot_index)`. -/
def withSnapshot (cursor : ReplayCursor) (snapshotIndex : Int) : ReplayCursor :=
  { cursor with snapshotIndex := snapshotIndex }

end ReplayCursor

/-- `SeekPlan`.  `startingChunkIndex` is `0` when no chunk contains the target. -/
structure SeekPlan (σ : Type _) where
  startingChunkIndex : Int
  snapshot : Option (SnapshotEntry σ)
  chunksToScan : Nat

/-- `SeekResult`. -/
structure SeekResult where
  cursor : ReplayCursor
  landedFrame : Option ReplayFrame
  chunksScanned : Nat

/-- `plan_sequence_seek`. -/
def planSequenceSeek {σ : Type _} (targetSequence : Int) (sequenceIndex : ReplayIndex)
    (snapshotIndex : ReplaySnapshotIndex σ) (chunks : List Chunk) : SeekPlan σ :=
  match sequenceIndex.chunkForSequence targetSequence with
  -- also for a sequence in a gap between two chunks, or behind the last one
  | none => { startingChunkIndex := 0, snapshot := none, chunksToScan := 0 }
  | some entry =>
    { startingChunkIndex := entry.chunkIndex
      snapshot := snapshotIndex.nearestAtOrBefore targetSequence
      chunksToScan := chunks.countP fun c => entry.chunkIndex ≤ c.index }

/-- The loop of `execute_seek`: skip the chunks before the starting one, count the others
    and stop at the first frame that matches. -/
def walkChunks (startingChunkIndex : Int) (targetPredicate : ReplayFrame → Bool) :
    List Chunk → Nat → Option (Chunk × ReplayFrame) × Nat
  | [], chunksScanned => (none, chunksScanned)
  | chunk :: chunks, chunksScanned =>
    if chunk.index < startingChunkIndex then
      walkChunks startingChunkIndex targetPredicate chunks chunksScanned
    else
      match chunk.frames.find? targetPredicate with
      | some frame => (some (chunk, frame), chunksScanned + 1)
      | none => walkChunks startingChunkIndex targetPredicate chunks (chunksScanned + 1)

/-- `execute_seek`. -/
def executeSeek {σ : Type _} (plan : SeekPlan σ) (chunks : List Chunk)
    (targetPredicate : ReplayFrame → Bool) : SeekResult :=
  if plan.startingChunkIndex = 0 then
    { cursor := .atStart, landedFrame := none, chunksScanned := 0 }
  else
    match walkChunks plan.startingChunkIndex targetPredicate chunks 0 with
    | (none, chunksScanned) =>
      { cursor := .atStart, landedFrame := none, chunksScanned := chunksScanned }
    | (some (chunk, frame), chunksScanned) =>
      let cursor := ReplayCursor.atStart.advance chunk.index frame.sequence frame.monotonicNs
      { cursor := match plan.snapshot with
          | some snapshot => cursor.withSnapshot snapshot.record.index
          | none => cursor
        landedFrame := some frame
        chunksScanned := chunksScanned }

/-- `iter_from_cursor`. -/
def iterFromCursor (cursor : ReplayCursor) (chunks : List Chunk) : List ReplayFrame :=
  -- the cursor at the start means everything, wherever it came from
  if cursor.chunkIndex ≤ 0 then chunks.flatMap Chunk.frames
  else
    (chunks.filter fun c => cursor.chunkIndex ≤ c.index).flatMap fun c =>
      c.frames.filter fun f => cursor.lastSequence < f.sequence

namespace ReplaySession

variable {σ : Type _} (session : ReplaySession σ)

/-- `loader.seek_to_sequence(target_sequence)`, without the loader's own cursor. -/
def seekToSequence (targetSequence : Int) : SeekResult :=
  executeSeek
    (planSequenceSeek targetSequence session.sequenceIndex session.snapshotIndex session.chunks)
    session.chunks fun frame => targetSequence ≤ frame.sequence

variable {session}

/-! ## The walk -/

/-- The walk looks for its frame in the chunks from the starting one on. -/
theorem walkChunks_eq (start : Int) (p : ReplayFrame → Bool) (chunks : List Chunk) (n : Nat) :
    (walkChunks start p chunks n).1.map Prod.snd
      = ((chunks.filter fun c => start ≤ c.index).flatMap Chunk.frames).find? p := by
  induction chunks generalizing n with
  | nil => rfl
  | cons chunk chunks ih =>
    rw [walkChunks]
    by_cases hbefore : chunk.index < start
    · rw [if_pos hbefore, ih, List.filter_cons_of_neg (by simpa using hbefore)]
    · rw [if_neg hbefore, List.filter_cons_of_pos (by simpa using hbefore), List.flatMap_cons,
        List.find?_append]
      cases hfind : chunk.frames.find? p with
      | none => exact ih (n + 1)
      | some frame => rfl

theorem walkChunks_mem {start : Int} {p : ReplayFrame → Bool} {chunks : List Chunk} {n : Nat}
    {chunk : Chunk} {frame : ReplayFrame}
    (h : (walkChunks start p chunks n).1 = some (chunk, frame)) :
    chunk ∈ chunks ∧ frame ∈ chunk.frames := by
  induction chunks generalizing n with
  | nil => simp [walkChunks] at h
  | cons head chunks ih =>
    rw [walkChunks] at h
    by_cases hbefore : head.index < start
    · rw [if_pos hbefore] at h
      exact ⟨List.mem_cons_of_mem head (ih h).1, (ih h).2⟩
    · rw [if_neg hbefore] at h
      cases hfind : head.frames.find? p with
      | none =>
        simp only [hfind] at h
        exact ⟨List.mem_cons_of_mem head (ih h).1, (ih h).2⟩
      | some found =>
        simp only [hfind, Option.some.injEq, Prod.mk.injEq] at h
        obtain ⟨rfl, rfl⟩ := h
        exact ⟨List.mem_cons_self, List.mem_of_find?_eq_some hfind⟩

/-- Frames of the chunks before `c` do not reach a sequence that `c` covers. -/
theorem index_le_of_covers {c d : Chunk} (hc : c ∈ session.chunks) (hd : d ∈ session.chunks)
    {q : Int} (hcovers : c.Covers q) {f : ReplayFrame} (hf : f ∈ d.frames)
    (hqf : q ≤ f.sequence) : c.index ≤ d.index := by
  obtain ⟨⟨a, ha, haq⟩, -⟩ := hcovers
  by_contra hlt
  have := session.sequence_lt_of_index_lt hd hc (not_le.mp hlt) hf ha
  omega

/-- The frames of some of the chunks, in order. -/
theorem flatMap_filter_sublist (p : Chunk → Bool) :
    ((session.chunks.filter p).flatMap Chunk.frames).Sublist session.frames :=
  List.filter_sublist.flatMap _

/-- The frames at or after `q`, when a chunk covers `q`: the walk from that chunk on
    finds the first of them. -/
theorem find?_covered {c : Chunk} (hc : c ∈ session.chunks) {q : Int} (hcovers : c.Covers q) :
    ∃ f, ((session.chunks.filter fun d => c.index ≤ d.index).flatMap Chunk.frames).find?
        (fun f => q ≤ f.sequence) = some f ∧
      IsNext ReplayFrame.sequence session.frames (q - 1) f := by
  obtain ⟨-, b, hb, hqb⟩ := id hcovers
  -- nothing at or after `q` stands in a chunk before `c`
  have htail : ∀ g ∈ session.frames, q ≤ g.sequence →
      g ∈ (session.chunks.filter fun d => c.index ≤ d.index).flatMap Chunk.frames := by
    intro g hg hqg
    obtain ⟨d, hd, hgd⟩ := mem_frames.mp hg
    have hle := session.index_le_of_covers hc hd hcovers hgd hqg
    exact List.mem_flatMap.mpr ⟨d, List.mem_filter.mpr ⟨hd, by simpa using hle⟩, hgd⟩
  have hsublist : ((session.chunks.filter fun d => c.index ≤ d.index).flatMap Chunk.frames).Sublist
      session.frames := session.flatMap_filter_sublist _
  have hsorted : Increasing ReplayFrame.sequence
      ((session.chunks.filter fun d => c.index ≤ d.index).flatMap Chunk.frames) :=
    session.increasing.sublist hsublist
  generalize (session.chunks.filter fun d => c.index ≤ d.index).flatMap Chunk.frames = tail
    at htail hsublist hsorted
  cases hfind : tail.find? (fun f => q ≤ f.sequence) with
  | none =>
    have hb' := htail b (mem_frames.mpr ⟨c, hc, hb⟩) hqb
    have := List.find?_eq_none.mp hfind b hb'
    simp [hqb] at this
  | some f =>
    obtain ⟨hqf, before, behind, rfl, hbefore⟩ := List.find?_eq_some_iff_append.mp hfind
    refine ⟨f, rfl, hsublist.subset (by simp), ?_, fun g hg hqg => ?_⟩
    · have : q ≤ f.sequence := by simpa using hqf
      omega
    · -- what stands before `f` in the tail is below `q`
      have hqg' : q ≤ g.sequence := by omega
      obtain ⟨-, hbehind, -⟩ := List.pairwise_append.mp hsorted
      rcases List.mem_append.mp (htail g hg hqg') with hin | hin
      · have := hbefore g hin
        simp [hqg'] at this
      · rcases List.mem_cons.mp hin with rfl | hin'
        · exact le_refl _
        · exact ((List.pairwise_cons.mp hbehind).1 g hin').le

/-! ## The two outcomes of a seek -/

/-- The frames of the chunks from `e` on. -/
def tailFrom (session : ReplaySession σ) (e : Chunk) : List ReplayFrame :=
  (session.chunks.filter fun d => e.index ≤ d.index).flatMap Chunk.frames

/-- A seek that starts at `e` lands on the first frame from there, with the cursor on it. -/
theorem seekToSequence_of_entry {t : Int} {e : Chunk} (he : e ∈ session.chunks)
    {entry : IndexEntry} (hentry : session.sequenceIndex.chunkForSequence t = some entry)
    (hindex : entry.chunkIndex = e.index) :
    (session.seekToSequence t).landedFrame
        = (session.tailFrom e).find? (fun f => t ≤ f.sequence) ∧
      ∀ f, (session.seekToSequence t).landedFrame = some f → ∃ d ∈ session.chunks, f ∈ d.frames ∧
        (session.seekToSequence t).cursor.chunkIndex = d.index ∧
        (session.seekToSequence t).cursor.lastSequence = f.sequence := by
  obtain ⟨chunkIndex, first, last, count⟩ := entry
  obtain rfl : chunkIndex = e.index := hindex
  have hstart : e.index ≠ 0 := by
    have := session.index_pos e he
    omega
  have hwalk := walkChunks_eq e.index (fun f => t ≤ f.sequence) session.chunks 0
  cases hresult : walkChunks e.index (fun f => decide (t ≤ f.sequence)) session.chunks 0 with
  | mk landing scanned =>
  rw [hresult] at hwalk
  rw [seekToSequence, planSequenceSeek, hentry, executeSeek, if_neg hstart, hresult]
  cases landing with
  | none => exact ⟨hwalk, fun f hf => by cases hf⟩
  | some found =>
    obtain ⟨d, g⟩ := found
    obtain ⟨hd, hg⟩ := walkChunks_mem (congrArg Prod.fst hresult)
    refine ⟨hwalk, fun f hf => ?_⟩
    cases hf
    cases session.snapshotIndex.nearestAtOrBefore t with
    | none => exact ⟨d, hd, hg, rfl, rfl⟩
    | some snapshot => exact ⟨d, hd, hg, rfl, rfl⟩

theorem seekToSequence_of_none {t : Int}
    (hentry : session.sequenceIndex.chunkForSequence t = none) :
    session.seekToSequence t = { cursor := .atStart, landedFrame := none, chunksScanned := 0 } := by
  rw [seekToSequence, planSequenceSeek, hentry, executeSeek, if_pos rfl]

theorem seekToSequence_covered {q : Int} (hq : 0 ≤ q) {c : Chunk} (hc : c ∈ session.chunks)
    (hcovers : c.Covers q) :
    ∃ d ∈ session.chunks, ∃ f ∈ d.frames,
      (session.seekToSequence q).landedFrame = some f ∧
      (session.seekToSequence q).cursor.chunkIndex = d.index ∧
      (session.seekToSequence q).cursor.lastSequence = f.sequence ∧
      IsNext ReplayFrame.sequence session.frames (q - 1) f := by
  cases hentry : session.sequenceIndex.chunkForSequence q with
  | none => exact absurd hcovers (session.chunkForSequence_none hq hentry hc)
  | some entry =>
    obtain ⟨e, he, hindex, hecovers⟩ := session.chunkForSequence_some hq hentry
    -- the index may name another chunk than `c`, but one that covers `q` too
    obtain ⟨f, hfind, hnext⟩ := session.find?_covered he hecovers
    obtain ⟨hlanded, hcursor⟩ := seekToSequence_of_entry he hentry hindex
    obtain ⟨d, hd, hf, hchunk, hsequence⟩ := hcursor f (hlanded.trans hfind)
    exact ⟨d, hd, f, hf, hlanded.trans hfind, hchunk, hsequence, hnext⟩

theorem seekToSequence_uncovered {q : Int} (hq : 0 ≤ q)
    (hnone : ∀ c ∈ session.chunks, ¬ c.Covers q) :
    session.seekToSequence q = { cursor := .atStart, landedFrame := none, chunksScanned := 0 } := by
  cases hentry : session.sequenceIndex.chunkForSequence q with
  | none => exact seekToSequence_of_none hentry
  | some entry =>
    obtain ⟨e, he, -, hcovers⟩ := session.chunkForSequence_some hq hentry
    exact absurd hcovers (hnone e he)

/-! ## Carrying on from a cursor -/

theorem iterFromCursor_atStart : iterFromCursor .atStart session.chunks = session.frames := rfl

/-- From the cursor of a landing, exactly the frames after the landed one follow. -/
theorem iterFromCursor_landed {cursor : ReplayCursor} {d : Chunk} {f : ReplayFrame}
    (hd : d ∈ session.chunks) (hf : f ∈ d.frames) (hchunk : cursor.chunkIndex = d.index)
    (hseq : cursor.lastSequence = f.sequence) :
    iterFromCursor cursor session.chunks
      = after ReplayFrame.sequence session.frames f.sequence := by
  have hpos : ¬ cursor.chunkIndex ≤ 0 := by
    have := session.index_pos d hd
    omega
  rw [iterFromCursor, if_neg hpos, hchunk, hseq]
  have hfilter : ((session.chunks.filter fun c => d.index ≤ c.index).flatMap fun c =>
        c.frames.filter fun g => f.sequence < g.sequence)
      = ((session.chunks.filter fun c => d.index ≤ c.index).flatMap Chunk.frames).filter
          fun g => f.sequence < g.sequence := by
    rw [List.filter_flatMap]
  rw [hfilter]
  have hsorted := session.increasing.sublist
    (session.flatMap_filter_sublist fun c => d.index ≤ c.index)
  -- two increasing lists with the same members are equal
  refine Increasing.eq_of_mem_iff (hsorted.filter _) (session.increasing.filter _) fun g => ?_
  rw [mem_after, List.mem_filter, List.mem_flatMap, mem_frames]
  constructor
  · rintro ⟨⟨c, hc, hg⟩, hlt⟩
    exact ⟨⟨c, (List.mem_filter.mp hc).1, hg⟩, by simpa using hlt⟩
  · rintro ⟨⟨c, hc, hg⟩, hlt⟩
    refine ⟨⟨c, List.mem_filter.mpr ⟨hc, ?_⟩, hg⟩, by simpa using hlt⟩
    -- an earlier chunk has no frame behind `f`
    have hle : d.index ≤ c.index := by
      by_contra hbefore
      have := session.sequence_lt_of_index_lt hc hd (not_le.mp hbefore) hg hf
      omega
    simpa using hle

end ReplaySession

end AsyncViz.Replay
