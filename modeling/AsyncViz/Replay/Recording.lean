/-
  AsyncViz.Replay.Recording

  A recording session as the loader opens it (`replay/recording/recording_writer.py`,
  `recording_metadata.py`, `recording_index.py`, `replay/loading/replay_index.py`,
  `replay_snapshot_index.py`): chunk files with their manifest records, snapshot files
  with theirs, and the two indexes that are built from the records.

  * A chunk's record is what `_write_to_chunk` leaves behind after its frames.
  * `ReplaySession` carries what every session has: chunk indexes and frame sequences
    increase, and nothing has a negative sequence.
  * `chunkForSequence_some` and `chunkForSequence_none` say what the binary search over
    the chunk ranges finds, in terms of the frames (`Chunk.Covers`).
-/

import AsyncViz.Lib.Bisect
import AsyncViz.Lib.SortedLog
import AsyncViz.Runtime.Events

namespace AsyncViz.Replay

open AsyncViz.Lib.Bisect AsyncViz.Lib.SortedLog
open AsyncViz.Runtime (Json)

/-! ## Chunks -/

/-- `ReplayFrame`, as far as reducers and the loader read it. -/
structure ReplayFrame where
  sequence : Int
  monotonicNs : Int
  payloadType : String
  payload : Json
deriving Inhabited

/-- A frame of a runtime event, 10 ns for each sequence number: what the sample recordings are
    made of. -/
def ReplayFrame.sample (sequence : Int) : ReplayFrame :=
  { sequence := sequence
    monotonicNs := 10 * sequence
    payloadType := "asyncio.task.created"
    payload := .null }

/-- `ChunkRecord`.  The sequences are `-1` while the chunk is empty. -/
structure ChunkRecord where
  index : Int
  eventCount : Nat := 0
  firstSequence : Int := -1
  lastSequence : Int := -1
deriving DecidableEq, Repr

/-- `_write_to_chunk`. -/
def ChunkRecord.writeToChunk (record : ChunkRecord) (frame : ReplayFrame) : ChunkRecord :=
  { record with
    eventCount := record.eventCount + 1
    -- `-1` marks the empty chunk, so only its first frame sets the start
    firstSequence := if record.firstSequence < 0 then frame.sequence else record.firstSequence
    lastSequence := frame.sequence }

/-- A chunk file: its 1-based index and the frames on its lines. -/
structure Chunk where
  index : Int
  frames : List ReplayFrame
deriving Inhabited

namespace Chunk

/-- The manifest record of the chunk. -/
def record (chunk : Chunk) : ChunkRecord :=
  chunk.frames.foldl ChunkRecord.writeToChunk { index := chunk.index }

/-- `sequence` lies between the first and the last frame of the chunk. -/
def Covers (chunk : Chunk) (sequence : Int) : Prop :=
  (∃ f ∈ chunk.frames, f.sequence ≤ sequence) ∧ ∃ f ∈ chunk.frames, sequence ≤ f.sequence

instance (chunk : Chunk) (sequence : Int) : Decidable (chunk.Covers sequence) :=
  inferInstanceAs (Decidable (_ ∧ _))

end Chunk

theorem foldl_writeToChunk (record : ChunkRecord) (frames : List ReplayFrame)
    (hfirst : 0 ≤ record.firstSequence) :
    (frames.foldl ChunkRecord.writeToChunk record).index = record.index ∧
    (frames.foldl ChunkRecord.writeToChunk record).firstSequence = record.firstSequence ∧
    (frames.foldl ChunkRecord.writeToChunk record).lastSequence
      = (frames.map ReplayFrame.sequence).getLastD record.lastSequence := by
  induction frames generalizing record with
  | nil => exact ⟨rfl, rfl, rfl⟩
  | cons f frames ih =>
    -- a start that is set stays, and the end moves to the last frame
    have hkeep : (record.writeToChunk f).firstSequence = record.firstSequence :=
      if_neg (not_lt.mpr hfirst)
    obtain ⟨hindex, hfirst', hlast⟩ := ih (record.writeToChunk f) (by rw [hkeep]; exact hfirst)
    refine ⟨hindex, hfirst'.trans hkeep, ?_⟩
    rw [List.foldl_cons, hlast, List.map_cons, List.getLastD_cons]
    rfl

@[simp] theorem Chunk.record_index (chunk : Chunk) : chunk.record.index = chunk.index := by
  rw [Chunk.record]
  -- any record to start from, so that the induction goes through
  generalize hrecord : ({ index := chunk.index } : ChunkRecord) = record
  have hindex : record.index = chunk.index := by rw [← hrecord]
  rw [← hindex]
  clear hindex hrecord
  induction chunk.frames generalizing record with
  | nil => rfl
  | cons f frames ih => exact ih (record.writeToChunk f)

/-- The record of a chunk that holds frames: the sequences of the first and the last. -/
theorem Chunk.record_cons (index : Int) {f : ReplayFrame} (frames : List ReplayFrame)
    (hnonneg : 0 ≤ f.sequence) :
    (Chunk.mk index (f :: frames)).record.firstSequence = f.sequence ∧
    (Chunk.mk index (f :: frames)).record.lastSequence
      = (frames.map ReplayFrame.sequence).getLastD f.sequence := by
  have hopen : ((ChunkRecord.mk index 0 (-1) (-1)).writeToChunk f).firstSequence = f.sequence := rfl
  obtain ⟨-, hfirst, hlast⟩ :=
    foldl_writeToChunk ((ChunkRecord.mk index 0 (-1) (-1)).writeToChunk f) frames
      (by rw [hopen]; exact hnonneg)
  exact ⟨hfirst.trans hopen, hlast⟩

/-! ## Snapshots -/

/-- `SnapshotRecord`. -/
structure SnapshotRecord where
  index : Int
  sequenceAtCapture : Int
  kind : String
deriving DecidableEq, Repr

/-- `SnapshotEntry`: a record with the file it names, whose content is `payload`. -/
structure SnapshotEntry (σ : Type _) where
  record : SnapshotRecord
  payload : σ
  sequenceAtCapture : Int

/-- A snapshot file with its record. -/
structure SnapshotFile (σ : Type _) where
  record : SnapshotRecord
  payload : σ

/-- The entry that `from_records` makes of a snapshot file. -/
def SnapshotFile.entry {σ : Type _} (file : SnapshotFile σ) : SnapshotEntry σ :=
  { record := file.record
    payload := file.payload
    sequenceAtCapture := file.record.sequenceAtCapture }

/-- `load_snapshot_payload`. -/
def loadSnapshotPayload {σ : Type _} (entry : SnapshotEntry σ) : σ := entry.payload

/-- `ReplaySnapshotIndex`. -/
structure ReplaySnapshotIndex (σ : Type _) where
  entries : List (SnapshotEntry σ)

/-- `ReplaySnapshotIndex.from_records`. -/
def ReplaySnapshotIndex.fromRecords {σ : Type _} (files : List (SnapshotFile σ)) :
    ReplaySnapshotIndex σ :=
  { entries := sortedBy SnapshotEntry.sequenceAtCapture (files.map SnapshotFile.entry) }

/-- `snapshot_index.nearest_at_or_before(sequence)`. -/
def ReplaySnapshotIndex.nearestAtOrBefore {σ : Type _} (index : ReplaySnapshotIndex σ)
    (sequence : Int) : Option (SnapshotEntry σ) :=
  lastAtOrBefore index.entries SnapshotEntry.sequenceAtCapture sequence

/-! ## The chunk index -/

/-- `IndexEntry`. -/
structure IndexEntry where
  chunkIndex : Int
  firstSequence : Int
  lastSequence : Int
  eventCount : Nat
deriving DecidableEq, Repr

/-- The index entry of a chunk record. -/
def ChunkRecord.entry (record : ChunkRecord) : IndexEntry :=
  { chunkIndex := record.index
    firstSequence := record.firstSequence
    lastSequence := record.lastSequence
    eventCount := record.eventCount }

/-- `build_index_from_chunks`. -/
def buildIndexFromChunks (chunks : List ChunkRecord) : List IndexEntry :=
  sortedBy IndexEntry.chunkIndex (chunks.map ChunkRecord.entry)

/-- `ReplayIndex`. -/
structure ReplayIndex where
  entries : List IndexEntry

/-- `ReplayIndex.from_metadata`; the index file that `stop` writes has the same entries. -/
def ReplayIndex.fromMetadata (chunks : List ChunkRecord) : ReplayIndex :=
  { entries := sortedBy IndexEntry.firstSequence (buildIndexFromChunks chunks) }

/-- `sequence_index.chunk_for_sequence(sequence)`. -/
def ReplayIndex.chunkForSequence (index : ReplayIndex) (sequence : Int) : Option IndexEntry :=
  match lastAtOrBefore index.entries IndexEntry.firstSequence sequence with
  | none => none
  | some candidate => if sequence > candidate.lastSequence then none else some candidate

/-! ## Sessions -/

/-- A recording session.  The writer numbers its chunks from 1 on, and neither a frame
    nor a capture has a negative sequence. -/
structure ReplaySession (σ : Type _) where
  chunks : List Chunk
  snapshots : List (SnapshotFile σ)
  indexed : Increasing Chunk.index chunks
  index_pos : ∀ c ∈ chunks, 0 < c.index
  increasing : Increasing ReplayFrame.sequence (chunks.flatMap Chunk.frames)
  nonneg : ∀ f ∈ chunks.flatMap Chunk.frames, 0 ≤ f.sequence
  captured : ∀ file ∈ snapshots, 0 ≤ file.record.sequenceAtCapture

namespace ReplaySession

/-- A session need not have captures. -/
theorem captured_nil (σ : Type _) :
    ∀ file ∈ ([] : List (SnapshotFile σ)), 0 ≤ file.record.sequenceAtCapture :=
  fun _ hfile => absurd hfile List.not_mem_nil

variable {σ : Type _} (session : ReplaySession σ)

/-- All recorded frames, in order. -/
def frames : List ReplayFrame := session.chunks.flatMap Chunk.frames

/-- The sequence index of the session. -/
def sequenceIndex : ReplayIndex := .fromMetadata (session.chunks.map Chunk.record)

/-- The snapshot index of the session. -/
def snapshotIndex : ReplaySnapshotIndex σ := .fromRecords session.snapshots

variable {session}

theorem sorted : Increasing ReplayFrame.sequence session.frames := session.increasing

theorem mem_frames {f : ReplayFrame} :
    f ∈ session.frames ↔ ∃ c ∈ session.chunks, f ∈ c.frames :=
  List.mem_flatMap

theorem nearestAtOrBefore_isNearest (target : Int) :
    IsNearest (session.snapshots.map SnapshotFile.entry) SnapshotEntry.sequenceAtCapture target
      (session.snapshotIndex.nearestAtOrBefore target) :=
  lastAtOrBefore_sortedBy _ _ _

theorem captured_of_nearest {target : Int} {entry : SnapshotEntry σ}
    (h : session.snapshotIndex.nearestAtOrBefore target = some entry) :
    0 ≤ entry.sequenceAtCapture ∧ entry.sequenceAtCapture ≤ target := by
  have hnearest := session.nearestAtOrBefore_isNearest target
  rw [h] at hnearest
  obtain ⟨hmem, hle, -⟩ := hnearest
  obtain ⟨file, hfile, rfl⟩ := List.mem_map.mp hmem
  exact ⟨session.captured file hfile, hle⟩

/-! ### Order between chunks -/

/-- Frames of an earlier chunk come before those of a later one. -/
theorem sequence_lt_of_index_lt {c d : Chunk} (hc : c ∈ session.chunks) (hd : d ∈ session.chunks)
    (hlt : c.index < d.index) {f g : ReplayFrame} (hf : f ∈ c.frames) (hg : g ∈ d.frames) :
    f.sequence < g.sequence := by
  obtain ⟨-, hcross⟩ := List.pairwise_flatMap.mp session.increasing
  -- by the chunks' positions: the frames follow them, and so do the indexes
  obtain ⟨i, hi, rfl⟩ := List.getElem_of_mem hc
  obtain ⟨j, hj, rfl⟩ := List.getElem_of_mem hd
  rcases Nat.lt_trichotomy i j with hij | rfl | hji
  · exact List.pairwise_iff_getElem.mp hcross i j hi hj hij f hf g hg
  · exact absurd hlt (lt_irrefl _)
  · have hback := List.pairwise_iff_getElem.mp session.indexed j i hj hi hji
    exact absurd hlt (not_lt.mpr hback.le)

theorem increasing_frames {c : Chunk} (hc : c ∈ session.chunks) :
    Increasing ReplayFrame.sequence c.frames :=
  (List.pairwise_flatMap.mp session.increasing).1 c hc

theorem nonneg_of_mem {c : Chunk} (hc : c ∈ session.chunks) {f : ReplayFrame}
    (hf : f ∈ c.frames) : 0 ≤ f.sequence :=
  session.nonneg f (mem_frames.mpr ⟨c, hc, hf⟩)

/-- The recorded range of a chunk is what its frames cover. -/
theorem record_range {c : Chunk} (hc : c ∈ session.chunks) {q : Int} (hq : 0 ≤ q) :
    c.record.firstSequence ≤ q ∧ q ≤ c.record.lastSequence ↔ c.Covers q := by
  have hsorted := session.increasing_frames hc
  have hnonneg := fun f => session.nonneg_of_mem hc (f := f)
  obtain ⟨index, frames⟩ := c
  cases frames with
  | nil =>
    -- an empty chunk ends at `-1`
    have hlast : (Chunk.mk index []).record.lastSequence = -1 := rfl
    rw [hlast]
    constructor
    · rintro ⟨-, hle⟩
      omega
    · rintro ⟨⟨f, hf, -⟩, -⟩
      exact absurd hf List.not_mem_nil
  | cons f frames =>
    obtain ⟨hfirst, hlast⟩ := Chunk.record_cons index frames (hnonneg f List.mem_cons_self)
    obtain ⟨⟨g, hg, hgmax⟩, hmax⟩ := Increasing.getLastD_isMax hsorted
    rw [hfirst, hlast]
    constructor
    · rintro ⟨hle, hge⟩
      exact ⟨⟨f, List.mem_cons_self, hle⟩, g, hg, hgmax ▸ hge⟩
    · rintro ⟨⟨a, ha, hle⟩, b, hb, hge⟩
      refine ⟨?_, hge.trans (hmax b hb)⟩
      rcases List.mem_cons.mp ha with rfl | ha'
      · exact hle
      · exact ((List.pairwise_cons.mp hsorted).1 a ha').le.trans hle

/-- The first sequence in the record of a chunk that holds frames is one of theirs. -/
theorem exists_first {c : Chunk} (hc : c ∈ session.chunks) (hne : c.frames ≠ []) :
    ∃ f ∈ c.frames, f.sequence = c.record.firstSequence := by
  have hnonneg := fun f => session.nonneg_of_mem hc (f := f)
  obtain ⟨index, frames⟩ := c
  cases frames with
  | nil => exact absurd rfl hne
  | cons f frames =>
    obtain ⟨hfirst, -⟩ := Chunk.record_cons index frames (hnonneg f List.mem_cons_self)
    exact ⟨f, List.mem_cons_self, hfirst.symm⟩

/-- What is in the index. -/
theorem perm_entries :
    session.sequenceIndex.entries.Perm (session.chunks.map fun c => c.record.entry) := by
  have hall : (buildIndexFromChunks (session.chunks.map Chunk.record)).Perm
      ((session.chunks.map Chunk.record).map ChunkRecord.entry) := perm_sortedBy _ _
  rw [List.map_map] at hall
  exact (perm_sortedBy _ _).trans hall

theorem isNearest_chunk (q : Int) :
    IsNearest (session.chunks.map fun c => c.record.entry) IndexEntry.firstSequence q
      (lastAtOrBefore session.sequenceIndex.entries IndexEntry.firstSequence q) :=
  (lastAtOrBefore_isNearest (pairwise_sortedBy _ _) q).of_perm session.perm_entries

theorem chunkForSequence_some {q : Int} (hq : 0 ≤ q) {entry : IndexEntry}
    (h : session.sequenceIndex.chunkForSequence q = some entry) :
    ∃ c ∈ session.chunks, entry.chunkIndex = c.index ∧ c.Covers q := by
  have hnearest := session.isNearest_chunk q
  rw [ReplayIndex.chunkForSequence] at h
  cases hlast : lastAtOrBefore session.sequenceIndex.entries IndexEntry.firstSequence q with
  | none => simp [hlast] at h
  | some candidate =>
    rw [hlast] at hnearest
    simp only [hlast] at h
    by_cases hover : q > candidate.lastSequence
    · simp [hover] at h
    · rw [if_neg hover] at h
      obtain ⟨hmem, hle, -⟩ := hnearest
      obtain ⟨c, hc, rfl⟩ := List.mem_map.mp hmem
      rw [← Option.some.inj h]
      exact ⟨c, hc, c.record_index, (session.record_range hc hq).mp ⟨hle, not_lt.mp hover⟩⟩

/-- The ranges of two chunks do not overlap, so the chunk with the greatest first
    sequence at or below `q` is the only one that can cover it. -/
theorem chunkForSequence_none {q : Int} (hq : 0 ≤ q)
    (h : session.sequenceIndex.chunkForSequence q = none) {c : Chunk} (hc : c ∈ session.chunks) :
    ¬ c.Covers q := by
  intro hcovers
  obtain ⟨hfirst, hlast⟩ := (session.record_range hc hq).mpr hcovers
  have hcmem : c.record.entry ∈ session.chunks.map fun c => c.record.entry :=
    List.mem_map_of_mem hc
  have hnearest := session.isNearest_chunk q
  rw [ReplayIndex.chunkForSequence] at h
  cases hat : lastAtOrBefore session.sequenceIndex.entries IndexEntry.firstSequence q with
  | none =>
    rw [hat] at hnearest
    exact absurd (hnearest c.record.entry hcmem) (not_lt.mpr hfirst)
  | some candidate =>
    rw [hat] at hnearest
    simp only [hat] at h
    have hover : q > candidate.lastSequence := by
      by_contra hover
      simp [hover] at h
    obtain ⟨hmem, hle, hmax⟩ := hnearest
    obtain ⟨d, hd, rfl⟩ := List.mem_map.mp hmem
    -- `d` is the search's candidate, `c` the chunk that is said to cover `q`
    have hgreatest : c.record.firstSequence ≤ d.record.firstSequence :=
      hmax c.record.entry hcmem hfirst
    obtain ⟨⟨a, ha, -⟩, b, hb, hqb⟩ := hcovers
    obtain ⟨f, hf, hfirst_c⟩ := session.exists_first hc (List.ne_nil_of_mem ha)
    -- `d` starts at or behind `c`, so it is not empty either
    have hne : d.frames ≠ [] := by
      intro hnil
      have hfirst_d : d.record.firstSequence = -1 := by rw [Chunk.record, hnil]; rfl
      have := session.nonneg_of_mem hc hf
      omega
    obtain ⟨g, hg, hfirst_d⟩ := session.exists_first hd hne
    have hle_q : d.record.firstSequence ≤ q := hle
    have hend : d.record.lastSequence < q := hover
    -- it ends before `q`, which `c` still covers
    rcases lt_trichotomy c.index d.index with hlt | heq | hgt
    · have := session.sequence_lt_of_index_lt hc hd hlt hb hg
      omega
    · rw [session.indexed.eq_of_key_eq hc hd heq] at hlast
      omega
    · have := session.sequence_lt_of_index_lt hd hc hgt hg hf
      omega

end ReplaySession

end AsyncViz.Replay
