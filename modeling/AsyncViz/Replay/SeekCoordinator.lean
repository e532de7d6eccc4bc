/-
  AsyncViz.Replay.SeekCoordinator

  `ReplaySeekCoordinator` and the layers below it (`replay/runtime/seek/`): the cache of
  reconstructed states, the pipeline with its three tiers, the engine that applies what
  the pipeline returns, and the dispatch that numbers the requests.

  The coordinator shares state store, cursor, clock and checkpoints with the playback
  loop, so its state is a `Player` with what it keeps for itself.  A seek runs without an
  await; it comes in wherever the loop awaits.

  The cache is keyed by the target that was asked for, the checkpoints by the sequence of
  the state.  `reconstruct_cases` says which tier serves a target.
-/

import AsyncViz.Lib.Lru
import AsyncViz.Replay.Playback

namespace AsyncViz.Replay

open AsyncViz.Lib AsyncViz.Lib.Bisect

/-! ## Requests and results -/

/-- `ReplaySeekConfig`, as far as a seek reads it. -/
structure ReplaySeekConfig where
  cacheCapacity : Nat := 16
  recordCheckpointOnSeek : Bool := true
deriving DecidableEq, Repr

/-- `SeekIntent`, of the kinds `sequence` and `relative`. -/
inductive SeekIntent where
  | toSequence (targetSequence : Int)
  | relative (relativeDelta : Int)
deriving DecidableEq, Repr

/-- `SeekCursor`. -/
structure SeekCursor where
  lastSeekSequence : Int := 0
  lastSeekMonotonicNs : Int := 0
  seeksCompleted : Nat := 0
  lastRequestId : Nat := 0
deriving DecidableEq, Repr

namespace SeekCursor

/-- `SeekCursor.at_start()`. -/
def atStart : SeekCursor := {}

/-- `cursor.advance(sequence=…, monotonic_ns=…, request_id=…)`. -/
def advance (cursor : SeekCursor) (sequence monotonicNs : Int) (requestId : Nat) : SeekCursor :=
  { lastSeekSequence := sequence
    lastSeekMonotonicNs := monotonicNs
    seeksCompleted := cursor.seeksCompleted + 1
    lastRequestId := requestId }

end SeekCursor

/-- `resolve_target_sequence`. -/
def resolveTargetSequence (intent : SeekIntent) (currentCursorSequence : Int) : Int :=
  match intent with
  | .toSequence targetSequence => max 0 targetSequence
  | .relative relativeDelta => max 0 (currentCursorSequence + relativeDelta)

/-- `SeekResult` of the coordinator. -/
structure SeekCoordinator.SeekResult where
  requestId : Nat
  targetSequence : Int
  landedSequence : Int
  landedMonotonicNs : Int
  usedCache : Bool
  usedCheckpoint : Bool
  usedSnapshot : Bool
  framesReplayed : Nat

/-! ## Cache -/

/-- `SeekCacheEntry`. -/
structure SeekCacheEntry where
  sequence : Int
  monotonicNs : Int
  state : VirtualRuntimeState

/-- `SeekCache`: entries by the target of the seek that made them. -/
abbrev SeekCache := Lru Int SeekCacheEntry

namespace SeekCache

/-- `cache.get(sequence)`. -/
def get (cache : SeekCache) (sequence : Int) : Option SeekCacheEntry × SeekCache :=
  if cache.capacity = 0 then (none, cache) else (cache.get? sequence, cache.touch sequence)

/-- `cache.put(entry)`. -/
def put (cache : SeekCache) (entry : SeekCacheEntry) : SeekCache :=
  if cache.capacity = 0 then cache else cache.insert entry.sequence entry

end SeekCache

/-! ## Checkpoint lookup -/

/-- `CheckpointLookup`. -/
structure CheckpointLookup where
  checkpoint : Option Checkpoint
  distanceFrames : Int := -1

/-- `lookup.exact_match`. -/
def CheckpointLookup.exactMatch (lookup : CheckpointLookup) : Bool :=
  lookup.checkpoint.isSome && lookup.distanceFrames == 0

/-- `find_nearest_checkpoint`. -/
def findNearestCheckpoint (checkpoints : CheckpointRuntime) (targetSequence : Int) :
    CheckpointLookup :=
  match checkpoints.nearestAtOrBefore targetSequence with
  | none => { checkpoint := none }
  | some checkpoint =>
    { checkpoint := some checkpoint
      distanceFrames := max 0 (targetSequence - checkpoint.sequence) }

/-! ## Reconstruction -/

/-- `ReconstructionOutput`. -/
structure ReconstructionOutput where
  state : VirtualRuntimeState
  landedSequence : Int
  landedMonotonicNs : Int
  usedCache : Bool
  usedCheckpoint : Bool
  usedSnapshot : Bool
  framesReplayed : Nat

namespace ReconstructionOutput

/-- Tier 1. -/
def ofCache (entry : SeekCacheEntry) : ReconstructionOutput :=
  { state := entry.state
    landedSequence := entry.sequence
    landedMonotonicNs := entry.monotonicNs
    usedCache := true
    usedCheckpoint := false
    usedSnapshot := false
    framesReplayed := 0 }

/-- Tier 2. -/
def ofCheckpoint (cp : Checkpoint) : ReconstructionOutput :=
  { state := cp.state
    landedSequence := cp.sequence
    landedMonotonicNs := cp.monotonicNs
    usedCache := false
    usedCheckpoint := true
    usedSnapshot := false
    framesReplayed := 0 }

/-- Tier 3: the later of state and cursor. -/
def ofOutcome (outcome : SeekOutcome) : ReconstructionOutput :=
  { state := outcome.finalState
    landedSequence := max outcome.finalState.lastSequence outcome.finalCursor.lastSequence
    landedMonotonicNs :=
      max outcome.finalState.lastMonotonicNs outcome.finalCursor.lastMonotonicNs
    usedCache := false
    usedCheckpoint := outcome.usedCheckpoint
    usedSnapshot := outcome.usedSnapshot
    framesReplayed := outcome.framesReplayed }

end ReconstructionOutput

/-- `ReconstructionPipeline.reconstruct`. -/
def reconstruct (session : ReplaySession StateDict) (registry : ReducerRegistry)
    (engine : ReplayEngine) (cache : SeekCache) (targetSequence now : Int) :
    ReplayEngine × SeekCache × ReconstructionOutput :=
  match cache.get targetSequence with
  -- tier 1 compares no checkpoint
  | (some entry, cache) => (engine, cache, .ofCache entry)
  | (none, cache) =>
    let lookup := findNearestCheckpoint engine.checkpoints targetSequence
    match lookup.exactMatch, lookup.checkpoint with
    | true, some cp => (engine, cache, .ofCheckpoint cp)
    -- tier 3 moves the engine itself; `execute` jumps once more
    | _, _ =>
      let (engine, outcome) := engine.seekToSequence session registry targetSequence now
      (engine, cache, .ofOutcome outcome)

/-- `SeekEngine.execute`. -/
def execute (session : ReplaySession StateDict) (registry : ReducerRegistry)
    (config : ReplaySeekConfig) (engine : ReplayEngine) (cache : SeekCache) (requestId : Nat)
    (targetSequence now : Int) : ReplayEngine × SeekCache × SeekCoordinator.SeekResult :=
  let (engine, cache, out) := reconstruct session registry engine cache targetSequence now
  let engine := engine.jump out.state out.landedSequence out.landedMonotonicNs now
  let cacheResults := decide (config.cacheCapacity > 0)
  -- keyed by the target, not by where the seek landed
  let cache :=
    if cacheResults && !out.usedCache then
      cache.put
        { sequence := targetSequence, monotonicNs := out.landedMonotonicNs, state := out.state }
    else cache
  let engine :=
    if config.recordCheckpointOnSeek && !out.usedCheckpoint && !out.usedCache then
      { engine with checkpoints := engine.checkpoints.record out.state }
    else engine
  (engine, cache,
    { requestId := requestId
      targetSequence := targetSequence
      landedSequence := out.landedSequence
      landedMonotonicNs := out.landedMonotonicNs
      usedCache := out.usedCache
      usedCheckpoint := out.usedCheckpoint
      usedSnapshot := out.usedSnapshot
      framesReplayed := out.framesReplayed })

/-- A `ReplaySeekCoordinator` on a playback engine. -/
structure SeekCoordinator where
  player : Player
  cache : SeekCache
  cursor : SeekCursor := .atStart
  requestCounter : Nat := 0

namespace SeekCoordinator

/-- A new coordinator on a new engine. -/
def start (config : ReplaySeekConfig) (clock : ReplayClock) (checkpointCapacity : ℕ+) :
    SeekCoordinator :=
  { player := .start clock checkpointCapacity, cache := .empty config.cacheCapacity }

variable (session : ReplaySession StateDict) (registry : ReducerRegistry)

/-- `coordinator.seek(intent)`.  For the loop a seek starts a new run of frames, like one
    of the engine. -/
def seek (config : ReplaySeekConfig) (c : SeekCoordinator) (intent : SeekIntent) (now : Int) :
    SeekCoordinator × SeekCoordinator.SeekResult :=
  let requestId := c.requestCounter + 1
  let targetSequence := resolveTargetSequence intent c.cursor.lastSeekSequence
  let (engine, cache, result) :=
    execute session registry config c.player.engine c.cache requestId targetSequence now
  ({ player :=
      { c.player with engine := engine, dispatched := [], origin := engine.cursor.lastSequence }
     cache := cache
     cursor := c.cursor.advance result.landedSequence result.landedMonotonicNs requestId
     requestCounter := requestId },
    result)

/-- `coordinator.seek_to_sequence(sequence)`. -/
def seekToSequence (config : ReplaySeekConfig) (c : SeekCoordinator) (sequence now : Int) :
    SeekCoordinator × SeekCoordinator.SeekResult :=
  c.seek session registry config (.toSequence sequence) now

/-- `coordinator.rebuild_at_cursor()`. -/
def rebuildAtCursor (config : ReplaySeekConfig) (c : SeekCoordinator) (now : Int) :
    SeekCoordinator × SeekCoordinator.SeekResult :=
  c.seekToSequence session registry config c.cursor.lastSeekSequence now

/-- What happens on the engine, or a seek of the coordinator. -/
inductive Action where
  | player (a : Player.Action)
  | seek (intent : SeekIntent) (now : Int)
deriving DecidableEq, Repr

/-- One action. -/
def step (engineConfig : ReplayEngineConfig) (config : ReplaySeekConfig) (c : SeekCoordinator) :
    Action → Option SeekCoordinator
  | .player a =>
    (Player.step session registry engineConfig c.player a).map fun player =>
      { c with player := player }
  | .seek intent now => some (c.seek session registry config intent now).1

end SeekCoordinator

/-! ## Which tier serves a target -/

/-- The lookup of a checkpoint is exact when the ring has one of the target itself. -/
theorem exactMatch_findNearestCheckpoint (checkpoints : CheckpointRuntime) (target : Int) :
    (∃ cp ∈ checkpoints.checkpoints, cp.sequence = target ∧
      (findNearestCheckpoint checkpoints target).exactMatch = true ∧
      (findNearestCheckpoint checkpoints target).checkpoint = some cp) ∨
    ((∀ cp ∈ checkpoints.checkpoints, cp.sequence ≠ target) ∧
      (findNearestCheckpoint checkpoints target).exactMatch = false) := by
  have hnearest := checkpoints.nearestAtOrBefore_isNearest target
  rw [findNearestCheckpoint]
  cases hcp : checkpoints.nearestAtOrBefore target with
  | none =>
    rw [hcp] at hnearest
    exact .inr ⟨fun cp hmem => (hnearest cp hmem).ne', rfl⟩
  | some cp =>
    rw [hcp] at hnearest
    obtain ⟨hmem, hle, hmax⟩ := hnearest
    by_cases hexact : cp.sequence = target
    · refine .inl ⟨cp, hmem, hexact, ?_, rfl⟩
      simp [CheckpointLookup.exactMatch, hexact]
    · -- a checkpoint of the target would be nearer
      refine .inr ⟨fun other hother heq => hexact ?_, ?_⟩
      · have := hmax other hother heq.le
        omega
      · have hpositive : max 0 (target - cp.sequence) ≠ 0 := by omega
        simp [CheckpointLookup.exactMatch, hpositive]

theorem SeekCache.get_fst (cache : SeekCache) (sequence : Int) :
    (SeekCache.get cache sequence).1 = cache.get? sequence := by
  rw [SeekCache.get]
  by_cases hzero : cache.capacity = 0
  · -- a cache without room has no entry
    rw [if_pos hzero]
    have hsize := cache.size_le
    have hnil : cache.dict.entries = [] :=
      List.eq_nil_of_length_eq_zero (Nat.le_zero.mp (hzero ▸ hsize))
    rw [Lru.get?, Dict.get?, hnil]
    rfl
  · rw [if_neg hzero]

theorem SeekCache.get?_get_snd (cache : SeekCache) (sequence k : Int) :
    (SeekCache.get cache sequence).2.get? k = cache.get? k := by
  rw [SeekCache.get]
  by_cases hzero : cache.capacity = 0
  · rw [if_pos hzero]
  · rw [if_neg hzero]
    exact cache.get?_touch sequence k

theorem SeekCache.get?_put {cache : SeekCache} {entry e : SeekCacheEntry} {k : Int}
    (h : (SeekCache.put cache entry).get? k = some e) :
    k = entry.sequence ∧ e = entry ∨ cache.get? k = some e := by
  rw [SeekCache.put] at h
  by_cases hzero : cache.capacity = 0
  · rw [if_pos hzero] at h
    exact .inr h
  · rw [if_neg hzero] at h
    exact Lru.get?_insert h

/-- The tier that serves a target: the cache, an exact checkpoint, or the loader. -/
theorem reconstruct_cases (session : ReplaySession StateDict) (registry : ReducerRegistry)
    (engine : ReplayEngine) (cache : SeekCache) (target now : Int) :
    ∃ cache', (∀ k, cache'.get? k = cache.get? k) ∧
      ((∃ entry, cache.get? target = some entry ∧
        reconstruct session registry engine cache target now
          = (engine, cache', .ofCache entry)) ∨
      (cache.get? target = none ∧ ∃ cp ∈ engine.checkpoints.checkpoints, cp.sequence = target ∧
        reconstruct session registry engine cache target now
          = (engine, cache', .ofCheckpoint cp)) ∨
      (cache.get? target = none ∧ (∀ cp ∈ engine.checkpoints.checkpoints, cp.sequence ≠ target) ∧
        reconstruct session registry engine cache target now
          = ((engine.restoreViaLoader session registry target now).1, cache',
              .ofOutcome (engine.restoreViaLoader session registry target now).2))) := by
  refine ⟨(SeekCache.get cache target).2, fun k => SeekCache.get?_get_snd cache target k, ?_⟩
  have hfst := SeekCache.get_fst cache target
  rw [reconstruct]
  -- a lookup changes the order of the entries at most, so the cache left behind reads the same
  generalize SeekCache.get cache target = got at hfst ⊢
  obtain ⟨found, cache'⟩ := got
  dsimp only at hfst ⊢
  cases found with
  | some entry => exact .inl ⟨entry, hfst.symm, rfl⟩
  | none =>
    refine .inr ?_
    rcases exactMatch_findNearestCheckpoint engine.checkpoints target with
      ⟨cp, hmem, hseq, hexact, hcp⟩ | ⟨hnone, hexact⟩
    · exact .inl ⟨hfst.symm, cp, hmem, hseq, by simp only [hexact, hcp]⟩
    · refine .inr ⟨hfst.symm, hnone, ?_⟩
      -- without an exact checkpoint the engine's own seek goes to the loader too
      rcases Recording.seekToSequence_cases session registry engine target now with
        ⟨cp, hmem, hseq, -⟩ | ⟨-, hloader⟩
      · exact absurd hseq (hnone cp hmem)
      · simp only [hexact, hloader]

end AsyncViz.Replay
