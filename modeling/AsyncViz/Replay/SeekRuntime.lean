/-
  AsyncViz.Replay.SeekRuntime

  `ReplaySeekRuntime` (`replay/runtime/replay_seek_runtime.py`) on the parts that it
  shares with the playback loop: state store, cursor, clock and checkpoints.

  A seek restores an exact checkpoint or reconstructs through the loader.  The loader
  path takes the state from where the reconstruction ended and the cursor from where it
  began reading (`restoreViaLoader`), so the two agree only where the first frame behind
  the nearest snapshot is also the last one at the target.  `Servable` says where a seek
  leaves the state of the cursor's position, `Anchorable` where the cursor moreover stands
  on the last frame at or before the target; `seekToSequence_stands` and
  `seekToSequence_coherent` are the two contracts.
-/

import AsyncViz.Replay.Models
import AsyncViz.Replay.StateLoader

namespace AsyncViz.Replay

open AsyncViz.Lib AsyncViz.Lib.Bisect AsyncViz.Lib.SortedLog

/-- `_state_reducer_adapter`: the registry as a reducer of dicts. -/
def stateReducerAdapter (registry : ReducerRegistry) (data : StateDict) (frame : ReplayFrame) :
    StateDict :=
  -- `if data`: an empty dict seeds an empty state
  let state := if data.truthy then VirtualRuntimeState.fromDict data else .empty
  (registry.apply state frame).toDict

/-- The parts of a `ReplayRuntimeEngine` that a seek reads and writes. -/
structure ReplayEngine where
  state : VirtualRuntimeState := .empty
  cursor : EngineCursor := .atStart
  clock : ReplayClock
  checkpoints : CheckpointRuntime

/-- `SeekOutcome`. -/
structure SeekOutcome where
  targetSequence : Int
  usedCheckpoint : Bool
  usedSnapshot : Bool
  landedFrame : Option ReplayFrame
  finalState : VirtualRuntimeState
  finalCursor : EngineCursor
  framesReplayed : Nat

namespace ReplayEngine

/-- The state store, the cursor and the clock jump together. -/
def jump (engine : ReplayEngine) (state : VirtualRuntimeState) (sequence monotonicNs now : Int) :
    ReplayEngine :=
  { engine with
    state := state
    cursor := engine.cursor.jumpedTo sequence monotonicNs monotonicNs
    clock := engine.clock.jumpTo monotonicNs now }

/-- `_restore_from_checkpoint_exact`. -/
def restoreFromCheckpointExact (engine : ReplayEngine) (checkpoint : Checkpoint) (now : Int) :
    ReplayEngine × SeekOutcome :=
  let next := engine.jump checkpoint.state checkpoint.sequence checkpoint.monotonicNs now
  (next,
    { targetSequence := checkpoint.sequence
      usedCheckpoint := true
      usedSnapshot := false
      landedFrame := none
      finalState := next.state
      finalCursor := next.cursor
      framesReplayed := 0 })

/-- The state that the loader path stores: a state without a sequence takes the one of
    the snapshot. -/
def loaderState (reconstruction : StateReconstructionResult StateDict) : VirtualRuntimeState :=
  let nextState := VirtualRuntimeState.fromDict reconstruction.state
  match reconstruction.snapshotUsed with
  | none => nextState
  | some snapshot =>
    { nextState with
      lastSequence :=
        if nextState.lastSequence = 0 then snapshot.sequenceAtCapture else nextState.lastSequence }

/-- `_restore_via_loader`. -/
def restoreViaLoader (session : ReplaySession StateDict) (registry : ReducerRegistry)
    (engine : ReplayEngine) (targetSequence now : Int) : ReplayEngine × SeekOutcome :=
  let reconstruction :=
    session.reconstructState (stateReducerAdapter registry) {} targetSequence
  let state := loaderState reconstruction
  let landed := reconstruction.seekResult.landedFrame
  -- the landed frame is where the replay began, not where it ended
  let landedSeq := match landed with
    | some frame => frame.sequence
    | none => targetSequence
  let landedNs := match landed with
    | some frame => frame.monotonicNs
    | none => state.lastMonotonicNs
  let next := engine.jump state landedSeq landedNs now
  (next,
    { targetSequence := targetSequence
      usedCheckpoint := false
      usedSnapshot := reconstruction.snapshotUsed.isSome
      landedFrame := landed
      finalState := next.state
      finalCursor := next.cursor
      framesReplayed := reconstruction.framesReplayed })

/-- `seek_runtime.seek_to_sequence(target_sequence)`. -/
def seekToSequence (session : ReplaySession StateDict) (registry : ReducerRegistry)
    (engine : ReplayEngine) (targetSequence now : Int) : ReplayEngine × SeekOutcome :=
  match engine.checkpoints.nearestAtOrBefore targetSequence with
  | some checkpoint =>
    -- a nearer checkpoint than the snapshot is no use to the loader
    if checkpoint.sequence = targetSequence then engine.restoreFromCheckpointExact checkpoint now
    else engine.restoreViaLoader session registry targetSequence now
  | none => engine.restoreViaLoader session registry targetSequence now

end ReplayEngine

/-! ## Recordings -/

/-- A recording to play: sequences start above `0`, the reducers keep the counters, and
    every snapshot holds the state after the frames up to its capture. -/
structure Recording where
  session : ReplaySession StateDict
  registry : ReducerRegistry
  positive : ∀ f ∈ session.frames, 0 < f.sequence
  timed : ∀ f ∈ session.frames, 0 ≤ f.monotonicNs
  counting : registry.Counting
  faithful : ∀ file ∈ session.snapshots, VirtualRuntimeState.fromDict file.payload =
    (upTo ReplayFrame.sequence session.frames file.record.sequenceAtCapture).foldl registry.apply
      .empty

namespace Recording

/-- A recording of one chunk, without snapshots, under the default reducers. -/
def single (frames : List ReplayFrame) (hincreasing : Increasing ReplayFrame.sequence frames)
    (hpositive : ∀ f ∈ frames, 0 < f.sequence) (htimed : ∀ f ∈ frames, 0 ≤ f.monotonicNs) :
    Recording where
  session :=
    { chunks := [{ index := 1, frames := frames }]
      snapshots := []
      indexed := List.pairwise_singleton _ _
      index_pos := by simp
      increasing := by simpa using hincreasing
      nonneg := by simpa using fun f hf => (hpositive f hf).le
      captured := ReplaySession.captured_nil _ }
  registry := {}
  positive := by simpa [ReplaySession.frames] using hpositive
  timed := by simpa [ReplaySession.frames] using htimed
  counting := ReducerRegistry.counting_of_domainReducers .empty nofun
  faithful := by simp

/-- The sample frames `1` and `3` in one chunk. -/
def withGap : Recording :=
  single [ReplayFrame.sample 1, ReplayFrame.sample 3] (by simp [Increasing, ReplayFrame.sample])
    (by simp [ReplayFrame.sample]) (by simp [ReplayFrame.sample])

variable (recording : Recording)

/-- The recorded frames. -/
abbrev frames : List ReplayFrame := recording.session.frames

/-- The fold of the reducers over the frames up to `t`. -/
def stateAt (t : Int) : VirtualRuntimeState :=
  (upTo ReplayFrame.sequence recording.frames t).foldl recording.registry.apply .empty

/-- `f` is the last recorded frame at or before `t`. -/
def IsLast (t : Int) (f : ReplayFrame) : Prop :=
  IsNearest recording.frames ReplayFrame.sequence t (some f)

/-- `t` lies between the first and the last recorded frame. -/
def Contains (t : Int) : Prop :=
  (∃ f ∈ recording.frames, f.sequence ≤ t) ∧ ∃ f ∈ recording.frames, t ≤ f.sequence

variable {recording}

theorem sorted : Increasing ReplayFrame.sequence recording.frames := recording.session.sorted

/-- Between two positions without a frame in between the state is the same. -/
theorem stateAt_congr {s t : Int} (hst : s ≤ t)
    (hnone : ∀ f ∈ recording.frames, f.sequence ≤ t → f.sequence ≤ s) :
    recording.stateAt t = recording.stateAt s := by
  rw [stateAt, stateAt, upTo_eq_upTo hst hnone]

theorem stateAt_of_isLast {t : Int} {f : ReplayFrame} (h : recording.IsLast t f) :
    recording.stateAt f.sequence = recording.stateAt t :=
  (stateAt_congr h.2.1 fun g hg hle => h.2.2 g hg hle).symm

/-- One frame more. -/
theorem stateAt_of_isNext {p : Int} {f : ReplayFrame}
    (h : IsNext ReplayFrame.sequence recording.frames p f) :
    recording.stateAt f.sequence = recording.registry.apply (recording.stateAt p) f := by
  rw [stateAt, upTo_of_isNext recording.sorted h, List.foldl_append]
  rfl

theorem stateAt_of_before {t : Int} (h : ∀ f ∈ recording.frames, t < f.sequence) :
    recording.stateAt t = .empty := by
  rw [stateAt, upTo_eq_nil h]
  rfl

/-- The counters of the state at a position are those of the last frame there. -/
theorem counters_of_isLast {t : Int} {f : ReplayFrame} (h : recording.IsLast t f) :
    (recording.stateAt t).lastSequence = f.sequence ∧
      (recording.stateAt t).lastMonotonicNs = f.monotonicNs := by
  -- `f` is the next frame after everything below it
  have hnext : IsNext ReplayFrame.sequence recording.frames (f.sequence - 1) f :=
    ⟨h.1, by omega, fun g _ hlt => by omega⟩
  rw [← stateAt_of_isLast h, stateAt_of_isNext hnext]
  exact recording.counting _ _

theorem exists_isLast {t : Int} (h : ∃ f ∈ recording.frames, f.sequence ≤ t) :
    ∃ f, recording.IsLast t f := by
  -- the last frame exists because a bisection over the frames finds it
  have hnearest := lastAtOrBefore_sortedBy ReplayFrame.sequence recording.frames t
  cases hlast : lastAtOrBefore (sortedBy ReplayFrame.sequence recording.frames)
      ReplayFrame.sequence t with
  | some f =>
    rw [hlast] at hnearest
    exact ⟨f, hnearest⟩
  | none =>
    obtain ⟨f, hf, hle⟩ := h
    rw [hlast] at hnearest
    exact absurd (hnearest f hf) (not_lt.mpr hle)

/-- Every position has a last frame or stands before the first one. -/
theorem isLast_or_before (t : Int) :
    (∃ f, recording.IsLast t f) ∨ ∀ f ∈ recording.frames, t < f.sequence := by
  by_cases h : ∃ f ∈ recording.frames, f.sequence ≤ t
  · exact .inl (exists_isLast h)
  · exact .inr fun f hf => not_le.mp fun hle => h ⟨f, hf, hle⟩

/-- Only the state before the first frame has the sequence `0`. -/
theorem lastSequence_eq_zero_iff {t : Int} :
    (recording.stateAt t).lastSequence = 0 ↔ ∀ f ∈ recording.frames, t < f.sequence := by
  rcases recording.isLast_or_before t with ⟨f, hlast⟩ | hbefore
  -- the counter is that of `f`, and sequences are positive
  · have hpos := recording.positive f hlast.1
    rw [(counters_of_isLast hlast).1]
    refine iff_of_false (by omega) fun h => ?_
    exact absurd (h f hlast.1) (not_lt.mpr hlast.2.1)
  · rw [stateAt_of_before hbefore]
    exact iff_of_true rfl hbefore

/-! ## What a seek may rely on -/

/-- Exactly one frame stands behind the nearest snapshot up to `t`, and the loader's seek
    finds it; or the seek finds nothing, and nothing is to be found either: the snapshot
    holds no frame, and leaves no sequence of its own behind. -/
def Restorable (recording : Recording) (t : Int) : Prop :=
  (recording.session.CoversNext t ∧ ∃ f, within ReplayFrame.sequence recording.frames
      (recording.session.resumePoint t) t = [f]) ∨
  (¬ recording.session.CoversNext t ∧
    (∀ f ∈ recording.frames, recording.session.resumePoint t < f.sequence) ∧
    ((∃ f ∈ recording.frames, f.sequence ≤ t) ∨ recording.session.resumePoint t = 0))

/-- The checkpoint of the state at some position. -/
def Faithful (recording : Recording) (cp : Checkpoint) : Prop :=
  ∃ t, cp = CheckpointRuntime.checkpointOf (recording.stateAt t)

theorem Faithful.state_eq {cp : Checkpoint} (h : recording.Faithful cp) :
    cp = CheckpointRuntime.checkpointOf (recording.stateAt cp.sequence) := by
  obtain ⟨t, rfl⟩ := h
  simp only [CheckpointRuntime.checkpointOf]
  -- either the checkpoint has the sequence of a frame, or it is the empty state at `0`
  rcases recording.isLast_or_before t with ⟨f, hlast⟩ | hbefore
  · rw [(counters_of_isLast hlast).1, stateAt_of_isLast hlast]
    simp [(counters_of_isLast hlast).1]
  · have hzero : ∀ f ∈ recording.frames, 0 < f.sequence := recording.positive
    rw [stateAt_of_before hbefore]
    simp only [VirtualRuntimeState.empty]
    rw [stateAt_of_before hzero]
    rfl

/-! ## The loader path -/

theorem fromDict_foldl (registry : ReducerRegistry) (log : List ReplayFrame) (data : StateDict) :
    VirtualRuntimeState.fromDict (log.foldl (stateReducerAdapter registry) data)
      = log.foldl registry.apply (.fromDict data) := by
  induction log generalizing data with
  | nil => rfl
  | cons f log ih =>
    have hstep : VirtualRuntimeState.fromDict (stateReducerAdapter registry data f)
        = registry.apply (.fromDict data) f := by
      rw [stateReducerAdapter]
      -- a falsy dict and the empty state read the same
      cases htruthy : data.truthy with
      | true => rfl
      | false => rw [VirtualRuntimeState.fromDict_of_not_truthy htruthy]; rfl
    rw [List.foldl_cons, List.foldl_cons, ih, hstep]

/-- The seed of a reconstruction is the state at the resume point. -/
theorem fromDict_seed (t : Int) :
    VirtualRuntimeState.fromDict (seedOf {} (recording.session.snapshotIndex.nearestAtOrBefore t))
      = recording.stateAt (recording.session.resumePoint t) := by
  have hnearest := recording.session.nearestAtOrBefore_isNearest t
  rw [ReplaySession.resumePoint]
  cases hsnapshot : recording.session.snapshotIndex.nearestAtOrBefore t with
  | none => exact (stateAt_of_before recording.positive).symm
  | some snapshot =>
    rw [hsnapshot] at hnearest
    obtain ⟨file, hfile, rfl⟩ := List.mem_map.mp hnearest.1
    exact recording.faithful file hfile

theorem resumePoint_le_or (t : Int) :
    recording.session.resumePoint t ≤ t ∨ t < 0 ∧ recording.session.resumePoint t = 0 := by
  rcases lt_or_ge t 0 with hneg | hnonneg
  · refine .inr ⟨hneg, ?_⟩
    rw [ReplaySession.resumePoint]
    cases hsnapshot : recording.session.snapshotIndex.nearestAtOrBefore t with
    | none => rfl
    | some snapshot =>
      have := recording.session.captured_of_nearest hsnapshot
      omega
  · exact .inl (recording.session.resumePoint_le hnonneg)

/-- The frames behind the nearest snapshot complete its state. -/
theorem foldl_behind (t : Int) :
    (within ReplayFrame.sequence recording.frames (recording.session.resumePoint t) t).foldl
      recording.registry.apply (recording.stateAt (recording.session.resumePoint t))
      = recording.stateAt t := by
  rcases recording.resumePoint_le_or t with hle | ⟨hneg, hzero⟩
  · exact foldl_within recording.sorted hle _ _
  -- a negative target has nothing behind it, and no frame up to it
  · have hpositive := recording.positive
    rw [hzero, within_eq_nil hneg.le, List.foldl_nil, stateAt_of_before hpositive,
      stateAt_of_before fun f hf => hneg.trans (hpositive f hf)]

/-- Where the recording can be resumed, the loader reconstructs the state at the target. -/
theorem fromDict_reconstructState {t : Int} (h : recording.session.Resumable t) :
    VirtualRuntimeState.fromDict
      (recording.session.reconstructState (stateReducerAdapter recording.registry) {} t).state
      = recording.stateAt t := by
  rw [(recording.session.replays_of_resumable _ _ h).state, fromDict_foldl, fromDict_seed,
    foldl_behind]

/-- The state that the loader path stores.  Only before the first frame may the sequence
    of the snapshot show through. -/
theorem loaderState_eq {t : Int} (h : recording.session.Resumable t)
    (hsome : (∃ f ∈ recording.frames, f.sequence ≤ t) ∨ recording.session.resumePoint t = 0) :
    ReplayEngine.loaderState
      (recording.session.reconstructState (stateReducerAdapter recording.registry) {} t)
      = recording.stateAt t := by
  have hstate := fromDict_reconstructState h
  have hused := (recording.session.replays_of_resumable
    (stateReducerAdapter recording.registry) {} h).snapshotUsed
  rw [ReplayEngine.loaderState, hstate, hused]
  cases hsnapshot : recording.session.snapshotIndex.nearestAtOrBefore t with
  | none => rfl
  | some snapshot =>
    by_cases hzero : (recording.stateAt t).lastSequence = 0
    · -- no frame yet, so the snapshot was captured at `0`
      have hbefore := lastSequence_eq_zero_iff.mp hzero
      have hcapture : snapshot.sequenceAtCapture = 0 := by
        rcases hsome with ⟨f, hf, hle⟩ | hresume
        · exact absurd (hbefore f hf) (not_lt.mpr hle)
        · rwa [ReplaySession.resumePoint, hsnapshot] at hresume
      simp only [hzero, if_true, hcapture]
      rw [← hzero]
    · simp only [hzero, if_false]

/-- The engine shows the state at `t`: its cursor stands at or before `t` with no frame in
    between, and cursor and clock show the time of the state. -/
structure Stands (recording : Recording) (t now : Int) (engine : ReplayEngine) : Prop where
  state : engine.state = recording.stateAt t
  le : engine.cursor.lastSequence ≤ t
  reached : ∀ f ∈ recording.frames, f.sequence ≤ t → f.sequence ≤ engine.cursor.lastSequence
  time : engine.cursor.lastMonotonicNs = (recording.stateAt t).lastMonotonicNs
  clock : engine.clock.currentVirtualNs now = (recording.stateAt t).lastMonotonicNs

/-- The single frame behind the snapshot is the last one at the target, and the one that
    the loader's seek lands on. -/
theorem isLast_of_single {t : Int} {f : ReplayFrame}
    (hone :
      within ReplayFrame.sequence recording.frames (recording.session.resumePoint t) t = [f]) :
    recording.IsLast t f ∧
      ∀ g, IsNext ReplayFrame.sequence recording.frames (recording.session.resumePoint t) g →
        g = f := by
  have hmem : ∀ g, g ∈ recording.frames ∧ recording.session.resumePoint t < g.sequence ∧
      g.sequence ≤ t ↔ g = f := fun g => by rw [← mem_within, hone, List.mem_singleton]
  obtain ⟨hf, hlt, hle⟩ := (hmem f).mpr rfl
  refine ⟨⟨hf, hle, fun g hg hgt => ?_⟩, fun g hnext => ?_⟩
  · rcases lt_or_ge (recording.session.resumePoint t) g.sequence with hbehind | hheld
    · exact le_of_eq (congrArg ReplayFrame.sequence ((hmem g).mp ⟨hg, hbehind, hgt⟩))
    · omega
  · exact (hmem g).mp ⟨hnext.mem, hnext.lt, (hnext.first f hf hlt).trans hle⟩

theorem Restorable.resumable {t : Int} (h : recording.Restorable t) :
    recording.session.Resumable t := by
  rcases h with ⟨hcovered, -⟩ | ⟨-, hheld, -⟩
  · exact .inr (.inl hcovered)
  · exact .inr (.inr hheld)

theorem restoreViaLoader_stands {engine : ReplayEngine} {t now : Int} (h : recording.Restorable t) :
    recording.Stands t now
      (engine.restoreViaLoader recording.session recording.registry t now).1 := by
  have hstate := recording.loaderState_eq h.resumable
  rcases h with ⟨hcovered, f, hone⟩ | ⟨huncovered, -, hsome⟩
  · -- the seek lands on `f`, the only frame that is reduced
    obtain ⟨hlast, honly⟩ := isLast_of_single hone
    obtain ⟨g, hnext, hreplays⟩ := recording.session.reconstructState_covered
      (stateReducerAdapter recording.registry) {} hcovered
    obtain rfl := honly g hnext
    have hcounters := counters_of_isLast hlast
    refine ⟨hstate (.inl ⟨g, hlast.1, hlast.2.1⟩), ?_, fun e he hle => ?_, ?_, ?_⟩
    all_goals
      simp only [ReplayEngine.restoreViaLoader, ReplayEngine.jump, EngineCursor.jumpedTo,
        hreplays.landed, ReplayClock.currentVirtualNs_jumpTo]
    · exact hlast.2.1
    · exact hlast.2.2 e he hle
    · exact hcounters.2.symm
    · exact hcounters.2.symm
  · -- the seek finds nothing: the cursor takes the target
    have hlanded := recording.session.landedFrame_uncovered
      (stateReducerAdapter recording.registry) {} huncovered
    refine ⟨hstate hsome, ?_, fun e he hle => ?_, ?_, ?_⟩
    all_goals
      simp only [ReplayEngine.restoreViaLoader, ReplayEngine.jump, EngineCursor.jumpedTo,
        hlanded, ReplayClock.currentVirtualNs_jumpTo, hstate hsome]
    · exact le_refl _
    · exact hle

/-! ## The contract of a seek -/

/-- A seek to `t` that the engine can serve: an exact checkpoint, or the loader. -/
def Servable (recording : Recording) (engine : ReplayEngine) (t : Int) : Prop :=
  (∃ cp ∈ engine.checkpoints.checkpoints, cp.sequence = t) ∨ recording.Restorable t

theorem restoreFromCheckpointExact_stands {engine : ReplayEngine} {cp : Checkpoint} {now : Int}
    (hcp : recording.Faithful cp) :
    recording.Stands cp.sequence now (engine.restoreFromCheckpointExact cp now).1 := by
  have heq := hcp.state_eq
  have hstate : cp.state = recording.stateAt cp.sequence := congrArg Checkpoint.state heq
  have htime : cp.monotonicNs = (recording.stateAt cp.sequence).lastMonotonicNs :=
    congrArg Checkpoint.monotonicNs heq
  refine ⟨hstate, le_refl _, fun _ _ hle => hle, htime, ?_⟩
  simp only [ReplayEngine.restoreFromCheckpointExact, ReplayEngine.jump,
    ReplayClock.currentVirtualNs_jumpTo]
  exact htime

/-- The path that a seek takes. -/
theorem seekToSequence_cases (session : ReplaySession StateDict) (registry : ReducerRegistry)
    (engine : ReplayEngine) (t now : Int) :
    (∃ cp ∈ engine.checkpoints.checkpoints, cp.sequence = t ∧
      engine.seekToSequence session registry t now = engine.restoreFromCheckpointExact cp now) ∨
    ((∀ cp ∈ engine.checkpoints.checkpoints, cp.sequence ≠ t) ∧
      engine.seekToSequence session registry t now
        = engine.restoreViaLoader session registry t now) := by
  have hnearest := engine.checkpoints.nearestAtOrBefore_isNearest t
  rw [ReplayEngine.seekToSequence]
  cases hcp : engine.checkpoints.nearestAtOrBefore t with
  | none =>
    rw [hcp] at hnearest
    exact .inr ⟨fun cp hmem => (hnearest cp hmem).ne', rfl⟩
  | some cp =>
    -- the nearest checkpoint is exact, or the ring has no exact one
    rw [hcp] at hnearest
    by_cases hexact : cp.sequence = t
    · exact .inl ⟨cp, hnearest.1, hexact, if_pos hexact⟩
    · refine .inr ⟨fun other hmem heq => hexact ?_, if_neg hexact⟩
      have := hnearest.2.2 other hmem heq.le
      have := hnearest.2.1
      omega

/-- A seek that can be served leaves the engine at its target. -/
theorem seekToSequence_stands {engine : ReplayEngine} {t : Int} (now : Int)
    (hring : ∀ cp ∈ engine.checkpoints.checkpoints, recording.Faithful cp)
    (h : recording.Servable engine t) :
    recording.Stands t now
      (engine.seekToSequence recording.session recording.registry t now).1 := by
  rcases seekToSequence_cases recording.session recording.registry engine t now with
    ⟨cp, hmem, rfl, heq⟩ | ⟨hnone, heq⟩
  · rw [heq]
    exact restoreFromCheckpointExact_stands (hring cp hmem)
  · rw [heq]
    rcases h with ⟨cp, hmem, hexact⟩ | hrestorable
    · exact absurd hexact (hnone cp hmem)
    · exact restoreViaLoader_stands hrestorable

@[simp] theorem seekToSequence_checkpoints (session : ReplaySession StateDict)
    (registry : ReducerRegistry) (engine : ReplayEngine) (t now : Int) :
    (engine.seekToSequence session registry t now).1.checkpoints = engine.checkpoints := by
  rcases seekToSequence_cases session registry engine t now with ⟨cp, -, -, heq⟩ | ⟨-, heq⟩
  · rw [heq]; rfl
  · rw [heq]; rfl

/-! ## Coherence -/

/-- State, cursor and clock agree on the last frame at or before `t`. -/
structure Coherent (recording : Recording) (t now : Int) (engine : ReplayEngine) : Prop where
  state : engine.state = recording.stateAt t
  anchor : ∃ f, recording.IsLast t f ∧ engine.cursor.lastSequence = f.sequence ∧
    engine.cursor.lastMonotonicNs = f.monotonicNs ∧
    engine.clock.currentVirtualNs now = f.monotonicNs

/-- A seek to `t` that the engine can serve with its cursor on a frame: an exact
    checkpoint, a landing of the loader, or a target that is recorded itself. -/
def Anchorable (recording : Recording) (engine : ReplayEngine) (t : Int) : Prop :=
  (∃ cp ∈ engine.checkpoints.checkpoints, cp.sequence = t) ∨
    (recording.Restorable t ∧
      (recording.session.CoversNext t ∨ ∃ f ∈ recording.frames, f.sequence = t))

theorem Anchorable.servable {engine : ReplayEngine} {t : Int} (h : recording.Anchorable engine t) :
    recording.Servable engine t := by
  rcases h with hexact | ⟨hrestorable, -⟩
  · exact .inl hexact
  · exact .inr hrestorable

theorem Stands.coherent {engine : ReplayEngine} {t now : Int} {f : ReplayFrame}
    (h : recording.Stands t now engine) (hlast : recording.IsLast t f)
    (hle : engine.cursor.lastSequence ≤ f.sequence) : recording.Coherent t now engine := by
  have hcounters := counters_of_isLast hlast
  refine ⟨h.state, f, hlast, le_antisymm hle (h.reached f hlast.1 hlast.2.1), ?_, ?_⟩
  · rw [h.time, hcounters.2]
  · rw [h.clock, hcounters.2]

/-- The cursor of the loader path stands on the landed frame. -/
theorem restoreViaLoader_cursor (engine : ReplayEngine) {t : Int} (now : Int)
    (hrestorable : recording.Restorable t) (hcovered : recording.session.CoversNext t) :
    ∃ f, recording.IsLast t f ∧
      (engine.restoreViaLoader recording.session recording.registry t now).1.cursor.lastSequence
        = f.sequence := by
  rcases hrestorable with ⟨-, f, hone⟩ | ⟨huncovered, -⟩
  · obtain ⟨hlast, honly⟩ := isLast_of_single hone
    obtain ⟨g, hnext, hreplays⟩ := recording.session.reconstructState_covered
      (stateReducerAdapter recording.registry) {} hcovered
    obtain rfl := honly g hnext
    refine ⟨g, hlast, ?_⟩
    simp only [ReplayEngine.restoreViaLoader, ReplayEngine.jump, EngineCursor.jumpedTo,
      hreplays.landed]
  · exact absurd hcovered huncovered

theorem seekToSequence_coherent {engine : ReplayEngine} {t : Int} (now : Int)
    (hring : ∀ cp ∈ engine.checkpoints.checkpoints, recording.Faithful cp)
    (hcontains : recording.Contains t) (h : recording.Anchorable engine t) :
    recording.Coherent t now
      (engine.seekToSequence recording.session recording.registry t now).1 := by
  have hstands := seekToSequence_stands now hring h.servable
  obtain ⟨f, hlast⟩ := exists_isLast hcontains.1
  -- it is left that the cursor is not ahead of the last frame
  refine hstands.coherent hlast ?_
  rcases seekToSequence_cases recording.session recording.registry engine t now with
    ⟨cp, hmem, rfl, -⟩ | ⟨hnone, heq⟩
  · -- the checkpoint has the sequence of the last frame
    have hseq : cp.sequence = (recording.stateAt cp.sequence).lastSequence :=
      congrArg Checkpoint.sequence (hring cp hmem).state_eq
    rw [(counters_of_isLast hlast).1] at hseq
    exact hstands.le.trans hseq.le
  · rcases h with ⟨cp, hmem, hexact⟩ | ⟨hrestorable, hcovered | ⟨g, hg, rfl⟩⟩
    · exact absurd hexact (hnone cp hmem)
    · obtain ⟨g, hg, hcursor⟩ := restoreViaLoader_cursor engine now hrestorable hcovered
      rw [heq, hcursor]
      exact hlast.2.2 g hg.1 hg.2.1
    · exact hstands.le.trans (hlast.2.2 g hg (le_refl _))

end Recording

end AsyncViz.Replay
