/-
  AsyncViz.Replay.PathIndependence

  Where a seek of the coordinator leads, whatever was dispatched, sought, cached and
  evicted before: `SeekContract` describes its outcome by the target alone.

  `Kept` is the invariant of a run: that of the loop (`Player.Kept`), and that every cache
  entry holds the state at its own key.  `step_kept` is its step lemma for the actions that
  are `Sound`, `seek_contract` the contract of one seek.

  The three tiers do not land alike.  The checkpoints are filed under the sequence of their
  state, the cache entries under the target of the seek that made them; a hit of the cache
  lands on its key, which need not be recorded.  The loader lands on the later of state and
  cursor, and its cursor stands where the reconstruction began.
-/

import AsyncViz.Replay.Continuity
import AsyncViz.Replay.SeekCoordinator

namespace AsyncViz.Replay

open AsyncViz.Lib AsyncViz.Lib.Bisect AsyncViz.Lib.SortedLog AsyncViz.Lib.Transition

/-! ## Landings -/

namespace Recording

variable {recording : Recording}

/-- A state at `t` has the sequence `t`: some frame has it, or `t` is the start. -/
def Recorded (recording : Recording) (t : Int) : Prop :=
  t = 0 ∨ ∃ f ∈ recording.frames, f.sequence = t

/-- A target that the loader lands on the last frame of: it finds the first frame behind
    the snapshot, at or before the target and timed no later than the last one there; or it
    finds nothing, the snapshot holds no frame, and the target itself is recorded. -/
def Landable (recording : Recording) (t : Int) : Prop :=
  (recording.session.CoversNext t ∧ ∃ first last,
    IsNext ReplayFrame.sequence recording.frames (recording.session.resumePoint t) first ∧
      recording.IsLast t last ∧ first.sequence ≤ last.sequence ∧
      first.monotonicNs ≤ last.monotonicNs) ∨
  (¬ recording.session.CoversNext t ∧
    (∀ f ∈ recording.frames, recording.session.resumePoint t < f.sequence) ∧ recording.Recorded t)

/-- The pipeline returns the state at `t` with the counters of that state. -/
structure Lands (recording : Recording) (t : Int) (out : ReconstructionOutput) : Prop where
  state : out.state = recording.stateAt t
  sequence : out.landedSequence = (recording.stateAt t).lastSequence
  monotonicNs : out.landedMonotonicNs = (recording.stateAt t).lastMonotonicNs

theorem lastSequence_of_recorded {t : Int} (h : recording.Recorded t) :
    (recording.stateAt t).lastSequence = t := by
  rcases h with rfl | ⟨f, hf, rfl⟩
  · exact lastSequence_eq_zero_iff.mpr recording.positive
  · exact (counters_of_isLast ⟨hf, le_refl _, fun _ _ hle => hle⟩).1

/-- The sequence of a state is not behind its position. -/
theorem lastSequence_le {t : Int} (ht : 0 ≤ t) : (recording.stateAt t).lastSequence ≤ t := by
  rcases recording.isLast_or_before t with ⟨f, hlast⟩ | hbefore
  · rw [(counters_of_isLast hlast).1]
    exact hlast.2.1
  · rw [stateAt_of_before hbefore]
    exact ht

/-- No frame stands between the sequence of a state and its position. -/
theorem lastSequence_lt_iff {t : Int} {f : ReplayFrame} (hf : f ∈ recording.frames) :
    (recording.stateAt t).lastSequence < f.sequence ↔ t < f.sequence := by
  rcases recording.isLast_or_before t with ⟨g, hlast⟩ | hbefore
  · rw [(counters_of_isLast hlast).1]
    constructor
    · intro hlt
      by_contra hle
      have := hlast.2.2 f hf (not_lt.mp hle)
      omega
    · exact fun hlt => hlast.2.1.trans_lt hlt
  · rw [stateAt_of_before hbefore]
    exact iff_of_true (recording.positive f hf) (hbefore f hf)

theorem stateAt_max_zero (t : Int) : recording.stateAt (max 0 t) = recording.stateAt t := by
  rcases le_total 0 t with hnonneg | hneg
  · rw [max_eq_right hnonneg]
  · rw [max_eq_left hneg, stateAt_of_before recording.positive, stateAt_of_before]
    exact fun f hf => hneg.trans_lt (recording.positive f hf)

/-- Tier 2 lands on the sequence that the checkpoint is filed under. -/
theorem ofCheckpoint_lands {cp : Checkpoint} (hcp : recording.Faithful cp) :
    recording.Lands cp.sequence (.ofCheckpoint cp) where
  state := congrArg Checkpoint.state hcp.state_eq
  sequence := congrArg Checkpoint.sequence hcp.state_eq
  monotonicNs := congrArg Checkpoint.monotonicNs hcp.state_eq

/-- Tier 3 lands on the last frame of a target that is landable. -/
theorem ofOutcome_lands (engine : ReplayEngine) {t : Int} (now : Int) (h : recording.Landable t) :
    recording.Lands t
      (.ofOutcome (engine.restoreViaLoader recording.session recording.registry t now).2) := by
  rcases h with ⟨hcovered, first, last, hfirst, hlast, hseq, hns⟩ | ⟨huncovered, hheld, hrecorded⟩
  · obtain ⟨f, hnext, hreplays⟩ := recording.session.reconstructState_covered
      (stateReducerAdapter recording.registry) {} hcovered
    -- the frame that the loader found is the first one behind the snapshot
    obtain rfl := hfirst.eq recording.sorted hnext
    have hstate := recording.loaderState_eq (.inr (.inl hcovered)) (.inl ⟨last, hlast.1, hlast.2.1⟩)
    have hcounters := counters_of_isLast hlast
    refine ⟨hstate, ?_, ?_⟩
    all_goals
      simp only [ReconstructionOutput.ofOutcome, ReplayEngine.restoreViaLoader, ReplayEngine.jump,
        EngineCursor.jumpedTo, hreplays.landed, hstate]
    · rw [hcounters.1]
      exact max_eq_left hseq
    · rw [hcounters.2]
      exact max_eq_left hns
  · have hlanded := recording.session.landedFrame_uncovered
      (stateReducerAdapter recording.registry) {} huncovered
    -- a recorded target has its frame, and the start needs no snapshot
    have hsome :
        (∃ f ∈ recording.frames, f.sequence ≤ t) ∨ recording.session.resumePoint t = 0 := by
      rcases hrecorded with rfl | ⟨f, hf, rfl⟩
      · have := recording.session.resumePoint_nonneg 0
        have := recording.session.resumePoint_le (le_refl 0)
        exact .inr (by omega)
      · exact .inl ⟨f, hf, le_refl _⟩
    have hstate := recording.loaderState_eq (.inr (.inr hheld)) hsome
    refine ⟨hstate, ?_, ?_⟩
    all_goals
      simp only [ReconstructionOutput.ofOutcome, ReplayEngine.restoreViaLoader, ReplayEngine.jump,
        EngineCursor.jumpedTo, hlanded, hstate, max_self]
    -- the cursor takes the target
    rw [lastSequence_of_recorded hrecorded, max_self]

end Recording

/-! ## One seek -/

/-- A later jump replaces an earlier one. -/
theorem ReplayEngine.jump_jump (engine : ReplayEngine) (state state' : VirtualRuntimeState)
    (sequence sequence' monotonicNs monotonicNs' now : Int) :
    (engine.jump state sequence monotonicNs now).jump state' sequence' monotonicNs' now
      = engine.jump state' sequence' monotonicNs' now := by
  simp only [ReplayEngine.jump, EngineCursor.jumpedTo, ReplayClock.jumpTo, Option.map_map]
  rfl

namespace SeekCoordinator

variable {recording : Recording} {engineConfig : ReplayEngineConfig} {config : ReplaySeekConfig}
  {c c' : SeekCoordinator}

/-- Every entry holds the state at its key. -/
def CacheFaithful (recording : Recording) (cache : SeekCache) : Prop :=
  ∀ t entry, cache.get? t = some entry → entry.sequence = t ∧ entry.state = recording.stateAt t ∧
    entry.monotonicNs = (recording.stateAt t).lastMonotonicNs

/-- A target that every tier lands on the last frame of: in the cache, it is recorded; else
    it is a checkpoint, or landable for the loader. -/
def Landable (recording : Recording) (c : SeekCoordinator) (t : Int) : Prop :=
  match c.cache.get? t with
  | some _ => recording.Recorded t
  | none =>
    (∃ cp ∈ c.player.engine.checkpoints.checkpoints, cp.sequence = t) ∨ recording.Landable t

/-- The outcome of a seek to `t` at `now`, by the target alone: the state at `t`, landed on
    the last frame there, cursor and clock moved to it from wherever they were, and nothing
    left out or repeated behind it. -/
structure SeekContract (recording : Recording) (t now : Int) (c : SeekCoordinator)
    (outcome : SeekCoordinator × SeekResult) : Prop where
  state : outcome.1.player.engine.state = recording.stateAt t
  landedSequence : outcome.2.landedSequence = (recording.stateAt t).lastSequence
  landedMonotonicNs : outcome.2.landedMonotonicNs = (recording.stateAt t).lastMonotonicNs
  greatest : ∀ f, recording.IsLast t f →
    outcome.2.landedSequence = f.sequence ∧ outcome.2.landedMonotonicNs = f.monotonicNs
  cursor : outcome.1.player.engine.cursor = c.player.engine.cursor.jumpedTo
    (recording.stateAt t).lastSequence (recording.stateAt t).lastMonotonicNs
    (recording.stateAt t).lastMonotonicNs
  clock : outcome.1.player.engine.clock
    = c.player.engine.clock.jumpTo (recording.stateAt t).lastMonotonicNs now
  continues : after ReplayFrame.sequence recording.frames
      outcome.1.player.engine.cursor.lastSequence
    = after ReplayFrame.sequence recording.frames t

/-- What sound actions keep. -/
structure Kept (recording : Recording) (c : SeekCoordinator) : Prop where
  player : c.player.Kept recording
  cache : CacheFaithful recording c.cache

/-- The pipeline at a target that is landable: no lookup of the cache changes, and what the
    loader did to the engine is undone by the jump behind it. -/
theorem reconstruct_spec (h : Kept recording c) {t : Int} (now : Int)
    (hlandable : c.Landable recording t) :
    ∃ engine cache out,
      reconstruct recording.session recording.registry c.player.engine c.cache t now
        = (engine, cache, out) ∧
      (∀ k, cache.get? k = c.cache.get? k) ∧
      (∀ state sequence monotonicNs, engine.jump state sequence monotonicNs now
        = c.player.engine.jump state sequence monotonicNs now) ∧
      recording.Lands t out := by
  rw [Landable] at hlandable
  obtain ⟨cache, hcache, ⟨entry, hhit, heq⟩ | ⟨hmiss, cp, hcp, hseq, heq⟩ | ⟨hmiss, hnone, heq⟩⟩ :=
    reconstruct_cases recording.session recording.registry c.player.engine c.cache t now
  · rw [hhit] at hlandable
    obtain ⟨hkey, hstate, hns⟩ := h.cache t entry hhit
    refine ⟨_, cache, _, heq, hcache, fun _ _ _ => rfl, hstate, ?_, hns⟩
    rw [Recording.lastSequence_of_recorded hlandable]
    exact hkey
  · refine ⟨_, cache, _, heq, hcache, fun _ _ _ => rfl, ?_⟩
    rw [← hseq]
    exact Recording.ofCheckpoint_lands (h.player.ring cp hcp)
  · rw [hmiss] at hlandable
    rcases hlandable with ⟨cp, hcp, hseq⟩ | hloader
    · exact absurd hseq (hnone cp hcp)
    · refine ⟨_, cache, _, heq, hcache, fun _ _ _ => ?_, Recording.ofOutcome_lands _ now hloader⟩
      exact ReplayEngine.jump_jump _ _ _ _ _ _ _ _

/-- What `execute` leaves behind at a target that is landable. -/
structure Executes (recording : Recording) (t now : Int) (engine : ReplayEngine)
    (next : ReplayEngine × SeekCache × SeekResult) : Prop where
  engine : next.1 = { engine.jump (recording.stateAt t) (recording.stateAt t).lastSequence
      (recording.stateAt t).lastMonotonicNs now with checkpoints := next.1.checkpoints }
  ring : ∀ cp ∈ next.1.checkpoints.checkpoints, recording.Faithful cp
  cache : CacheFaithful recording next.2.1
  landedSequence : next.2.2.landedSequence = (recording.stateAt t).lastSequence
  landedMonotonicNs : next.2.2.landedMonotonicNs = (recording.stateAt t).lastMonotonicNs

theorem execute_executes (config : ReplaySeekConfig) (h : Kept recording c) {t : Int}
    (requestId : Nat) (now : Int) (hlandable : c.Landable recording t) :
    Executes recording t now c.player.engine
      (execute recording.session recording.registry config c.player.engine c.cache requestId t
        now) := by
  obtain ⟨engine, cache, out, heq, hcache, hjump, hlands⟩ := reconstruct_spec h now hlandable
  have hcacheKept : CacheFaithful recording cache :=
    fun k entry hk => h.cache k entry (hcache k ▸ hk)
  -- the state at the target goes into the cache under the target
  have hput : CacheFaithful recording (SeekCache.put cache
      { sequence := t
        monotonicNs := (recording.stateAt t).lastMonotonicNs
        state := recording.stateAt t }) := by
    intro k entry hk
    rcases SeekCache.get?_put hk with ⟨rfl, rfl⟩ | hold
    · exact ⟨rfl, rfl, rfl⟩
    · exact hcacheKept k entry hold
  rw [execute, heq]
  dsimp only
  rw [hjump, hlands.state, hlands.sequence, hlands.monotonicNs]
  refine ⟨?_, fun cp hcp => ?_, ?_, rfl, rfl⟩
  · split
    next => rfl
    next => rfl
  · split at hcp
    next =>
      -- the state at `t` is the only checkpoint that is new
      rcases CheckpointRuntime.mem_record hcp with rfl | hold
      · exact ⟨t, rfl⟩
      · exact h.player.ring cp hold
    next => exact h.player.ring cp hcp
  · change CacheFaithful recording (if _ then _ else _)
    split
    next => exact hput
    next => exact hcacheKept

/-- Behind a seek the engine shows the state at the target. -/
theorem Executes.stands {t now : Int} (ht : 0 ≤ t) {engine : ReplayEngine}
    {next : ReplayEngine × SeekCache × SeekResult} (h : Executes recording t now engine next) :
    recording.Stands t now next.1 := by
  have hengine := h.engine
  have hcursor : next.1.cursor.lastSequence = (recording.stateAt t).lastSequence := by
    rw [hengine]
    rfl
  refine ⟨by rw [hengine]; rfl, ?_, fun f hf hle => ?_, by rw [hengine]; rfl, ?_⟩
  · rw [hcursor]
    exact Recording.lastSequence_le ht
  · rw [hcursor]
    by_contra hgt
    exact absurd ((Recording.lastSequence_lt_iff hf).mp (not_le.mp hgt)) (not_lt.mpr hle)
  · rw [hengine]
    exact ReplayClock.currentVirtualNs_jumpTo _ _ _

/-! ## Runs -/

/-- The actions under which a run keeps `Kept`: those of the loop that are sound, and seeks
    to a target that is landable and fits the loop. -/
def Sound (recording : Recording) (engineConfig : ReplayEngineConfig) (c : SeekCoordinator) :
    Action → Prop
  | .player a => Player.Sound recording engineConfig c.player a
  | .seek intent _ =>
    c.Landable recording (resolveTargetSequence intent c.cursor.lastSeekSequence) ∧
      c.player.Fits recording (resolveTargetSequence intent c.cursor.lastSeekSequence)

theorem start_kept (config : ReplaySeekConfig) (clock : ReplayClock) (capacity : ℕ+) :
    Kept recording (start config clock capacity) where
  player := Player.start_kept clock capacity
  cache := fun _ _ hentry => nomatch hentry

theorem resolveTargetSequence_nonneg (intent : SeekIntent) (currentCursorSequence : Int) :
    0 ≤ resolveTargetSequence intent currentCursorSequence := by
  cases intent with
  | toSequence targetSequence => exact le_max_left _ _
  | relative relativeDelta => exact le_max_left _ _

theorem seek_kept (h : Kept recording c) {intent : SeekIntent} {now : Int}
    (hsound : Sound recording engineConfig c (.seek intent now)) :
    Kept recording (c.seek recording.session recording.registry config intent now).1 := by
  obtain ⟨hlandable, hfits⟩ := hsound
  have hexecutes := execute_executes config h (c.requestCounter + 1) now hlandable
  have hstands := hexecutes.stands (resolveTargetSequence_nonneg _ _)
  exact ⟨h.player.replaceEngine hstands hexecutes.ring hfits, hexecutes.cache⟩

/-- The step lemma. -/
theorem step_kept {a : Action} (h : Kept recording c) (hsound : Sound recording engineConfig c a)
    (hstep : step recording.session recording.registry engineConfig config c a = some c') :
    Kept recording c' := by
  cases a with
  | player a =>
    obtain ⟨player, hplayer, rfl⟩ := Option.map_eq_some_iff.mp hstep
    exact ⟨Player.step_kept h.player hsound hplayer, h.cache⟩
  | seek intent now =>
    cases hstep
    exact seek_kept h hsound

/-- The contract of one seek. -/
theorem seek_contract (h : Kept recording c) {t now : Int}
    (hlandable : c.Landable recording (max 0 t)) :
    SeekContract recording t now c
      (c.seekToSequence recording.session recording.registry config t now) := by
  have hexecutes := execute_executes config h (c.requestCounter + 1) now hlandable
  have hengine := hexecutes.engine
  have hsequence := hexecutes.landedSequence
  have hmonotonic := hexecutes.landedMonotonicNs
  rw [Recording.stateAt_max_zero] at hengine hsequence hmonotonic
  refine ⟨congrArg ReplayEngine.state hengine, hsequence, hmonotonic, fun f hlast => ?_,
    congrArg ReplayEngine.cursor hengine, congrArg ReplayEngine.clock hengine, ?_⟩
  · have hcounters := Recording.counters_of_isLast hlast
    exact ⟨hsequence.trans hcounters.1, hmonotonic.trans hcounters.2⟩
  · have hcursor : (c.seekToSequence recording.session recording.registry config t
        now).1.player.engine.cursor.lastSequence = (recording.stateAt t).lastSequence :=
      congrArg (fun engine : ReplayEngine => engine.cursor.lastSequence) hengine
    rw [hcursor]
    exact List.filter_congr fun f hf => decide_eq_decide.mpr (Recording.lastSequence_lt_iff hf)

/-- In every run of sound actions what was dispatched since the latest seek is the run of
    recorded frames behind where it landed, and a further seek meets its contract, whichever
    tier serves it. -/
theorem seek_path_independent (recording : Recording) (engineConfig : ReplayEngineConfig)
    (config : ReplaySeekConfig) (clock : ReplayClock) (capacity : ℕ+) (acts : List Action)
    (hall : AllSteps (step recording.session recording.registry engineConfig config)
      (Sound recording engineConfig) (start config clock capacity) acts)
    (hrun : exec (step recording.session recording.registry engineConfig config)
      (start config clock capacity) acts = some c) :
    c.player.dispatched
        = within ReplayFrame.sequence recording.frames c.player.origin c.player.position ∧
      ∀ t now, Sound recording engineConfig c (.seek (.toSequence t) now) →
        SeekContract recording t now c
          (c.seekToSequence recording.session recording.registry config t now) := by
  have hkept : Kept recording c :=
    exec_invariant_of_allSteps (fun _ _ _ h hsound hstep => step_kept h hsound hstep)
      (start_kept config clock capacity) hall hrun
  exact ⟨hkept.player.dispatched, fun t now hsound => seek_contract hkept hsound.1⟩

/-! ## A target in a gap -/

/-- Frames `1` and `3` in one chunk, no snapshots, the default reducer. -/
private def soughtRecording : Recording :=
  .withGap

private theorem mem_soughtRecording {f : ReplayFrame} (hf : f ∈ soughtRecording.frames) :
    f = ReplayFrame.sample 1 ∨ f = ReplayFrame.sample 3 := by
  rcases List.mem_cons.mp hf with rfl | hf
  · exact .inl rfl
  · exact .inr (List.mem_singleton.mp hf)

private theorem soughtRecording_landable {t : Int} (last : ReplayFrame)
    (hlast : soughtRecording.IsLast t last) (hseq : 1 ≤ last.sequence)
    (hns : 10 ≤ last.monotonicNs) : soughtRecording.Landable t := by
  refine .inl ⟨⟨_, List.mem_cons_self, ?_, ?_⟩, ReplayFrame.sample 1, last,
    ⟨List.mem_cons_self, ?_, ?_⟩, hlast, hseq, hns⟩
  · exact ⟨ReplayFrame.sample 1, List.mem_cons_self, le_refl (1 : Int)⟩
  · exact ⟨ReplayFrame.sample 1, List.mem_cons_self, le_refl (1 : Int)⟩
  · exact (Int.zero_lt_one : (0 : Int) < 1)
  · intro f hf _
    rcases mem_soughtRecording hf with rfl | rfl
    · exact le_refl _
    · decide

/-- A seek into the gap, and then one to the last frame. -/
theorem seek_path_independent_behind_gap :
    ∃ c, exec (step soughtRecording.session soughtRecording.registry {} {})
        (start {} { wallAnchorNs := 0 } 32)
        [.player .play, .player .pull, .player .pass, .player (.dispatch 5), .player .settle,
          .seek (.toSequence 2) 6] = some c ∧
      SeekContract soughtRecording 3 7 c
        (c.seekToSequence soughtRecording.session soughtRecording.registry {} 3 7) := by
  have hgap : soughtRecording.Landable 2 := by
    refine soughtRecording_landable (ReplayFrame.sample 1)
      ⟨List.mem_cons_self, by decide, fun f hf hle => ?_⟩ (by decide) (by decide)
    rcases mem_soughtRecording hf with rfl | rfl
    · exact le_refl _
    · exact absurd hle (by decide)
  have hend : soughtRecording.Landable 3 := by
    refine soughtRecording_landable (ReplayFrame.sample 3)
      ⟨List.mem_cons_of_mem _ List.mem_cons_self, by decide, fun f hf hle => hle⟩ (by decide)
      (by decide)
  refine ⟨_, rfl, (seek_path_independent soughtRecording {} {} { wallAnchorNs := 0 } 32
    [.player .play, .player .pull, .player .pass, .player (.dispatch 5), .player .settle,
      .seek (.toSequence 2) 6] ?_ rfl).2 3 7 ?_⟩
  · refine .cons rfl trivial (.cons rfl trivial (.cons rfl trivial (.cons rfl nofun ?_)))
    refine .cons rfl trivial (.cons rfl ⟨.inr hgap, fun _ f hf hnot => ?_⟩ trivial)
    rcases mem_soughtRecording hf with rfl | rfl
    · decide
    · exact absurd List.mem_cons_self hnot
  · refine ⟨.inr hend, fun _ f hf _ => ?_⟩
    rcases mem_soughtRecording hf with rfl | rfl
    · decide
    · decide

/-- A seek into the gap lands on the first frame, the same seek once more on the target: the
    cache has the state under the target, and takes that for where it stands. -/
theorem repeated_seek_lands_elsewhere :
    ∃ c, exec (step soughtRecording.session soughtRecording.registry {} {})
        (start {} { wallAnchorNs := 0 } 32) [.seek (.toSequence 2) 6] = some c ∧
      ((start {} { wallAnchorNs := 0 } 32).seekToSequence soughtRecording.session
        soughtRecording.registry {} 2 6).2.landedSequence = 1 ∧
      ¬ SeekContract soughtRecording 2 7 c
        (c.seekToSequence soughtRecording.session soughtRecording.registry {} 2 7) := by
  refine ⟨_, rfl, rfl, fun h => ?_⟩
  have hlast : soughtRecording.IsLast 2 (ReplayFrame.sample 1) := by
    refine ⟨List.mem_cons_self, by decide, fun f hf hle => ?_⟩
    rcases mem_soughtRecording hf with rfl | rfl
    · exact le_refl _
    · exact absurd hle (by decide)
  have hlanded := (h.greatest _ hlast).1
  exact absurd hlanded (by decide)

end SeekCoordinator

end AsyncViz.Replay
