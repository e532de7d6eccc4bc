/-
  AsyncViz.Replay.RelativeSeeks

  Where relative seeks and rebuilds of `ReplaySeekCoordinator` start from
  (`replay_seek_coordinator.py`, `utils/targets.py` in `replay/runtime/seek/`), in histories
  that mix playback with seeks of every kind.

  There are two cursors.  The engine's is moved by playback and by seeks; the coordinator's
  own (`SeekCursor`) by its seeks only, and it is this one that an intent is resolved with.
  So a relative seek is an offset to the latest landing (`latestLanding`), and
  `rebuild_at_cursor` goes back there.  A seek sets both cursors to the same sequence; they
  stay together until playback stores a frame or the engine is sought directly (`movedOn`).
-/

import AsyncViz.Replay.PathIndependence

namespace AsyncViz.Replay

open AsyncViz.Lib AsyncViz.Lib.Bisect AsyncViz.Lib.SortedLog AsyncViz.Lib.Transition

/-! ## Timestamps -/

namespace ReplaySession

variable {σ : Type _} (session : ReplaySession σ)

/-- `loader.seek_to_timestamp(target_monotonic_ns)`, without the loader's own cursor. -/
def seekToTimestamp (targetMonotonicNs : Int) : SeekResult :=
  let plan : SeekPlan σ :=
    -- `chunks[0].index if chunks else 0`
    { startingChunkIndex := (session.chunks.head?.map Chunk.index).getD 0
      snapshot := none
      chunksToScan := session.chunks.length }
  let result :=
    executeSeek plan session.chunks fun frame => targetMonotonicNs ≤ frame.monotonicNs
  match result.landedFrame with
  | some frame =>
    match session.snapshotIndex.nearestAtOrBefore frame.sequence with
    | some snap => { result with cursor := result.cursor.withSnapshot snap.record.index }
    | none => result
  | none => result

variable {session}

/-- From the first chunk on, the walk goes through all frames. -/
theorem landedFrame_executeSeek (plan : SeekPlan σ)
    (hplan : plan.startingChunkIndex = (session.chunks.head?.map Chunk.index).getD 0)
    (p : ReplayFrame → Bool) :
    (executeSeek plan session.chunks p).landedFrame = session.frames.find? p := by
  have hwalk := walkChunks_eq plan.startingChunkIndex p session.chunks 0
  cases hchunks : session.chunks with
  | nil =>
    rw [hchunks] at hplan
    have hzero : plan.startingChunkIndex = 0 := hplan
    rw [executeSeek, if_pos hzero, frames, hchunks]
    rfl
  | cons first rest =>
    rw [hchunks] at hplan
    have hindex : plan.startingChunkIndex = first.index := hplan
    have hpos := session.index_pos first (hchunks ▸ List.mem_cons_self)
    have hstart : plan.startingChunkIndex ≠ 0 := by omega
    -- the first chunk has the least number, so none is skipped
    have hall : session.chunks.filter (fun c => plan.startingChunkIndex ≤ c.index)
        = session.chunks := by
      refine List.filter_eq_self.mpr fun c hc => decide_eq_true ?_
      rw [hindex]
      have hindexed := session.indexed
      rw [hchunks] at hc hindexed
      rcases List.mem_cons.mp hc with rfl | hrest
      · exact le_refl _
      · exact ((List.pairwise_cons.mp hindexed).1 c hrest).le
    rw [hall] at hwalk
    rw [frames, ← hwalk, ← hchunks, executeSeek, if_neg hstart]
    cases walkChunks plan.startingChunkIndex p session.chunks 0 with
    | mk found scanned =>
      cases found with
      | none => rfl
      | some pair => rfl

/-- A seek to a timestamp lands on the first frame that is timed no earlier. -/
theorem landedFrame_seekToTimestamp (targetMonotonicNs : Int) :
    (session.seekToTimestamp targetMonotonicNs).landedFrame
      = session.frames.find? fun f => targetMonotonicNs ≤ f.monotonicNs := by
  rw [seekToTimestamp]
  -- the snapshot goes into the cursor only
  split
  next =>
    split
    next => exact landedFrame_executeSeek _ rfl _
    next => exact landedFrame_executeSeek _ rfl _
  next => exact landedFrame_executeSeek _ rfl _

end ReplaySession

/-! ## Intents -/

/-- `SeekIntent`, of every kind. -/
inductive AnySeekIntent where
  | toSequence (targetSequence : Int)
  | toTimestamp (targetMonotonicNs : Int)
  | toMarker (markerId : String)
  | relative (relativeDelta : Int)
deriving DecidableEq, Repr

/-- `MarkerResolver`; `none` where it raises. -/
abbrev MarkerResolver := String → Option Int

/-- `resolve_target_sequence` for every kind; `none` where it raises. -/
def AnySeekIntent.resolve {σ : Type _} (session : ReplaySession σ)
    (markerResolver : Option MarkerResolver) (intent : AnySeekIntent)
    (currentCursorSequence : Int) : Option Int :=
  match intent with
  | .toSequence targetSequence => some (max 0 targetSequence)
  | .toTimestamp targetMonotonicNs =>
    match (session.seekToTimestamp targetMonotonicNs).landedFrame with
    | some frame => some frame.sequence
    | none => some currentCursorSequence
  | .relative relativeDelta => some (max 0 (currentCursorSequence + relativeDelta))
  | .toMarker markerId =>
    match markerResolver with
    | none => none
    | some resolver => resolver markerId

/-- A seek to a timestamp goes to the first frame that is timed no earlier; where there is none,
    it stays. -/
theorem AnySeekIntent.resolve_toTimestamp {σ : Type _} (session : ReplaySession σ)
    (markerResolver : Option MarkerResolver) (targetMonotonicNs currentCursorSequence : Int) :
    (AnySeekIntent.toTimestamp targetMonotonicNs).resolve session markerResolver
        currentCursorSequence
      = some (((session.frames.find? fun f => targetMonotonicNs ≤ f.monotonicNs).map
          ReplayFrame.sequence).getD currentCursorSequence) := by
  rw [resolve, ReplaySession.landedFrame_seekToTimestamp]
  cases session.frames.find? fun f => targetMonotonicNs ≤ f.monotonicNs with
  | none => rfl
  | some frame => rfl

/-- An intent of the kinds that `resolveTargetSequence` is about. -/
def SeekIntent.toAny : SeekIntent → AnySeekIntent
  | .toSequence targetSequence => .toSequence targetSequence
  | .relative relativeDelta => .relative relativeDelta

theorem SeekIntent.resolve_toAny {σ : Type _} (session : ReplaySession σ)
    (markerResolver : Option MarkerResolver) (intent : SeekIntent) (currentCursorSequence : Int) :
    intent.toAny.resolve session markerResolver currentCursorSequence
      = some (resolveTargetSequence intent currentCursorSequence) := by
  cases intent with
  | toSequence targetSequence => rfl
  | relative relativeDelta => rfl

/-! ## Calls -/

namespace SeekCoordinator

section Calls

variable (session : ReplaySession StateDict) (registry : ReducerRegistry)

/-- `_dispatch.submit(request, target_sequence=…)`. -/
def submit (config : ReplaySeekConfig) (c : SeekCoordinator) (targetSequence now : Int) :
    SeekCoordinator × SeekCoordinator.SeekResult :=
  let requestId := c.requestCounter + 1
  let (engine, cache, result) :=
    execute session registry config c.player.engine c.cache requestId targetSequence now
  ({ player :=
      { c.player with engine := engine, dispatched := [], origin := engine.cursor.lastSequence }
     cache := cache
     cursor := c.cursor.advance result.landedSequence result.landedMonotonicNs requestId
     requestCounter := requestId },
    result)

/-- `_dispatch_intent`; without a result where the target cannot be resolved. -/
def dispatchIntent (config : ReplaySeekConfig) (markerResolver : Option MarkerResolver)
    (c : SeekCoordinator) (intent : AnySeekIntent) (now : Int) :
    SeekCoordinator × Option SeekCoordinator.SeekResult :=
  -- the cursor of the seeks, not the engine's
  match intent.resolve session markerResolver c.cursor.lastSeekSequence with
  -- the request has its id, and nothing else has happened
  | none => ({ c with requestCounter := c.requestCounter + 1 }, none)
  | some targetSequence =>
    let (c, result) := submit session registry config c targetSequence now
    (c, some result)

/-- `coordinator.seek_relative(delta)`. -/
def seekRelative (config : ReplaySeekConfig) (markerResolver : Option MarkerResolver)
    (c : SeekCoordinator) (delta now : Int) :
    SeekCoordinator × Option SeekCoordinator.SeekResult :=
  c.dispatchIntent session registry config markerResolver (.relative delta) now

/-- What happens on the engine, or a seek of any kind.  `rebuild_at_cursor` is a seek to a
    sequence. -/
inductive Call where
  | player (a : Player.Action)
  | seek (intent : AnySeekIntent) (now : Int)
deriving DecidableEq, Repr

/-- One call, with the result of a seek that went through. -/
def perform (engineConfig : ReplayEngineConfig) (config : ReplaySeekConfig)
    (markerResolver : Option MarkerResolver) (c : SeekCoordinator) :
    Call → Option (SeekCoordinator × Option SeekCoordinator.SeekResult)
  | .player a =>
    (Player.step session registry engineConfig c.player a).map fun player =>
      ({ c with player := player }, none)
  | .seek intent now =>
    some (c.dispatchIntent session registry config markerResolver intent now)

variable {session registry} {config : ReplaySeekConfig} {c c' : SeekCoordinator}

theorem seek_eq_submit (intent : SeekIntent) (now : Int) :
    c.seek session registry config intent now
      = c.submit session registry config
          (resolveTargetSequence intent c.cursor.lastSeekSequence) now :=
  rfl

/-- To a target that is not negative a seek of any kind is one to a sequence. -/
theorem submit_eq_seekToSequence {t : Int} (ht : 0 ≤ t) (now : Int) :
    c.submit session registry config t now
      = c.seekToSequence session registry config t now := by
  rw [seekToSequence, seek_eq_submit, resolveTargetSequence, max_eq_right ht]

/-- A seek of the kinds `sequence` and `relative` always goes through. -/
theorem dispatchIntent_toAny (markerResolver : Option MarkerResolver) (intent : SeekIntent)
    (now : Int) :
    c.dispatchIntent session registry config markerResolver intent.toAny now
      = ((c.seek session registry config intent now).1,
          some (c.seek session registry config intent now).2) := by
  rw [dispatchIntent, SeekIntent.resolve_toAny, seek_eq_submit]

/-- Behind a seek the two cursors show where it landed. -/
theorem cursors_submit (t now : Int) :
    (c.submit session registry config t now).1.cursor.lastSeekSequence
        = (c.submit session registry config t now).2.landedSequence ∧
      (c.submit session registry config t now).1.player.engine.cursor.lastSequence
        = (c.submit session registry config t now).2.landedSequence := by
  refine ⟨rfl, ?_⟩
  simp only [submit, execute]
  split
  next => rfl
  next => rfl

/-- What a call does. -/
theorem perform_cases {engineConfig : ReplayEngineConfig} {markerResolver : Option MarkerResolver}
    {a : Call} {reply : Option SeekCoordinator.SeekResult}
    (h : perform session registry engineConfig config markerResolver c a = some (c', reply)) :
    (∃ b player, a = .player b ∧
      Player.step session registry engineConfig c.player b = some player ∧
      c' = { c with player := player } ∧ reply = none) ∨
    (∃ intent now, a = .seek intent now ∧
      intent.resolve session markerResolver c.cursor.lastSeekSequence = none ∧
      c' = { c with requestCounter := c.requestCounter + 1 } ∧ reply = none) ∨
    (∃ intent now t, a = .seek intent now ∧
      intent.resolve session markerResolver c.cursor.lastSeekSequence = some t ∧
      c' = (c.submit session registry config t now).1 ∧
      reply = some (c.submit session registry config t now).2) := by
  cases a with
  | player b =>
    obtain ⟨player, hstep, heq⟩ := Option.map_eq_some_iff.mp h
    cases heq
    exact .inl ⟨b, player, rfl, hstep, rfl, rfl⟩
  | seek intent now =>
    simp only [perform, dispatchIntent, Option.some.injEq] at h
    cases hresolve : intent.resolve session markerResolver c.cursor.lastSeekSequence with
    | none =>
      rw [hresolve] at h
      cases h
      exact .inr (.inl ⟨intent, now, rfl, hresolve, rfl, rfl⟩)
    | some t =>
      rw [hresolve] at h
      cases h
      exact .inr (.inr ⟨intent, now, t, rfl, hresolve, rfl, rfl⟩)

end Calls

end SeekCoordinator

/-! ## The engine's cursor -/

/-- Of the engine's actions a seek and the end of a dispatch move the cursor. -/
def Player.Action.movesCursor : Player.Action → Bool
  | .settle => true
  | .seek _ _ => true
  | _ => false

theorem Player.cursor_of_step {session : ReplaySession StateDict} {registry : ReducerRegistry}
    {config : ReplayEngineConfig} {p p' : Player} {a : Player.Action}
    (hstep : Player.step session registry config p a = some p') (hstill : a.movesCursor = false) :
    p'.engine.cursor = p.engine.cursor := by
  cases Player.stepped_of_step hstep with
  | play =>
    rw [Player.play]
    split
    next => rfl
    next => rfl
  | stop now =>
    rw [Player.stop]
    split
    next => rfl
    next => rfl
    next => rfl
  | pause now => rfl
  | resume now => rfl
  | seek t now => cases hstill
  | @pull rest hphase =>
    cases rest with
    | nil => rfl
    | cons frame rest =>
      rw [Player.pull]
      split
      next => rfl
      next => rfl
  | pass hphase hrunning =>
    rw [Player.pass]
    split
    next => rfl
    next => rfl
  | dispatch now hphase =>
    rw [Player.dispatch]
    split
    next => rfl
    next =>
      split
      next =>
        split
        next => rfl
        next => rfl
      next => rfl
  | settle hphase => cases hstill

/-! ## Recorded landings -/

namespace Recording

variable {recording : Recording}

theorem Recorded.nonneg {t : Int} (h : recording.Recorded t) : 0 ≤ t := by
  rcases h with rfl | ⟨f, hf, rfl⟩
  · exact le_refl _
  · exact (recording.positive f hf).le

/-- The sequence of a state is the start, or that of a frame. -/
theorem recorded_lastSequence (t : Int) :
    recording.Recorded (recording.stateAt t).lastSequence := by
  rcases recording.isLast_or_before t with ⟨f, hlast⟩ | hbefore
  · exact .inr ⟨f, hlast.1, (counters_of_isLast hlast).1.symm⟩
  · rw [stateAt_of_before hbefore]
    exact .inl rfl

theorem Landable.nonneg {t : Int} (h : recording.Landable t) : 0 ≤ t := by
  rcases h with ⟨-, first, last, -, hlast, -, -⟩ | ⟨-, -, hrecorded⟩
  · exact (recording.positive last hlast.1).le.trans hlast.2.1
  · exact hrecorded.nonneg

end Recording

/-- A new checkpoint is in the ring. -/
theorem CheckpointRuntime.checkpointOf_mem_record (ring : CheckpointRuntime)
    (state : VirtualRuntimeState) : checkpointOf state ∈ (ring.record state).checkpoints := by
  have hpos := ring.capacity.pos
  rw [record]
  -- at least the last entry stays
  rw [List.drop_append_of_le_length]
  · exact List.mem_append_right _ List.mem_cons_self
  · rw [List.length_append, List.length_singleton]
    omega

namespace SeekCoordinator

variable {recording : Recording} {c : SeekCoordinator}

theorem Landable.nonneg (h : Kept recording c) {t : Int} (hlandable : c.Landable recording t) :
    0 ≤ t := by
  rw [Landable] at hlandable
  cases hcache : c.cache.get? t with
  | some entry =>
    rw [hcache] at hlandable
    exact Recording.Recorded.nonneg hlandable
  | none =>
    rw [hcache] at hlandable
    rcases hlandable with ⟨cp, hcp, rfl⟩ | hloader
    · obtain ⟨s, rfl⟩ := h.player.ring cp hcp
      exact (Recording.recorded_lastSequence s).nonneg
    · exact hloader.nonneg

/-- The cache or the ring has the state at `q`, or the loader lands on it. -/
def Rebuildable (recording : Recording) (c : SeekCoordinator) (q : Int) : Prop :=
  (c.cache.get? q).isSome ∨ (∃ cp ∈ c.player.engine.checkpoints.checkpoints, cp.sequence = q) ∨
    recording.Landable q

/-- What the cache has for a recorded sequence is right. -/
theorem Rebuildable.landable {q : Int} (h : c.Rebuildable recording q)
    (hrecorded : recording.Recorded q) : c.Landable recording q := by
  rw [Landable]
  cases hcache : c.cache.get? q with
  | some entry => exact hrecorded
  | none =>
    rcases h with hhit | hrest
    · rw [hcache] at hhit
      cases hhit
    · exact hrest

/-- The state at `q` is rebuilt, and both cursors and the clock stand there. -/
structure Rebuilds (recording : Recording) (q now : Int) (c : SeekCoordinator)
    (outcome : SeekCoordinator × SeekCoordinator.SeekResult) : Prop
    extends SeekContract recording q now c outcome where
  landed : outcome.2.landedSequence = q
  engineCursor : outcome.1.player.engine.cursor.lastSequence = q
  seekCursor : outcome.1.cursor.lastSeekSequence = q
  clockShows : outcome.1.player.engine.clock.currentVirtualNs now
    = (recording.stateAt q).lastMonotonicNs

/-- Where seeks leave checkpoints, what a seek landed on can be rebuilt right behind it. -/
theorem rebuildable_behind_seek {config : ReplaySeekConfig}
    (hrecord : config.recordCheckpointOnSeek = true) (h : Kept recording c) {t : Int}
    (hlandable : c.Landable recording t) (now : Int) :
    (c.submit recording.session recording.registry config t now).1.Rebuildable recording
      (c.submit recording.session recording.registry config t now).2.landedSequence := by
  obtain ⟨cache, hcache, ⟨entry, hhit, heq⟩ | ⟨-, cp, hcp, hseq, heq⟩ | ⟨hmiss, hnone, heq⟩⟩ :=
    reconstruct_cases recording.session recording.registry c.player.engine c.cache t now
  · -- the entry is at its own key
    left
    simp only [submit, execute, heq, ReconstructionOutput.ofCache, Bool.not_true, Bool.and_false,
      Bool.false_eq_true, if_false]
    rw [(h.cache t entry hhit).1, hcache, hhit]
    rfl
  · refine .inr (.inl ⟨cp, ?_, ?_⟩)
    · simp only [submit, execute, heq, ReconstructionOutput.ofCheckpoint, Bool.not_true,
        Bool.and_false, Bool.false_and, Bool.false_eq_true, if_false]
      exact hcp
    · simp only [submit, execute, heq, ReconstructionOutput.ofCheckpoint]
  · rw [Landable, hmiss] at hlandable
    have hloader : recording.Landable t := by
      rcases hlandable with ⟨cp, hcp, hseq⟩ | hloader
      · exact absurd hseq (hnone cp hcp)
      · exact hloader
    have hlands := Recording.ofOutcome_lands c.player.engine now hloader
    refine .inr (.inl ⟨CheckpointRuntime.checkpointOf (recording.stateAt t), ?_, ?_⟩)
    · rw [← hlands.state]
      simp only [submit, execute, heq, ReconstructionOutput.ofOutcome, hrecord,
        ReplayEngine.restoreViaLoader, Bool.not_false, Bool.and_true, if_true]
      exact CheckpointRuntime.checkpointOf_mem_record _ _
    · simp only [submit, execute, heq]
      exact hlands.sequence.symm

/-- A rebuild, where the latest landing is recorded. -/
theorem rebuilds {config : ReplaySeekConfig} (h : Kept recording c)
    (hrecorded : recording.Recorded c.cursor.lastSeekSequence)
    (hrebuildable : c.Rebuildable recording c.cursor.lastSeekSequence) (now : Int) :
    Rebuilds recording c.cursor.lastSeekSequence now c
      (c.rebuildAtCursor recording.session recording.registry config now) := by
  have hlandable : c.Landable recording (max 0 c.cursor.lastSeekSequence) := by
    rw [max_eq_right hrecorded.nonneg]
    exact hrebuildable.landable hrecorded
  have hcontract : SeekContract recording c.cursor.lastSeekSequence now c
      (c.rebuildAtCursor recording.session recording.registry config now) :=
    seek_contract h hlandable
  have hlanded := hcontract.landedSequence
  rw [Recording.lastSequence_of_recorded hrecorded] at hlanded
  refine ⟨hcontract, hlanded, ?_, hlanded, ?_⟩
  · rw [hcontract.cursor]
    exact Recording.lastSequence_of_recorded hrecorded
  · rw [hcontract.clock]
    exact ReplayClock.currentVirtualNs_jumpTo _ _ _

end SeekCoordinator

/-! ## Histories -/

/-- What a `ReplaySeekCoordinator` and the engine below it are built from. -/
structure SeekSetup where
  recording : Recording
  engineConfig : ReplayEngineConfig
  checkpointCapacity : ℕ+
  clock : ReplayClock
  config : ReplaySeekConfig := {}
  markerResolver : Option MarkerResolver := none

namespace SeekSetup

open SeekCoordinator

variable (setup : SeekSetup)

/-- A new coordinator on a new engine. -/
def start : SeekCoordinator :=
  .start setup.config setup.clock setup.checkpointCapacity

/-- One call, with the result of a seek that went through. -/
def perform (c : SeekCoordinator) (a : Call) :
    Option (SeekCoordinator × Option SeekCoordinator.SeekResult) :=
  c.perform setup.recording.session setup.recording.registry setup.engineConfig setup.config
    setup.markerResolver a

/-- One call. -/
def step (c : SeekCoordinator) (a : Call) : Option SeekCoordinator :=
  (setup.perform c a).map Prod.fst

/-- Where the seek lands that a call completes. -/
def landing (c : SeekCoordinator) (a : Call) : Option Int :=
  ((setup.perform c a).bind Prod.snd).map SeekResult.landedSequence

/-- Whether a call takes the engine's cursor away from the latest landing, or back to one. -/
def moving (c : SeekCoordinator) (a : Call) : Option Bool :=
  match a with
  | .player b => if b.movesCursor then some true else none
  | .seek _ _ => (setup.landing c a).map fun _ => false

/-- Where the latest seek of a history landed, the start before the first one. -/
def latestLanding (acts : List Call) : Int :=
  lastOutput setup.step setup.landing 0 setup.start acts

/-- Playback has stored a frame since the latest seek, or the engine was sought directly. -/
def movedOn (acts : List Call) : Bool :=
  lastOutput setup.step setup.moving false setup.start acts

/-- `coordinator.seek_relative(delta)`. -/
def seekRelative (c : SeekCoordinator) (delta now : Int) :
    SeekCoordinator × Option SeekCoordinator.SeekResult :=
  c.seekRelative setup.recording.session setup.recording.registry setup.config
    setup.markerResolver delta now

/-- `coordinator.rebuild_at_cursor()`. -/
def rebuildAtCursor (c : SeekCoordinator) (now : Int) :
    SeekCoordinator × SeekCoordinator.SeekResult :=
  c.rebuildAtCursor setup.recording.session setup.recording.registry setup.config now

/-- Relative seeks and rebuilds start from `q`. -/
structure SeeksFrom (q : Int) (c : SeekCoordinator) : Prop where
  relative : ∀ delta now,
    (setup.seekRelative c delta now).2.map SeekResult.targetSequence = some (max 0 (q + delta))
  rebuild : ∀ now, (setup.rebuildAtCursor c now).2.targetSequence = max 0 q

/-- The calls under which a history keeps `Kept`: those of the engine that are sound, and
    seeks that cannot be resolved, or to a target that is landable and fits the loop. -/
def Sound (c : SeekCoordinator) : Call → Prop
  | .player a => Player.Sound setup.recording setup.engineConfig c.player a
  | .seek intent _ => ∀ t,
    intent.resolve setup.recording.session setup.markerResolver c.cursor.lastSeekSequence = some t →
      c.Landable setup.recording t ∧ c.player.Fits setup.recording t

variable {setup} {c c' : SeekCoordinator} {a : Call}

/-! ### Both cursors -/

/-- A relative seek starts from the coordinator's cursor, and from nowhere else. -/
theorem seeksFrom_iff {q : Int} : setup.SeeksFrom q c ↔ q = c.cursor.lastSeekSequence := by
  constructor
  · intro h
    -- an offset for which both targets are positive
    have hrelative := Option.some.inj (h.relative (1 - min q c.cursor.lastSeekSequence) 0)
    change max 0 (c.cursor.lastSeekSequence + (1 - min q c.cursor.lastSeekSequence)) = _
      at hrelative
    omega
  · rintro rfl
    exact ⟨fun _ _ => rfl, fun _ => rfl⟩

theorem perform_of_step (hstep : setup.step c a = some c') :
    ∃ reply, setup.perform c a = some (c', reply) ∧
      setup.landing c a = reply.map SeekResult.landedSequence := by
  obtain ⟨⟨next, reply⟩, hperform, heq⟩ := Option.map_eq_some_iff.mp hstep
  cases heq
  refine ⟨reply, hperform, ?_⟩
  rw [landing, hperform, Option.bind_some]

/-- The coordinator's cursor is set by its own seeks. -/
theorem lastSeekSequence_of_step (hstep : setup.step c a = some c') :
    c'.cursor.lastSeekSequence = (setup.landing c a).getD c.cursor.lastSeekSequence := by
  obtain ⟨reply, hperform, hlanding⟩ := perform_of_step hstep
  rw [hlanding]
  obtain ⟨b, player, rfl, hplayer, rfl, rfl⟩ | ⟨intent, now, rfl, hresolve, rfl, rfl⟩ |
    ⟨intent, now, t, rfl, hresolve, rfl, rfl⟩ := perform_cases hperform
  · rfl
  · rfl
  · exact (cursors_submit t now).1

/-- The cursors stand together, unless the engine's has moved on. -/
def Together (c : SeekCoordinator) (moved : Bool) : Prop :=
  moved = false → c.player.engine.cursor.lastSequence = c.cursor.lastSeekSequence

theorem together_of_step {moved : Bool} (h : Together c moved)
    (hstep : setup.step c a = some c') : Together c' ((setup.moving c a).getD moved) := by
  obtain ⟨reply, hperform, hlanding⟩ := perform_of_step hstep
  obtain ⟨b, player, rfl, hplayer, rfl, rfl⟩ | ⟨intent, now, rfl, hresolve, rfl, rfl⟩ |
    ⟨intent, now, t, rfl, hresolve, rfl, rfl⟩ := perform_cases hperform
  · intro hstill
    rw [moving] at hstill
    cases hmoves : b.movesCursor with
    | true =>
      rw [if_pos hmoves] at hstill
      cases hstill
    | false =>
      rw [hmoves] at hstill
      have hcursor : player.engine.cursor = c.player.engine.cursor :=
        Player.cursor_of_step hplayer hmoves
      change player.engine.cursor.lastSequence = c.cursor.lastSeekSequence
      rw [hcursor]
      exact h hstill
  · -- no result, so nothing has moved
    rw [moving, hlanding]
    exact h
  · intro hstill
    exact (cursors_submit t now).2.trans (cursors_submit t now).1.symm

/-- After any history: where the two cursors stand. -/
theorem cursors_of_run {acts : List Call} (hrun : exec setup.step setup.start acts = some c) :
    c.cursor.lastSeekSequence = setup.latestLanding acts ∧ Together c (setup.movedOn acts) := by
  constructor
  · refine exec_lastOutput (I := fun c landing => c.cursor.lastSeekSequence = landing)
      (fun c q a c' hq hstep => ?_) rfl hrun
    rw [← hq]
    exact lastSeekSequence_of_step hstep
  · exact exec_lastOutput (fun _ _ _ _ h hstep => together_of_step h hstep) (fun _ => rfl) hrun

/-! ### Rebuilds -/

/-- What sound calls keep. -/
structure Held (setup : SeekSetup) (c : SeekCoordinator) : Prop where
  kept : Kept setup.recording c
  landed : setup.recording.Recorded c.cursor.lastSeekSequence

theorem held_start : setup.Held setup.start where
  kept := start_kept _ _ _
  landed := .inl rfl

/-- The step lemma. -/
theorem held_of_step (h : setup.Held c) (hsound : setup.Sound c a)
    (hstep : setup.step c a = some c') : setup.Held c' := by
  obtain ⟨reply, hperform, -⟩ := perform_of_step hstep
  obtain ⟨b, player, rfl, hplayer, rfl, -⟩ | ⟨intent, now, rfl, hresolve, rfl, -⟩ |
    ⟨intent, now, t, rfl, hresolve, rfl, -⟩ := perform_cases hperform
  · exact ⟨⟨Player.step_kept h.kept.player hsound hplayer, h.kept.cache⟩, h.landed⟩
  · exact ⟨⟨h.kept.player, h.kept.cache⟩, h.landed⟩
  · obtain ⟨hlandable, hfits⟩ := hsound t hresolve
    have ht := hlandable.nonneg h.kept
    rw [submit_eq_seekToSequence ht]
    have hmax : max 0 t = t := max_eq_right ht
    have hseek : SeekCoordinator.Sound setup.recording setup.engineConfig c
        (.seek (.toSequence t) now) := by
      rw [SeekCoordinator.Sound, resolveTargetSequence, hmax]
      exact ⟨hlandable, hfits⟩
    refine ⟨seek_kept h.kept hseek, ?_⟩
    have hcontract : SeekContract setup.recording t now c
        (c.seekToSequence setup.recording.session setup.recording.registry setup.config t now) :=
      seek_contract h.kept hseek.1
    change setup.recording.Recorded
      (c.seekToSequence setup.recording.session setup.recording.registry setup.config t
        now).2.landedSequence
    rw [hcontract.landedSequence]
    exact Recording.recorded_lastSequence t

/-- Where seeks leave checkpoints, a rebuild right behind a seek goes through. -/
theorem rebuilds_behind_seek (hrecord : setup.config.recordCheckpointOnSeek = true)
    (h : setup.Held c) {intent : AnySeekIntent} {now t : Int}
    (hresolve : intent.resolve setup.recording.session setup.markerResolver
      c.cursor.lastSeekSequence = some t)
    (hsound : setup.Sound c (.seek intent now))
    (hstep : setup.step c (.seek intent now) = some c') (now' : Int) :
    Rebuilds setup.recording c'.cursor.lastSeekSequence now' c'
      (setup.rebuildAtCursor c' now') := by
  have hheld := held_of_step h hsound hstep
  refine rebuilds hheld.kept hheld.landed ?_ now'
  rw [step, perform, SeekCoordinator.perform, dispatchIntent, hresolve] at hstep
  cases hstep
  exact rebuildable_behind_seek hrecord h.kept (hsound t hresolve).1 now

/-- A rebuild restores what the engine shows, unless it has moved on or dispatches. -/
theorem state_of_together (h : setup.Held c)
    (htogether : c.player.engine.cursor.lastSequence = c.cursor.lastSeekSequence)
    (hboundary : c.player.AtBoundary) :
    c.player.engine.state = setup.recording.stateAt c.cursor.lastSeekSequence := by
  rw [h.kept.player.state, Player.position_of_not_inSink hboundary, htogether]

/-- Relative seeks and rebuilds start from the latest landing, which is where the engine's
    cursor stands as well, unless it has moved on since.  In a sound history a rebuild restores
    the state there, and takes both cursors and the clock back there; it changes no state where
    nothing has moved. -/
theorem seeks_from_latestLanding (setup : SeekSetup) (acts : List Call) {c : SeekCoordinator}
    (hrun : exec setup.step setup.start acts = some c) :
    setup.SeeksFrom (setup.latestLanding acts) c ∧
      (setup.movedOn acts = false →
        c.player.engine.cursor.lastSequence = setup.latestLanding acts) ∧
      (AllSteps setup.step setup.Sound setup.start acts →
        c.Rebuildable setup.recording (setup.latestLanding acts) → ∀ now,
          Rebuilds setup.recording (setup.latestLanding acts) now c
              (setup.rebuildAtCursor c now) ∧
            (setup.movedOn acts = false → c.player.AtBoundary →
              (setup.rebuildAtCursor c now).1.player.engine.state = c.player.engine.state)) := by
  obtain ⟨hlatest, htogether⟩ := cursors_of_run hrun
  rw [← hlatest]
  refine ⟨seeksFrom_iff.mpr rfl, htogether, fun hall hrebuildable now => ?_⟩
  have hheld : setup.Held c :=
    exec_invariant_of_allSteps (fun _ _ _ h hsound hstep => held_of_step h hsound hstep)
      held_start hall hrun
  have hrebuilds : Rebuilds setup.recording c.cursor.lastSeekSequence now c
      (setup.rebuildAtCursor c now) :=
    rebuilds hheld.kept hheld.landed hrebuildable now
  refine ⟨hrebuilds, fun hstill hboundary => ?_⟩
  exact hrebuilds.state.trans (state_of_together hheld (htogether hstill) hboundary).symm

/-! ### A seek behind playback -/

/-- A coordinator of default configuration. -/
private def steppedSetup (engineConfig : ReplayEngineConfig) (checkpointCapacity : ℕ+) :
    SeekSetup :=
  { recording := Player.playedRecording
    engineConfig := engineConfig
    checkpointCapacity := checkpointCapacity
    clock := { wallAnchorNs := 0 } }

/-- Playback stores frame `1`, a seek goes back there, and playback stores frame `2`. -/
private def steppedCalls : List Call :=
  [.player .play, .player .pull, .player .pass, .player (.dispatch 5), .player .settle,
    .seek (.toTimestamp 10) 6, .player .pull, .player .pass, .player (.dispatch 7),
    .player .settle]

private theorem mem_playedRecording {f : ReplayFrame} (hf : f ∈ Player.playedRecording.frames) :
    f = ReplayFrame.sample 1 ∨ f = ReplayFrame.sample 2 := by
  rcases List.mem_cons.mp hf with rfl | hf
  · exact .inl rfl
  · exact .inr (List.mem_singleton.mp hf)

private theorem steppedRecording_landable : Player.playedRecording.Landable 1 := by
  refine .inl ⟨⟨_, List.mem_cons_self, ?_, ?_⟩, ReplayFrame.sample 1, ReplayFrame.sample 1,
    ⟨List.mem_cons_self, ?_, ?_⟩, ⟨List.mem_cons_self, le_refl _, fun _ _ hle => hle⟩, le_refl _,
    le_refl _⟩
  · exact ⟨ReplayFrame.sample 1, List.mem_cons_self, le_refl (1 : Int)⟩
  · exact ⟨ReplayFrame.sample 1, List.mem_cons_self, le_refl (1 : Int)⟩
  · exact (Int.zero_lt_one : (0 : Int) < 1)
  · intro f hf _
    rcases mem_playedRecording hf with rfl | rfl
    · exact le_refl _
    · decide

/-- Playback stands on frame `2`, the latest landing is frame `1`. -/
theorem seeks_from_latestLanding_behind_playback :
    ∃ c, exec (steppedSetup {} 32).step (steppedSetup {} 32).start steppedCalls = some c ∧
      (steppedSetup {} 32).SeeksFrom 1 c ∧
      Rebuilds Player.playedRecording 1 8 c ((steppedSetup {} 32).rebuildAtCursor c 8) := by
  have hlanding : (steppedSetup {} 32).latestLanding steppedCalls = 1 := rfl
  have hend : (exec (steppedSetup {} 32).step (steppedSetup {} 32).start steppedCalls).map
      (fun c => (c.cache.get? 1).isSome) = some true := rfl
  obtain ⟨c, hrun, hcached⟩ := Option.map_eq_some_iff.mp hend
  obtain ⟨hfrom, -, hrebuilds⟩ := seeks_from_latestLanding (steppedSetup {} 32) steppedCalls hrun
  rw [hlanding] at hfrom hrebuilds
  refine ⟨c, hrun, hfrom, (hrebuilds ?_ (.inl hcached) 8).1⟩
  refine .cons rfl trivial (.cons rfl trivial (.cons rfl trivial (.cons rfl nofun ?_)))
  refine .cons rfl trivial (.cons rfl (fun t ht => ?_) ?_)
  · cases ht
    refine ⟨.inr steppedRecording_landable, fun _ f hf hnot => ?_⟩
    rcases mem_playedRecording hf with rfl | rfl
    · exact le_refl _
    · exact absurd List.mem_cons_self hnot
  · exact .cons rfl trivial (.cons rfl trivial (.cons rfl nofun (.cons rfl trivial trivial)))

/-- There a relative seek does not start from playback, and a rebuild goes back behind it. -/
theorem not_seeksFrom_playback :
    ∃ c, exec (steppedSetup {} 32).step (steppedSetup {} 32).start steppedCalls = some c ∧
      ¬ (steppedSetup {} 32).SeeksFrom c.player.engine.cursor.lastSequence c ∧
      ((steppedSetup {} 32).rebuildAtCursor c 8).1.player.engine.state
        ≠ Player.playedRecording.stateAt c.player.engine.cursor.lastSequence ∧
      ((steppedSetup {} 32).rebuildAtCursor c 8).1.player.engine.cursor.lastSequence
        ≠ c.player.engine.cursor.lastSequence := by
  refine ⟨_, rfl, fun h => absurd (seeksFrom_iff.mp h) (by decide), fun h => ?_, by decide⟩
  have hsequence := congrArg VirtualRuntimeState.lastSequence h
  exact absurd hsequence (by decide)

end SeekSetup

end AsyncViz.Replay
