/-
  AsyncViz.Replay.ExactSeek

  What `ReplaySeekCoordinator` does around a seek (`replay_seek_coordinator.py`,
  `replay_seek_integrity.py` in `replay/runtime/seek/`): the pause hook before it, and behind
  it the integrity check and the resume hook.

  The check comes when the seek has been applied, and compares with the target and with the
  landing of the seek before.  What it raises undoes nothing and passes over the resume hook,
  so a call is exact only if its target is recorded and it does not raise.  `exact_iff_found`
  says when that is: the seek finds the frame, in the cache, among the checkpoints or behind
  the loader's snapshot, and the frame is timed no earlier than the last landing.

  The playback coordinator works on the clock of the engine; here the clock is kept with the
  engine and handed to the playback coordinator for each call.
-/

import AsyncViz.Replay.Control.Calls
import AsyncViz.Replay.SeekCoordinator

namespace AsyncViz.Replay

open AsyncViz.Lib AsyncViz.Lib.Bisect AsyncViz.Lib.SortedLog AsyncViz.Lib.Transition

/-! ## Integrity -/

/-- `SeekStrategy`. -/
inductive SeekStrategy where
  | bestEffort
  | exactOnly
deriving DecidableEq, Repr

/-- `ReplaySeekConfig`, with what the coordinator reads around a seek. -/
structure HookedSeekConfig extends ReplaySeekConfig where
  strategy : SeekStrategy := .bestEffort
  pauseBeforeSeek : Bool := true
  resumeAfterSeek : Bool := true
  verifyIntegrityOnSeek : Bool := false

/-- `SeekIntegrityViolation`. -/
structure SeekIntegrityViolation where
  kind : String
  detail : String
deriving DecidableEq, Repr

/-- `check_seek_result`. -/
def checkSeekResult (targetSequence : Int) (result : SeekCoordinator.SeekResult)
    (state : VirtualRuntimeState) (previousMonotonicNs : Int) (strategy : SeekStrategy) :
    Option SeekIntegrityViolation :=
  if strategy = .exactOnly ∧ result.landedSequence ≠ targetSequence then
    some
      { kind := "sequence_mismatch"
        detail :=
          s!"target={targetSequence} landed={result.landedSequence} (exact_only strategy)" }
  else if state.lastSequence ≠ result.landedSequence ∧ result.framesReplayed > 0 then
    some
      { kind := "sequence_mismatch"
        detail := s!"state.last_sequence={state.lastSequence} != landed={result.landedSequence}" }
  else if (result.framesReplayed : Int) < 0 then
    some
      { kind := "negative_frames"
        detail := s!"frames_replayed={result.framesReplayed}" }
  else if result.landedMonotonicNs < previousMonotonicNs - 1 then
    some
      { kind := "time_regression"
        detail :=
          s!"landed_monotonic_ns={result.landedMonotonicNs} regresses from previous={previousMonotonicNs}" }
  else none

/-- An exact result passes when it lands on the target, not before the previous landing. -/
theorem checkSeekResult_eq_none_iff {target previous : Int} {result : SeekCoordinator.SeekResult}
    {state : VirtualRuntimeState} :
    checkSeekResult target result state previous .exactOnly = none ↔
      result.landedSequence = target ∧
      (state.lastSequence = result.landedSequence ∨ result.framesReplayed = 0) ∧
      previous - 1 ≤ result.landedMonotonicNs := by
  rw [checkSeekResult]
  split
  next hmissed =>
    simp only [reduceCtorEq, false_iff]
    exact fun h => hmissed.2 h.1
  next hhit =>
    have hlanded : result.landedSequence = target := by
      by_contra hne
      exact hhit ⟨rfl, hne⟩
    split
    next hmismatch =>
      simp only [reduceCtorEq, false_iff]
      rintro ⟨-, heq | hzero, -⟩
      · exact hmismatch.1 heq
      · omega
    next hmatch =>
      have hstate : state.lastSequence = result.landedSequence ∨ result.framesReplayed = 0 := by
        by_contra hnot
        exact hmatch ⟨fun heq => hnot (.inl heq), by omega⟩
      have hframes : ¬ (result.framesReplayed : Int) < 0 := by omega
      rw [if_neg hframes]
      split
      next hback =>
        simp only [reduceCtorEq, false_iff]
        omega
      next hforth =>
        simp only [true_iff]
        exact ⟨hlanded, hstate, not_lt.mp hforth⟩

/-! ## The coordinator with its hooks -/

/-- What a seek can raise: an integrity error of its own, or what a hook raises. -/
inductive SeekError where
  | integrity (detail : String)
  | control (error : Control.ControlError)
deriving DecidableEq, Repr

/-- A `ReplaySeekCoordinator` with the playback coordinator that it was given. -/
structure HookedSeeks where
  seeks : SeekCoordinator
  playback : Option Control.ReplayPlaybackCoordinator := none

namespace HookedSeeks

/-- A new coordinator on a new engine. -/
def start (config : HookedSeekConfig) (clock : ReplayClock) (checkpointCapacity : ℕ+)
    (playback : Option Control.ReplayPlaybackCoordinator) : HookedSeeks :=
  { seeks := .start config.toReplaySeekConfig clock checkpointCapacity, playback := playback }

/-- The engine's clock, as a call on the playback coordinator has left it. -/
def withClock (seeks : SeekCoordinator) (clock : ReplayClock) : SeekCoordinator :=
  { seeks with
    player := { seeks.player with engine := { seeks.player.engine with clock := clock } } }

/-- A call on the playback coordinator. -/
def onPlayback {β : Type} (s : HookedSeeks) (playback : Control.ReplayPlaybackCoordinator)
    (f : Control.ReplayPlaybackCoordinator → Control.ReplayPlaybackCoordinator × β) :
    HookedSeeks × β :=
  let (playback, reply) :=
    f { playback with clock := { playback.clock with clock := s.seeks.player.engine.clock } }
  ({ seeks := withClock s.seeks playback.clock.clock, playback := some playback }, reply)

/-- `_pause_hook`, if there is one. -/
def pauseHook (config : HookedSeekConfig) (s : HookedSeeks) (now : Int) :
    HookedSeeks × Except Control.ControlError Unit :=
  match s.playback with
  | some playback =>
    if config.pauseBeforeSeek then
      let (s, reply) :=
        s.onPlayback playback fun p => p.requestPause (some .immediate) 0 0 "seek" now
      (s, reply.map fun _ => ())
    else (s, .ok ())
  | none => (s, .ok ())

/-- `_resume_hook`, if there is one. -/
def resumeHook (config : HookedSeekConfig) (s : HookedSeeks) (now : Int) :
    HookedSeeks × Except Control.ControlError Unit :=
  match s.playback with
  | some playback =>
    if config.pauseBeforeSeek ∧ config.resumeAfterSeek then
      let (s, reply) := s.onPlayback playback fun p => p.requestResume "seek-complete" now
      (s, reply.map fun _ => ())
    else (s, .ok ())
  | none => (s, .ok ())

section Seek

variable (session : ReplaySession StateDict) (registry : ReducerRegistry)

/-- `_dispatch_intent`. -/
def dispatchIntent (config : HookedSeekConfig) (s : HookedSeeks) (intent : SeekIntent)
    (now : Int) : HookedSeeks × Except SeekError SeekCoordinator.SeekResult :=
  let targetSequence := resolveTargetSequence intent s.seeks.cursor.lastSeekSequence
  match s.pauseHook config now with
  | (s, .error error) =>
    -- the request has its id, and nothing else has happened
    ({ s with seeks := { s.seeks with requestCounter := s.seeks.requestCounter + 1 } },
      .error (.control error))
  | (s, .ok ()) =>
    let previousMonotonicNs := s.seeks.cursor.lastSeekMonotonicNs
    let (seeks, result) :=
      s.seeks.seek session registry config.toReplaySeekConfig intent now
    let s := { s with seeks := seeks }
    let violation :=
      if config.verifyIntegrityOnSeek then
        checkSeekResult targetSequence result s.seeks.player.engine.state previousMonotonicNs
          config.strategy
      else none
    match violation, config.strategy with
    | some violation, .exactOnly => (s, .error (.integrity violation.detail))
    | _, _ =>
      match s.resumeHook config now with
      | (s, .error error) => (s, .error (.control error))
      | (s, .ok ()) => (s, .ok result)

/-- `coordinator.seek_to_sequence(sequence)`. -/
def seekToSequence (config : HookedSeekConfig) (s : HookedSeeks) (sequence now : Int) :
    HookedSeeks × Except SeekError SeekCoordinator.SeekResult :=
  s.dispatchIntent session registry config (.toSequence sequence) now

/-- What happens on the engine, a call on the playback coordinator, or a seek. -/
inductive Action where
  | player (a : Player.Action)
  | playback (call : Control.Call)
  | seek (intent : SeekIntent) (now : Int)
deriving DecidableEq, Repr

/-- One action. -/
def step (engineConfig : ReplayEngineConfig) (config : HookedSeekConfig) (s : HookedSeeks) :
    Action → Option HookedSeeks
  | .player a =>
    (Player.step session registry engineConfig s.seeks.player a).map fun player =>
      { s with seeks := { s.seeks with player := player } }
  | .playback call =>
    s.playback.map fun playback => (s.onPlayback playback fun p => Control.call p call).1
  | .seek intent now => some (s.dispatchIntent session registry config intent now).1

end Seek

/-! ## Exact seeks -/

/-- Some frame has the sequence. -/
def Recorded (session : ReplaySession StateDict) (t : Int) : Prop :=
  ∃ f ∈ session.frames, f.sequence = t

/-- The call has raised `SeekIntegrityError`. -/
def Raised (outcome : HookedSeeks × Except SeekError SeekCoordinator.SeekResult) : Prop :=
  ∃ detail, outcome.2 = .error (.integrity detail)

/-- What an exact seek promises: it raises for exactly the targets that are not recorded, and
    if it does, state store, cursors and clock are as before, and a playback that it paused
    goes on. -/
structure Exact (session : ReplaySession StateDict) (t : Int) (s : HookedSeeks)
    (outcome : HookedSeeks × Except SeekError SeekCoordinator.SeekResult) : Prop where
  raised_iff : Raised outcome ↔ ¬ Recorded session t
  state : Raised outcome →
    outcome.1.seeks.player.engine.state = s.seeks.player.engine.state
  engineCursor : Raised outcome →
    outcome.1.seeks.player.engine.cursor = s.seeks.player.engine.cursor
  seekCursor : Raised outcome → outcome.1.seeks.cursor = s.seeks.cursor
  clock : Raised outcome → outcome.1.seeks.player.engine.clock = s.seeks.player.engine.clock
  resumed : Raised outcome → ∀ p ∈ s.playback, p.phase = .playing →
    ∃ p' ∈ outcome.1.playback, p'.phase = .playing

/-- The pause hook raises: strict transitions, and a phase from which nothing is paused. -/
def PauseRaises (config : HookedSeekConfig) (s : HookedSeeks) : Prop :=
  config.pauseBeforeSeek = true ∧ ∃ p ∈ s.playback, p.config.strictTransitions = true ∧
    p.phase ≠ .paused ∧ ¬ Control.Legal p.phase .pausing

/-- The seek finds a recorded target where it looks for it, and not before the previous
    landing: an entry of the cache, else a checkpoint, else the frame itself, unless it is
    the one that the nearest snapshot was captured at and the loader goes on behind it. -/
def Finds (session : ReplaySession StateDict) (seeks : SeekCoordinator) (t : Int) : Prop :=
  match seeks.cache.get? t with
  | some entry => seeks.cursor.lastSeekMonotonicNs - 1 ≤ entry.monotonicNs
  | none =>
    match (findNearestCheckpoint seeks.player.engine.checkpoints t).exactMatch,
      (findNearestCheckpoint seeks.player.engine.checkpoints t).checkpoint with
    | true, some cp => seeks.cursor.lastSeekMonotonicNs - 1 ≤ cp.monotonicNs
    | _, _ =>
      ¬ (session.resumePoint t = t ∧ session.CoversNext t) ∧
        ∀ f ∈ session.frames, f.sequence = t →
          seeks.cursor.lastSeekMonotonicNs - 1 ≤ f.monotonicNs

/-! ### What the loader finds -/

section Loader

variable {session : ReplaySession StateDict} {registry : ReducerRegistry}

/-- The counters of a state are those of the frame that was reduced last. -/
theorem counters_foldl (hcounting : registry.Counting) (log : List ReplayFrame) (f : ReplayFrame)
    (data : StateDict) :
    (VirtualRuntimeState.fromDict
      ((log ++ [f]).foldl (stateReducerAdapter registry) data)).lastSequence = f.sequence ∧
    (VirtualRuntimeState.fromDict
      ((log ++ [f]).foldl (stateReducerAdapter registry) data)).lastMonotonicNs
        = f.monotonicNs := by
  rw [Recording.fromDict_foldl, List.foldl_append]
  exact hcounting _ _

/-- So are those of the state that the loader stores: a snapshot at or before the frame
    leaves its sequence alone. -/
theorem counters_loaderState {f : ReplayFrame}
    {reconstruction : StateReconstructionResult StateDict}
    (hused : reconstruction.snapshotUsed = session.snapshotIndex.nearestAtOrBefore f.sequence)
    (hcounters : (VirtualRuntimeState.fromDict reconstruction.state).lastSequence = f.sequence ∧
      (VirtualRuntimeState.fromDict reconstruction.state).lastMonotonicNs = f.monotonicNs) :
    (ReplayEngine.loaderState reconstruction).lastSequence = f.sequence ∧
      (ReplayEngine.loaderState reconstruction).lastMonotonicNs = f.monotonicNs := by
  rw [ReplayEngine.loaderState, hused]
  cases hsnapshot : session.snapshotIndex.nearestAtOrBefore f.sequence with
  | none => exact hcounters
  | some snapshot =>
    refine ⟨?_, hcounters.2⟩
    by_cases hzero : (VirtualRuntimeState.fromDict reconstruction.state).lastSequence = 0
    · -- a snapshot at or before the start was captured at the start
      have hcaptured := session.captured_of_nearest hsnapshot
      simp only [hzero, if_true]
      omega
    · simp only [hzero, if_false]
      exact hcounters.1

variable {f : ReplayFrame}

/-- The loader lands on a recorded frame, unless the nearest snapshot was captured at it and
    the recording goes on behind. -/
theorem loader_lands (hcounting : registry.Counting)
    (hmonotone : session.frames.Pairwise fun f g => f.monotonicNs ≤ g.monotonicNs)
    (hf : f ∈ session.frames) (engine : ReplayEngine) (now : Int)
    (hfree : ¬ (session.resumePoint f.sequence = f.sequence ∧ session.CoversNext f.sequence)) :
    let out := ReconstructionOutput.ofOutcome
      (engine.restoreViaLoader session registry f.sequence now).2
    out.landedSequence = f.sequence ∧ out.state.lastSequence = f.sequence ∧
      out.landedMonotonicNs = f.monotonicNs := by
  have hnonneg : 0 ≤ f.sequence := session.nonneg f hf
  have hresume := session.resumePoint_le hnonneg
  have hpred : IsNext ReplayFrame.sequence session.frames (f.sequence - 1) f :=
    ⟨hf, by omega, fun g _ hlt => by omega⟩
  by_cases hcovered : session.CoversNext f.sequence
  · obtain ⟨first, hfirst, hreplays⟩ := session.reconstructState_covered
      (stateReducerAdapter registry) {} hcovered
    have hbehind : session.resumePoint f.sequence < f.sequence :=
      lt_of_le_of_ne hresume fun heq => hfree ⟨heq, hcovered⟩
    -- the frame is the last of those behind the snapshot
    have hlog : within ReplayFrame.sequence session.frames (session.resumePoint f.sequence)
        f.sequence = within ReplayFrame.sequence session.frames
          (session.resumePoint f.sequence) (f.sequence - 1) ++ [f] := by
      rw [← within_append_within session.sorted (Int.le_sub_one_of_lt hbehind) (by omega),
        within_of_isNext session.sorted hpred]
    have hcounters := counters_loaderState hreplays.snapshotUsed
      (by rw [hreplays.state, hlog]; exact counters_foldl hcounting _ f _)
    have hle := hfirst.first f hf hbehind
    have htime : first.monotonicNs ≤ f.monotonicNs := by
      rcases hle.lt_or_eq with hlt | heq
      · exact session.sorted.le_of_key_lt hmonotone hfirst.mem hf hlt
      · rw [session.sorted.eq_of_key_eq hfirst.mem hf heq]
    simp only [ReconstructionOutput.ofOutcome, ReplayEngine.restoreViaLoader, ReplayEngine.jump,
      EngineCursor.jumpedTo, hreplays.landed, hcounters.1, hcounters.2]
    exact ⟨max_eq_left hle, trivial, max_eq_left htime⟩
  · have hreplays := session.reconstructState_uncovered (stateReducerAdapter registry) {}
      hnonneg hcovered
    have hcounters := counters_loaderState hreplays.snapshotUsed
      (by
        rw [hreplays.state, upTo_of_isNext session.sorted hpred]
        exact counters_foldl hcounting _ f _)
    simp only [ReconstructionOutput.ofOutcome, ReplayEngine.restoreViaLoader, ReplayEngine.jump,
      EngineCursor.jumpedTo, hreplays.landed, hcounters.1, hcounters.2, max_self]
    exact ⟨trivial, trivial, trivial⟩

/-- Behind a snapshot that was captured at the target the loader lands too late. -/
theorem loader_overshoots (registry : ReducerRegistry) (engine : ReplayEngine) {t : Int} (now : Int)
    (hheld : session.resumePoint t = t) (hcovered : session.CoversNext t) :
    t < (ReconstructionOutput.ofOutcome
      (engine.restoreViaLoader session registry t now).2).landedSequence := by
  obtain ⟨first, hfirst, hreplays⟩ := session.reconstructState_covered
    (stateReducerAdapter registry) {} hcovered
  have hlt := hfirst.lt
  rw [hheld] at hlt
  simp only [ReconstructionOutput.ofOutcome, ReplayEngine.restoreViaLoader, ReplayEngine.jump,
    EngineCursor.jumpedTo, hreplays.landed]
  exact lt_max_of_lt_right hlt

end Loader

/-! ### What a seek finds -/

section Seeks

variable {session : ReplaySession StateDict} {registry : ReducerRegistry} {seeks : SeekCoordinator}

/-- Every entry of the cache is filed under its own sequence. -/
def Keyed (cache : SeekCache) : Prop := ∀ t entry, cache.get? t = some entry → entry.sequence = t

/-- The result of a seek and the store behind it are what the pipeline returned. -/
theorem seek_out (session : ReplaySession StateDict) (registry : ReducerRegistry)
    (config : ReplaySeekConfig) (seeks : SeekCoordinator) (intent : SeekIntent) (now : Int) :
    ∃ out, out = (reconstruct session registry seeks.player.engine seeks.cache
        (resolveTargetSequence intent seeks.cursor.lastSeekSequence) now).2.2 ∧
      (seeks.seek session registry config intent now).2.landedSequence = out.landedSequence ∧
      (seeks.seek session registry config intent now).2.landedMonotonicNs
        = out.landedMonotonicNs ∧
      (seeks.seek session registry config intent now).2.framesReplayed = out.framesReplayed ∧
      (seeks.seek session registry config intent now).1.player.engine.state = out.state ∧
      (seeks.seek session registry config intent now).1.cursor.seeksCompleted
        = seeks.cursor.seeksCompleted + 1 := by
  refine ⟨_, rfl, rfl, rfl, rfl, ?_, rfl⟩
  rw [SeekCoordinator.seek]
  dsimp only [execute]
  split
  next => rfl
  next => rfl

/-- The tier that serves a target, with what it finds there. -/
theorem reconstruct_out (session : ReplaySession StateDict) (registry : ReducerRegistry)
    (hkeyed : Keyed seeks.cache) (t now : Int) :
    let out := (reconstruct session registry seeks.player.engine seeks.cache t now).2.2
    (∃ entry, seeks.cache.get? t = some entry ∧ entry.sequence = t ∧ out = .ofCache entry) ∨
    (seeks.cache.get? t = none ∧ ∃ cp, cp.sequence = t ∧
      (findNearestCheckpoint seeks.player.engine.checkpoints t).exactMatch = true ∧
      (findNearestCheckpoint seeks.player.engine.checkpoints t).checkpoint = some cp ∧
      out = .ofCheckpoint cp) ∨
    (seeks.cache.get? t = none ∧
      (findNearestCheckpoint seeks.player.engine.checkpoints t).exactMatch = false ∧
      out = .ofOutcome (seeks.player.engine.restoreViaLoader session registry t now).2) := by
  have hfst := SeekCache.get_fst seeks.cache t
  rw [reconstruct]
  generalize SeekCache.get seeks.cache t = got at hfst ⊢
  obtain ⟨found, cache'⟩ := got
  dsimp only at hfst ⊢
  cases found with
  | some entry => exact .inl ⟨entry, hfst.symm, hkeyed t entry hfst.symm, rfl⟩
  | none =>
    refine .inr ?_
    rcases exactMatch_findNearestCheckpoint seeks.player.engine.checkpoints t with
      ⟨cp, hmem, hseq, hexact, hcp⟩ | ⟨hnone, hexact⟩
    · exact .inl ⟨hfst.symm, cp, hseq, hexact, hcp, by simp only [hexact, hcp]⟩
    · refine .inr ⟨hfst.symm, hexact, ?_⟩
      rcases Recording.seekToSequence_cases session registry seeks.player.engine t now with
        ⟨cp, hmem, hseq, -⟩ | ⟨-, hloader⟩
      · exact absurd hseq (hnone cp hmem)
      · simp only [hexact, hloader]

/-- The check of an exact seek to a recorded frame goes through if the seek finds it. -/
theorem check_iff_finds (hcounting : registry.Counting)
    (hmonotone : session.frames.Pairwise fun f g => f.monotonicNs ≤ g.monotonicNs)
    (seeks : SeekCoordinator) (hkeyed : Keyed seeks.cache) {f : ReplayFrame}
    (hf : f ∈ session.frames) (config : ReplaySeekConfig) {intent : SeekIntent}
    (hintent : resolveTargetSequence intent seeks.cursor.lastSeekSequence = f.sequence)
    (now : Int) :
    checkSeekResult f.sequence (seeks.seek session registry config intent now).2
        (seeks.seek session registry config intent now).1.player.engine.state
        seeks.cursor.lastSeekMonotonicNs .exactOnly = none ↔
      Finds session seeks f.sequence := by
  obtain ⟨out, hout, hlanded, hns, hframes, hstate, -⟩ :=
    seek_out session registry config seeks intent now
  rw [hintent] at hout
  rw [checkSeekResult_eq_none_iff, hlanded, hns, hframes, hstate, Finds]
  rcases reconstruct_out session registry hkeyed f.sequence now with
    ⟨entry, hhit, hseq, heq⟩ | ⟨hmiss, cp, hseq, hexact, hcp, heq⟩ | ⟨hmiss, hexact, heq⟩
  · rw [hout, heq, hhit]
    exact ⟨fun h => h.2.2, fun h => ⟨hseq, .inr rfl, h⟩⟩
  · rw [hout, heq, hmiss, hexact, hcp]
    exact ⟨fun h => h.2.2, fun h => ⟨hseq, .inr rfl, h⟩⟩
  · rw [hmiss, hexact]
    dsimp only
    by_cases hheld : session.resumePoint f.sequence = f.sequence ∧ session.CoversNext f.sequence
    · have hlate := loader_overshoots registry seeks.player.engine now hheld.1 hheld.2
      refine iff_of_false (fun h => ?_) fun h => h.1 hheld
      rw [hout, heq] at h
      exact absurd h.1 hlate.ne'
    · obtain ⟨hsequence, hlast, htime⟩ :=
        loader_lands hcounting hmonotone hf seeks.player.engine now hheld
      rw [← heq, ← hout] at hsequence hlast htime
      rw [htime]
      constructor
      · refine fun h => ⟨hheld, fun g hg hgt => ?_⟩
        rw [session.sorted.eq_of_key_eq hg hf hgt]
        exact h.2.2
      · exact fun h => ⟨hsequence, .inl (hlast.trans hsequence.symm), h.2 f hf rfl⟩

end Seeks

/-! ### Hooks -/

theorem cache_resumeHook (config : HookedSeekConfig) (s : HookedSeeks) (now : Int) :
    (s.resumeHook config now).1.seeks.cache = s.seeks.cache := by
  rw [resumeHook]
  split
  next =>
    split
    next => rfl
    next => rfl
  next => rfl

/-- An immediate pause raises under strict transitions, from a phase that cannot pause. -/
theorem requestPause_error_iff (p : Control.ReplayPlaybackCoordinator) (now : Int) :
    (∃ error, (p.requestPause (some .immediate) 0 0 "seek" now).2 = .error error) ↔
      p.config.strictTransitions = true ∧ p.phase ≠ .paused ∧
        ¬ Control.Legal p.phase .pausing := by
  have hcalled := Control.called_call p (.requestPause (some .immediate) 0 0 "seek" now)
  have hreply : (∃ error, (p.requestPause (some .immediate) 0 0 "seek" now).2 = .error error) ↔
      ∃ error, (Control.call p (.requestPause (some .immediate) 0 0 "seek" now)).2
        = .raised error := by
    change _ ↔ ∃ error, Control.Reply.ofExcept .barrier
      (p.requestPause (some .immediate) 0 0 "seek" now).2 = .raised error
    cases (p.requestPause (some .immediate) 0 0 "seek" now).2 with
    | ok barrier => simp [Control.Reply.ofExcept]
    | error error => simp [Control.Reply.ofExcept]
  rw [hreply]
  generalize Control.call p (.requestPause (some .immediate) 0 0 "seek" now) = next at hcalled
  obtain ⟨p', reply⟩ := next
  dsimp only at hcalled ⊢
  cases hcalled with
  | pauseDeferred request hrequest hdeferred =>
    rw [hrequest] at hdeferred
    exact absurd hdeferred Bool.false_ne_true
  | pauseResolved request _ _ hphase => simp [hphase]
  | pausePausing request _ _ _ hlegal => simp [hlegal]
  | pauseIgnored request _ _ _ _ hstrict => simp [hstrict]
  | pauseRejected request _ _ hillegal hphase hstrict =>
    exact iff_of_true ⟨_, rfl⟩ ⟨hstrict, hphase, hillegal⟩

/-- The pause hook leaves the seeks alone, up to the clock. -/
theorem pauseHook_spec (config : HookedSeekConfig) (s : HookedSeeks) (now : Int) :
    (∃ clock, (s.pauseHook config now).1.seeks = withClock s.seeks clock) ∧
      ((∃ error, (s.pauseHook config now).2 = .error error) ↔ PauseRaises config s) := by
  have hsame : s.seeks = withClock s.seeks s.seeks.player.engine.clock := rfl
  rw [pauseHook, PauseRaises]
  split
  next p hp =>
    by_cases hpause : config.pauseBeforeSeek = true
    · rw [if_pos hpause]
      refine ⟨⟨_, rfl⟩, ?_⟩
      have herror := requestPause_error_iff { p with clock := { p.clock with
        clock := s.seeks.player.engine.clock } } now
      dsimp only [onPlayback]
      generalize Control.ReplayPlaybackCoordinator.requestPause
        { p with clock := { p.clock with clock := s.seeks.player.engine.clock } } (some .immediate)
        0 0 "seek" now = outcome at herror ⊢
      have hmap : (∃ error, (outcome.2.map fun _ => ()) = .error error) ↔
          ∃ error, outcome.2 = .error error := by
        cases outcome.2 with
        | ok barrier => simp [Except.map]
        | error error => simp [Except.map]
      refine hmap.trans (herror.trans ⟨fun h => ⟨hpause, p, hp, h⟩, ?_⟩)
      rintro ⟨-, p', hp', h⟩
      rwa [Option.some.inj (hp.symm.trans hp')]
    · rw [if_neg hpause]
      exact ⟨⟨_, hsame⟩, iff_of_false (by simp) fun h => hpause h.1⟩
  next hnone =>
    exact ⟨⟨_, hsame⟩, iff_of_false (by simp) fun ⟨_, p, hp, _⟩ => by simp [hnone] at hp⟩

/-! ### Calls -/

section Calls

variable {session : ReplaySession StateDict} {registry : ReducerRegistry}
  {config : HookedSeekConfig}

/-- How an exact call ends: the pause hook has raised; or the seek has been applied and the
    check raises; or it goes through, and what is raised then comes from the resume hook. -/
theorem dispatchIntent_cases (session : ReplaySession StateDict) (registry : ReducerRegistry)
    (hstrategy : config.strategy = .exactOnly) (hverify : config.verifyIntegrityOnSeek = true)
    (s : HookedSeeks) (intent : SeekIntent) (now : Int) :
    (PauseRaises config s ∧ ¬ Raised (s.dispatchIntent session registry config intent now)) ∨
    ¬ PauseRaises config s ∧ ∃ clock,
      let next := (withClock s.seeks clock).seek session registry config.toReplaySeekConfig
        intent now
      let violation := checkSeekResult
        (resolveTargetSequence intent s.seeks.cursor.lastSeekSequence) next.2
        next.1.player.engine.state s.seeks.cursor.lastSeekMonotonicNs .exactOnly
      (violation.isSome ∧ Raised (s.dispatchIntent session registry config intent now) ∧
        (s.dispatchIntent session registry config intent now).1.seeks = next.1) ∨
      violation = none ∧ ¬ Raised (s.dispatchIntent session registry config intent now) := by
  obtain ⟨⟨clock, hclock⟩, hraises⟩ := pauseHook_spec config s now
  rw [dispatchIntent]
  generalize s.pauseHook config now = hooked at hclock hraises ⊢
  obtain ⟨s', result⟩ := hooked
  dsimp only at hclock hraises ⊢
  cases result with
  | error error =>
    refine .inl ⟨hraises.mp ⟨error, rfl⟩, ?_⟩
    rintro ⟨detail, hdetail⟩
    cases hdetail
  | ok _ =>
    have hgoes : ¬ PauseRaises config s := by
      intro h
      obtain ⟨error, herror⟩ := hraises.mpr h
      cases herror
    refine .inr ⟨hgoes, clock, ?_⟩
    dsimp only
    rw [hclock, hverify, hstrategy, if_pos rfl]
    have hcursor : (withClock s.seeks clock).cursor = s.seeks.cursor := rfl
    rw [hcursor]
    generalize checkSeekResult _ _ _ _ _ = violation
    cases violation with
    | some violation => exact .inl ⟨rfl, ⟨violation.detail, rfl⟩, rfl⟩
    | none =>
      refine .inr ⟨rfl, ?_⟩
      rintro ⟨detail, hdetail⟩
      dsimp only at hdetail
      -- what the resume hook raises is no integrity error
      generalize resumeHook config _ now = resumed at hdetail
      obtain ⟨s'', result⟩ := resumed
      cases result with
      | error error => cases hdetail
      | ok _ => cases hdetail

/-- Whatever raises has been applied: one seek more is counted. -/
theorem seekCursor_of_raised (hstrategy : config.strategy = .exactOnly)
    (hverify : config.verifyIntegrityOnSeek = true) {s : HookedSeeks} {intent : SeekIntent}
    {now : Int} (hraised : Raised (s.dispatchIntent session registry config intent now)) :
    (s.dispatchIntent session registry config intent now).1.seeks.cursor ≠ s.seeks.cursor := by
  rcases dispatchIntent_cases session registry hstrategy hverify s intent now with
    ⟨-, hnot⟩ | ⟨-, clock, ⟨-, -, hseeks⟩ | ⟨-, hnot⟩⟩
  · exact absurd hraised hnot
  · intro hsame
    obtain ⟨_, -, -, -, -, -, hcounted⟩ := seek_out session registry config.toReplaySeekConfig
      (withClock s.seeks clock) intent now
    rw [hseeks] at hsame
    have hmore := hcounted.symm.trans (congrArg SeekCursor.seeksCompleted hsame)
    change s.seeks.cursor.seeksCompleted + 1 = s.seeks.cursor.seeksCompleted at hmore
    omega
  · exact absurd hraised hnot

/-- An exact call to a recorded frame does not raise if its pause hook does, or if the seek
    finds the frame. -/
theorem not_raised_iff (hcounting : registry.Counting)
    (hmonotone : session.frames.Pairwise fun f g => f.monotonicNs ≤ g.monotonicNs)
    (hstrategy : config.strategy = .exactOnly) (hverify : config.verifyIntegrityOnSeek = true)
    {s : HookedSeeks} (hkeyed : Keyed s.seeks.cache) {f : ReplayFrame} (hf : f ∈ session.frames)
    (now : Int) :
    ¬ Raised (s.seekToSequence session registry config f.sequence now) ↔
      PauseRaises config s ∨ Finds session s.seeks f.sequence := by
  have htarget : ∀ current : Int,
      resolveTargetSequence (.toSequence f.sequence) current = f.sequence :=
    fun _ => max_eq_right (session.nonneg f hf)
  rw [seekToSequence]
  rcases dispatchIntent_cases session registry hstrategy hverify s (.toSequence f.sequence) now with
    ⟨hraises, hnot⟩ | ⟨hgoes, clock, hcheck⟩
  · exact iff_of_true hnot (.inl hraises)
  · have hfinds := check_iff_finds hcounting hmonotone (withClock s.seeks clock) hkeyed hf
      config.toReplaySeekConfig (htarget _) now
    rw [htarget] at hcheck
    rcases hcheck with ⟨hsome, hraised, -⟩ | ⟨hnone, hnot⟩
    · refine iff_of_false (fun h => h hraised) ?_
      rintro (hraises | hfound)
      · exact hgoes hraises
      · have hpass := hfinds.mpr hfound
        change checkSeekResult _ _ _ s.seeks.cursor.lastSeekMonotonicNs _ = none at hpass
        rw [hpass] at hsome
        exact Bool.false_ne_true hsome
    · exact iff_of_true hnot (.inr (hfinds.mp hnone))

/-- The clause that a raised call always breaks is the one on the seek cursor. -/
theorem exact_iff_not_raised (hstrategy : config.strategy = .exactOnly)
    (hverify : config.verifyIntegrityOnSeek = true) (s : HookedSeeks) (t now : Int) :
    Exact session t s (s.seekToSequence session registry config t now) ↔
      Recorded session t ∧ ¬ Raised (s.seekToSequence session registry config t now) := by
  constructor
  · intro hexact
    have hnot : ¬ Raised (s.seekToSequence session registry config t now) := fun hraised =>
      seekCursor_of_raised hstrategy hverify hraised (hexact.seekCursor hraised)
    exact ⟨by_contra fun hgap => hnot (hexact.raised_iff.mpr hgap), hnot⟩
  · rintro ⟨hrecorded, hnot⟩
    exact
      { raised_iff := iff_of_false hnot (not_not.mpr hrecorded)
        state := fun hraised => absurd hraised hnot
        engineCursor := fun hraised => absurd hraised hnot
        seekCursor := fun hraised => absurd hraised hnot
        clock := fun hraised => absurd hraised hnot
        resumed := fun hraised => absurd hraised hnot }

/-! ### Runs -/

/-- A seek files what it found under its target. -/
theorem keyed_seek (session : ReplaySession StateDict) (registry : ReducerRegistry)
    (config : ReplaySeekConfig) (seeks : SeekCoordinator) (hkeyed : Keyed seeks.cache)
    (intent : SeekIntent) (now : Int) :
    Keyed (seeks.seek session registry config intent now).1.cache := by
  obtain ⟨cache, hcache, hcases⟩ := reconstruct_cases session registry seeks.player.engine
    seeks.cache (resolveTargetSequence intent seeks.cursor.lastSeekSequence) now
  have heq : ∃ engine out, reconstruct session registry seeks.player.engine seeks.cache
      (resolveTargetSequence intent seeks.cursor.lastSeekSequence) now = (engine, cache, out) := by
    rcases hcases with ⟨entry, -, heq⟩ | ⟨-, cp, -, -, heq⟩ | ⟨-, -, heq⟩
    · exact ⟨_, _, heq⟩
    · exact ⟨_, _, heq⟩
    · exact ⟨_, _, heq⟩
  obtain ⟨engine, out, heq⟩ := heq
  have hkept : Keyed cache := fun t entry hentry => hkeyed t entry (hcache t ▸ hentry)
  rw [SeekCoordinator.seek]
  dsimp only [execute]
  rw [heq]
  dsimp only
  split
  next =>
    intro t entry hentry
    rcases SeekCache.get?_put hentry with ⟨rfl, rfl⟩ | hold
    · rfl
    · exact hkept t entry hold
  next => exact hkept

/-- A call of the coordinator has made one seek at most, and moved the clock besides. -/
theorem cache_dispatchIntent (session : ReplaySession StateDict) (registry : ReducerRegistry)
    (config : HookedSeekConfig) (s : HookedSeeks) (intent : SeekIntent) (now : Int) :
    (s.dispatchIntent session registry config intent now).1.seeks.cache = s.seeks.cache ∨
      ∃ clock, (s.dispatchIntent session registry config intent now).1.seeks.cache
        = ((withClock s.seeks clock).seek session registry config.toReplaySeekConfig intent
            now).1.cache := by
  obtain ⟨⟨clock, hclock⟩, -⟩ := pauseHook_spec config s now
  rw [dispatchIntent]
  generalize s.pauseHook config now = hooked at hclock ⊢
  obtain ⟨s', result⟩ := hooked
  dsimp only at hclock ⊢
  cases result with
  | error error =>
    left
    change s'.seeks.cache = s.seeks.cache
    rw [hclock]
    rfl
  | ok _ =>
    refine .inr ⟨clock, ?_⟩
    dsimp only
    rw [hclock]
    split
    next => rfl
    next =>
      have hresume := cache_resumeHook config
        { s' with seeks := ((withClock s.seeks clock).seek session registry
            config.toReplaySeekConfig intent now).1 } now
      split
      next heq => exact (congrArg (fun r => r.1.seeks.cache) heq).symm.trans hresume
      next heq => exact (congrArg (fun r => r.1.seeks.cache) heq).symm.trans hresume

theorem keyed_step {engineConfig : ReplayEngineConfig} {s s' : HookedSeeks} {a : Action}
    (hkeyed : Keyed s.seeks.cache)
    (hstep : step session registry engineConfig config s a = some s') : Keyed s'.seeks.cache := by
  cases a with
  | player a =>
    obtain ⟨player, -, rfl⟩ := Option.map_eq_some_iff.mp hstep
    exact hkeyed
  | playback call =>
    obtain ⟨playback, -, rfl⟩ := Option.map_eq_some_iff.mp hstep
    exact hkeyed
  | seek intent now =>
    cases hstep
    rcases cache_dispatchIntent session registry config s intent now with hsame | ⟨clock, hsought⟩
    · rw [hsame]
      exact hkeyed
    · rw [hsought]
      exact keyed_seek session registry _ (withClock s.seeks clock) hkeyed intent now

/-- After any run an exact call is exact if and only if its target is recorded, and its pause
    hook raises or the seek finds it. -/
theorem exact_iff_found {session : ReplaySession StateDict} {registry : ReducerRegistry}
    (hcounting : registry.Counting)
    (hmonotone : session.frames.Pairwise fun f g => f.monotonicNs ≤ g.monotonicNs)
    (engineConfig : ReplayEngineConfig) {config : HookedSeekConfig}
    (hstrategy : config.strategy = .exactOnly) (hverify : config.verifyIntegrityOnSeek = true)
    (clock : ReplayClock) (capacity : ℕ+) (playback : Option Control.ReplayPlaybackCoordinator)
    {acts : List Action} {s : HookedSeeks}
    (hrun : exec (step session registry engineConfig config) (start config clock capacity playback)
      acts = some s) (t now : Int) :
    Exact session t s (s.seekToSequence session registry config t now) ↔
      Recorded session t ∧ (PauseRaises config s ∨ Finds session s.seeks t) := by
  have hstart : Keyed (start config clock capacity playback).seeks.cache :=
    fun _ _ hentry => nomatch hentry
  have hkeyed : Keyed s.seeks.cache :=
    exec_invariant (I := fun s => Keyed s.seeks.cache)
      (fun _ _ _ hkept hstep => keyed_step hkept hstep) hstart hrun
  rw [exact_iff_not_raised hstrategy hverify]
  refine and_congr_right fun hrecorded => ?_
  obtain ⟨f, hf, rfl⟩ := hrecorded
  exact not_raised_iff hcounting hmonotone hstrategy hverify hkeyed hf now

end Calls

/-! ## Instances -/

/-- Frames `1` and `3` in one chunk. -/
def oneAndThree : ReplaySession StateDict :=
  Recording.withGap.session

/-- Exact seeks, with the check. -/
def exactOnly : HookedSeekConfig := { strategy := .exactOnly, verifyIntegrityOnSeek := true }

/-- A new coordinator. -/
def fresh (playback : Option Control.ReplayPlaybackCoordinator) : HookedSeeks :=
  start exactOnly { wallAnchorNs := 0 } (Nat.succPNat 7) playback

/-- A playback that has started. -/
def started : Control.ReplayPlaybackCoordinator :=
  (Control.ReplayPlaybackCoordinator.new {} { wallAnchorNs := 0 } {}).markStarted

theorem exact_iff_found_forward :
    ∃ s, exec (step oneAndThree {} {} exactOnly) (fresh none) [.seek (.toSequence 1) 5] = some s ∧
      Exact oneAndThree 3 s (s.seekToSequence oneAndThree {} exactOnly 3 6) := by
  have hcounting : ReducerRegistry.Counting {} :=
    ReducerRegistry.counting_of_domainReducers .empty fun _ _ hreducer => by cases hreducer
  have hmonotone : oneAndThree.frames.Pairwise fun f g => f.monotonicNs ≤ g.monotonicNs := by
    simp [oneAndThree, Recording.withGap, Recording.single, ReplaySession.frames,
      ReplayFrame.sample]
  have hrecorded : ReplayFrame.sample 3 ∈ oneAndThree.frames :=
    List.mem_cons_of_mem _ (List.mem_singleton_self _)
  have hrun : exec (step oneAndThree {} {} exactOnly) (fresh none) [.seek (.toSequence 1) 5]
      = some _ := rfl
  refine ⟨_, hrun, (exact_iff_found hcounting hmonotone {} rfl rfl { wallAnchorNs := 0 }
    (Nat.succPNat 7) none hrun 3 6).mpr ⟨⟨ReplayFrame.sample 3, hrecorded, rfl⟩,
      .inr ⟨fun h => absurd h.1 (by decide), ?_⟩⟩⟩
  intro f hf heq
  rw [oneAndThree.sorted.eq_of_key_eq hf hrecorded heq]
  decide

/-- A seek into the gap between two frames raises, and has moved everything, and the playback
    that it paused stays so.  A second one does not raise.  A seek back to a recorded frame
    does. -/
theorem not_exact_gap :
    (∃ s, (fresh (some started)).seekToSequence oneAndThree {} exactOnly 2 6
        = (s, .error (.integrity "target=2 landed=1 (exact_only strategy)")) ∧
      s.seeks.player.engine.state.lastSequence = 1 ∧
      s.seeks.player.engine.cursor.lastSequence = 1 ∧ s.seeks.cursor.lastSeekSequence = 1 ∧
      s.seeks.player.engine.clock.currentVirtualNs 6 = 10 ∧
      (∃ p ∈ s.playback, p.phase = .pausing) ∧
      ¬ Exact oneAndThree 2 (fresh (some started))
        ((fresh (some started)).seekToSequence oneAndThree {} exactOnly 2 6)) ∧
    (∃ s, exec (step oneAndThree {} {} exactOnly) (fresh none) [.seek (.toSequence 2) 5] = some s ∧
      (∃ result, (s.seekToSequence oneAndThree {} exactOnly 2 6).2 = .ok result) ∧
      ¬ Exact oneAndThree 2 s (s.seekToSequence oneAndThree {} exactOnly 2 6)) ∧
    ∃ s, exec (step oneAndThree {} {} exactOnly) (fresh none) [.seek (.toSequence 3) 5] = some s ∧
      (s.seekToSequence oneAndThree {} exactOnly 1 6).2
        = .error (.integrity "landed_monotonic_ns=10 regresses from previous=30") ∧
      ¬ Exact oneAndThree 1 s (s.seekToSequence oneAndThree {} exactOnly 1 6) := by
  have hgap : ¬ Recorded oneAndThree 2 := by
    rintro ⟨f, hf, heq⟩
    rcases List.mem_cons.mp hf with rfl | hf
    · exact absurd heq (by decide)
    · rw [List.mem_singleton.mp hf] at heq
      exact absurd heq (by decide)
  refine ⟨⟨_, rfl, rfl, rfl, rfl, ?_, ⟨_, rfl, rfl⟩, fun hexact => ?_⟩,
    ⟨_, rfl, ⟨_, rfl⟩, fun hexact => ?_⟩, _, rfl, rfl, fun hexact => ?_⟩
  · exact ReplayClock.currentVirtualNs_jumpTo _ _ _
  · have hsame := congrArg VirtualRuntimeState.lastSequence (hexact.state ⟨_, rfl⟩)
    exact absurd hsame (by decide : (1 : Int) ≠ 0)
  · obtain ⟨detail, hdetail⟩ := hexact.raised_iff.mpr hgap
    cases hdetail
  · exact hexact.raised_iff.mp ⟨_, rfl⟩ ⟨ReplayFrame.sample 1, List.mem_cons_self, rfl⟩

end HookedSeeks

end AsyncViz.Replay
