/-
  AsyncViz.Replay.Continuity

  What a run of a `Player` keeps, when its calls fit the loop that is running.

  `Kept` is the invariant: state, cursor and checkpoints are those of positions in the
  recording, what was dispatched since the latest seek is a contiguous run of frames, and
  the loop's iterator has passed no frame that lies behind the cursor.  `step_kept` is its
  step lemma for the calls that are `Sound`.

  * `seek_coherent`: in such runs a seek leaves state, cursor and clock coherent.
  * `playback_continuous`: under non-decreasing timestamps, and with calls that are `Steady`,
    playback is continuous and a strict loop never fails.

  The loop pulls from an iterator of its own, over the whole recording, that no seek and
  no restart moves: `Sound` and `Steady` ask that the iterator already stands where the
  call puts the cursor.
-/

import AsyncViz.Replay.Playback

namespace AsyncViz.Replay

open AsyncViz.Lib AsyncViz.Lib.Bisect AsyncViz.Lib.SortedLog AsyncViz.Lib.Transition

/-! ## An iterator and a position -/

namespace Recording

variable {recording : Recording}

/-- `pending` is the end of the recording behind some frames, all at or before `pos`. -/
def Follows (recording : Recording) (pending : List ReplayFrame) (pos : Int) : Prop :=
  ∃ past, recording.frames = past ++ pending ∧ ∀ f ∈ past, f.sequence ≤ pos

theorem follows_frames (pos : Int) : recording.Follows recording.frames pos :=
  ⟨[], rfl, fun _ hf => absurd hf List.not_mem_nil⟩

theorem follows_after (pos : Int) :
    recording.Follows (after ReplayFrame.sequence recording.frames pos) pos :=
  ⟨upTo ReplayFrame.sequence recording.frames pos, (upTo_append_after recording.sorted pos).symm,
    fun _ hf => (mem_upTo.mp hf).2⟩

theorem Follows.mem {pending : List ReplayFrame} {pos : Int} (h : recording.Follows pending pos)
    {f : ReplayFrame} (hf : f ∈ pending) : f ∈ recording.frames := by
  obtain ⟨past, heq, -⟩ := h
  rw [heq]
  exact List.mem_append_right past hf

/-- The iterator moves on over a frame that the position has reached. -/
theorem Follows.tail {f : ReplayFrame} {rest : List ReplayFrame} {pos pos' : Int}
    (h : recording.Follows (f :: rest) pos) (hle : pos ≤ pos') (hf : f.sequence ≤ pos') :
    recording.Follows rest pos' := by
  obtain ⟨past, heq, hpast⟩ := h
  refine ⟨past ++ [f], by rw [heq, List.append_assoc, List.singleton_append], fun g hg => ?_⟩
  rcases List.mem_append.mp hg with hold | hnew
  · exact (hpast g hold).trans hle
  · rw [List.mem_singleton.mp hnew]
    exact hf

/-- A frame ahead of the position is the next one, because nothing was passed. -/
theorem Follows.isNext {f : ReplayFrame} {rest : List ReplayFrame} {pos : Int}
    (h : recording.Follows (f :: rest) pos) (hlt : pos < f.sequence) :
    IsNext ReplayFrame.sequence recording.frames pos f := by
  have hf := h.mem List.mem_cons_self
  have hsorted := recording.sorted
  obtain ⟨past, heq, hpast⟩ := h
  refine ⟨hf, hlt, fun g hg hpos => ?_⟩
  -- a frame behind `pos` is either passed, which `past` excludes, or in `rest`, behind `f`
  rw [heq] at hg hsorted
  obtain ⟨-, hpending, -⟩ := List.pairwise_append.mp hsorted
  rcases List.mem_append.mp hg with hold | hnew
  · exact absurd hpos (not_lt.mpr (hpast g hold))
  · rcases List.mem_cons.mp hnew with rfl | hrest
    · exact le_refl _
    · exact ((List.pairwise_cons.mp hpending).1 g hrest).le

theorem Follows.rest_eq {f : ReplayFrame} {rest : List ReplayFrame} {pos : Int}
    (h : recording.Follows (f :: rest) pos) :
    rest = after ReplayFrame.sequence recording.frames f.sequence := by
  have hsorted := recording.sorted
  obtain ⟨past, heq, -⟩ := h
  rw [heq] at hsorted
  obtain ⟨-, hpending, hcross⟩ := List.pairwise_append.mp hsorted
  obtain ⟨hfirst, hrest⟩ := List.pairwise_cons.mp hpending
  refine Increasing.eq_of_mem_iff hrest (recording.sorted.filter _) fun g => ?_
  rw [mem_after, heq, List.mem_append, List.mem_cons]
  constructor
  · exact fun hg => ⟨.inr (.inr hg), hfirst g hg⟩
  · rintro ⟨hold | rfl | hg, hlt⟩
    · exact absurd (hcross g hold f List.mem_cons_self) (not_lt.mpr hlt.le)
    · exact absurd hlt (lt_irrefl _)
    · exact hg

/-- A position moves under an iterator that has passed nothing behind it. -/
theorem Follows.move {pending : List ReplayFrame} {pos pos' : Int}
    (h : recording.Follows pending pos)
    (hpassed : ∀ f ∈ recording.frames, f ∉ pending → f.sequence ≤ pos') :
    recording.Follows pending pos' := by
  have hnodup := recording.sorted.nodup
  obtain ⟨past, heq, -⟩ := h
  refine ⟨past, heq, fun f hf => hpassed f ?_ fun hin => ?_⟩
  · rw [heq]
    exact List.mem_append_left pending hf
  · rw [heq] at hnodup
    exact (List.nodup_append.mp hnodup).2.2 f hf f hin rfl

/-- Later frames have no earlier timestamps. -/
theorem time_le (hmonotone : recording.frames.Pairwise fun f g => f.monotonicNs ≤ g.monotonicNs)
    {f g : ReplayFrame} (hf : f ∈ recording.frames) (hg : g ∈ recording.frames)
    (hlt : f.sequence < g.sequence) : f.monotonicNs ≤ g.monotonicNs :=
  recording.sorted.le_of_key_lt hmonotone hf hg hlt

end Recording

/-! ## The invariant -/

namespace Player

variable {recording : Recording} {config : ReplayEngineConfig} {p p' : Player}

/-- The position reached: the frame in the sink, or the cursor's. -/
def position (p : Player) : Int :=
  match p.phase.bind LoopPhase.inSink with
  | some frame => frame.sequence
  | none => p.engine.cursor.lastSequence

/-- What the loop holds fits the recording. -/
def LoopKept (recording : Recording) (p : Player) : LoopPhase → Prop
  | .sinking frame newCursor newState rest =>
    frame ∈ recording.frames ∧ newState = recording.stateAt frame.sequence ∧
      newCursor.lastSequence = frame.sequence ∧ newCursor.lastMonotonicNs = frame.monotonicNs ∧
      rest = after ReplayFrame.sequence recording.frames frame.sequence
  | phase =>
    p.stopEvent = false → recording.Follows phase.pending p.engine.cursor.lastSequence

/-- What sound calls and the loop keep. -/
structure Kept (recording : Recording) (p : Player) : Prop where
  ring : ∀ cp ∈ p.engine.checkpoints.checkpoints, recording.Faithful cp
  state : p.engine.state = recording.stateAt p.position
  reached : ∀ f ∈ recording.frames, f.sequence ≤ p.origin → f.sequence ≤ p.position
  dispatched : p.dispatched =
    within ReplayFrame.sequence recording.frames p.origin p.position
  loop : ∀ phase, p.phase = some phase → LoopKept recording p phase

/-- A seek to `t` fits the running loop: its iterator has passed nothing behind `t`; a
    frame in the sink is the last one at `t`. -/
def Fits (recording : Recording) (p : Player) (t : Int) : Prop :=
  match p.phase with
  | none => True
  | some (.sinking frame _ _ rest) => frame.sequence ≤ t ∧ ∀ g ∈ rest, t < g.sequence
  | some phase =>
    p.stopEvent = false → ∀ f ∈ recording.frames, f ∉ phase.pending → f.sequence ≤ t

/-- The calls under which a run keeps `Kept`: a seek can be served and fits the loop, and
    a loop that skips what the guard rejects skips no frame ahead of the cursor. -/
def Sound (recording : Recording) (config : ReplayEngineConfig) (p : Player) : Action → Prop
  | .seek t _ => recording.Servable p.engine t ∧ p.Fits recording t
  | .dispatch _ => config.enforceStrictOrdering = false → p.stopEvent = false →
      ∀ frame rest, p.phase = some (.timed frame rest) →
        p.engine.cursor.lastSequence < frame.sequence →
          p.engine.cursor.lastMonotonicNs ≤ frame.monotonicNs
  | _ => True

theorem start_kept (clock : ReplayClock) (capacity : ℕ+) :
    Kept recording (start clock capacity) where
  ring := fun _ hcp => absurd hcp List.not_mem_nil
  state := (Recording.stateAt_of_before recording.positive).symm
  reached := fun _ _ hle => hle
  dispatched := (within_eq_nil (le_refl _)).symm
  loop := fun _ hphase => nomatch hphase

/-! ## Steps that leave the engine's data alone -/

/-- Only the task and the controls change. -/
theorem Kept.relocate (h : Kept recording p)
    (hring : p'.engine.checkpoints = p.engine.checkpoints)
    (hstate : p'.engine.state = p.engine.state)
    (hposition : p'.position = p.position) (horigin : p'.origin = p.origin)
    (hdispatched : p'.dispatched = p.dispatched)
    (hloop : ∀ phase, p'.phase = some phase → LoopKept recording p' phase) : Kept recording p' where
  ring := by rw [hring]; exact h.ring
  state := by rw [hstate, hposition]; exact h.state
  reached := by rw [horigin, hposition]; exact h.reached
  dispatched := by rw [hdispatched, horigin, hposition]; exact h.dispatched
  loop := hloop

theorem position_of_not_inSink (h : ∀ phase, p.phase = some phase → phase.inSink = none) :
    p.position = p.engine.cursor.lastSequence := by
  rw [position]
  cases hphase : p.phase with
  | none => rfl
  | some phase => rw [Option.bind_some, h phase hphase]

/-- Outside the sink the position is the cursor's. -/
theorem position_of_phase {phase : LoopPhase} (hphase : p.phase = some phase)
    (hsink : phase.inSink = none) : p.position = p.engine.cursor.lastSequence := by
  refine position_of_not_inSink fun phase' hphase' => ?_
  rw [← Option.some.inj (hphase.symm.trans hphase')]
  exact hsink

/-- What the sink is given leaves the guard behind it nothing to report. -/
theorem checkPostDispatch_of_mem {frame : ReplayFrame} (hmem : frame ∈ recording.frames) :
    checkPostDispatch frame (recording.stateAt frame.sequence) = none := by
  have hlast : recording.IsLast frame.sequence frame := ⟨hmem, le_refl _, fun _ _ hle => hle⟩
  rw [checkPostDispatch_eq_none_iff]
  exact (Recording.counters_of_isLast hlast).1

theorem phase_finish (playbackState : PlaybackState) (errorDetail : String) :
    (p.finish playbackState errorDetail).phase = none := by
  rw [phase, finish]
  cases p.stopEvent with
  | true => rfl
  | false => rfl

/-- The task may end wherever the cursor is the position. -/
theorem Kept.finish (h : Kept recording p)
    (hposition : p.position = p.engine.cursor.lastSequence) (playbackState : PlaybackState)
    (errorDetail : String) : Kept recording (p.finish playbackState errorDetail) := by
  have hnone := phase_finish (p := p) playbackState errorDetail
  refine h.relocate rfl rfl ?_ rfl rfl fun phase hphase => ?_
  · rw [hposition, position_of_not_inSink fun phase hphase => ?_]
    · rfl
    · rw [hnone] at hphase
      cases hphase
  · rw [hnone] at hphase
    cases hphase

/-- The loop moves on to another place where the cursor is the position. -/
theorem Kept.goto (h : Kept recording p) (hposition : p.position = p.engine.cursor.lastSequence)
    {phase : LoopPhase} (hsink : phase.inSink = none)
    (hfollows : p.stopEvent = false →
      recording.Follows phase.pending p.engine.cursor.lastSequence) :
    Kept recording { p with task := .running phase } := by
  refine h.relocate rfl rfl ?_ rfl rfl ?_
  · rw [hposition, position_of_not_inSink]
    rintro _ ⟨rfl⟩
    exact hsink
  · rintro _ ⟨rfl⟩
    cases phase with
    | top rest => exact hfollows
    | gated frame rest => exact hfollows
    | timed frame rest => exact hfollows
    | sinking frame newCursor newState rest => cases hsink

theorem play_kept (h : Kept recording p) : Kept recording (p.play recording.session) := by
  rw [play]
  cases htask : p.task with
  | running phase => exact h
  | none =>
    refine h.relocate rfl rfl ?_ rfl rfl ?_
    · rw [position, position, phase, phase, htask]; rfl
    · rintro _ ⟨rfl⟩
      exact fun _ => recording.follows_frames _
  | done =>
    refine h.relocate rfl rfl ?_ rfl rfl ?_
    · rw [position, position, phase, phase, htask]; rfl
    · rintro _ ⟨rfl⟩
      exact fun _ => recording.follows_frames _

/-- Only the clock changes. -/
theorem Kept.withClock (h : Kept recording p) (clock : ReplayClock) :
    Kept recording { p with engine := { p.engine with clock := clock } } := by
  refine h.relocate rfl rfl rfl rfl rfl fun phase hphase => ?_
  have hloop := h.loop phase hphase
  cases phase with
  | top rest => exact hloop
  | gated frame rest => exact hloop
  | timed frame rest => exact hloop
  | sinking frame newCursor newState rest => exact hloop

theorem stop_kept (h : Kept recording p) (now : Int) : Kept recording (p.stop now) := by
  obtain ⟨engine, playbackState, errorDetail, task, stopEvent, dispatched, origin⟩ := p
  cases task with
  | none => exact h
  | done => exact h.relocate rfl rfl rfl rfl rfl fun phase hphase => nomatch hphase
  | running phase =>
    refine h.relocate rfl rfl rfl rfl rfl ?_
    rintro _ ⟨rfl⟩
    -- with the stop event set nothing but a frame in the sink matters any more
    have hloop := h.loop phase rfl
    cases phase with
    | top rest => exact fun hstop => nomatch hstop
    | gated frame rest => exact fun hstop => nomatch hstop
    | timed frame rest => exact fun hstop => nomatch hstop
    | sinking frame newCursor newState rest => exact hloop

/-! ## Seeks -/

/-- After a seek nothing has been dispatched, and the position is the one it leads to. -/
theorem kept_of_stands {engine : ReplayEngine} {t now : Int}
    (hstands : recording.Stands t now engine)
    (hring : ∀ cp ∈ engine.checkpoints.checkpoints, recording.Faithful cp)
    (hp : p = { p with engine := engine, dispatched := [], origin := engine.cursor.lastSequence })
    (hle : p.position ≤ engine.cursor.lastSequence)
    (hreached : ∀ f ∈ recording.frames, f.sequence ≤ t → f.sequence ≤ p.position)
    (hloop : ∀ phase, p.phase = some phase → LoopKept recording p phase) : Kept recording p := by
  have hengine : p.engine = engine := congrArg Player.engine hp
  have hdispatched : p.dispatched = [] := congrArg Player.dispatched hp
  have horigin : p.origin = engine.cursor.lastSequence := congrArg Player.origin hp
  refine ⟨by rw [hengine]; exact hring, ?_, fun f hf hof => ?_, ?_, hloop⟩
  · rw [hengine, hstands.state]
    exact Recording.stateAt_congr (hle.trans hstands.le) hreached
  · rw [horigin] at hof
    exact hreached f hf (hof.trans hstands.le)
  · rw [hdispatched, horigin, within_eq_nil hle]

/-- A seek that fits the loop may put any engine in place that shows the state at `t`. -/
theorem Kept.replaceEngine (h : Kept recording p) {next : ReplayEngine} {t now : Int}
    (hstands : recording.Stands t now next)
    (hring : ∀ cp ∈ next.checkpoints.checkpoints, recording.Faithful cp)
    (hfits : p.Fits recording t) :
    Kept recording
      { p with engine := next, dispatched := [], origin := next.cursor.lastSequence } := by
  obtain ⟨engine, playbackState, errorDetail, task, stopEvent, dispatched, origin⟩ := p
  have hloop := h.loop
  -- the iterator follows the new cursor when it has passed nothing behind the target
  have hmove : ∀ pending, recording.Follows pending engine.cursor.lastSequence →
      (∀ f ∈ recording.frames, f ∉ pending → f.sequence ≤ t) →
      recording.Follows pending next.cursor.lastSequence :=
    fun pending hfollows hpassed =>
      hfollows.move fun f hf hnot => hstands.reached f hf (hpassed f hf hnot)
  cases task with
  | none =>
    refine kept_of_stands hstands hring rfl (le_refl _) hstands.reached ?_
    intro phase hphase
    cases hphase
  | done =>
    refine kept_of_stands hstands hring rfl (le_refl _) hstands.reached ?_
    intro phase hphase
    cases hphase
  | running phase =>
    have hphase := hloop phase rfl
    cases phase with
    | top rest =>
      refine kept_of_stands hstands hring rfl (le_refl _) hstands.reached ?_
      rintro _ ⟨rfl⟩ hstop
      exact hmove _ (hphase hstop) (hfits hstop)
    | gated frame rest =>
      refine kept_of_stands hstands hring rfl (le_refl _) hstands.reached ?_
      rintro _ ⟨rfl⟩ hstop
      exact hmove _ (hphase hstop) (hfits hstop)
    | timed frame rest =>
      refine kept_of_stands hstands hring rfl (le_refl _) hstands.reached ?_
      rintro _ ⟨rfl⟩ hstop
      exact hmove _ (hphase hstop) (hfits hstop)
    | sinking frame newCursor newState rest =>
      -- the seek leads to the frame in the sink, which the loop still sets the cursor to
      obtain ⟨hmem, -, -, -, hrest⟩ := id hphase
      obtain ⟨hle, hahead⟩ := hfits
      refine kept_of_stands hstands hring rfl (hstands.reached frame hmem hle) ?_ ?_
      · intro f hf hft
        by_contra hgt
        have := hahead f (hrest ▸ mem_after.mpr ⟨hf, not_le.mp hgt⟩)
        omega
      · rintro _ ⟨rfl⟩
        exact hphase

theorem seek_kept (h : Kept recording p) {t now : Int} (hservable : recording.Servable p.engine t)
    (hfits : p.Fits recording t) :
    Kept recording (p.seek recording.session recording.registry t now) := by
  refine h.replaceEngine (Recording.seekToSequence_stands now h.ring hservable) ?_ hfits
  rw [Recording.seekToSequence_checkpoints]
  exact h.ring

/-! ## Steps of the loop -/

theorem pull_kept (h : Kept recording p) {rest : List ReplayFrame}
    (hphase : p.phase = some (.top rest)) : Kept recording (p.pull rest) := by
  have hposition := position_of_phase hphase rfl
  cases rest with
  | nil => exact h.finish hposition _ _
  | cons frame rest =>
    rw [pull]
    by_cases hstop : p.stopEvent
    · rw [if_pos hstop]
      exact h.finish hposition _ _
    · rw [if_neg hstop]
      exact h.goto hposition rfl (h.loop _ hphase)

theorem pass_kept (h : Kept recording p) {frame : ReplayFrame} {rest : List ReplayFrame}
    (hphase : p.phase = some (.gated frame rest)) : Kept recording (p.pass frame rest) := by
  have hposition := position_of_phase hphase rfl
  rw [pass]
  by_cases hstop : p.stopEvent
  · rw [if_pos hstop]
    exact h.finish hposition _ _
  · rw [if_neg hstop]
    exact h.goto hposition rfl (h.loop _ hphase)

/-- What a dispatched frame is: the next one after the cursor. -/
theorem dispatch_kept (h : Kept recording p) {frame : ReplayFrame} {rest : List ReplayFrame}
    {now : Int} (hphase : p.phase = some (.timed frame rest))
    (hsound : Sound recording config p (.dispatch now)) :
    Kept recording (p.dispatch recording.registry config frame rest now) := by
  have hposition := position_of_phase hphase rfl
  rw [dispatch]
  by_cases hstop : p.stopEvent
  · rw [if_pos hstop]
    exact h.finish hposition _ _
  rw [if_neg hstop]
  have hfollows : recording.Follows (frame :: rest) p.engine.cursor.lastSequence :=
    h.loop _ hphase (by simpa using hstop)
  have hmem := hfollows.mem List.mem_cons_self
  have hguard := checkPreDispatch_eq_none_iff p.engine.cursor (recording.positive frame hmem)
  cases hcheck : checkPreDispatch frame p.engine.cursor with
  | some violation =>
    by_cases hstrict : config.enforceStrictOrdering
    · simp only [hstrict, if_true]
      exact h.finish hposition _ _
    · -- the frame that is skipped lies behind the cursor
      simp only [hstrict]
      have hbehind : frame.sequence ≤ p.engine.cursor.lastSequence := by
        by_contra hahead
        have htime := hsound (by simpa using hstrict) (by simpa using hstop) frame rest hphase
          (not_le.mp hahead)
        rw [hguard.mpr ⟨not_le.mp hahead, htime⟩] at hcheck
        cases hcheck
      exact h.goto hposition rfl fun _ => hfollows.tail (le_refl _) hbehind
  | none =>
    obtain ⟨hlt, -⟩ := hguard.mp hcheck
    have hnext := hfollows.isNext hlt
    have hstate :
        recording.registry.apply p.engine.state frame = recording.stateAt frame.sequence := by
      rw [Recording.stateAt_of_isNext hnext, h.state, hposition]
    have horigin : p.origin < frame.sequence := by
      by_contra hge
      have := h.reached frame hmem (not_lt.mp hge)
      omega
    refine ⟨h.ring, hstate, fun f hf hle => ?_, ?_, ?_⟩
    · exact hle.trans horigin.le
    · change p.dispatched ++ [frame] = within ReplayFrame.sequence recording.frames p.origin
        frame.sequence
      rw [within_append_of_isNext recording.sorted hnext horigin, h.dispatched, hposition]
    · rintro _ ⟨rfl⟩
      exact ⟨hmem, hstate, rfl, rfl, hfollows.rest_eq⟩

/-- The sink is done: the cursor catches up with the state. -/
theorem settle_kept (h : Kept recording p) {frame : ReplayFrame} {newCursor : EngineCursor}
    {newState : VirtualRuntimeState} {rest : List ReplayFrame}
    (hphase : p.phase = some (.sinking frame newCursor newState rest)) :
    Kept recording (p.settle config frame newCursor newState rest) := by
  obtain ⟨hmem, hnew, hseq, -, hrest⟩ := h.loop _ hphase
  -- in the sink the position is the frame's, whatever a seek did to the cursor meanwhile
  have hposition : p.position = frame.sequence := by
    rw [position, hphase]
    rfl
  have hcheck : checkPostDispatch frame newState = none := hnew ▸ checkPostDispatch_of_mem hmem
  have hfollows : recording.Follows rest frame.sequence := hrest ▸ recording.follows_after _
  obtain ⟨hstate, hcursor, -, hcheckpoints⟩ := commit_spec config p.engine newCursor newState
  rw [settle, hcheck]
  dsimp only
  generalize commit config p.engine newCursor newState = engine at hstate hcursor hcheckpoints
  rw [hseq] at hcursor
  refine ⟨fun cp hcp => ?_, ?_, ?_, ?_, ?_⟩
  · rcases hcheckpoints cp hcp with rfl | hold
    · exact ⟨frame.sequence, by rw [hnew]⟩
    · exact h.ring cp hold
  · change engine.state = recording.stateAt engine.cursor.lastSequence
    rw [hstate, hcursor, h.state, hposition]
  · change ∀ f ∈ recording.frames, f.sequence ≤ p.origin → f.sequence ≤ engine.cursor.lastSequence
    rw [hcursor, ← hposition]
    exact h.reached
  · change p.dispatched =
      within ReplayFrame.sequence recording.frames p.origin engine.cursor.lastSequence
    rw [hcursor, ← hposition]
    exact h.dispatched
  · rintro _ ⟨rfl⟩ -
    change recording.Follows rest engine.cursor.lastSequence
    rw [hcursor]
    exact hfollows

/-! ## Runs -/

/-- The step lemma. -/
theorem step_kept {a : Action} (h : Kept recording p) (hsound : Sound recording config p a)
    (hstep : step recording.session recording.registry config p a = some p') :
    Kept recording p' := by
  cases stepped_of_step hstep with
  | play => exact play_kept h
  | stop now => exact stop_kept h now
  | pause now => exact h.withClock _
  | resume now => exact h.withClock _
  | seek t now => exact seek_kept h hsound.1 hsound.2
  | pull hphase => exact pull_kept h hphase
  | pass hphase => exact pass_kept h hphase
  | dispatch now hphase => exact dispatch_kept h hphase hsound
  | settle hphase => exact settle_kept h hphase

/-! ## A short recording -/

/-- Two frames in one chunk, no snapshots, the default reducer. -/
def playedRecording : Recording :=
  .single [ReplayFrame.sample 1, ReplayFrame.sample 2] (by simp [Increasing, ReplayFrame.sample])
    (by simp [ReplayFrame.sample]) (by simp [ReplayFrame.sample])

private theorem playedRecording_restorable : playedRecording.Restorable 1 := by
  refine .inl ⟨⟨_, List.mem_cons_self, ?_, ?_⟩, ReplayFrame.sample 1, rfl⟩
  · exact ⟨ReplayFrame.sample 1, List.mem_cons_self, by decide⟩
  · exact ⟨ReplayFrame.sample 1, List.mem_cons_self, by decide⟩

/-! ## Seeks are coherent -/

/-- Sound calls, where a seek into the recording moreover puts the cursor on a frame. -/
def Anchoring (recording : Recording) (config : ReplayEngineConfig) (p : Player) (a : Action) :
    Prop :=
  Sound recording config p a ∧
    ∀ t now, a = .seek t now → recording.Contains t → recording.Anchorable p.engine t

/-- In every run of calls that are `Anchoring`, a seek into the recording leaves the
    engine coherent. -/
theorem seek_coherent (recording : Recording) (config : ReplayEngineConfig) (clock : ReplayClock)
    (capacity : ℕ+) (acts : List Action) (t now : Int)
    (hall : AllSteps (step recording.session recording.registry config)
      (Anchoring recording config) (start clock capacity) (acts ++ [.seek t now]))
    (hrun : exec (step recording.session recording.registry config) (start clock capacity) acts
      = some p)
    (hcontains : recording.Contains t) :
    recording.Coherent t now (p.seek recording.session recording.registry t now).engine := by
  obtain ⟨hpast, hlast⟩ := allSteps_append.mp hall
  have hkept : Kept recording p :=
    exec_invariant_of_allSteps (fun _ _ _ h hanchoring hstep => step_kept h hanchoring.1 hstep)
      (start_kept clock capacity) hpast hrun
  have hanchoring := (hlast p hrun).1
  exact Recording.seekToSequence_coherent now hkept.ring hcontains
    (hanchoring.2 t now rfl hcontains)

/-- The seek that follows the first dispatched frame. -/
theorem seek_coherent_after_dispatch :
    ∃ p, exec (step playedRecording.session playedRecording.registry {})
        (start { wallAnchorNs := 0 } 32) [.play, .pull, .pass, .dispatch 5, .settle] = some p ∧
      playedRecording.Coherent 1 6
        (p.seek playedRecording.session playedRecording.registry 1 6).engine := by
  have hanchorable : ∀ engine, playedRecording.Anchorable engine 1 := fun engine =>
    .inr ⟨playedRecording_restorable, .inr ⟨ReplayFrame.sample 1, List.mem_cons_self, rfl⟩⟩
  refine ⟨_, rfl, seek_coherent playedRecording {} { wallAnchorNs := 0 } 32
    [.play, .pull, .pass, .dispatch 5, .settle] 1 6 ?_ rfl ?_⟩
  · refine .cons rfl ⟨trivial, nofun⟩ (.cons rfl ⟨trivial, nofun⟩ (.cons rfl ⟨trivial, nofun⟩ ?_))
    refine .cons rfl ⟨nofun, nofun⟩ (.cons rfl ⟨trivial, nofun⟩ (.cons rfl ⟨?_, ?_⟩ trivial))
    · refine ⟨.inr playedRecording_restorable, fun _ f hf hnot => ?_⟩
      rcases List.mem_cons.mp hf with rfl | hf
      · decide
      · exact absurd hf hnot
    · rintro t now ⟨rfl⟩ -
      exact hanchorable _
  · exact ⟨⟨ReplayFrame.sample 1, List.mem_cons_self, by decide⟩, ReplayFrame.sample 1,
      List.mem_cons_self, by decide⟩

/-- From a new engine a seek to the last frame reads both frames: the state is at the
    second one, the cursor stays at the first. -/
theorem seek_leaves_cursor_behind :
    ¬ playedRecording.Coherent 2 6 ((start { wallAnchorNs := 0 } 32).seek
      playedRecording.session playedRecording.registry 2 6).engine := by
  rintro ⟨-, f, hlast, hcursor, -⟩
  have hfirst : ((start { wallAnchorNs := 0 } 32).seek playedRecording.session
      playedRecording.registry 2 6).engine.cursor.lastSequence = 1 := rfl
  have hsecond : (2 : Int) ≤ f.sequence :=
    hlast.2.2 (ReplayFrame.sample 2) (List.mem_cons_of_mem _ List.mem_cons_self) (by decide)
  omega

/-! ## Playback is continuous -/

/-- No frame is being dispatched. -/
def AtBoundary (p : Player) : Prop := ∀ phase, p.phase = some phase → phase.inSink = none

/-- What was dispatched since the latest seek is the run of recorded frames from there to
    the position reached, at a frame boundary the state is that of the cursor, and strict
    ordering never fails the loop. -/
structure Continuous (recording : Recording) (config : ReplayEngineConfig) (p : Player) : Prop where
  dispatched : p.dispatched = within ReplayFrame.sequence recording.frames p.origin p.position
  boundary : p.AtBoundary → p.engine.state = recording.stateAt p.engine.cursor.lastSequence
  strict : config.enforceStrictOrdering → p.playbackState ≠ .failed

/-- The calls under which playback is continuous.  Under strict ordering a loop starts
    before the first frame only, and a seek leaves what the loop still holds ahead. -/
def Steady (recording : Recording) (config : ReplayEngineConfig) (p : Player) : Action → Prop
  | .play => config.enforceStrictOrdering → p.phase = none →
      ∀ f ∈ recording.frames, p.engine.cursor.lastSequence < f.sequence
  | .seek t _ => recording.Servable p.engine t ∧ p.Fits recording t ∧
      (config.enforceStrictOrdering → ∀ phase, p.phase = some phase → p.stopEvent = false →
        ∀ f ∈ phase.pending, t < f.sequence)
  | _ => True

/-- The guard has nothing to reject. -/
structure Ready (recording : Recording) (config : ReplayEngineConfig) (p : Player) : Prop where
  notFailed : p.playbackState ≠ .failed
  time : ∀ f ∈ recording.frames, p.engine.cursor.lastSequence < f.sequence →
    p.engine.cursor.lastMonotonicNs ≤ f.monotonicNs
  ahead : config.enforceStrictOrdering → ∀ phase, p.phase = some phase → p.stopEvent = false →
    ∀ f ∈ phase.pending, p.position < f.sequence

theorem start_ready (clock : ReplayClock) (capacity : ℕ+) :
    Ready recording config (start clock capacity) where
  notFailed := nofun
  time := fun f hf _ => recording.timed f hf
  ahead := fun _ _ hphase => nomatch hphase

theorem Steady.sound {a : Action} (hkept : Kept recording p) (hready : Ready recording config p)
    (h : Steady recording config p a) : Sound recording config p a := by
  cases a with
  | seek t now => exact ⟨h.1, h.2.1⟩
  | dispatch now =>
    intro _ hstop frame rest hphase hahead
    have hfollows : recording.Follows (frame :: rest) p.engine.cursor.lastSequence :=
      hkept.loop _ hphase hstop
    exact hready.time frame (hfollows.mem List.mem_cons_self) hahead
  | play => trivial
  | stop now => trivial
  | pause now => trivial
  | resume now => trivial
  | pull => trivial
  | pass => trivial
  | settle => trivial

/-- Ending the task, other than by a failure. -/
theorem Ready.finishStopped (h : Ready recording config p) :
    Ready recording config p.finishStopped := by
  refine ⟨nofun, h.time, fun _ phase hphase => ?_⟩
  have hnone : p.finishStopped.phase = none := phase_finish _ _
  rw [hnone] at hphase
  cases hphase

/-- The loop moves on and holds no more than before. -/
theorem Ready.goto (h : Ready recording config p)
    (hposition : p.position = p.engine.cursor.lastSequence)
    {phase : LoopPhase} (hsink : phase.inSink = none)
    (hahead : config.enforceStrictOrdering → p.stopEvent = false → ∀ f ∈ phase.pending,
      p.position < f.sequence) :
    Ready recording config { p with task := .running phase } := by
  refine ⟨h.notFailed, h.time, ?_⟩
  rintro hstrict _ ⟨rfl⟩ hstop f hf
  rw [position_of_not_inSink]
  · rw [← hposition]
    exact hahead hstrict hstop f hf
  · rintro _ ⟨rfl⟩
    exact hsink

theorem play_ready (h : Ready recording config p) (hsteady : Steady recording config p .play) :
    Ready recording config (p.play recording.session) := by
  obtain ⟨engine, playbackState, errorDetail, task, stopEvent, dispatched, origin⟩ := p
  cases task with
  | running phase => exact h
  | none =>
    -- a new loop holds the whole recording
    refine ⟨nofun, h.time, ?_⟩
    rintro hstrict _ ⟨rfl⟩ -
    exact hsteady hstrict rfl
  | done =>
    refine ⟨nofun, h.time, ?_⟩
    rintro hstrict _ ⟨rfl⟩ -
    exact hsteady hstrict rfl

theorem stop_ready (h : Ready recording config p) (now : Int) :
    Ready recording config (p.stop now) := by
  obtain ⟨engine, playbackState, errorDetail, task, stopEvent, dispatched, origin⟩ := p
  cases task with
  | none => exact h
  | done => exact ⟨h.notFailed, h.time, fun _ _ hphase => nomatch hphase⟩
  | running phase => exact ⟨h.notFailed, h.time, fun _ _ _ hstop => nomatch hstop⟩

/-- The cursor of a seek is not timed after anything behind its target. -/
theorem time_of_stands
    (hmonotone : recording.frames.Pairwise fun f g => f.monotonicNs ≤ g.monotonicNs)
    {engine : ReplayEngine} {t now : Int} (h : recording.Stands t now engine) :
    ∀ f ∈ recording.frames, engine.cursor.lastSequence < f.sequence →
      engine.cursor.lastMonotonicNs ≤ f.monotonicNs := by
  intro f hf hahead
  have hbehind : t < f.sequence := by
    by_contra hle
    have := h.reached f hf (not_lt.mp hle)
    omega
  rw [h.time]
  rcases recording.isLast_or_before t with ⟨g, hlast⟩ | hbefore
  · rw [(Recording.counters_of_isLast hlast).2]
    exact Recording.time_le hmonotone hlast.1 hf (hlast.2.1.trans_lt hbehind)
  · rw [Recording.stateAt_of_before hbefore]
    exact recording.timed f hf

theorem seek_ready
    (hmonotone : recording.frames.Pairwise fun f g => f.monotonicNs ≤ g.monotonicNs)
    (hkept : Kept recording p) (h : Ready recording config p) {t now : Int}
    (hsteady : Steady recording config p (.seek t now)) :
    Ready recording config (p.seek recording.session recording.registry t now) := by
  obtain ⟨hservable, hfits, hahead⟩ := hsteady
  have hstands := Recording.seekToSequence_stands now hkept.ring hservable
  refine ⟨h.notFailed, time_of_stands hmonotone hstands, ?_⟩
  intro hstrict phase hphase hstop f hf
  have hbehind : t < f.sequence := hahead hstrict phase hphase hstop f hf
  -- the position does not pass the target
  have hposition : (p.seek recording.session recording.registry t now).position ≤ t := by
    have hphase' : p.phase = some phase := hphase
    rw [Fits, hphase'] at hfits
    rw [position, hphase]
    cases phase with
    | top rest => exact hstands.le
    | gated frame rest => exact hstands.le
    | timed frame rest => exact hstands.le
    | sinking frame newCursor newState rest => exact hfits.1
  omega

theorem pull_ready (h : Ready recording config p) {rest : List ReplayFrame}
    (hphase : p.phase = some (.top rest)) : Ready recording config (p.pull rest) := by
  have hposition := position_of_phase hphase rfl
  cases rest with
  | nil => exact h.finishStopped
  | cons frame rest =>
    rw [pull]
    by_cases hstop : p.stopEvent
    · rw [if_pos hstop]
      exact h.finishStopped
    · rw [if_neg hstop]
      exact h.goto hposition rfl fun hstrict => h.ahead hstrict (.top (frame :: rest)) hphase

theorem pass_ready (h : Ready recording config p) {frame : ReplayFrame} {rest : List ReplayFrame}
    (hphase : p.phase = some (.gated frame rest)) : Ready recording config (p.pass frame rest) := by
  have hposition := position_of_phase hphase rfl
  rw [pass]
  by_cases hstop : p.stopEvent
  · rw [if_pos hstop]
    exact h.finishStopped
  · rw [if_neg hstop]
    exact h.goto hposition rfl fun hstrict => h.ahead hstrict (.gated frame rest) hphase

theorem dispatch_ready (hkept : Kept recording p) (h : Ready recording config p)
    {frame : ReplayFrame} {rest : List ReplayFrame} {now : Int}
    (hphase : p.phase = some (.timed frame rest)) :
    Ready recording config (p.dispatch recording.registry config frame rest now) := by
  have hposition := position_of_phase hphase rfl
  rw [dispatch]
  by_cases hstop : p.stopEvent
  · rw [if_pos hstop]
    exact h.finishStopped
  rw [if_neg hstop]
  have hopen : p.stopEvent = false := by simpa using hstop
  have hfollows : recording.Follows (frame :: rest) p.engine.cursor.lastSequence :=
    hkept.loop _ hphase hopen
  have hmem := hfollows.mem List.mem_cons_self
  have hguard := checkPreDispatch_eq_none_iff p.engine.cursor (recording.positive frame hmem)
  cases hcheck : checkPreDispatch frame p.engine.cursor with
  | some violation =>
    by_cases hstrict : config.enforceStrictOrdering
    · -- a strict loop holds frames ahead of the cursor only
      have hahead := h.ahead hstrict _ hphase hopen frame List.mem_cons_self
      rw [hposition] at hahead
      rw [hguard.mpr ⟨hahead, h.time frame hmem hahead⟩] at hcheck
      cases hcheck
    · simp only [hstrict]
      exact h.goto hposition rfl fun hstrict' => absurd hstrict' hstrict
  | none =>
    refine ⟨h.notFailed, h.time, ?_⟩
    rintro - _ ⟨rfl⟩ - f hf
    have hrest := hfollows.rest_eq
    exact (mem_after.mp (hrest ▸ hf)).2

theorem settle_ready
    (hmonotone : recording.frames.Pairwise fun f g => f.monotonicNs ≤ g.monotonicNs)
    (hkept : Kept recording p) (h : Ready recording config p) {frame : ReplayFrame}
    {newCursor : EngineCursor} {newState : VirtualRuntimeState} {rest : List ReplayFrame}
    (hphase : p.phase = some (.sinking frame newCursor newState rest)) :
    Ready recording config (p.settle config frame newCursor newState rest) := by
  obtain ⟨hmem, hnew, hseq, hns, hrest⟩ := hkept.loop _ hphase
  have hcheck : checkPostDispatch frame newState = none := hnew ▸ checkPostDispatch_of_mem hmem
  obtain ⟨-, hcursor, htime, -⟩ := commit_spec config p.engine newCursor newState
  rw [hseq] at hcursor
  rw [hns] at htime
  rw [settle, hcheck]
  dsimp only
  generalize commit config p.engine newCursor newState = engine at hcursor htime
  refine ⟨h.notFailed, fun f hf hahead => ?_, ?_⟩
  · dsimp only at hahead ⊢
    rw [hcursor] at hahead
    rw [htime]
    exact Recording.time_le hmonotone hmem hf hahead
  · rintro - _ ⟨rfl⟩ - f hf
    change engine.cursor.lastSequence < f.sequence
    rw [hcursor]
    exact (mem_after.mp (hrest ▸ hf)).2

theorem step_ready
    (hmonotone : recording.frames.Pairwise fun f g => f.monotonicNs ≤ g.monotonicNs)
    (hkept : Kept recording p) (h : Ready recording config p) {a : Action}
    (hsteady : Steady recording config p a)
    (hstep : step recording.session recording.registry config p a = some p') :
    Ready recording config p' := by
  cases stepped_of_step hstep with
  | play => exact play_ready h hsteady
  | stop now => exact stop_ready h now
  | pause now => exact ⟨h.notFailed, h.time, h.ahead⟩
  | resume now => exact ⟨h.notFailed, h.time, h.ahead⟩
  | seek t now => exact seek_ready hmonotone hkept h hsteady
  | pull hphase => exact pull_ready h hphase
  | pass hphase => exact pass_ready h hphase
  | dispatch now hphase => exact dispatch_ready hkept h hphase
  | settle hphase => exact settle_ready hmonotone hkept h hphase

theorem continuous_of_kept (hkept : Kept recording p) (hready : Ready recording config p) :
    Continuous recording config p where
  dispatched := hkept.dispatched
  boundary := fun hboundary => by rw [hkept.state, position_of_not_inSink hboundary]
  strict := fun _ => hready.notFailed

/-- In every run of calls that are `Steady`, over a recording whose timestamps do not
    decrease, playback is continuous in every state. -/
theorem playback_continuous (recording : Recording) (config : ReplayEngineConfig)
    (hmonotone : recording.frames.Pairwise fun f g => f.monotonicNs ≤ g.monotonicNs)
    (clock : ReplayClock) (capacity : ℕ+) {acts : List Action}
    (hall : AllSteps (step recording.session recording.registry config)
      (Steady recording config) (start clock capacity) acts) :
    AllStates (step recording.session recording.registry config)
      (Continuous recording config) (start clock capacity) acts := by
  have hinvariant : AllStates (step recording.session recording.registry config)
      (fun p => Kept recording p ∧ Ready recording config p) (start clock capacity) acts := by
    refine allStates_of_allSteps (fun p a p' hp hsteady hstep => ⟨?_, ?_⟩)
      ⟨start_kept clock capacity, start_ready clock capacity⟩ hall
    · exact step_kept hp.1 (hsteady.sound hp.1 hp.2) hstep
    · exact step_ready hmonotone hp.1 hp.2 hsteady hstep
  exact hinvariant.mono fun p hp => continuous_of_kept hp.1 hp.2

/-- A loop that dispatches the first frame, and a seek to where it stands. -/
theorem playback_continuous_after_dispatch :
    AllStates (step playedRecording.session playedRecording.registry {})
      (Continuous playedRecording {}) (start { wallAnchorNs := 0 } 32)
      [.play, .pull, .pass, .dispatch 5, .settle, .seek 1 6] := by
  refine playback_continuous playedRecording {} ?_ _ _ ?_
  · simp [Recording.frames, ReplaySession.frames, playedRecording, Recording.single,
      ReplayFrame.sample]
  · refine .cons rfl (fun _ _ => playedRecording.positive) (.cons rfl trivial ?_)
    refine .cons rfl trivial (.cons rfl trivial (.cons rfl trivial ?_))
    refine .cons rfl ⟨?_, ?_, ?_⟩ trivial
    · exact .inr playedRecording_restorable
    · intro _ f hf hnot
      rcases List.mem_cons.mp hf with rfl | hf
      · decide
      · exact absurd hf hnot
    · rintro - _ ⟨rfl⟩ - f hf
      rw [List.mem_singleton.mp hf]
      decide

/-- Playing again after a stop starts the loop over, while the cursor stays: the first
    frame is a duplicate, and a strict loop fails. -/
theorem play_again_fails :
    ∃ p, exec (step playedRecording.session playedRecording.registry {})
        (start { wallAnchorNs := 0 } 32)
        [.play, .pull, .pass, .dispatch 5, .settle, .stop 6, .pull, .play, .pull, .pass,
          .dispatch 7] = some p ∧
      ¬ Continuous playedRecording {} p := by
  -- the default configuration is strict, and the run evaluates to a failed player
  refine ⟨_, rfl, fun h => ?_⟩
  exact h.strict rfl rfl

end Player

end AsyncViz.Replay
