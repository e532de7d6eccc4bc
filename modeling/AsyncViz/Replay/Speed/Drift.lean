/-
  AsyncViz.Replay.Speed.Drift

  What `sample_drift` reports over whole runs of speed changes, pauses, resumes and seeks.

  The coordinator hears of speed changes and seeks, and not of the pauses of the clock behind
  it.  It supposes that the clock stood still since its anchor where the anchor or the clock is
  paused, and that it ran all along otherwise; `lead` is how far the exact time of the clock is
  ahead of that.  The drift is the lead up to the rounding of the anchors
  (`drift_close`), so it is small where the lead is.
-/

import AsyncViz.Replay.Control.ClockRuns
import AsyncViz.Replay.Speed.Dispatch

namespace AsyncViz.Replay.Speed

open AsyncViz.Lib.Transition AsyncViz.Replay.Control

/-- A dispatch and the wall time, and beside them the exact time of the clock since the
    coordinator's anchor. -/
structure SpeedRun where
  dispatch : SpeedDispatch
  now : Int
  reckoning : Reckoning

namespace SpeedRun

/-- The wall time that passes in an `apply_speed` between its four readings. -/
structure SubmitGaps where
  anchoredNs : Nat := 0
  shownNs : Nat := 0
  wallNs : Nat := 0

/-- The readings of a call that is made at `now`. -/
def SubmitGaps.times (gaps : SubmitGaps) (now : Int) : SpeedClockCoordinator.ApplyTimes where
  readAt := now
  anchoredAt := now + gaps.anchoredNs
  shownAt := now + gaps.anchoredNs + gaps.shownNs
  wallAt := now + gaps.anchoredNs + gaps.shownNs + gaps.wallNs

/-- Wall time passes, or a call is made.  A seek jumps the clock, and `gapNs` later it is
    followed by `refresh_clock_anchor_from_seek`; a sample reads the clock `gapNs` later than
    the wall clock. -/
inductive Action where
  | wait (ns : Nat)
  | submit (request : SpeedChangeRequest) (gaps : SubmitGaps)
  | pause
  | resume
  | seek (virtualNs : Int) (gapNs : Nat)
  | sampleDrift (gapNs : Nat)

/-- What the clock has counted since its own anchor and does not show yet. -/
def unshown (clock : ReplayClock) (now : Int) : ℚ :=
  if clock.paused then 0 else Int.fract (((now - clock.wallAnchorNs : Int) : ℚ) * clock.speed)

/-- The reckoning from an anchor that is read off the clock: the virtual time at `readAt`, and
    the wall time `gapNs` later. -/
def readOff (clock : ReplayClock) (readAt : Int) (gapNs anchorings : Nat) : Reckoning :=
  Reckoning.step
    { target := clock.currentVirtualNs readAt
      ran := unshown clock readAt
      speed := clock.speed
      running := !clock.paused
      anchorings := anchorings }
    (.wait gapNs)

/-- A new dispatch around a clock: two anchors, the coordinator's and the clock's own. -/
def start (config : ReplaySpeedConfig) (strictIntegrity : Bool) (clock : ReplayClock)
    (now : Int) (gapNs : Nat) : SpeedRun :=
  { dispatch := .new config strictIntegrity clock now (now + gapNs)
    now := now + gapNs
    reckoning := readOff clock now gapNs 2 }

variable (s : SpeedRun)

/-- The coordinator. -/
def coordinator : SpeedClockCoordinator := s.dispatch.clock

/-- A call to the clock behind the coordinator. -/
def withClock (clock : ReplayClock) : SpeedDispatch :=
  { s.dispatch with clock := { s.dispatch.clock with clock := clock } }

/-- One step. -/
def step : Action → Option SpeedRun
  | .wait ns => some { s with now := s.now + ns, reckoning := s.reckoning.step (.wait ns) }
  | .submit request gaps =>
    let times := gaps.times s.now
    let dispatch := (s.dispatch.submit request times).2
    if s.dispatch.Applies request then
      some
        { dispatch := dispatch
          now := times.wallAt
          reckoning := readOff dispatch.clock.clock times.shownAt gaps.wallNs 1 }
    else
      -- the clocks are not read
      some { s with dispatch := dispatch }
  | .pause =>
    some { s with
      dispatch := s.withClock (s.dispatch.clock.clock.pause s.now)
      reckoning := s.reckoning.step .pause }
  | .resume =>
    some { s with
      dispatch := s.withClock (s.dispatch.clock.clock.resume s.now)
      reckoning := s.reckoning.step .resume }
  | .seek virtualNs gapNs =>
    let jumped := s.withClock (s.dispatch.clock.clock.jumpTo virtualNs s.now)
    some
      { dispatch :=
          { jumped with clock := jumped.clock.reAnchorFromSeek virtualNs (s.now + gapNs) }
        now := s.now + gapNs
        reckoning := (s.reckoning.step (.jumpTo virtualNs)).step (.wait gapNs) }
  | .sampleDrift gapNs =>
    some { s with now := s.now + gapNs, reckoning := s.reckoning.step (.wait gapNs) }

/-! ## The lead -/

/-- The wall time for which the coordinator supposes that the clock has run since its
    anchor. -/
def supposedNs : Int :=
  if s.coordinator.anchor.paused || s.coordinator.clock.paused then 0
  else s.now - s.coordinator.anchor.wallNs

/-- How far the exact time of the clock, read `gapNs` from now, is ahead of what the
    coordinator supposes now. -/
def lead (gapNs : Nat) : ℚ :=
  (s.reckoning.step (.wait gapNs)).ran - s.supposedNs * s.coordinator.anchor.speed

/-- What `sample_drift` would report now, if it read the clock `gapNs` from now. -/
def driftNs (gapNs : Nat) : Int := (s.coordinator.sampleDrift s.now (s.now + gapNs)).driftNs

/-- The drift is less than one nanosecond for each anchor since the coordinator's, that one
    too. -/
def DriftSmall : Action → Prop
  | .sampleDrift gapNs => |s.driftNs gapNs| < s.reckoning.anchorings
  | _ => True

/-- The lead is none, or no more than what the anchors beside the coordinator's can account
    for. -/
def LeadFits : Action → Prop
  | .sampleDrift gapNs => 0 ≤ s.lead gapNs ∧ s.lead gapNs ≤ s.reckoning.anchorings - 1
  | _ => True

/-- The lead is within the anchors, on both sides and up to their rounding. -/
def LeadNear : Action → Prop
  | .sampleDrift gapNs =>
    -(s.reckoning.anchorings : ℚ) < s.lead gapNs ∧
      s.lead gapNs < 2 * s.reckoning.anchorings - 1
  | _ => True

/-- The reckoning is that of the clock since the coordinator's anchor. -/
structure Sound (s : SpeedRun) : Prop where
  tracks : Tracks s.coordinator.clock s.now s.reckoning
  speed : s.coordinator.anchor.speed = s.coordinator.clock.speed
  target : s.reckoning.target = s.coordinator.anchor.virtualNs
  wall : s.coordinator.anchor.wallNs ≤ s.now

variable {s} {s' : SpeedRun} {a : Action}

theorem target_wait (r : Reckoning) (ns : Nat) : (r.step (.wait ns)).target = r.target := by
  rw [Reckoning.step]
  split <;> rfl

theorem anchorings_wait (r : Reckoning) (ns : Nat) :
    (r.step (.wait ns)).anchorings = r.anchorings := by
  rw [Reckoning.step]
  split <;> rfl

/-- The expected time is the supposed one, rounded down. -/
theorem expected_close (h : Sound s) (observedAt : Int) :
    ((s.coordinator.sampleDrift s.now observedAt).expectedVirtualNs : ℚ) ≤
        s.coordinator.anchor.virtualNs + s.supposedNs * s.coordinator.anchor.speed ∧
      s.coordinator.anchor.virtualNs + s.supposedNs * s.coordinator.anchor.speed <
        (s.coordinator.sampleDrift s.now observedAt).expectedVirtualNs + 1 := by
  rw [supposedNs, SpeedClockCoordinator.sampleDrift]
  dsimp only
  by_cases hpaused : (s.coordinator.anchor.paused || s.coordinator.clock.paused) = true
  · rw [if_pos hpaused, if_pos hpaused]
    simp
  · have hmax : max 0 (s.now - s.coordinator.anchor.wallNs) =
        s.now - s.coordinator.anchor.wallNs := max_eq_right (sub_nonneg.mpr h.wall)
    rw [if_neg hpaused, if_neg hpaused, hmax, Int.cast_add]
    have hfloor := Int.floor_le
      (((s.now - s.coordinator.anchor.wallNs : Int) : ℚ) * s.coordinator.anchor.speed)
    have hlt := Int.lt_floor_add_one
      (((s.now - s.coordinator.anchor.wallNs : Int) : ℚ) * s.coordinator.anchor.speed)
    exact ⟨by linarith, by linarith⟩

/-- The drift is the lead, but for the rounding of the expected time and of the anchors. -/
theorem drift_close (h : Sound s) (gapNs : Nat) :
    (s.driftNs gapNs : ℚ) < s.lead gapNs + 1 ∧
      s.lead gapNs < s.driftNs gapNs + s.reckoning.anchorings := by
  -- the clock is read when the gap has passed, and by then it is that much further
  obtain ⟨hlow, hhigh⟩ := (h.tracks.wait gapNs).close
  obtain ⟨helow, hehigh⟩ := expected_close h (s.now + gapNs)
  have hkept : (s.reckoning.step (.wait gapNs)).kept =
      s.coordinator.anchor.virtualNs + (s.reckoning.step (.wait gapNs)).ran := by
    rw [Reckoning.kept, target_wait, h.target]
  have hdrift : (s.driftNs gapNs : ℚ) = s.coordinator.clock.currentVirtualNs (s.now + gapNs) -
      (s.coordinator.sampleDrift s.now (s.now + gapNs)).expectedVirtualNs := by
    rw [← Int.cast_sub]
    rfl
  rw [hkept] at hlow hhigh
  rw [anchorings_wait] at hhigh
  rw [hdrift, lead]
  exact ⟨by linarith, by linarith⟩

/-- A lead that fits shows as a small drift. -/
theorem driftSmall_of_leadFits (h : Sound s) (hfits : s.LeadFits a) : s.DriftSmall a := by
  cases a with
  | sampleDrift gapNs =>
    obtain ⟨hlow, hhigh⟩ := drift_close h gapNs
    have hbelow : -(s.reckoning.anchorings : ℚ) < s.driftNs gapNs := by linarith [hfits.1]
    have habove : (s.driftNs gapNs : ℚ) < s.reckoning.anchorings := by linarith [hfits.2]
    exact abs_lt.mpr ⟨by exact_mod_cast hbelow, by exact_mod_cast habove⟩
  | wait | submit | pause | resume | seek => trivial

/-- And only a lead that is near does. -/
theorem leadNear_of_driftSmall (h : Sound s) (hsmall : s.DriftSmall a) : s.LeadNear a := by
  cases a with
  | sampleDrift gapNs =>
    obtain ⟨hlow, hhigh⟩ := drift_close h gapNs
    obtain ⟨hbelow, habove⟩ := abs_lt.mp hsmall
    -- whole nanoseconds: at most one less than the count, on either side
    have hleast : 1 - (s.reckoning.anchorings : ℚ) ≤ s.driftNs gapNs := by
      have hint : 1 - (s.reckoning.anchorings : Int) ≤ s.driftNs gapNs := by omega
      exact_mod_cast hint
    have hmost : (s.driftNs gapNs : ℚ) ≤ s.reckoning.anchorings - 1 := by
      have hint : s.driftNs gapNs ≤ (s.reckoning.anchorings : Int) - 1 := by omega
      exact_mod_cast hint
    exact ⟨by linarith, by linarith⟩
  | wait | submit | pause | resume | seek => trivial

/-! ## What the steps keep -/

/-- The reckoning from an anchor tracks the clock that it is read off: what this has counted
    and does not show is less than one nanosecond. -/
theorem tracks_readOff {clock : ReplayClock} {readAt : Int} (hspeed : 0 < clock.speed)
    (hwall : clock.wallAnchorNs ≤ readAt) (gapNs : Nat) {anchorings : Nat}
    (hcount : 1 ≤ anchorings) :
    Tracks clock (readAt + gapNs) (readOff clock readAt gapNs anchorings) := by
  refine Tracks.wait ?_ gapNs
  have hone : (1 : ℚ) ≤ anchorings := by exact_mod_cast hcount
  refine ⟨rfl, hspeed, (Bool.not_not _).symm, hwall, hcount, fun hrunning => ?_,
    fun virtualNs hheld => ?_⟩
  · refine ⟨clock.virtualAnchorNs, ?_, le_refl _, ?_⟩
    · have hmax : max 0 (readAt - clock.wallAnchorNs) = readAt - clock.wallAnchorNs :=
        max_eq_right (sub_nonneg.mpr hwall)
      show ((clock.currentVirtualNs readAt : Int) : ℚ) + unshown clock readAt = _
      rw [unshown, if_neg (by rw [hrunning]; exact Bool.false_ne_true)]
      rw [ReplayClock.currentVirtualNs_running hrunning, hmax, Int.cast_add]
      have hsplit := Int.floor_add_fract (((readAt - clock.wallAnchorNs : Int) : ℚ) * clock.speed)
      linarith
    · show (clock.virtualAnchorNs : ℚ) + 1 ≤ clock.virtualAnchorNs + (anchorings : ℚ)
      linarith
  · have hpaused : clock.paused = true := by
      rw [ReplayClock.paused, Option.mem_def.mp hheld]
      rfl
    show ((clock.currentVirtualNs readAt : Int) : ℚ) + unshown clock readAt ≥ virtualNs ∧
      ((clock.currentVirtualNs readAt : Int) : ℚ) + unshown clock readAt
        < virtualNs + (anchorings : ℚ)
    rw [unshown, if_pos hpaused, ReplayClock.currentVirtualNs_paused hheld, add_zero]
    exact ⟨le_refl _, by linarith⟩

/-- A clock that is anchored now shows all that it has counted. -/
theorem unshown_anchored {clock : ReplayClock} {now : Int} (hwall : clock.wallAnchorNs = now) :
    unshown clock now = 0 := by
  rw [unshown, hwall, sub_self]
  simp

/-- So it is sound where the coordinator has just read its anchor. -/
theorem sound_readOff {clock : ReplayClock} {readAt : Int} {gapNs anchorings : Nat}
    (hspeed : 0 < clock.speed) (hwall : clock.wallAnchorNs ≤ readAt) (hcount : 1 ≤ anchorings)
    (hcoordinator : s.coordinator =
      { clock := clock, anchor := SpeedClockCoordinator.anchorOf clock readAt (readAt + gapNs) })
    (hnow : s.now = readAt + gapNs)
    (hreckoning : s.reckoning = readOff clock readAt gapNs anchorings) : Sound s where
  tracks := by
    rw [hcoordinator, hnow, hreckoning]
    exact tracks_readOff hspeed hwall gapNs hcount
  speed := by rw [hcoordinator]; rfl
  target := by
    rw [hcoordinator, hreckoning]
    exact target_wait _ gapNs
  wall := by
    rw [hcoordinator, hnow]
    exact le_refl _

theorem sound_start (config : ReplaySpeedConfig) (strictIntegrity : Bool) {clock : ReplayClock}
    {now : Int} (hspeed : 0 < clock.speed) (hwall : clock.wallAnchorNs ≤ now) (gapNs : Nat) :
    Sound (start config strictIntegrity clock now gapNs) :=
  sound_readOff hspeed hwall one_le_two rfl rfl rfl

/-- The clock of a speed change is anchored at its second reading. -/
theorem setSpeed_spec {clock clock' : ReplayClock} {speed : ℚ} {readAt anchoredAt : Int}
    (h : clock.setSpeed speed readAt anchoredAt = some clock') :
    clock'.speed = speed ∧ clock'.wallAnchorNs = anchoredAt ∧
      clock'.paused = clock.paused := by
  rw [ReplayClock.setSpeed] at h
  split at h
  · cases h
  · rw [← Option.some.inj h]
    exact ⟨rfl, rfl, Option.isSome_map⟩

theorem speed_pause (clock : ReplayClock) (now : Int) : (clock.pause now).speed = clock.speed := by
  rw [ReplayClock.pause]
  split <;> rfl

theorem speed_resume (clock : ReplayClock) (now : Int) :
    (clock.resume now).speed = clock.speed := by
  rw [ReplayClock.resume]
  split <;> rfl

/-- Pausing and resuming leave the target of the reckoning alone. -/
theorem target_resume (r : Reckoning) : (r.step .resume).target = r.target := by
  rw [Reckoning.step]
  split <;> rfl

/-- A request that does not get to the clock leaves all alone but the dispatch. -/
theorem submit_of_not_applies {request : SpeedChangeRequest} {gaps : SubmitGaps}
    (h : ¬ s.dispatch.Applies request) (hstep : s.step (.submit request gaps) = some s') :
    s'.coordinator = s.coordinator ∧ s'.now = s.now ∧ s'.reckoning = s.reckoning := by
  have hclock := SpeedDispatch.submit_clock_of_not_applies h (gaps.times s.now)
  rw [step, if_neg h] at hstep
  obtain rfl := Option.some.inj hstep
  exact ⟨hclock, rfl, rfl⟩

/-- One that does leaves an anchor that is read off the clock at the new speed. -/
theorem submit_of_applies {request : SpeedChangeRequest} {gaps : SubmitGaps}
    (h : s.dispatch.Applies request) (hstep : s.step (.submit request gaps) = some s') :
    ∃ clock, 0 < clock.speed ∧ clock.wallAnchorNs = (gaps.times s.now).anchoredAt ∧
      clock.paused = s.coordinator.clock.paused ∧
      s'.coordinator =
        { clock := clock
          anchor := SpeedClockCoordinator.anchorOf clock (gaps.times s.now).shownAt
            ((gaps.times s.now).shownAt + gaps.wallNs) } ∧
      s'.now = (gaps.times s.now).shownAt + gaps.wallNs ∧
      s'.reckoning = readOff clock (gaps.times s.now).shownAt gaps.wallNs 1 := by
  obtain ⟨speed, clock, hpos, hclock, hcoordinator⟩ :=
    SpeedDispatch.submit_clock_of_applies h (gaps.times s.now)
  obtain ⟨hspeed, hwall, hpaused⟩ := setSpeed_spec hclock
  rw [step, if_pos h] at hstep
  obtain rfl := Option.some.inj hstep
  refine ⟨clock, hspeed ▸ hpos, hwall, hpaused, hcoordinator, rfl, ?_⟩
  dsimp only
  rw [hcoordinator]

/-- The reckoning starts anew with every anchor of the coordinator, and with no other call. -/
theorem sound_step (h : Sound s) (hstep : s.step a = some s') : Sound s' := by
  cases a with
  | wait ns =>
    obtain rfl := Option.some.inj hstep
    refine ⟨h.tracks.wait ns, h.speed, (target_wait _ ns).trans h.target, ?_⟩
    exact h.wall.trans (Int.le_add_of_nonneg_right (Int.natCast_nonneg ns))
  | submit request gaps =>
    by_cases happlies : s.dispatch.Applies request
    · obtain ⟨clock, hspeed, hwall, -, hcoordinator, hnow, hreckoning⟩ :=
        submit_of_applies happlies hstep
      have hshown : clock.wallAnchorNs ≤ (gaps.times s.now).shownAt :=
        hwall.trans_le (Int.le_add_of_nonneg_right (Int.natCast_nonneg gaps.shownNs))
      exact sound_readOff hspeed hshown (le_refl 1) hcoordinator hnow hreckoning
    · obtain ⟨hcoordinator, hnow, hreckoning⟩ := submit_of_not_applies happlies hstep
      refine ⟨?_, ?_, ?_, ?_⟩
      · rw [hcoordinator, hnow, hreckoning]
        exact h.tracks
      · rw [hcoordinator]
        exact h.speed
      · rw [hcoordinator, hreckoning]
        exact h.target
      · rw [hcoordinator, hnow]
        exact h.wall
  | pause =>
    obtain rfl := Option.some.inj hstep
    exact ⟨h.tracks.pause, h.speed.trans (speed_pause _ _).symm, h.target, h.wall⟩
  | resume =>
    obtain rfl := Option.some.inj hstep
    exact ⟨h.tracks.resume, h.speed.trans (speed_resume _ _).symm,
      (target_resume _).trans h.target, h.wall⟩
  | seek virtualNs gapNs =>
    obtain rfl := Option.some.inj hstep
    exact ⟨(h.tracks.jumpTo virtualNs).wait gapNs, rfl, target_wait _ gapNs, le_refl _⟩
  | sampleDrift gapNs =>
    obtain rfl := Option.some.inj hstep
    refine ⟨h.tracks.wait gapNs, h.speed, (target_wait _ gapNs).trans h.target, ?_⟩
    exact h.wall.trans (Int.le_add_of_nonneg_right (Int.natCast_nonneg gapNs))

/-! ## Whole runs -/

/-- In every run whose samples find a lead that fits, every sample reports a drift of less than
    one nanosecond for each anchor; in any run, no sample does whose lead is not near. -/
theorem driftSmall_of_leadFits_run (config : ReplaySpeedConfig) (strictIntegrity : Bool)
    (clock : ReplayClock) (now : Int) (gapNs : Nat) (hspeed : 0 < clock.speed)
    (hwall : clock.wallAnchorNs ≤ now) (acts : List Action) :
    (AllSteps step LeadFits (start config strictIntegrity clock now gapNs) acts →
      AllSteps step DriftSmall (start config strictIntegrity clock now gapNs) acts) ∧
    AllSteps step (fun s a => s.DriftSmall a → s.LeadNear a)
      (start config strictIntegrity clock now gapNs) acts := by
  have hstart := sound_start config strictIntegrity hspeed hwall gapNs
  have hkeep : ∀ s a s', Sound s → step s a = some s' → Sound s' := fun _ _ _ => sound_step
  constructor
  · intro hfits
    refine allSteps_of_keep (K := Sound) (fun s a h hfit => ?_) (fun s a s' h _ => hkeep s a s' h)
      hstart hfits
    exact driftSmall_of_leadFits h hfit
  · refine allSteps_of_keep (K := Sound) (R := fun _ _ => True) (fun s a h _ hsmall => ?_)
      (fun s a s' h _ => hkeep s a s' h) hstart allSteps_true
    exact leadNear_of_driftSmall h hsmall

/-! ## Without pauses -/

/-- The clock is not paused, a seek is refreshed at once, and no wall time passes between the
    readings of one call. -/
def Plain (_ : SpeedRun) : Action → Prop
  | .pause => False
  | .seek _ gapNs | .sampleDrift gapNs => gapNs = 0
  | .submit _ gaps => gaps.shownNs = 0 ∧ gaps.wallNs = 0
  | _ => True

/-- The clock has been running since the anchor, as the coordinator supposes. -/
structure Runs (s : SpeedRun) : Prop where
  sound : Sound s
  anchored : s.coordinator.anchor.paused = false
  running : s.coordinator.clock.paused = false
  lead_nonneg : 0 ≤ s.lead 0
  lead_le : s.lead 0 ≤ s.reckoning.anchorings - 1

theorem step_wait_zero (r : Reckoning) : r.step (.wait 0) = r := by
  rw [Reckoning.step, Nat.cast_zero, zero_mul, add_zero, ite_self]

/-- The lead right at an anchor: what the clock has run since. -/
theorem lead_eq_ran (h : s.now = s.coordinator.anchor.wallNs) : s.lead 0 = s.reckoning.ran := by
  have hzero : s.supposedNs = 0 := by
    rw [supposedNs, h, sub_self, ite_self]
  rw [lead, hzero, Int.cast_zero, zero_mul, sub_zero, step_wait_zero]

theorem runs_start (config : ReplaySpeedConfig) (strictIntegrity : Bool) {clock : ReplayClock}
    {now : Int} (hspeed : 0 < clock.speed) (hwall : clock.wallAnchorNs ≤ now)
    (hrunning : clock.paused = false) : Runs (start config strictIntegrity clock now 0) := by
  have hlead : (start config strictIntegrity clock now 0).lead 0 = unshown clock now := by
    rw [lead_eq_ran rfl]
    show (readOff clock now 0 2).ran = _
    rw [readOff, step_wait_zero]
  have hcount : (start config strictIntegrity clock now 0).reckoning.anchorings = 2 :=
    anchorings_wait _ 0
  refine ⟨sound_start config strictIntegrity hspeed hwall 0, hrunning, hrunning, ?_, ?_⟩
  · rw [hlead, unshown, if_neg (by rw [hrunning]; exact Bool.false_ne_true)]
    exact Int.fract_nonneg _
  · rw [hlead, hcount, unshown, if_neg (by rw [hrunning]; exact Bool.false_ne_true)]
    have hlt := Int.fract_lt_one (((now - clock.wallAnchorNs : Int) : ℚ) * clock.speed)
    have htwo : (((2 : Nat) : ℚ) - 1) = 1 := by norm_num
    exact hlt.le.trans htwo.ge

/-- Waiting keeps the lead: the clock and what is supposed of it go on together. -/
theorem lead_wait (h : Runs s) (ns : Nat) {s' : SpeedRun} (hstep : s.step (.wait ns) = some s') :
    s'.lead 0 = s.lead 0 := by
  obtain rfl := Option.some.inj hstep
  have hrunning : s.reckoning.running = true := by
    have htracks := h.sound.tracks.running
    rw [h.running] at htracks
    cases hr : s.reckoning.running with
    | true => rfl
    | false =>
      rw [hr] at htracks
      cases htracks
  have hspeed : s.coordinator.anchor.speed = s.reckoning.speed :=
    h.sound.speed.trans h.sound.tracks.speed
  have hsupposed : ∀ now, supposedNs { s with now := now } =
      now - s.coordinator.anchor.wallNs := by
    intro now
    rw [supposedNs]
    refine if_neg ?_
    show ¬ (s.coordinator.anchor.paused || s.coordinator.clock.paused) = true
    rw [h.anchored, h.running]
    exact Bool.false_ne_true
  have hnow := hsupposed s.now
  have hlater := hsupposed (s.now + ns)
  rw [lead, lead, step_wait_zero, step_wait_zero]
  show (s.reckoning.step (.wait ns)).ran - ((supposedNs { s with now := s.now + ns } : Int) : ℚ) *
      s.coordinator.anchor.speed = s.reckoning.ran - (s.supposedNs : ℚ) * s.coordinator.anchor.speed
  rw [Reckoning.step, if_pos hrunning, hlater, hnow, hspeed]
  push_cast
  ring

/-- So is a clock that runs on from an anchor of now. -/
theorem runs_of_anchored (hsound : Sound s) (hanchored : s.coordinator.anchor.paused = false)
    (hrunning : s.coordinator.clock.paused = false) (hnow : s.now = s.coordinator.anchor.wallNs)
    (hran : s.reckoning.ran = 0) (hcount : s.reckoning.anchorings = 1) : Runs s := by
  have hlead := lead_eq_ran hnow
  rw [hran] at hlead
  refine ⟨hsound, hanchored, hrunning, hlead.ge, ?_⟩
  rw [hlead, hcount]
  norm_num

/-- And one whose coordinator and reckoning are those of one that runs. -/
theorem Runs.of_coordinator (h : Runs s) (hsound : Sound s')
    (hcoordinator : s'.coordinator = s.coordinator) (hnow : s'.now = s.now)
    (hreckoning : s'.reckoning = s.reckoning) : Runs s' := by
  have hlead : s'.lead 0 = s.lead 0 := by
    rw [lead, lead, supposedNs, supposedNs, hcoordinator, hnow, hreckoning]
  refine ⟨hsound, hcoordinator ▸ h.anchored, hcoordinator ▸ h.running, ?_, ?_⟩
  · rw [hlead]
    exact h.lead_nonneg
  · rw [hlead, hreckoning]
    exact h.lead_le

/-- Every step without a pause keeps the clock running as supposed. -/
theorem runs_step (h : Runs s) (hplain : s.Plain a) (hstep : s.step a = some s') : Runs s' := by
  have hsound := sound_step h.sound hstep
  cases a with
  | wait ns =>
    have hlead := lead_wait h ns hstep
    obtain rfl := Option.some.inj hstep
    refine ⟨hsound, h.anchored, h.running, hlead ▸ h.lead_nonneg, ?_⟩
    rw [hlead]
    show s.lead 0 ≤ ((s.reckoning.step (.wait ns)).anchorings : ℚ) - 1
    rw [anchorings_wait]
    exact h.lead_le
  | submit request gaps =>
    by_cases happlies : s.dispatch.Applies request
    · obtain ⟨clock, -, hwall, hpaused, hcoordinator, hnow, hreckoning⟩ :=
        submit_of_applies happlies hstep
      have hrunning : clock.paused = false := hpaused.trans h.running
      obtain ⟨hshown, hzero⟩ : gaps.shownNs = 0 ∧ gaps.wallNs = 0 := hplain
      have hanchored : clock.wallAnchorNs = (gaps.times s.now).shownAt := by
        rw [hwall, SubmitGaps.times, hshown, Nat.cast_zero, add_zero]
      rw [hzero] at hreckoning
      -- the anchor is read where the clock is anchored, and nothing has run since
      refine runs_of_anchored hsound ?_ ?_ ?_ ?_ ?_
      · exact (congrArg (fun c => c.anchor.paused) hcoordinator).trans hrunning
      · exact (congrArg (fun c => c.clock.paused) hcoordinator).trans hrunning
      · exact hnow.trans (congrArg (fun c => c.anchor.wallNs) hcoordinator).symm
      · rw [hreckoning, readOff, step_wait_zero]
        exact unshown_anchored hanchored
      · rw [hreckoning]
        exact anchorings_wait _ 0
    · obtain ⟨hcoordinator, hnow, hreckoning⟩ := submit_of_not_applies happlies hstep
      exact h.of_coordinator hsound hcoordinator hnow hreckoning
  | pause => exact hplain.elim
  | resume =>
    have hnone : s.coordinator.clock.pausedVirtualNs = none :=
      Option.isNone_iff_eq_none.mp (Option.isSome_eq_false_iff.mp h.running)
    obtain rfl := Option.some.inj hstep
    refine h.of_coordinator hsound ?_ rfl ?_
    · show { s.coordinator with clock := s.coordinator.clock.resume s.now } = s.coordinator
      rw [ReplayClock.resume, hnone]
    · exact if_pos (h.sound.tracks.running_iff.mpr hnone)
  | seek virtualNs gapNs =>
    obtain rfl := Option.some.inj hstep
    obtain rfl : gapNs = 0 := hplain
    have hrunning : (s.coordinator.clock.jumpTo virtualNs s.now).paused = false :=
      Option.isSome_map.trans h.running
    refine runs_of_anchored hsound hrunning hrunning rfl ?_ ?_
    · show ((s.reckoning.step (.jumpTo virtualNs)).step (.wait 0)).ran = 0
      rw [step_wait_zero]
      rfl
    · show ((s.reckoning.step (.jumpTo virtualNs)).step (.wait 0)).anchorings = 1
      rw [step_wait_zero]
      rfl
  | sampleDrift gapNs =>
    obtain rfl := Option.some.inj hstep
    obtain rfl : gapNs = 0 := hplain
    exact h.of_coordinator hsound rfl (by simp) (step_wait_zero _)

/-- From a running clock, speed changes and seeks that are refreshed at once let every lead
    fit, whatever wall time passes between the calls: only pauses, late refreshes and what
    passes inside of a call are not heard of. -/
theorem leadFits_of_plain (config : ReplaySpeedConfig) (strictIntegrity : Bool)
    {clock : ReplayClock} {now : Int} (hspeed : 0 < clock.speed) (hwall : clock.wallAnchorNs ≤ now)
    (hrunning : clock.paused = false) {acts : List Action}
    (hplain : AllSteps step Plain (start config strictIntegrity clock now 0) acts) :
    AllSteps step LeadFits (start config strictIntegrity clock now 0) acts := by
  refine allSteps_of_keep (K := Runs) (fun s a h hplain => ?_)
    (fun s a s' h hplain hstep => runs_step h hplain hstep)
    (runs_start config strictIntegrity hspeed hwall hrunning) hplain
  cases a with
  | sampleDrift gapNs =>
    obtain rfl : gapNs = 0 := hplain
    exact ⟨h.lead_nonneg, h.lead_le⟩
  | wait | submit | pause | resume | seek => trivial

instance decidableDriftSmall : ∀ (s : SpeedRun) (a : Action), Decidable (s.DriftSmall a)
  | s, .sampleDrift gapNs =>
    inferInstanceAs (Decidable (|s.driftNs gapNs| < (s.reckoning.anchorings : Int)))
  | _, .wait _ | _, .submit _ _ | _, .pause | _, .resume | _, .seek _ _ => .isTrue trivial

instance decidableLeadFits : ∀ (s : SpeedRun) (a : Action), Decidable (s.LeadFits a)
  | s, .sampleDrift gapNs =>
    inferInstanceAs (Decidable (0 ≤ s.lead gapNs ∧
      s.lead gapNs ≤ (s.reckoning.anchorings : ℚ) - 1))
  | _, .wait _ | _, .submit _ _ | _, .pause | _, .resume | _, .seek _ _ => .isTrue trivial

/-- A clock that has been running for 5 ns when its dispatch is made. -/
private def runningStart : SpeedRun := start .default false { wallAnchorNs := 0 } 5 0

/-- Samples while the clock runs on, behind a speed change that takes its time before it reads
    its anchor, behind a seek, and in a pause at the time of the anchor. -/
private def sampledActs : List Action :=
  [.wait 10, .sampleDrift 0, .submit { requestId := 1, targetSpeed := 2 } { anchoredNs := 300 },
    .wait 7, .sampleDrift 0, .seek 1000 0, .wait 3, .sampleDrift 0,
    .submit { requestId := 2, targetSpeed := 1 / 3 } {}, .pause, .wait 9, .sampleDrift 20]

theorem driftSmall_of_leadFits_run_sampled : AllSteps step DriftSmall runningStart sampledActs := by
  refine (driftSmall_of_leadFits_run .default false { wallAnchorNs := 0 } 5 0 (by decide +kernel)
    (by decide +kernel) sampledActs).1 ?_
  decide +kernel

/-- A second passes in front of a pause, in a pause, or behind a speed change that is made in a
    pause: in each case the sample reports a second of drift, and two at the speed of two.  And
    where nothing is paused, a sample reports the wall time between its own two readings. -/
theorem not_driftSmall_of_pause :
    ¬ AllSteps step DriftSmall runningStart [.wait 1000000000, .pause, .sampleDrift 0] ∧
    ¬ AllSteps step DriftSmall runningStart [.pause, .wait 1000000000, .resume, .sampleDrift 0] ∧
    ¬ AllSteps step DriftSmall runningStart
      [.pause, .submit { requestId := 1, targetSpeed := 2 } {}, .resume, .wait 1000000000,
        .sampleDrift 0] ∧
    ¬ AllSteps step DriftSmall runningStart [.sampleDrift 1000] := by
  refine ⟨?_, ?_, ?_, ?_⟩
  · decide +kernel
  · decide +kernel
  · decide +kernel
  · decide +kernel

end SpeedRun

end AsyncViz.Replay.Speed
