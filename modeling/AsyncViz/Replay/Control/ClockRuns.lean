/-
  AsyncViz.Replay.Control.ClockRuns

  What the replay clock shows over whole runs of calls (`replay/runtime/replay_clock.py`,
  `control/replay_clock_coordination.py`), to the clock itself or by way of its coordinator.

  The clock shows whole nanoseconds and takes over what it shows whenever it is paused or
  anchored anew, so that each of these may lose a part of one.  A change of speed reads the
  wall clock twice, and a running clock loses what passes in between.  `Reckoning` adds up
  the exact time beside it; `tracks_step` says that the clock never goes ahead of it, and
  that, but for what was lost so, it stays behind by less than one nanosecond for every
  anchor since the last jump.
-/

import AsyncViz.Lib.Transition
import AsyncViz.Replay.Control.Models
import AsyncViz.Replay.PlaybackLoop

namespace AsyncViz.Replay

/-! ## Single calls -/

namespace ReplayClock

variable {clock : ReplayClock}

/-- A paused clock shows the time at which it was paused. -/
theorem currentVirtualNs_paused {virtualNs : Int} (h : clock.pausedVirtualNs = some virtualNs)
    (t : Int) : clock.currentVirtualNs t = virtualNs := by
  rw [currentVirtualNs, h]

theorem currentVirtualNs_pause (clock : ReplayClock) (now : Int) :
    (clock.pause now).currentVirtualNs now = clock.currentVirtualNs now := by
  rw [pause]
  split
  · rfl
  · exact currentVirtualNs_paused rfl now

theorem currentVirtualNs_resume (clock : ReplayClock) (now : Int) :
    (clock.resume now).currentVirtualNs now = clock.currentVirtualNs now := by
  rw [resume]
  split
  · rfl
  · rename_i virtualNs hpaused
    rw [currentVirtualNs_paused hpaused]
    -- the clock is anchored there, and no wall time has passed since
    simp [currentVirtualNs]

/-- What the clock shows at the first reading it shows again at the second. -/
theorem currentVirtualNs_setSpeed {clock' : ReplayClock} {speed : ℚ} {readAt anchoredAt : Int}
    (h : clock.setSpeed speed readAt anchoredAt = some clock') :
    clock'.currentVirtualNs anchoredAt = clock.currentVirtualNs readAt := by
  rw [setSpeed] at h
  split at h
  · cases h
  · rw [← Option.some.inj h]
    cases hpaused : clock.pausedVirtualNs with
    | some virtualNs => exact currentVirtualNs_paused rfl anchoredAt
    | none =>
      dsimp only [Option.map_none]
      -- a clock that runs shows its new anchor, at which no wall time has passed yet
      rw [currentVirtualNs_running rfl]
      simp

end ReplayClock

namespace Control

open AsyncViz.Lib.Transition

/-! ## The coordinator -/

namespace ClockCoordinator

/-- `clock.jump_to(virtual_ns)`. -/
def jumpTo (coordinator : ClockCoordinator) (virtualNs now : Int) : ClockCoordinator :=
  { clock := coordinator.clock.jumpTo virtualNs now
    pauseState := coordinator.pauseState.map fun state =>
      { state with pausedAtVirtualNs := virtualNs } }

end ClockCoordinator

/-! ## Runs -/

/-- A speed that `set_speed` takes. -/
abbrev Speed := { speed : ℚ // 0 < speed }

/-- The clock in its coordinator, and the wall time. -/
structure ClockRun where
  coordinator : ClockCoordinator
  now : Int

namespace ClockRun

/-- Wall time passes, or a call is made: to the clock, or to the coordinator.  `gapNs` is the
    wall time between the two readings of a `set_speed`. -/
inductive Action where
  | wait (ns : Nat)
  | pause
  | resume
  | setSpeed (speed : Speed) (gapNs : Nat)
  | jumpTo (virtualNs : Int)
  | coordinatorPause
  | coordinatorResume
  | coordinatorJumpTo (virtualNs : Int)

namespace Action

/-- The clock jumps. -/
def jumps : Action → Bool
  | .jumpTo _ | .coordinatorJumpTo _ => true
  | _ => false

/-- The clock goes on. -/
def resumes : Action → Bool
  | .resume | .coordinatorResume => true
  | _ => false

/-- Wall time passes. -/
def waits : Action → Bool
  | .wait _ => true
  | _ => false

end Action

/-- A new clock, with the coordinator around it. -/
def start (clock : ReplayClock) (now : Int) : ClockRun :=
  { coordinator := { clock := clock }, now := now }

variable (s : ClockRun)

/-- The clock. -/
def clock : ReplayClock := s.coordinator.clock

/-- `current_virtual_ns()`, called now. -/
def virtualNs : Int := s.clock.currentVirtualNs s.now

/-- A call to the clock itself. -/
def withClock (clock : ReplayClock) : ClockRun :=
  { s with coordinator := { s.coordinator with clock := clock } }

/-- A call to the coordinator. -/
def withCoordinator (coordinator : ClockCoordinator) : ClockRun :=
  { s with coordinator := coordinator }

/-- One step; `none` where the call raises. -/
def step : Action → Option ClockRun
  | .wait ns => some { s with now := s.now + ns }
  | .pause => some (s.withClock (s.clock.pause s.now))
  | .resume => some (s.withClock (s.clock.resume s.now))
  | .setSpeed speed gapNs =>
    (s.clock.setSpeed speed s.now (s.now + gapNs)).map fun clock =>
      { s.withClock clock with now := s.now + gapNs }
  | .jumpTo virtualNs => some (s.withClock (s.clock.jumpTo virtualNs s.now))
  | .coordinatorPause => some (s.withCoordinator (s.coordinator.pause s.now))
  | .coordinatorResume => some (s.withCoordinator (s.coordinator.resume s.now))
  | .coordinatorJumpTo virtualNs =>
    some (s.withCoordinator (s.coordinator.jumpTo virtualNs s.now))

/-- What a step does to the clock and the time.  By way of the coordinator it does the same. -/
inductive Stepped (s : ClockRun) : Action → ReplayClock → Int → Prop
  | waited (ns : Nat) : Stepped s (.wait ns) s.clock (s.now + ns)
  | paused (a : Action) : a = .pause ∨ a = .coordinatorPause →
      Stepped s a (s.clock.pause s.now) s.now
  | resumed (a : Action) : a = .resume ∨ a = .coordinatorResume →
      Stepped s a (s.clock.resume s.now) s.now
  | sped (speed : Speed) (gapNs : Nat) (clock : ReplayClock) :
      s.clock.setSpeed speed s.now (s.now + gapNs) = some clock →
      Stepped s (.setSpeed speed gapNs) clock (s.now + gapNs)
  | jumped (a : Action) (virtualNs : Int) :
      a = .jumpTo virtualNs ∨ a = .coordinatorJumpTo virtualNs →
      Stepped s a (s.clock.jumpTo virtualNs s.now) s.now

variable {s} {s' : ClockRun} {a : Action}

theorem stepped_of_step (h : s.step a = some s') : Stepped s a s'.clock s'.now := by
  cases a with
  | wait ns =>
    rw [← Option.some.inj h]
    exact .waited ns
  | pause =>
    rw [← Option.some.inj h]
    exact .paused _ (.inl rfl)
  | resume =>
    rw [← Option.some.inj h]
    exact .resumed _ (.inl rfl)
  | setSpeed speed gapNs =>
    obtain ⟨clock, hclock, rfl⟩ := Option.map_eq_some_iff.mp h
    exact .sped speed gapNs clock hclock
  | jumpTo virtualNs =>
    rw [← Option.some.inj h]
    exact .jumped _ virtualNs (.inl rfl)
  | coordinatorPause =>
    rw [← Option.some.inj h]
    exact .paused _ (.inr rfl)
  | coordinatorResume =>
    rw [← Option.some.inj h]
    exact .resumed _ (.inr rfl)
  | coordinatorJumpTo virtualNs =>
    rw [← Option.some.inj h]
    exact .jumped _ virtualNs (.inr rfl)

/-- No call raises. -/
theorem step_isSome (s : ClockRun) (a : Action) : ∃ s', s.step a = some s' := by
  cases a with
  | setSpeed speed gapNs =>
    rw [step, ReplayClock.setSpeed, if_neg (not_le.mpr speed.2)]
    exact ⟨_, rfl⟩
  | _ => exact ⟨_, rfl⟩

/-- A call that is no jump leaves what the clock shows as it is. -/
theorem Stepped.continuous {clock : ReplayClock} {now : Int} (h : Stepped s a clock now)
    (hjump : a.jumps = false) (hwait : a.waits = false) :
    clock.currentVirtualNs now = s.virtualNs := by
  cases h with
  | waited ns => cases hwait
  | paused a ha => exact ReplayClock.currentVirtualNs_pause _ _
  | resumed a ha => exact ReplayClock.currentVirtualNs_resume _ _
  | sped speed gapNs clock hclock => exact ReplayClock.currentVirtualNs_setSpeed hclock
  | jumped a virtualNs ha => rcases ha with rfl | rfl <;> cases hjump

/-- A paused clock that does not go on stays paused, at the time that it shows. -/
theorem Stepped.constant {clock : ReplayClock} {now : Int} (h : Stepped s a clock now)
    (hpaused : s.clock.paused = true) (hjump : a.jumps = false) (hresume : a.resumes = false) :
    clock.paused = true ∧ clock.currentVirtualNs now = s.virtualNs := by
  obtain ⟨virtualNs, hvirtual⟩ := Option.isSome_iff_exists.mp hpaused
  cases h with
  | waited ns =>
    refine ⟨hpaused, ?_⟩
    rw [ClockRun.virtualNs, ReplayClock.currentVirtualNs_paused hvirtual,
      ReplayClock.currentVirtualNs_paused hvirtual]
  | paused a ha =>
    exact ⟨ReplayClock.paused_pause _, ReplayClock.currentVirtualNs_pause _ _⟩
  | resumed a ha => rcases ha with rfl | rfl <;> cases hresume
  | sped speed gapNs clock hclock =>
    refine ⟨?_, ReplayClock.currentVirtualNs_setSpeed hclock⟩
    rw [ReplayClock.setSpeed, if_neg (not_le.mpr speed.2)] at hclock
    rw [← Option.some.inj hclock, ReplayClock.paused, Option.isSome_map]
    exact hpaused
  | jumped a virtualNs ha => rcases ha with rfl | rfl <;> cases hjump

/-- What the clock shows does not go back but by a jump. -/
theorem Stepped.monotone {clock : ReplayClock} {now : Int} (h : Stepped s a clock now)
    (hspeed : 0 < s.clock.speed) (hjump : a.jumps = false) :
    s.virtualNs ≤ clock.currentVirtualNs now := by
  cases h with
  | waited ns =>
    cases hpaused : s.clock.paused with
    | true => exact ((Stepped.waited ns).constant hpaused rfl rfl).2.ge
    | false => exact ReplayClock.currentVirtualNs_mono hpaused hspeed (by omega)
  | paused a ha => exact (ReplayClock.currentVirtualNs_pause _ _).ge
  | resumed a ha => exact (ReplayClock.currentVirtualNs_resume _ _).ge
  | sped speed gapNs clock hclock => exact (ReplayClock.currentVirtualNs_setSpeed hclock).ge
  | jumped a virtualNs ha => rcases ha with rfl | rfl <;> cases hjump

end ClockRun

/-! ## The exact time -/

/-- The time that the clock is to show: the last time that it was set to, and what has passed
    while it ran since then, the wall time of each interval at its speed.  What passes inside a
    `set_speed` is counted apart, as `lost`.  `anchorings` counts how often the clock has been
    anchored since then, that one too. -/
structure Reckoning where
  target : Int
  ran : ℚ := 0
  lost : ℚ := 0
  speed : ℚ
  running : Bool := true
  anchorings : Nat := 1

namespace Reckoning

open ClockRun (Action)

variable (r : Reckoning)

/-- What the clock can know of. -/
def kept : ℚ := r.target + r.ran

/-- All the time that has passed. -/
def total : ℚ := r.kept + r.lost

def step : Action → Reckoning
  | .wait ns => if r.running then { r with ran := r.ran + ns * r.speed } else r
  | .pause | .coordinatorPause => { r with running := false }
  | .resume | .coordinatorResume =>
    -- a clock that runs ignores `resume`, and so is not anchored
    if r.running then r else { r with running := true, anchorings := r.anchorings + 1 }
  | .setSpeed speed gapNs =>
    { r with
      lost := if r.running then r.lost + gapNs * r.speed else r.lost
      speed := speed
      anchorings := r.anchorings + 1 }
  | .jumpTo virtualNs | .coordinatorJumpTo virtualNs =>
    { r with target := virtualNs, ran := 0, lost := 0, anchorings := 1 }

/-- From a new clock on. -/
def ofActions (initialVirtualNs : Int) (initialSpeed : Speed) (acts : List Action) : Reckoning :=
  acts.foldl step { target := initialVirtualNs, speed := initialSpeed }

end Reckoning

/-- How a clock stands to the time that it can know of: what it took over at its anchor, or at its
    pause, was not ahead of it, and behind by no more than the anchors before that account for. -/
structure Tracks (clock : ReplayClock) (now : Int) (r : Reckoning) : Prop where
  speed : clock.speed = r.speed
  positive : 0 < clock.speed
  running : clock.paused = !r.running
  anchored : clock.wallAnchorNs ≤ now
  counted : 1 ≤ r.anchorings
  since : clock.paused = false → ∃ base : ℚ,
    r.kept = base + ((now - clock.wallAnchorNs : Int) : ℚ) * clock.speed ∧
    (clock.virtualAnchorNs : ℚ) ≤ base ∧ base + 1 ≤ clock.virtualAnchorNs + r.anchorings
  held : ∀ virtualNs ∈ clock.pausedVirtualNs,
    (virtualNs : ℚ) ≤ r.kept ∧ r.kept < virtualNs + r.anchorings

namespace Tracks

variable {clock : ReplayClock} {now : Int} {r : Reckoning}

/-- The clock is not ahead, and behind by less than a nanosecond for each anchor. -/
theorem close (h : Tracks clock now r) :
    (clock.currentVirtualNs now : ℚ) ≤ r.kept ∧
      r.kept < clock.currentVirtualNs now + r.anchorings := by
  cases hpaused : clock.pausedVirtualNs with
  | some virtualNs =>
    rw [ReplayClock.currentVirtualNs_paused hpaused]
    exact h.held virtualNs hpaused
  | none =>
    have hrunning : clock.paused = false := by rw [ReplayClock.paused, hpaused]; rfl
    obtain ⟨base, htotal, hlow, hhigh⟩ := h.since hrunning
    have hmax : max 0 (now - clock.wallAnchorNs) = now - clock.wallAnchorNs :=
      max_eq_right (sub_nonneg.mpr h.anchored)
    -- the clock shows its anchor and the floor of what has passed since; the exact time, the base
    -- and the whole of it
    rw [ReplayClock.currentVirtualNs_running hrunning, hmax, Int.cast_add]
    have hfloor := Int.floor_le (((now - clock.wallAnchorNs : Int) : ℚ) * clock.speed)
    have hlt := Int.lt_floor_add_one (((now - clock.wallAnchorNs : Int) : ℚ) * clock.speed)
    exact ⟨by linarith, by linarith⟩

/-- The exact time goes on exactly while the clock does. -/
theorem running_iff (h : Tracks clock now r) :
    r.running = true ↔ clock.pausedVirtualNs = none := by
  have hrunning := h.running
  rw [ReplayClock.paused] at hrunning
  rw [← Option.isSome_eq_false_iff.trans Option.isNone_iff_eq_none, hrunning]
  cases r.running <;> simp

theorem new (initialVirtualNs : Int) (initialSpeed : Speed) (now : Int) :
    Tracks { wallAnchorNs := now, virtualAnchorNs := initialVirtualNs, speed := initialSpeed } now
      { target := initialVirtualNs, speed := initialSpeed } where
  speed := rfl
  positive := initialSpeed.2
  running := rfl
  anchored := le_refl now
  counted := le_refl 1
  since := fun _ => ⟨initialVirtualNs, by simp [Reckoning.kept], le_refl _, by simp⟩
  held := fun _ h => by cases h

theorem wait (h : Tracks clock now r) (ns : Nat) :
    Tracks clock (now + ns) (r.step (.wait ns)) := by
  have hlater : clock.wallAnchorNs ≤ now + ns := h.anchored.trans (by omega)
  cases hrunning : r.running with
  | false =>
    have hpaused : clock.paused = true := by rw [h.running, hrunning]; rfl
    rw [Reckoning.step, hrunning, if_neg Bool.false_ne_true]
    -- the exact time stands still, and so does the clock
    refine ⟨h.speed, h.positive, h.running, hlater, h.counted, fun hno => ?_, h.held⟩
    rw [hpaused] at hno
    cases hno
  | true =>
    have hpaused : clock.paused = false := by rw [h.running, hrunning]; rfl
    rw [Reckoning.step, if_pos hrunning]
    refine ⟨h.speed, h.positive, h.running, hlater, h.counted, fun _ => ?_,
      fun virtualNs hheld => ?_⟩
    · obtain ⟨base, htotal, hlow, hhigh⟩ := h.since hpaused
      -- both go on by the same wall time at the same speed, so the base stays
      refine ⟨base, ?_, hlow, hhigh⟩
      rw [Reckoning.kept] at htotal
      rw [Reckoning.kept, ← add_assoc, htotal, h.speed]
      push_cast
      ring
    · rw [ReplayClock.paused, hheld] at hpaused
      cases hpaused

theorem pause (h : Tracks clock now r) :
    Tracks (clock.pause now) now { r with running := false } := by
  have hclose := h.close
  rw [ReplayClock.pause]
  split
  · -- a second `pause` does nothing
    rename_i hpaused
    exact ⟨h.speed, h.positive, hpaused, h.anchored, h.counted,
      fun hno => absurd (hpaused.symm.trans hno) (by decide), h.held⟩
  · -- what the clock holds from here on is what it shows, which was close
    refine ⟨h.speed, h.positive, rfl, h.anchored, h.counted, fun hno => (by cases hno),
      fun virtualNs hheld => ?_⟩
    rw [← Option.some.inj hheld]
    exact hclose

/-- Anchored at what the clock shows: the time that it can know of goes on from there, also
    where the anchor comes later. -/
theorem anchor (h : Tracks clock now r) (anchoredAt : Int) (lost : ℚ) {speed : ℚ}
    (hspeed : 0 < speed) :
    Tracks
      { wallAnchorNs := anchoredAt, virtualAnchorNs := clock.currentVirtualNs now, speed := speed }
      anchoredAt
      { r with lost := lost, running := true, speed := speed, anchorings := r.anchorings + 1 } := by
  obtain ⟨hlow, hhigh⟩ := h.close
  refine ⟨rfl, hspeed, rfl, le_refl anchoredAt, Nat.le_add_left 1 _,
    fun _ => ⟨r.kept, ?_, hlow, ?_⟩, fun _ hheld => by cases hheld⟩
  · -- the base of the new anchor is the exact time; what the clock shows of it is taken over, so
    -- that one more anchor accounts for the part that is lost
    simp [Reckoning.kept]
  · push_cast
    linarith

theorem resume (h : Tracks clock now r) :
    Tracks (clock.resume now) now (r.step .resume) := by
  rw [ReplayClock.resume, Reckoning.step]
  cases hpaused : clock.pausedVirtualNs with
  | none =>
    rw [if_pos (h.running_iff.mpr hpaused)]
    exact h
  | some virtualNs =>
    -- a paused clock is anchored at what it holds, which is what it shows
    rw [if_neg (mt h.running_iff.mp (by simp [hpaused]))]
    have hanchor := h.anchor now r.lost h.positive
    rw [ReplayClock.currentVirtualNs_paused hpaused, h.speed] at hanchor
    rw [h.speed]
    exact hanchor

theorem setSpeed (h : Tracks clock now r) {speed : Speed} {gapNs : Nat} {clock' : ReplayClock}
    (hclock : clock.setSpeed speed now (now + gapNs) = some clock') :
    Tracks clock' (now + gapNs) (r.step (.setSpeed speed gapNs)) := by
  have hanchor := h.anchor (now + gapNs) (r.lost + gapNs * r.speed) speed.2
  obtain ⟨hlow, hhigh⟩ := h.close
  rw [ReplayClock.setSpeed, if_neg (not_le.mpr speed.2)] at hclock
  rw [← Option.some.inj hclock]
  cases hpaused : clock.pausedVirtualNs with
  | none =>
    have hrunning := h.running_iff.mpr hpaused
    rw [Reckoning.step, if_pos hrunning]
    rw [← hrunning] at hanchor
    exact hanchor
  | some virtualNs =>
    -- a paused clock takes the new speed too, and holds what it shows
    have hrunning := h.running
    rw [ReplayClock.paused, hpaused] at hrunning
    refine ⟨rfl, speed.2, hrunning, le_refl _, Nat.le_add_left 1 _, fun hno => (by cases hno),
      fun virtualNs' hheld => ?_⟩
    rw [← Option.some.inj hheld]
    refine ⟨hlow, ?_⟩
    change r.kept < _ + ((r.anchorings + 1 : Nat) : ℚ)
    push_cast
    linarith

theorem jumpTo (h : Tracks clock now r) (virtualNs : Int) :
    Tracks (clock.jumpTo virtualNs now) now (r.step (.jumpTo virtualNs)) := by
  have hpaused : (clock.jumpTo virtualNs now).paused = clock.paused := by
    rw [ReplayClock.paused, ReplayClock.jumpTo, Option.isSome_map, ReplayClock.paused]
  -- the exact time starts anew, and with it the count of the anchors
  refine ⟨h.speed, h.positive, hpaused.trans h.running, le_refl now, le_refl 1, fun _ =>
    ⟨virtualNs, ?_, le_refl _, ?_⟩, fun virtualNs' hheld => ?_⟩
  · simp [Reckoning.kept, Reckoning.step, ReplayClock.jumpTo]
  · simp [Reckoning.step, ReplayClock.jumpTo]
  · obtain ⟨old, -, rfl⟩ := Option.map_eq_some_iff.mp hheld
    simp [Reckoning.kept, Reckoning.step]

end Tracks

/-- Every step of the clock follows the reckoning. -/
theorem tracks_step {s s' : ClockRun} {a : ClockRun.Action} {r : Reckoning}
    (h : Tracks s.clock s.now r) (hstep : s.step a = some s') :
    Tracks s'.clock s'.now (r.step a) := by
  have hstepped := ClockRun.stepped_of_step hstep
  -- the action occurs in the reckoning only, so that the cases are those of `Stepped`
  generalize s'.clock = clock at hstepped ⊢
  generalize s'.now = now at hstepped ⊢
  cases hstepped with
  | waited ns => exact h.wait ns
  | paused a ha => rcases ha with rfl | rfl <;> exact h.pause
  | resumed a ha => rcases ha with rfl | rfl <;> exact h.resume
  | sped speed gapNs clock hclock => exact h.setSpeed hclock
  | jumped a virtualNs ha => rcases ha with rfl | rfl <;> exact h.jumpTo virtualNs

/-! ## Whole runs -/

namespace ClockRun

variable {s s' : ClockRun} {r : Reckoning}

theorem tracks_exec {acts : List Action} (h : Tracks s.clock s.now r)
    (hrun : exec step s acts = some s') : Tracks s'.clock s'.now (acts.foldl Reckoning.step r) := by
  -- by induction on the calls; the clock and the reckoning take every step together
  induction acts generalizing s r with
  | nil =>
    rw [← Option.some.inj hrun]
    exact h
  | cons a acts ih =>
    obtain ⟨mid, hmid, hrest⟩ := exec_cons_eq_some.mp hrun
    exact ih (tracks_step h hmid) hrest

/-- Between jumps the clock does not go back. -/
theorem monotone_exec {acts : List Action} (h : Tracks s.clock s.now r)
    (hjumps : ∀ a ∈ acts, a.jumps = false) (hrun : exec step s acts = some s') :
    s.virtualNs ≤ s'.virtualNs := by
  induction acts generalizing s r with
  | nil =>
    rw [← Option.some.inj hrun]
  | cons a acts ih =>
    obtain ⟨mid, hmid, hrest⟩ := exec_cons_eq_some.mp hrun
    have hfirst := (stepped_of_step hmid).monotone h.positive (hjumps a List.mem_cons_self)
    -- the positive speed that the step needs comes with the invariant
    exact hfirst.trans
      (ih (tracks_step h hmid) (fun b hb => hjumps b (List.mem_cons_of_mem _ hb)) hrest)

/-- Until it goes on or jumps, a paused clock shows one time. -/
theorem constant_exec {acts : List Action} (hpaused : s.clock.paused = true)
    (hacts : ∀ a ∈ acts, a.jumps = false ∧ a.resumes = false)
    (hrun : exec step s acts = some s') :
    s'.clock.paused = true ∧ s'.virtualNs = s.virtualNs :=
  exec_invariant_of_allSteps (P := fun _ a => a.jumps = false ∧ a.resumes = false)
    (I := fun t => t.clock.paused = true ∧ t.virtualNs = s.virtualNs)
    (fun _ _ _ ht ha hstep =>
      have hstays := (stepped_of_step hstep).constant ht.1 ha.1 ha.2
      ⟨hstays.1, hstays.2.trans ht.2⟩)
    ⟨hpaused, rfl⟩ (allSteps_of_forall_mem hacts) hrun

/-- What holds of the clock at one moment, and of all that can follow:
    * it shows the same before and after a call that is no jump
    * while it is paused it shows one time
    * between jumps it does not go back
    * after a jump it shows the time that it jumped to. -/
structure Continues (s : ClockRun) : Prop where
  continuous : ∀ a s', a.jumps = false → a.waits = false → s.step a = some s' →
    s'.virtualNs = s.virtualNs
  constant : s.clock.paused = true → ∀ acts s',
    (∀ a ∈ acts, a.jumps = false ∧ a.resumes = false) → exec step s acts = some s' →
      s'.virtualNs = s.virtualNs
  monotone : ∀ acts s', (∀ a ∈ acts, a.jumps = false) → exec step s acts = some s' →
    s.virtualNs ≤ s'.virtualNs
  lands : ∀ a virtualNs s', a = .jumpTo virtualNs ∨ a = .coordinatorJumpTo virtualNs →
    s.step a = some s' → s'.virtualNs = virtualNs

/-- And against the exact time `r`: the clock shows it, less than one nanosecond behind for
    each anchor. -/
structure KeepsTime (s : ClockRun) (r : Reckoning) : Prop extends Continues s where
  close : (s.virtualNs : ℚ) ≤ r.total ∧ r.total < s.virtualNs + r.anchorings

theorem lands_step {a : Action} {virtualNs : Int}
    (ha : a = .jumpTo virtualNs ∨ a = .coordinatorJumpTo virtualNs) (h : s.step a = some s') :
    s'.virtualNs = virtualNs := by
  rcases ha with rfl | rfl
  · rw [← Option.some.inj h]
    exact ReplayClock.currentVirtualNs_jumpTo _ _ _
  · rw [← Option.some.inj h]
    exact ReplayClock.currentVirtualNs_jumpTo _ _ _

theorem continues_of_tracks (h : Tracks s.clock s.now r) : Continues s where
  continuous := fun _ _ hjump hwait hstep => (stepped_of_step hstep).continuous hjump hwait
  constant := fun hpaused _ _ hacts hrun => (constant_exec hpaused hacts hrun).2
  monotone := fun _ _ hjumps hrun => monotone_exec h hjumps hrun
  lands := fun _ _ _ ha hstep => lands_step ha hstep

/-- Where nothing was lost between two readings the clock keeps time. -/
theorem keepsTime_of_tracks (h : Tracks s.clock s.now r) (hlost : r.lost = 0) :
    KeepsTime s r where
  toContinues := continues_of_tracks h
  close := by
    rw [Reckoning.total, hlost, add_zero]
    exact h.close

/-- What the clock shows leaves out all that was lost, so that this has to be less than what
    the anchors account for. -/
theorem lost_lt_of_keepsTime (h : Tracks s.clock s.now r) (hkeeps : KeepsTime s r) :
    r.lost < r.anchorings := by
  have hlow : (s.virtualNs : ℚ) ≤ r.kept := h.close.1
  have hhigh := hkeeps.close.2
  rw [Reckoning.total] at hhigh
  linarith

/-- A new clock at a positive speed takes every sequence of calls, with any wall time between
    them and inside of them, and goes on without a break.  It keeps time wherever no wall time
    has passed between the two readings of a `set_speed` on the running clock since the last
    jump, and nowhere where as much has passed as the anchors account for. -/
theorem keepsTime_of_new (initialVirtualNs : Int) (initialSpeed : Speed) (now : Int) :
    ∃ clock, ReplayClock.new initialVirtualNs initialSpeed now = some clock ∧
      ∀ acts, ∃ s, exec step (start clock now) acts = some s ∧ Continues s ∧
        ((Reckoning.ofActions initialVirtualNs initialSpeed acts).lost = 0 →
          KeepsTime s (Reckoning.ofActions initialVirtualNs initialSpeed acts)) ∧
        (KeepsTime s (Reckoning.ofActions initialVirtualNs initialSpeed acts) →
          (Reckoning.ofActions initialVirtualNs initialSpeed acts).lost <
            (Reckoning.ofActions initialVirtualNs initialSpeed acts).anchorings) := by
  refine ⟨_, if_neg (not_le.mpr initialSpeed.2), fun acts => ?_⟩
  have hnew := Tracks.new initialVirtualNs initialSpeed now
  -- the new clock is that of `Tracks.new`; from here on only that it tracks matters
  generalize ReplayClock.mk now initialVirtualNs initialSpeed none = clock at hnew ⊢
  obtain ⟨s, hrun⟩ := exec_isSome step_isSome (start clock now) acts
  have htracks := tracks_exec (s := start clock now) hnew hrun
  exact ⟨s, hrun, continues_of_tracks htracks, keepsTime_of_tracks htracks,
    lost_lt_of_keepsTime htracks⟩

/-- Two changes of speed around a pause, with half a second inside the one on the paused
    clock: there it costs nothing. -/
theorem keepsTime_of_new_resped :
    let acts : List Action := [.wait 10, .setSpeed ⟨1 / 3, by decide +kernel⟩ 0, .wait 5, .pause,
      .setSpeed ⟨2, by decide +kernel⟩ 500000000, .resume, .wait 7]
    ∃ clock, ReplayClock.new 100 1 0 = some clock ∧
      ∃ s, exec step (start clock 0) acts = some s ∧
        KeepsTime s (Reckoning.ofActions 100 ⟨1, one_pos⟩ acts) := by
  intro acts
  obtain ⟨clock, hclock, hruns⟩ := keepsTime_of_new 100 ⟨1, one_pos⟩ 0
  obtain ⟨s, hrun, -, hkeeps, -⟩ := hruns acts
  exact ⟨clock, hclock, s, hrun, hkeeps (by decide +kernel)⟩

/-- A change of speed on the running clock, with 100 ns between its two readings: the clock
    still shows 0 where less than 2 ns are allowed. -/
theorem not_keepsTime_of_gap :
    let acts : List Action := [.setSpeed ⟨2, by decide +kernel⟩ 100]
    ∃ clock, ReplayClock.new 0 1 0 = some clock ∧
      ∃ s, exec step (start clock 0) acts = some s ∧ s.virtualNs = 0 ∧
        (Reckoning.ofActions 0 ⟨1, one_pos⟩ acts).total = 100 ∧
        (Reckoning.ofActions 0 ⟨1, one_pos⟩ acts).anchorings = 2 ∧
        ¬ KeepsTime s (Reckoning.ofActions 0 ⟨1, one_pos⟩ acts) := by
  intro acts
  have htotal : (Reckoning.ofActions 0 ⟨1, one_pos⟩ acts).total = 100 := by decide +kernel
  refine ⟨_, rfl, _, rfl, by decide +kernel, htotal, rfl, fun hkeeps => ?_⟩
  have hhigh := hkeeps.close.2
  rw [htotal] at hhigh
  revert hhigh
  decide +kernel

end ClockRun

end Control

end AsyncViz.Replay
