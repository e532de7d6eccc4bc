/-
  AsyncViz.Runtime.Monitoring.EventLoop.Cadence

  When the lag monitor samples, and what a sample says
  (`runtime/monitoring/event_loop/{lag_scheduler,lag_sampler,lag_measurement,lag_thresholds}.py`).

  A `tick` is one iteration of `LagScheduler._run` that a stop does not end: the loop reads the
  clock, sleeps if its deadline is ahead, samples, calls the sink and reads the clock once more.
  What a sink raises is swallowed, so a tick always goes through.  The clock does not go back;
  that a sleep does not end (long) before its deadline is said where it is used.

  `Paced` is the invariant of the deadlines, `OnGrid` what it makes of the ticks of a task.
-/

import AsyncViz.Lib.Transition
import AsyncViz.Runtime.Monitoring.Blocking.Detector
import Mathlib.Data.List.Chain
import Mathlib.Data.Rat.Floor
import Mathlib.Tactic.Ring

namespace AsyncViz.Runtime.Monitoring.EventLoop

open AsyncViz.Lib.Transition
open AsyncViz.Runtime.Monitoring.Blocking (LagSeverity)

/-! ## Samples -/

/-- `LagMeasurement`. -/
structure LagMeasurement where
  sampleIndex : Nat
  scheduledNs : Int
  actualNs : Int
  intervalNs : Int
  lagNs : Int
  schedulerDelayNs : Int
  runtimeId : String
deriving DecidableEq, Repr

/-- `calculate_lag`. -/
def calculateLag (scheduledNs actualNs intervalNs : Int) (sampleIndex : Nat) (runtimeId : String) :
    LagMeasurement :=
  let lagNs := actualNs - scheduledNs
  let lagNs := if lagNs < 0 then 0 else lagNs
  ⟨sampleIndex, scheduledNs, actualNs, intervalNs, lagNs, lagNs, runtimeId⟩

theorem lagNs_calculateLag (scheduledNs actualNs intervalNs : Int) (sampleIndex : Nat)
    (runtimeId : String) :
    (calculateLag scheduledNs actualNs intervalNs sampleIndex runtimeId).lagNs
      = max 0 (actualNs - scheduledNs) := by
  unfold calculateLag
  dsimp only
  split <;> omega

/-! ## Thresholds -/

/-- What `LagThresholds(...)` raises. -/
inductive ThresholdError where
  | negative (seconds : ℚ)
  | ordering (name : String) (value : Int) (previousName : String) (previousValue : Int)
deriving DecidableEq, Repr

/-- `round(seconds * NS_PER_SECOND)`, ties to even; nothing below zero. -/
def secondsToNs (seconds : ℚ) : Int :=
  let ns := max 0 seconds * 1000000000
  if Int.fract ns < 1 / 2 ∨ Int.fract ns = 1 / 2 ∧ ⌊ns⌋ % 2 = 0 then ⌊ns⌋ else ⌊ns⌋ + 1

/-- `_convert`. -/
def convert : Option ℚ → Except ThresholdError (Option Int)
  | none => .ok none
  | some seconds =>
    if seconds < 0 then .error (.negative seconds) else .ok (some (secondsToNs seconds))

/-- The loop of `_validate_monotonic`, behind the last tier that is set. -/
def validateFrom (previous : Option (String × Int)) :
    List (String × Option Int) → Except ThresholdError Unit
  | [] => .ok ()
  | (_, none) :: tiers => validateFrom previous tiers
  | (name, some value) :: tiers =>
    match previous with
    | none => validateFrom (some (name, value)) tiers
    | some (previousName, previousValue) =>
      if value < previousValue then .error (.ordering name value previousName previousValue)
      else validateFrom (some (name, value)) tiers

/-- `_validate_monotonic`. -/
def validateMonotonic (warningNs criticalNs freezeNs : Option Int) : Except ThresholdError Unit :=
  validateFrom none [("warning", warningNs), ("critical", criticalNs), ("freeze", freezeNs)]

/-- The tiers that are set, that one before them too. -/
def tierValues (previous : Option (String × Int)) (tiers : List (String × Option Int)) :
    List Int :=
  (previous.map Prod.snd).toList ++ tiers.filterMap Prod.snd

/-- The loop goes through exactly where the tiers that are set go up. -/
theorem validateFrom_eq_ok_iff (previous : Option (String × Int))
    (tiers : List (String × Option Int)) :
    validateFrom previous tiers = .ok () ↔ (tierValues previous tiers).IsChain (· ≤ ·) := by
  induction tiers generalizing previous with
  | nil =>
    cases previous with
    | none => exact iff_of_true rfl List.isChain_nil
    | some p => exact iff_of_true rfl (List.isChain_singleton p.2)
  | cons tier tiers ih =>
    obtain ⟨name, value⟩ := tier
    cases value with
    | none => exact ih previous
    | some value =>
      cases previous with
      | none => exact ih (some (name, value))
      | some p =>
        rw [validateFrom]
        have hchain : (tierValues (some p) ((name, some value) :: tiers)).IsChain (· ≤ ·) ↔
            p.2 ≤ value ∧ (tierValues (some (name, value)) tiers).IsChain (· ≤ ·) :=
          List.isChain_cons_cons
        rw [hchain]
        by_cases hless : value < p.2
        · rw [if_pos hless]
          exact iff_of_false (fun h => by cases h) fun h => absurd h.1 (Int.not_le.mpr hless)
        · rw [if_neg hless, ih]
          exact (and_iff_right (Int.not_lt.mp hless)).symm

/-- `LagThresholds`, in order where they are set. -/
structure LagThresholds where
  warningNs : Option Int
  criticalNs : Option Int
  freezeNs : Option Int
  warning_le_critical : ∀ w ∈ warningNs, ∀ c ∈ criticalNs, w ≤ c
  warning_le_freeze : ∀ w ∈ warningNs, ∀ f ∈ freezeNs, w ≤ f
  critical_le_freeze : ∀ c ∈ criticalNs, ∀ f ∈ freezeNs, c ≤ f

/-- What was validated is in order, also over a tier that is not set. -/
theorem pairwise_of_validateMonotonic {warningNs criticalNs freezeNs : Option Int}
    (h : validateMonotonic warningNs criticalNs freezeNs = .ok ()) :
    (∀ w ∈ warningNs, ∀ c ∈ criticalNs, w ≤ c) ∧ (∀ w ∈ warningNs, ∀ f ∈ freezeNs, w ≤ f) ∧
      ∀ c ∈ criticalNs, ∀ f ∈ freezeNs, c ≤ f := by
  have hpairs := List.isChain_iff_pairwise.mp ((validateFrom_eq_ok_iff _ _).mp h)
  rw [tierValues] at hpairs
  cases warningNs <;> cases criticalNs <;> cases freezeNs <;> simp at hpairs ⊢ <;> omega

/-- `LagThresholds(warning_seconds=…, critical_seconds=…, freeze_seconds=…)`. -/
def LagThresholds.new (warningSeconds criticalSeconds freezeSeconds : Option ℚ) :
    Except ThresholdError LagThresholds := do
  let warningNs ← convert warningSeconds
  let criticalNs ← convert criticalSeconds
  let freezeNs ← convert freezeSeconds
  match h : validateMonotonic warningNs criticalNs freezeNs with
  | .error e => .error e
  | .ok () =>
    .ok
      { warningNs := warningNs
        criticalNs := criticalNs
        freezeNs := freezeNs
        warning_le_critical := (pairwise_of_validateMonotonic h).1
        warning_le_freeze := (pairwise_of_validateMonotonic h).2.1
        critical_le_freeze := (pairwise_of_validateMonotonic h).2.2 }

/-- The lag trips a threshold that is set. -/
def trips (thresholdNs : Option Int) (lagNs : Int) : Bool :=
  match thresholdNs with
  | none => false
  | some thresholdNs => decide (thresholdNs ≤ lagNs)

theorem trips_iff {thresholdNs : Option Int} {lagNs : Int} :
    trips thresholdNs lagNs = true ↔ ∃ t, thresholdNs = some t ∧ t ≤ lagNs := by
  cases thresholdNs with
  | none => simp [trips]
  | some t => simp [trips]

/-- `LagThresholdEvaluation`. -/
structure LagThresholdEvaluation where
  severity : LagSeverity
  breached : Bool
  lagNs : Int
  thresholdNs : Int
deriving DecidableEq, Repr

/-- `evaluate`. -/
def LagThresholds.evaluate (thresholds : LagThresholds) (lagNs : Int) : LagThresholdEvaluation :=
  if trips thresholds.freezeNs lagNs then
    ⟨.freeze, true, lagNs, thresholds.freezeNs.getD 0⟩
  else if trips thresholds.criticalNs lagNs then
    ⟨.critical, true, lagNs, thresholds.criticalNs.getD 0⟩
  else if trips thresholds.warningNs lagNs then
    ⟨.warning, true, lagNs, thresholds.warningNs.getD 0⟩
  else ⟨.normal, false, lagNs, 0⟩

/-- `severity.value`. -/
def rank : LagSeverity → Nat
  | .normal => 0
  | .warning => 1
  | .critical => 2
  | .freeze => 3

/-- The threshold of a tier; there is none below a warning. -/
def LagThresholds.of (thresholds : LagThresholds) : LagSeverity → Option Int
  | .normal => none
  | .warning => thresholds.warningNs
  | .critical => thresholds.criticalNs
  | .freeze => thresholds.freezeNs

/-- The thresholds go up with the tiers. -/
theorem LagThresholds.of_mono (thresholds : LagThresholds) {tier tier' : LagSeverity}
    {thresholdNs thresholdNs' : Int} (htier : thresholds.of tier = some thresholdNs)
    (htier' : thresholds.of tier' = some thresholdNs') (hle : rank tier ≤ rank tier') :
    thresholdNs ≤ thresholdNs' := by
  have hsame : thresholds.of tier = thresholds.of tier' → thresholdNs ≤ thresholdNs' := by
    intro heq
    rw [htier, htier'] at heq
    exact Int.le_of_eq (Option.some.inj heq)
  cases tier with
  | normal => cases htier
  | warning =>
    cases tier' with
    | normal => cases htier'
    | warning => exact hsame rfl
    | critical => exact thresholds.warning_le_critical _ htier _ htier'
    | freeze => exact thresholds.warning_le_freeze _ htier _ htier'
  | critical =>
    cases tier' with
    | normal => cases htier'
    | warning => exact absurd hle (by decide)
    | critical => exact hsame rfl
    | freeze => exact thresholds.critical_le_freeze _ htier _ htier'
  | freeze =>
    cases tier' with
    | normal => cases htier'
    | warning => exact absurd hle (by decide)
    | critical => exact absurd hle (by decide)
    | freeze => exact hsame rfl

/-- A severity that is not normal has a threshold, and the lag trips it. -/
theorem LagThresholds.severity_trips (thresholds : LagThresholds) (lagNs : Int) :
    (thresholds.evaluate lagNs).severity = .normal ∨
      ∃ t, thresholds.of (thresholds.evaluate lagNs).severity = some t ∧ t ≤ lagNs := by
  rw [LagThresholds.evaluate]
  split
  · next h => exact .inr (trips_iff.mp h)
  · split
    · next h => exact .inr (trips_iff.mp h)
    · split
      · next h => exact .inr (trips_iff.mp h)
      · exact .inl rfl

/-- A lag is at least of a tier if and only if it trips its threshold. -/
theorem LagThresholds.rank_evaluate_iff (thresholds : LagThresholds) {tier : LagSeverity}
    {thresholdNs : Int} (htier : thresholds.of tier = some thresholdNs) (lagNs : Int) :
    rank tier ≤ rank (thresholds.evaluate lagNs).severity ↔ thresholdNs ≤ lagNs := by
  constructor
  · intro hle
    rcases thresholds.severity_trips lagNs with hnormal | ⟨t, ht, hlag⟩
    · rw [hnormal] at hle
      cases tier with
      | normal => cases htier
      | warning => exact absurd hle (by decide)
      | critical => exact absurd hle (by decide)
      | freeze => exact absurd hle (by decide)
    · exact Int.le_trans (thresholds.of_mono htier ht hle) hlag
  · intro hlag
    have htrips : trips (thresholds.of tier) lagNs = true := trips_iff.mpr ⟨_, htier, hlag⟩
    rw [LagThresholds.evaluate]
    cases tier with
    | normal => cases htier
    | warning =>
      -- what trips the warning is not normal
      have hwarning : trips thresholds.warningNs lagNs = true := htrips
      rw [hwarning, if_pos rfl]
      split
      · exact Nat.le_add_left 1 2
      · split
        · exact Nat.le_add_left 1 1
        · exact Nat.le_refl 1
    | critical =>
      have hcritical : trips thresholds.criticalNs lagNs = true := htrips
      rw [hcritical, if_pos rfl]
      split
      · exact Nat.le_succ 2
      · exact Nat.le_refl 2
    | freeze =>
      have hfreeze : trips thresholds.freezeNs lagNs = true := htrips
      rw [hfreeze, if_pos rfl]

/-! ## The scheduler -/

/-- An iteration of the loop.  `sinceNs` and `paceNs` are histories: when the monitor had run
    before, and the interval with which the deadline was set. -/
structure Tick where
  measurement : LagMeasurement
  sinceNs : Int
  paceNs : Int
  afterNs : Int
  missed : Int
deriving DecidableEq, Repr

/-- The deadline behind a tick. -/
def Tick.nextNs (t : Tick) : Int :=
  t.measurement.scheduledNs + t.measurement.intervalNs * (1 + t.missed)

/-- How long the monitor had not run when the tick sampled. -/
def Tick.stallNs (t : Tick) : Int := t.measurement.actualNs - t.sinceNs

/-- The running task of `_run`; all but the deadline are histories. -/
structure CadenceTask where
  previousDeadline : Int
  ranNs : Int
  paceNs : Int
  ticks : List Tick
deriving DecidableEq, Repr

/-- `LagScheduler`, and the last reading of the clock. -/
structure LagScheduler where
  runtimeId : String
  intervalNs : Int
  sampleIndex : Nat
  task : Option CadenceTask
  clockNs : Int
deriving DecidableEq, Repr

/-- What `configure` and `start` raise. -/
inductive SchedulerError where
  | intervalNotPositive (intervalNs : Int)
  | notConfigured
deriving DecidableEq, Repr

def SchedulerError.message : SchedulerError → String
  | .intervalNotPositive intervalNs => s!"interval_ns must be > 0 (got {intervalNs})"
  | .notConfigured => "LagScheduler.configure() must be called before start()"

namespace LagScheduler

/-- `LagScheduler(...)`. -/
def new (runtimeId : String) (clockNs : Int) : LagScheduler := ⟨runtimeId, 0, 0, none, clockNs⟩

/-- `configure`. -/
def configure (s : LagScheduler) (intervalNs : Int) : Except SchedulerError Unit × LagScheduler :=
  if intervalNs ≤ 0 then (.error (.intervalNotPositive intervalNs), s)
  else (.ok (), { s with intervalNs := intervalNs })

/-- `start`, and the first reading of the clock in `_run`. -/
def start (s : LagScheduler) (nowNs : Int) : Except SchedulerError Unit × LagScheduler :=
  match s.task with
  | some _ => (.ok (), s)
  | none =>
    if s.intervalNs ≤ 0 then (.error .notConfigured, s)
    else
      (.ok (), { s with
        sampleIndex := 0
        task := some ⟨nowNs + s.intervalNs, nowNs, s.intervalNs, []⟩
        clockNs := nowNs })

/-- One iteration: the interval is read at its beginning, and `actualNs` and `afterNs` are the
    readings of the sampler and behind the sink. -/
def tick (s : LagScheduler) (task : CadenceTask) (actualNs afterNs : Int) : LagScheduler :=
  let measurement :=
    calculateLag task.previousDeadline actualNs s.intervalNs s.sampleIndex s.runtimeId
  let nextDeadline := task.previousDeadline + s.intervalNs
  let overshootNs := afterNs - nextDeadline
  let missed := if overshootNs > 0 ∧ s.intervalNs > 0 then overshootNs / s.intervalNs else 0
  { s with
    sampleIndex := s.sampleIndex + 1
    task := some
      { previousDeadline := nextDeadline + missed * s.intervalNs
        ranNs := afterNs
        paceNs := s.intervalNs
        ticks := task.ticks ++ [⟨measurement, task.ranNs, task.paceNs, afterNs, missed⟩] }
    clockNs := afterNs }

/-- `stop`, or a stop event that is set while the task sleeps. -/
def stop (s : LagScheduler) : LagScheduler := { s with task := none }

/-- What happens to a scheduler.  `tick` has the readings of an iteration. -/
inductive Action where
  | configure (intervalNs : Int)
  | start (nowNs : Int)
  | tick (nowNs actualNs afterNs : Int)
  | stop

/-- One step; the clock does not go back. -/
def step (s : LagScheduler) : Action → Option LagScheduler
  | .configure intervalNs => some (s.configure intervalNs).2
  | .start nowNs => if s.clockNs ≤ nowNs then some (s.start nowNs).2 else none
  | .tick nowNs actualNs afterNs =>
    match s.task with
    | none => none
    | some task =>
      if s.clockNs ≤ nowNs ∧ nowNs ≤ actualNs ∧ actualNs ≤ afterNs then
        some (s.tick task actualNs afterNs)
      else none
  | .stop => some s.stop

/-! ## One tick -/

/-- What a tick is: the deadline goes on by whole intervals, beyond every one that has passed
    and not beyond one that has not. -/
structure Ticked (s : LagScheduler) (task : CadenceTask) (t : Tick) (actualNs afterNs : Int)
    (s' : LagScheduler) : Prop where
  lag : t.measurement.lagNs = max 0 (actualNs - task.previousDeadline)
  readings : t.measurement.sampleIndex = s.sampleIndex ∧
    t.measurement.scheduledNs = task.previousDeadline ∧ t.measurement.actualNs = actualNs ∧
    t.measurement.intervalNs = s.intervalNs
  since : t.sinceNs = task.ranNs ∧ t.paceNs = task.paceNs ∧ t.afterNs = afterNs
  missed : 0 ≤ t.missed
  ahead : afterNs < t.nextNs + s.intervalNs
  passed : t.missed = 0 ∨ t.nextNs ≤ afterNs
  state : s' = { s with
    sampleIndex := s.sampleIndex + 1
    task := some ⟨t.nextNs, afterNs, s.intervalNs, task.ticks ++ [t]⟩
    clockNs := afterNs }

theorem tick_ticked {s : LagScheduler} (task : CadenceTask) (actualNs afterNs : Int)
    (hpos : 0 < s.intervalNs) :
    ∃ t, Ticked s task t actualNs afterNs (s.tick task actualNs afterNs) := by
  let measurement :=
    calculateLag task.previousDeadline actualNs s.intervalNs s.sampleIndex s.runtimeId
  have hmeasured : ∀ missed : Int, 0 ≤ missed →
      afterNs < task.previousDeadline + s.intervalNs * (1 + missed) + s.intervalNs →
      (missed = 0 ∨ task.previousDeadline + s.intervalNs * (1 + missed) ≤ afterNs) →
      Ticked s task ⟨measurement, task.ranNs, task.paceNs, afterNs, missed⟩ actualNs afterNs
        { s with
          sampleIndex := s.sampleIndex + 1
          task := some ⟨task.previousDeadline + s.intervalNs + missed * s.intervalNs, afterNs,
            s.intervalNs, task.ticks ++ [⟨measurement, task.ranNs, task.paceNs, afterNs, missed⟩]⟩
          clockNs := afterNs } := by
    intro missed hmissed hahead hpassed
    refine ⟨lagNs_calculateLag _ _ _ _ _, ⟨rfl, rfl, rfl, rfl⟩, ⟨rfl, rfl, rfl⟩, hmissed, hahead,
      hpassed, ?_⟩
    have hnext : task.previousDeadline + s.intervalNs + missed * s.intervalNs
        = task.previousDeadline + s.intervalNs * (1 + missed) := by
      rw [Int.mul_add, Int.mul_one, Int.mul_comm missed, Int.add_assoc]
    rw [hnext]
    rfl
  unfold tick
  dsimp only
  by_cases hover : afterNs - (task.previousDeadline + s.intervalNs) > 0
  · -- the deadlines up to the last reading are counted as missed
    rw [if_pos ⟨hover, hpos⟩]
    have hmod := Int.emod_add_mul_ediv (afterNs - (task.previousDeadline + s.intervalNs))
      s.intervalNs
    have hlt := Int.emod_lt_of_pos (afterNs - (task.previousDeadline + s.intervalNs)) hpos
    have hnonneg := Int.emod_nonneg (afterNs - (task.previousDeadline + s.intervalNs))
      (Int.ne_of_gt hpos)
    have hdiv : 0 ≤ (afterNs - (task.previousDeadline + s.intervalNs)) / s.intervalNs :=
      Int.ediv_nonneg (Int.le_of_lt hover) (Int.le_of_lt hpos)
    generalize (afterNs - (task.previousDeadline + s.intervalNs)) / s.intervalNs = missed
      at hmod hdiv ⊢
    have hexpand : s.intervalNs * (1 + missed) = s.intervalNs + s.intervalNs * missed := by
      rw [Int.mul_add, Int.mul_one]
    exact ⟨_, hmeasured missed hdiv (by omega) (.inr (by omega))⟩
  · rw [if_neg fun hboth => hover hboth.1]
    exact ⟨_, hmeasured 0 (Int.le_refl 0) (by omega) (.inl rfl)⟩

/-! ## Runs -/

/-- The ticks of a task are numbered, on the grid that its deadlines make, and each is told what
    the one before it did. -/
structure OnGrid (ticks : List Tick) : Prop where
  numbered : ∀ (i : Nat) (t : Tick), ticks[i]? = some t → t.measurement.sampleIndex = i
  lag : ∀ t ∈ ticks, t.measurement.lagNs
    = max 0 (t.measurement.actualNs - t.measurement.scheduledNs)
  interval : ∀ t ∈ ticks, 0 < t.measurement.intervalNs ∧ 0 ≤ t.missed
  readings : ∀ t ∈ ticks, t.sinceNs ≤ t.measurement.actualNs ∧ t.measurement.actualNs ≤ t.afterNs
  ahead : ∀ t ∈ ticks, t.afterNs < t.nextNs + t.measurement.intervalNs
  passed : ∀ t ∈ ticks, t.missed = 0 ∨ t.nextNs ≤ t.afterNs
  next : ∀ (i : Nat) (t u : Tick), ticks[i]? = some t → ticks[i + 1]? = some u →
    u.measurement.scheduledNs = t.nextNs ∧ u.sinceNs = t.afterNs ∧
      u.paceNs = t.measurement.intervalNs
  first : ∀ t, ticks[0]? = some t →
    t.measurement.scheduledNs = t.sinceNs + t.paceNs ∧ 0 < t.paceNs

/-- The pending deadline goes on from the last tick. -/
def Continues (task : CadenceTask) : Prop :=
  match task.ticks.getLast? with
  | none => task.previousDeadline = task.ranNs + task.paceNs ∧ 0 < task.paceNs
  | some t => task.previousDeadline = t.nextNs ∧ task.ranNs = t.afterNs ∧
      task.paceNs = t.measurement.intervalNs

/-- The invariant of the scheduler. -/
structure Paced (s : LagScheduler) : Prop where
  interval : 0 ≤ s.intervalNs
  running : ∀ task, s.task = some task → 0 < s.intervalNs ∧ task.ranNs ≤ s.clockNs ∧
    s.sampleIndex = task.ticks.length ∧ OnGrid task.ticks ∧ Continues task

theorem paced_new (runtimeId : String) (clockNs : Int) : Paced (new runtimeId clockNs) where
  interval := Int.le_refl 0
  running task h := by cases h

theorem onGrid_nil : OnGrid [] where
  numbered i t h := by cases h
  lag t h := absurd h List.not_mem_nil
  interval t h := absurd h List.not_mem_nil
  readings t h := absurd h List.not_mem_nil
  ahead t h := absurd h List.not_mem_nil
  passed t h := absurd h List.not_mem_nil
  next i t u h := by cases h
  first t h := by cases h

/-- What stands at a place of a list with one more entry. -/
theorem getElem?_concat_cases {α : Type} {l : List α} {x y : α} {i : Nat}
    (h : (l ++ [x])[i]? = some y) : l[i]? = some y ∨ (i = l.length ∧ y = x) := by
  rcases Nat.lt_trichotomy i l.length with hlt | heq | hgt
  · rw [List.getElem?_append_left hlt] at h
    exact .inl h
  · rw [heq, List.getElem?_concat_length] at h
    exact .inr ⟨heq, (Option.some.inj h).symm⟩
  · rw [List.getElem?_eq_none (by rw [List.length_append]; exact hgt)] at h
    cases h

theorem OnGrid.concat {ticks : List Tick} (h : OnGrid ticks) {t : Tick}
    (hnumber : t.measurement.sampleIndex = ticks.length)
    (hlag : t.measurement.lagNs = max 0 (t.measurement.actualNs - t.measurement.scheduledNs))
    (hinterval : 0 < t.measurement.intervalNs ∧ 0 ≤ t.missed)
    (hreadings : t.sinceNs ≤ t.measurement.actualNs ∧ t.measurement.actualNs ≤ t.afterNs)
    (hahead : t.afterNs < t.nextNs + t.measurement.intervalNs)
    (hpassed : t.missed = 0 ∨ t.nextNs ≤ t.afterNs)
    (hfirst : ticks = [] → t.measurement.scheduledNs = t.sinceNs + t.paceNs ∧ 0 < t.paceNs)
    (hnext : ∀ u, ticks.getLast? = some u → t.measurement.scheduledNs = u.nextNs ∧
      t.sinceNs = u.afterNs ∧ t.paceNs = u.measurement.intervalNs) : OnGrid (ticks ++ [t]) := by
  have hall : ∀ P : Tick → Prop, (∀ u ∈ ticks, P u) → P t → ∀ u ∈ ticks ++ [t], P u := by
    intro P hold hnew u hu
    rcases List.mem_append.mp hu with hu | hu
    · exact hold u hu
    · exact List.mem_singleton.mp hu ▸ hnew
  refine ⟨fun i u hu => ?_, hall _ h.lag hlag, hall _ h.interval hinterval,
    hall _ h.readings hreadings, hall _ h.ahead hahead, hall _ h.passed hpassed,
    fun i u v hu hv => ?_, fun u hu => ?_⟩
  · rcases getElem?_concat_cases hu with hu | ⟨rfl, rfl⟩
    · exact h.numbered i u hu
    · exact hnumber
  · rcases getElem?_concat_cases hv with hv | ⟨hi, rfl⟩
    · have hlt : i < ticks.length := by
        obtain ⟨hlt, -⟩ := List.getElem?_eq_some_iff.mp hv
        omega
      rw [List.getElem?_append_left hlt] at hu
      exact h.next i u v hu hv
    · -- the new tick comes behind the last one
      have hlt : i < ticks.length := by omega
      rw [List.getElem?_append_left hlt] at hu
      refine hnext u ?_
      rw [List.getLast?_eq_getElem?, ← hu]
      congr 1
      omega
  · rcases getElem?_concat_cases hu with hu | ⟨hlength, rfl⟩
    · exact h.first u hu
    · exact hfirst (List.length_eq_zero_iff.mp hlength.symm)

theorem paced_step {s s' : LagScheduler} {a : Action} (h : Paced s)
    (hstep : s.step a = some s') : Paced s' := by
  cases a with
  | configure intervalNs =>
    cases hstep
    rw [configure]
    split
    · exact h
    · next hpos =>
      have hpos : 0 < intervalNs := Int.not_le.mp hpos
      refine ⟨Int.le_of_lt hpos, fun task htask => ?_⟩
      obtain ⟨-, hrest⟩ := h.running task htask
      exact ⟨hpos, hrest⟩
  | start nowNs =>
    obtain ⟨hclock, heq⟩ := Option.ite_none_right_eq_some.mp hstep
    cases heq
    rw [start]
    split
    · exact h
    · split
      · exact h
      · next hpos =>
        refine ⟨h.interval, fun task htask => ?_⟩
        cases htask
        exact ⟨Int.not_le.mp hpos, Int.le_refl nowNs, rfl, onGrid_nil, rfl, Int.not_le.mp hpos⟩
  | tick nowNs actualNs afterNs =>
    unfold step at hstep
    dsimp only at hstep
    split at hstep
    · cases hstep
    · next task htask =>
      obtain ⟨⟨hnow, hactual, hafter⟩, heq⟩ := Option.ite_none_right_eq_some.mp hstep
      cases heq
      obtain ⟨hpos, hran, hindex, hgrid, hcontinues⟩ := h.running task htask
      obtain ⟨t, ht⟩ := tick_ticked task actualNs afterNs hpos
      obtain ⟨hnumber, hscheduled, hactualNs, hintervalNs⟩ := ht.readings
      obtain ⟨hsince, hpace, hafterNs⟩ := ht.since
      rw [ht.state]
      refine ⟨h.interval, fun task' htask' => ?_⟩
      cases htask'
      refine ⟨hpos, Int.le_refl afterNs, ?_, ?_, ?_⟩
      · show s.sampleIndex + 1 = (task.ticks ++ [t]).length
        rw [hindex, List.length_append]
        rfl
      · refine hgrid.concat (hnumber.trans hindex) (by rw [ht.lag, hactualNs, hscheduled])
          ⟨hintervalNs ▸ hpos, ht.missed⟩ ?_ (by rw [hafterNs, hintervalNs]; exact ht.ahead)
          (hafterNs ▸ ht.passed) (fun hnil => ?_) (fun u hu => ?_)
        · rw [hsince, hactualNs, hafterNs]
          exact ⟨by omega, hafter⟩
        · rw [Continues, hnil] at hcontinues
          rw [hscheduled, hsince, hpace]
          exact hcontinues
        · rw [Continues, hu] at hcontinues
          rw [hscheduled, hsince, hpace]
          exact hcontinues
      · rw [Continues]
        dsimp only
        rw [List.getLast?_concat]
        exact ⟨rfl, hafterNs.symm, hintervalNs.symm⟩
  | stop =>
    cases hstep
    exact ⟨h.interval, fun task htask => by cases htask⟩

/-- The deadline of a tick is at most an interval behind the moment the monitor had run before, and
    at most an interval and an early wake ahead of it. -/
theorem OnGrid.deadline_near {ticks : List Tick} (h : OnGrid ticks) {earlyNs : Int}
    (hearly : 0 ≤ earlyNs)
    (hwake : ∀ t ∈ ticks, t.measurement.scheduledNs - earlyNs ≤ t.measurement.actualNs)
    {i : Nat} {t : Tick} (ht : ticks[i]? = some t) :
    0 < t.paceNs ∧ t.sinceNs - t.paceNs < t.measurement.scheduledNs ∧
      t.measurement.scheduledNs ≤ t.sinceNs + t.paceNs + earlyNs := by
  cases i with
  | zero =>
    obtain ⟨hfirst, hpos⟩ := h.first t ht
    omega
  | succ i =>
    have hlt : i < ticks.length := by
      obtain ⟨hlt, -⟩ := List.getElem?_eq_some_iff.mp ht
      omega
    obtain ⟨u, hu⟩ : ∃ u, ticks[i]? = some u := ⟨ticks[i], List.getElem?_eq_getElem hlt⟩
    have humem : u ∈ ticks := List.mem_of_getElem? hu
    obtain ⟨hscheduled, hsince, hpace⟩ := h.next i u t hu ht
    obtain ⟨hpos, -⟩ := h.interval u humem
    have hahead := h.ahead u humem
    have hreadings := h.readings u humem
    have hwakeu := hwake u humem
    rw [hscheduled, hsince, hpace]
    refine ⟨hpos, by omega, ?_⟩
    rcases h.passed u humem with hmissed | hpassed
    · -- nothing was missed: the deadline is one interval behind the last one
      rw [Tick.nextNs, hmissed, Int.add_zero, Int.mul_one]
      omega
    · omega

theorem OnGrid.lag_near {ticks : List Tick} (h : OnGrid ticks) {earlyNs : Int}
    (hearly : 0 ≤ earlyNs)
    (hwake : ∀ t ∈ ticks, t.measurement.scheduledNs - earlyNs ≤ t.measurement.actualNs)
    {t : Tick} (ht : t ∈ ticks) :
    t.stallNs - t.paceNs - earlyNs ≤ t.measurement.lagNs ∧
      t.measurement.lagNs < t.stallNs + t.paceNs := by
  obtain ⟨i, hi⟩ := List.mem_iff_getElem?.mp ht
  obtain ⟨hpos, hbehind, hahead⟩ := h.deadline_near hearly hwake hi
  obtain ⟨hsince, -⟩ := h.readings t ht
  rw [h.lag t ht, Tick.stallNs]
  omega

theorem paced_run {runtimeId : String} {clockNs : Int} {acts : List Action} {s : LagScheduler}
    (hrun : exec step (new runtimeId clockNs) acts = some s) : Paced s :=
  exec_invariant (fun _ _ _ hs hstep => paced_step hs hstep) (paced_new runtimeId clockNs) hrun

/-- A task of interval 10 whose second sample comes after the loop was blocked for 48 ns. -/
def sampleActs : List Action :=
  [.configure 10, .start 0, .tick 0 11 12, .tick 12 60 61, .tick 61 71 72]

def sampleTask : CadenceTask where
  previousDeadline := 70
  ranNs := 72
  paceNs := 10
  ticks :=
    [⟨⟨0, 10, 11, 10, 1, 1, "rt"⟩, 0, 10, 12, 0⟩, ⟨⟨1, 20, 60, 10, 40, 40, "rt"⟩, 12, 10, 61, 3⟩,
     ⟨⟨2, 60, 71, 10, 11, 11, "rt"⟩, 61, 10, 72, 0⟩]

def sampleEnd : LagScheduler := ⟨"rt", 10, 3, some sampleTask, 72⟩

theorem sample_run : exec step (new "rt" 0) sampleActs = some sampleEnd := by decide

/-- In a run in which no sleep ends more than `earlyNs` before its deadline, the lag of a sample is
    the time since the monitor had run before, up to an interval and the early wake.  So a stall
    that is longer than a threshold by that much is reported with at least the tier of the
    threshold, and a tier is only reported when the stall is at most an interval short of its
    threshold. -/
theorem lag_measures_stall (runtimeId : String) (clockNs : Int) (acts : List Action)
    (s : LagScheduler) (hrun : exec step (new runtimeId clockNs) acts = some s)
    (task : CadenceTask) (htask : s.task = some task) (earlyNs : Int) (hearly : 0 ≤ earlyNs)
    (hwake : ∀ t ∈ task.ticks, t.measurement.scheduledNs - earlyNs ≤ t.measurement.actualNs) :
    ∀ t ∈ task.ticks,
      t.stallNs - t.paceNs - earlyNs ≤ t.measurement.lagNs ∧
      t.measurement.lagNs < t.stallNs + t.paceNs ∧
      ∀ (thresholds : LagThresholds) (tier : LagSeverity) (thresholdNs : Int),
        thresholds.of tier = some thresholdNs →
          (thresholdNs + t.paceNs + earlyNs ≤ t.stallNs →
            rank tier ≤ rank (thresholds.evaluate t.measurement.lagNs).severity) ∧
          (rank tier ≤ rank (thresholds.evaluate t.measurement.lagNs).severity →
            thresholdNs < t.stallNs + t.paceNs) := by
  intro t ht
  obtain ⟨-, -, -, hgrid, -⟩ := (paced_run hrun).running task htask
  obtain ⟨hlower, hupper⟩ := hgrid.lag_near hearly hwake ht
  refine ⟨hlower, hupper, ?_⟩
  intro thresholds tier thresholdNs htier
  have hiff := thresholds.rank_evaluate_iff htier t.measurement.lagNs
  constructor
  · intro hstall
    exact hiff.mpr (by omega)
  · intro hrank
    have htrips := hiff.mp hrank
    omega

/-- The stall of the sample is reported as critical where that starts at 30 ns. -/
theorem lag_measures_stall_sample :
    ∃ thresholds, LagThresholds.new (some (20 / 1000000000)) (some (30 / 1000000000)) none
        = .ok thresholds ∧
      rank .critical ≤ rank (thresholds.evaluate 40).severity := by
  have hnew : (LagThresholds.new (some (20 / 1000000000)) (some (30 / 1000000000)) none).map
      (·.criticalNs) = .ok (some 30) := by
    decide +kernel
  have hall := lag_measures_stall "rt" 0 sampleActs sampleEnd sample_run sampleTask rfl 0
    (by decide) (by decide)
  obtain ⟨-, -, htiers⟩ := hall ⟨⟨1, 20, 60, 10, 40, 40, "rt"⟩, 12, 10, 61, 3⟩ (by decide)
  cases hbuilt : LagThresholds.new (some (20 / 1000000000)) (some (30 / 1000000000)) none with
  | error e =>
    rw [hbuilt] at hnew
    cases hnew
  | ok thresholds =>
    rw [hbuilt] at hnew
    have hcritical : thresholds.criticalNs = some 30 := Except.ok.inj hnew
    exact ⟨thresholds, rfl, (htiers thresholds .critical 30 hcritical).1 (by decide)⟩

end LagScheduler

end AsyncViz.Runtime.Monitoring.EventLoop
