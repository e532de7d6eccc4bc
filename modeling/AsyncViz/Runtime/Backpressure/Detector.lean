/-
  AsyncViz.Runtime.Backpressure.Detector

  The overload detector (`runtime/backpressure/overload_detector.py`) with its configuration, the
  thresholds (`backpressure_thresholds.py`), the smoothing (`utils/hysteresis.py`) and the policy
  that makes actions of its states (`backpressure_policy.py`).

  Floats are rationals.  The readings of the monotonic clock are arguments.
-/

import Mathlib.Algebra.Order.Ring.Rat
import Mathlib.Data.Rat.Defs
import Mathlib.Tactic.NormNum
import AsyncViz.Lib.Dict
import AsyncViz.Lib.Smoothing

namespace AsyncViz.Runtime.Backpressure

open AsyncViz.Lib AsyncViz.Lib.Smoothing

/-! ## Configuration and states -/

/-- `DropPolicy`. -/
inductive DropPolicy where
  | dropOldest
  | dropNewest
  | dropLowPriority
  | block
deriving DecidableEq, Repr

/-- `EmergencyAction`. -/
inductive EmergencyAction where
  | shed
  | disconnect
  | halt
deriving DecidableEq, Repr

/-- `BackpressureConfig`, as far as channels and states go, and what `__post_init__` checks. -/
structure BackpressureConfig where
  busCapacity : Nat
  websocketCapacity : Nat
  recorderCapacity : Nat
  reducerCapacity : Nat
  busDropPolicy : DropPolicy
  websocketDropPolicy : DropPolicy
  recorderDropPolicy : DropPolicy
  reducerDropPolicy : DropPolicy
  elevatedThreshold : ℚ
  overloadThreshold : ℚ
  emergencyThreshold : ℚ
  degradeDecay : ℚ
  recoveryHoldNs : Nat
  emergencyAction : EmergencyAction
  capacities_pos : 1 ≤ busCapacity ∧ 1 ≤ websocketCapacity ∧ 1 ≤ recorderCapacity ∧
    1 ≤ reducerCapacity
  elevated_pos : 0 < elevatedThreshold
  elevated_lt : elevatedThreshold < overloadThreshold
  overload_lt : overloadThreshold < emergencyThreshold
  emergency_le : emergencyThreshold ≤ 1
  decay_pos : 0 < degradeDecay
  decay_lt : degradeDecay < 1

theorem default_elevated_pos : (0 : ℚ) < 1 / 2 := by norm_num
theorem default_elevated_lt : (1 / 2 : ℚ) < 4 / 5 := by norm_num
theorem default_overload_lt : (4 / 5 : ℚ) < 19 / 20 := by norm_num
theorem default_emergency_le : (19 / 20 : ℚ) ≤ 1 := by norm_num
theorem default_decay_pos : (0 : ℚ) < 9 / 10 := by norm_num
theorem default_decay_lt : (9 / 10 : ℚ) < 1 := by norm_num

/-- `default_config()`. -/
def BackpressureConfig.default : BackpressureConfig where
  busCapacity := 16384
  websocketCapacity := 8192
  recorderCapacity := 32768
  reducerCapacity := 4096
  busDropPolicy := .dropLowPriority
  websocketDropPolicy := .dropOldest
  recorderDropPolicy := .block
  reducerDropPolicy := .dropLowPriority
  elevatedThreshold := 1 / 2
  overloadThreshold := 4 / 5
  emergencyThreshold := 19 / 20
  degradeDecay := 9 / 10
  recoveryHoldNs := 1000000000
  emergencyAction := .shed
  capacities_pos := ⟨Nat.succ_pos _, Nat.succ_pos _, Nat.succ_pos _, Nat.succ_pos _⟩
  elevated_pos := default_elevated_pos
  elevated_lt := default_elevated_lt
  overload_lt := default_overload_lt
  emergency_le := default_emergency_le
  decay_pos := default_decay_pos
  decay_lt := default_decay_lt

/-- `OverloadState`. -/
inductive OverloadState where
  | normal
  | elevated
  | overload
  | emergency
deriving DecidableEq, Repr

/-- The order of the enumeration. -/
def OverloadState.rank : OverloadState → Nat
  | .normal => 0
  | .elevated => 1
  | .overload => 2
  | .emergency => 3

/-- `state_for_ratio`. -/
def stateForRatio (ratio : ℚ) (config : BackpressureConfig) : OverloadState :=
  if ratio ≥ config.emergencyThreshold then .emergency
  else if ratio ≥ config.overloadThreshold then .overload
  else if ratio ≥ config.elevatedThreshold then .elevated
  else .normal

/-- `lower_band`. -/
def lowerBand (state : OverloadState) (config : BackpressureConfig) : ℚ :=
  match state with
  | .emergency => config.overloadThreshold
  | .overload => config.elevatedThreshold
  | .elevated => config.elevatedThreshold * (3 / 4)
  | .normal => 0

/-- `PressureSignal`. -/
structure PressureSignal where
  source : String
  value : Int
  capacity : Int
deriving DecidableEq, Repr

/-- `signal.ratio`. -/
def PressureSignal.ratio (s : PressureSignal) : ℚ :=
  if s.capacity ≤ 0 then 0 else if s.value ≤ 0 then 0 else s.value / s.capacity

theorem PressureSignal.ratio_nonneg (s : PressureSignal) : 0 ≤ s.ratio := by
  unfold ratio
  split_ifs with hcapacity hvalue
  · exact le_refl 0
  · exact le_refl 0
  · exact div_nonneg (Int.cast_nonneg (by omega)) (Int.cast_nonneg (by omega))

theorem PressureSignal.ratio_of_idle {s : PressureSignal} (h : s.value ≤ 0) : s.ratio = 0 := by
  unfold ratio
  split_ifs
  · rfl
  · rfl

/-! ## Actions -/

/-- `ActionKind`. -/
inductive ActionKind where
  | tightenSampling
  | engageWebsocketShedding
  | drainLowPriorityQueue
  | disconnectSlowClients
  | flushRecorder
  | haltProduction
  | release
deriving DecidableEq, Repr

/-- `DegradationAction`, without its texts. -/
structure DegradationAction where
  kind : ActionKind
  targetSubsystem : String
deriving DecidableEq, Repr

/-- `_emergency_action()`. -/
def emergencyActionOf (config : BackpressureConfig) : DegradationAction :=
  match config.emergencyAction with
  | .shed => ⟨.tightenSampling, "*"⟩
  | .disconnect => ⟨.disconnectSlowClients, "*"⟩
  | .halt => ⟨.haltProduction, "*"⟩

/-- `DefaultBackpressurePolicy(config).actions_for(previous=..., next_state=...)`. -/
def actionsFor (config : BackpressureConfig) (previous next : OverloadState) :
    List DegradationAction :=
  if previous = next then []
  else
    match next with
    | .normal => [⟨.release, ""⟩]
    | .elevated => [⟨.tightenSampling, "sampler"⟩]
    | .overload =>
      [⟨.tightenSampling, "sampler"⟩, ⟨.engageWebsocketShedding, "websocket"⟩,
        ⟨.drainLowPriorityQueue, "bus"⟩, ⟨.flushRecorder, "recorder"⟩]
    | .emergency =>
      [⟨.tightenSampling, "sampler"⟩, ⟨.engageWebsocketShedding, "websocket"⟩,
        ⟨.drainLowPriorityQueue, "bus"⟩, ⟨.flushRecorder, "recorder"⟩, emergencyActionOf config]

theorem actionsFor_eq_nil_iff {config : BackpressureConfig} {previous next : OverloadState} :
    actionsFor config previous next = [] ↔ previous = next := by
  unfold actionsFor
  by_cases heq : previous = next
  · rw [if_pos heq]
    exact iff_of_true rfl heq
  · rw [if_neg heq]
    refine iff_of_false ?_ heq
    cases next <;> exact List.cons_ne_nil _ _

/-! ## The detector -/

/-- `OverloadDetector`. -/
structure OverloadDetector where
  config : BackpressureConfig
  signals : Dict String PressureSignal := .empty
  smoothedRatio : ℚ := 0
  lastRaw : Int := 0
  state : OverloadState := .normal
  lastTransitionNs : Int := 0
  belowLowerSinceNs : Option Int := none
  transitions : Nat := 0
  emergencyActions : Nat := 0

/-- `OverloadSnapshot`. -/
structure OverloadSnapshot where
  state : OverloadState
  pressureRatio : ℚ
  rawPressure : Int
  lastTransitionAtNs : Int
  transitions : Nat
  emergencyActionsTaken : Nat

namespace OverloadDetector

/-- `detector.snapshot()`; `observe` returns the one of the detector that it leaves. -/
def snapshot (d : OverloadDetector) : OverloadSnapshot :=
  ⟨d.state, d.smoothedRatio, d.lastRaw, d.lastTransitionNs, d.transitions, d.emergencyActions⟩

/-- The largest ratio among the latest samples. -/
def aggregate (signals : Dict String PressureSignal) : ℚ := peak (signals.values.map (·.ratio))

/-- The next state and the start of the time below the lower band, `_maybe_transition_locked`. -/
def nextState (d : OverloadDetector) (now : Int) : OverloadState × Option Int :=
  let proposed := stateForRatio d.smoothedRatio d.config
  if proposed.rank > d.state.rank then (proposed, none)
  else if proposed.rank < d.state.rank then
    if d.smoothedRatio < lowerBand d.state d.config then
      let since := d.belowLowerSinceNs.getD now
      if now - since ≥ d.config.recoveryHoldNs then (proposed, none) else (d.state, some since)
    else (d.state, none)
  else (d.state, none)

/-- `_maybe_transition_locked()`. -/
def maybeTransition (d : OverloadDetector) (now : Int) : OverloadDetector :=
  let (next, since) := d.nextState now
  let d := { d with belowLowerSinceNs := since }
  if next = d.state then d
  else
    { d with
      state := next
      transitions := d.transitions + 1
      lastTransitionNs := now
      emergencyActions :=
        if next = .emergency then d.emergencyActions + 1 else d.emergencyActions }

/-- The detector that has taken in a signal and smoothed the ratio. -/
def smooth (d : OverloadDetector) (signal : PressureSignal) : OverloadDetector :=
  let signals := d.signals.set signal.source signal
  { d with
    signals := signals
    lastRaw := signal.value
    smoothedRatio := ema d.config.degradeDecay d.smoothedRatio (aggregate signals) }

/-- `detector.observe(signal)`. -/
def observe (d : OverloadDetector) (signal : PressureSignal) (now : Int) : OverloadDetector :=
  (d.smooth signal).maybeTransition now

/-- `detector.reset()`. -/
def reset (d : OverloadDetector) : OverloadDetector := { config := d.config }

variable {d : OverloadDetector} {signal : PressureSignal} {now : Int}

theorem maybeTransition_state : (d.maybeTransition now).state = (d.nextState now).1 := by
  unfold maybeTransition
  by_cases hsame : (d.nextState now).1 = d.state
  · exact (congrArg state (if_pos hsame)).trans hsame.symm
  · exact congrArg state (if_neg hsame)

theorem maybeTransition_since :
    (d.maybeTransition now).belowLowerSinceNs = (d.nextState now).2 := by
  unfold maybeTransition
  by_cases hsame : (d.nextState now).1 = d.state
  · exact congrArg belowLowerSinceNs (if_pos hsame)
  · exact congrArg belowLowerSinceNs (if_neg hsame)

theorem maybeTransition_rest :
    (d.maybeTransition now).config = d.config ∧ (d.maybeTransition now).signals = d.signals ∧
      (d.maybeTransition now).smoothedRatio = d.smoothedRatio := by
  unfold maybeTransition
  dsimp only
  by_cases hsame : (d.nextState now).1 = d.state
  · rw [if_pos hsame]
    exact ⟨rfl, rfl, rfl⟩
  · rw [if_neg hsame]
    exact ⟨rfl, rfl, rfl⟩

@[simp] theorem observe_config : (d.observe signal now).config = d.config :=
  maybeTransition_rest.1

@[simp] theorem observe_signals :
    (d.observe signal now).signals = d.signals.set signal.source signal :=
  maybeTransition_rest.2.1

@[simp] theorem observe_smoothedRatio :
    (d.observe signal now).smoothedRatio =
      ema d.config.degradeDecay d.smoothedRatio (aggregate (d.signals.set signal.source signal)) :=
  maybeTransition_rest.2.2

theorem aggregate_nonneg (signals : Dict String PressureSignal) : 0 ≤ aggregate signals := by
  refine peak_nonneg fun ratio hmem => ?_
  obtain ⟨signal, -, rfl⟩ := List.mem_map.mp hmem
  exact signal.ratio_nonneg

theorem ratio_le_aggregate {signals : Dict String PressureSignal} {name : String}
    (h : signals.get? name = some signal) : signal.ratio ≤ aggregate signals :=
  le_peak (List.mem_map_of_mem (Dict.mem_values_iff.mpr ⟨name, h⟩))

end OverloadDetector

namespace OverloadDetector

variable {d : OverloadDetector} {now : Int}

/-- The ways in which a state can follow another: it goes up at once; it stays; it stays below the
    lower band, where the time runs; or it goes down, when that time is over. -/
theorem nextState_cases (d : OverloadDetector) (now : Int) :
    (d.state.rank < (d.nextState now).1.rank ∧ (d.nextState now).2 = none) ∨
    d.nextState now = (d.state, none) ∨
    (d.nextState now = (d.state, some (d.belowLowerSinceNs.getD now)) ∧
      d.smoothedRatio < lowerBand d.state d.config ∧
      now - d.belowLowerSinceNs.getD now < d.config.recoveryHoldNs) ∨
    (d.nextState now = (stateForRatio d.smoothedRatio d.config, none) ∧
      d.smoothedRatio < lowerBand d.state d.config ∧
      d.config.recoveryHoldNs ≤ now - d.belowLowerSinceNs.getD now) := by
  unfold nextState
  dsimp only
  by_cases hup : (stateForRatio d.smoothedRatio d.config).rank > d.state.rank
  · rw [if_pos hup]
    exact .inl ⟨hup, rfl⟩
  rw [if_neg hup]
  by_cases hdown : (stateForRatio d.smoothedRatio d.config).rank < d.state.rank
  · rw [if_pos hdown]
    by_cases hband : d.smoothedRatio < lowerBand d.state d.config
    · rw [if_pos hband]
      by_cases hheld : now - d.belowLowerSinceNs.getD now ≥ d.config.recoveryHoldNs
      · rw [if_pos hheld]
        exact .inr (.inr (.inr ⟨rfl, hband, hheld⟩))
      · rw [if_neg hheld]
        exact .inr (.inr (.inl ⟨rfl, hband, Int.lt_of_not_ge hheld⟩))
    · rw [if_neg hband]
      exact .inr (.inl rfl)
  · rw [if_neg hdown]
    exact .inr (.inl rfl)

/-- No band lies lower than that of the lowest state above normal. -/
theorem low_lt_lowerBand {config : BackpressureConfig} {state : OverloadState}
    (hstate : state ≠ .normal) : config.elevatedThreshold * (3 / 4) ≤ lowerBand state config := by
  have hpos := config.elevated_pos
  have hlt := config.elevated_lt
  cases state with
  | normal => exact absurd rfl hstate
  | elevated => exact le_refl _
  | overload =>
    show config.elevatedThreshold * (3 / 4) ≤ config.elevatedThreshold
    linarith
  | emergency =>
    show config.elevatedThreshold * (3 / 4) ≤ config.overloadThreshold
    linarith

theorem stateForRatio_of_low {config : BackpressureConfig} {ratio : ℚ}
    (h : ratio < config.elevatedThreshold * (3 / 4)) : stateForRatio ratio config = .normal := by
  have hpos := config.elevated_pos
  have helevated := config.elevated_lt
  have hoverload := config.overload_lt
  unfold stateForRatio
  rw [if_neg (by linarith), if_neg (by linarith), if_neg (by linarith)]

/-- Far below all bands, a detector is normal or its time runs. -/
theorem nextState_of_low (h : d.smoothedRatio < d.config.elevatedThreshold * (3 / 4)) (now : Int) :
    (d.nextState now).1 = .normal ∨
      (d.nextState now = (d.state, some (d.belowLowerSinceNs.getD now)) ∧
        now - d.belowLowerSinceNs.getD now < d.config.recoveryHoldNs) := by
  have hproposed := stateForRatio_of_low h
  by_cases hnormal : d.state = .normal
  · left
    unfold nextState
    rw [hproposed, hnormal]
    rfl
  · have hdown : (stateForRatio d.smoothedRatio d.config).rank < d.state.rank := by
      rw [hproposed]
      cases hstate : d.state with
      | normal => exact absurd hstate hnormal
      | elevated => decide
      | overload => decide
      | emergency => decide
    have hband := h.trans_le (low_lt_lowerBand hnormal)
    unfold nextState
    dsimp only
    rw [if_neg (Nat.lt_asymm hdown), if_pos hdown, if_pos hband]
    by_cases hheld : now - d.belowLowerSinceNs.getD now ≥ d.config.recoveryHoldNs
    · rw [if_pos hheld]
      exact .inl hproposed
    · rw [if_neg hheld]
      exact .inr ⟨rfl, Int.lt_of_not_ge hheld⟩

end OverloadDetector

end AsyncViz.Runtime.Backpressure
