/-
  AsyncViz.Runtime.Backpressure.Adaptive

  `AdaptiveBackpressureController` (`runtime/backpressure/adaptive_backpressure.py`): the registered
  sources, one tick of sampling, and the actions that go to the listeners when the state changes.

  What a source and a listener are is left open (`κ`, `ι`): a tick is given what each source reads
  (`none` where its callable raises) and how much time passes before each observation.
-/

import Mathlib.Data.List.Basic
import AsyncViz.Runtime.Backpressure.Detector

namespace AsyncViz.Runtime.Backpressure

open AsyncViz.Lib AsyncViz.Lib.Smoothing

/-- `_SourceEntry`. -/
structure SourceEntry (κ : Type _) where
  callable : κ
  capacity : Int

/-- `AdaptiveBackpressureController`. -/
structure AdaptiveBackpressureController (κ ι : Type _) where
  config : BackpressureConfig
  detector : OverloadDetector
  sources : Dict String (SourceEntry κ) := .empty
  actionListeners : List ι := []

/-- One call of `observe`: the detector before and after it, the aggregate that it used, and when. -/
structure Observation where
  before : OverloadDetector
  after : OverloadDetector
  ratio : ℚ
  now : Int

/-- The call of `observe` with a signal. -/
def Observation.of (d : OverloadDetector) (signal : PressureSignal) (now : Int) : Observation where
  before := d
  after := d.observe signal now
  ratio := OverloadDetector.aggregate (d.signals.set signal.source signal)
  now := now

namespace AdaptiveBackpressureController

variable {κ ι : Type _}

/-- `AdaptiveBackpressureController(config=...)`. -/
def new (config : BackpressureConfig) : AdaptiveBackpressureController κ ι where
  config := config
  detector := { config := config }

/-- `controller.register_source(name, callable, capacity=...)`. -/
def registerSource (c : AdaptiveBackpressureController κ ι) (name : String) (callable : κ)
    (capacity : Int) : AdaptiveBackpressureController κ ι :=
  { c with sources := c.sources.set name ⟨callable, capacity⟩ }

/-- The handle that `register_source` returns for a name. -/
def unsubscribe (c : AdaptiveBackpressureController κ ι) (name : String) :
    AdaptiveBackpressureController κ ι :=
  { c with sources := c.sources.pop name }

/-- `controller.subscribe_actions(listener)`. -/
def subscribeActions (c : AdaptiveBackpressureController κ ι) (listener : ι) :
    AdaptiveBackpressureController κ ι :=
  { c with actionListeners := c.actionListeners ++ [listener] }

/-- The loop of `tick` over the sources: those that raise are left out. -/
def sample (reading : String → SourceEntry κ → Option Int) (passes : String → Nat) :
    List (String × SourceEntry κ) → OverloadDetector → Int → List Observation
  | [], _, _ => []
  | (name, entry) :: entries, d, clock =>
    match reading name entry with
    | none => sample reading passes entries d clock
    | some value =>
      let o := Observation.of d ⟨name, value, entry.capacity⟩ (clock + passes name)
      o :: sample reading passes entries o.after o.now

/-- The detector after some observations. -/
def lastDetector (observations : List Observation) (d : OverloadDetector) : OverloadDetector :=
  (observations.getLast?.map (·.after)).getD d

/-- The clock after some observations. -/
def lastClock (observations : List Observation) (clock : Int) : Int :=
  (observations.getLast?.map (·.now)).getD clock

/-- `_dispatch_actions`: every action goes to every listener. -/
def dispatchActions (c : AdaptiveBackpressureController κ ι) (previous : OverloadState)
    (snapshot : OverloadSnapshot) : List (DegradationAction × ι) :=
  (actionsFor c.config previous snapshot.state).flatMap fun action =>
    c.actionListeners.map fun listener => (action, listener)

/-- `controller.tick()`: the observations, what the listeners are called with, and the controller
    after it.  Nothing is dispatched where the state stays, as there are no actions then. -/
def tick (c : AdaptiveBackpressureController κ ι)
    (reading : String → SourceEntry κ → Option Int) (passes : String → Nat) (clock : Int) :
    List Observation × List (DegradationAction × ι) × AdaptiveBackpressureController κ ι :=
  let observations := sample reading passes c.sources.entries c.detector clock
  let detector := lastDetector observations c.detector
  (observations, c.dispatchActions c.detector.state detector.snapshot,
    { c with detector := detector })

/-- `controller.reset()`. -/
def reset (c : AdaptiveBackpressureController κ ι) : AdaptiveBackpressureController κ ι :=
  { c with sources := .empty, actionListeners := [], detector := c.detector.reset }

end AdaptiveBackpressureController

namespace AdaptiveBackpressureController

variable {κ ι : Type _} {reading : String → SourceEntry κ → Option Int} {passes : String → Nat}
  {entries : List (String × SourceEntry κ)} {d : OverloadDetector} {clock : Int}

@[simp] theorem lastDetector_nil (d : OverloadDetector) : lastDetector [] d = d := rfl

@[simp] theorem lastClock_nil (clock : Int) : lastClock [] clock = clock := rfl

@[simp] theorem lastDetector_cons (o : Observation) (observations : List Observation)
    (d : OverloadDetector) :
    lastDetector (o :: observations) d = lastDetector observations o.after := by
  cases observations with
  | nil => rfl
  | cons o' observations => simp [lastDetector, List.getLast?_cons]

@[simp] theorem lastClock_cons (o : Observation) (observations : List Observation) (clock : Int) :
    lastClock (o :: observations) clock = lastClock observations o.now := by
  cases observations with
  | nil => rfl
  | cons o' observations => simp [lastClock, List.getLast?_cons]

theorem sample_none {name : String} {entry : SourceEntry κ} (h : reading name entry = none) :
    sample reading passes ((name, entry) :: entries) d clock =
      sample reading passes entries d clock := by
  rw [sample, h]

theorem sample_some {name : String} {entry : SourceEntry κ} {value : Int}
    (h : reading name entry = some value) :
    sample reading passes ((name, entry) :: entries) d clock =
      .of d ⟨name, value, entry.capacity⟩ (clock + passes name) ::
        sample reading passes entries
          (d.observe ⟨name, value, entry.capacity⟩ (clock + passes name))
          (clock + passes name) := by
  rw [sample, h]
  rfl

/-- The rule for the loop: what every observation keeps, of the detector, the clock and the
    observations so far, the loop keeps. -/
theorem sample_invariant {P : OverloadDetector → Int → List Observation → Prop}
    (hstep : ∀ d clock past signal now,
      (∃ entry, (signal.source, entry) ∈ entries ∧
        reading signal.source entry = some signal.value) → clock ≤ now → P d clock past →
      P (d.observe signal now) now (past ++ [.of d signal now]))
    (past : List Observation) (hinit : P d clock past) :
    P (lastDetector (sample reading passes entries d clock) d)
      (lastClock (sample reading passes entries d clock) clock)
      (past ++ sample reading passes entries d clock) := by
  induction entries generalizing d clock past with
  | nil => simpa [sample] using hinit
  | cons pair entries ih =>
    obtain ⟨name, entry⟩ := pair
    have hrest := fun d clock past signal now
        (hsampled : ∃ entry, (signal.source, entry) ∈ entries ∧
          reading signal.source entry = some signal.value) =>
      hstep d clock past signal now
        (hsampled.imp fun entry h => ⟨List.mem_cons_of_mem _ h.1, h.2⟩)
    cases hread : reading name entry with
    | none =>
      rw [sample_none hread]
      exact ih hrest past hinit
    | some value =>
      rw [sample_some hread, lastDetector_cons, lastClock_cons, List.append_cons]
      refine ih hrest _ (hstep d clock past ⟨name, value, entry.capacity⟩ _ ?_ ?_ hinit)
      · exact ⟨entry, List.mem_cons_self, hread⟩
      · omega

theorem sample_config :
    (lastDetector (sample reading passes entries d clock) d).config = d.config :=
  sample_invariant (P := fun d' _ _ => d'.config = d.config)
    (fun _ _ _ _ _ _ _ h => OverloadDetector.observe_config.trans h) [] rfl

theorem le_lastClock_sample : clock ≤ lastClock (sample reading passes entries d clock) clock :=
  sample_invariant (P := fun _ now _ => clock ≤ now)
    (fun _ _ _ _ _ _ hle h => h.trans hle) [] (le_refl _)

/-- Every observation uses the aggregate of the samples as they are after it. -/
theorem sample_ratio {o : Observation} (h : o ∈ sample reading passes entries d clock) :
    o.ratio = OverloadDetector.aggregate o.after.signals := by
  induction entries generalizing d clock with
  | nil => cases h
  | cons pair entries ih =>
    obtain ⟨name, entry⟩ := pair
    cases hread : reading name entry with
    | none =>
      rw [sample_none hread] at h
      exact ih h
    | some value =>
      rw [sample_some hread] at h
      rcases List.mem_cons.mp h with rfl | h
      · show _ = OverloadDetector.aggregate (d.observe _ _).signals
        rw [OverloadDetector.observe_signals]
        rfl
      · exact ih h

/-- A name that is not sampled keeps its sample. -/
theorem get?_signals_sample {name : String} (hname : ∀ entry, (name, entry) ∉ entries) :
    (lastDetector (sample reading passes entries d clock) d).signals.get? name =
      d.signals.get? name := by
  refine sample_invariant (P := fun d' _ _ => d'.signals.get? name = d.signals.get? name)
    (fun d' _ _ signal _ hsampled _ h => ?_) [] rfl
  obtain ⟨entry, hmem, -⟩ := hsampled
  rw [OverloadDetector.observe_signals, Dict.get?_set_of_ne _ _ ?_]
  · exact h
  · rintro rfl
    exact hname entry hmem

/-- What a source has read is its latest sample. -/
theorem get?_signals_sample_self (hnodup : (entries.map Prod.fst).Nodup) {name : String}
    {entry : SourceEntry κ} {value : Int} (hmem : (name, entry) ∈ entries)
    (hread : reading name entry = some value) :
    (lastDetector (sample reading passes entries d clock) d).signals.get? name =
      some ⟨name, value, entry.capacity⟩ := by
  induction entries generalizing d clock with
  | nil => cases hmem
  | cons pair entries ih =>
    obtain ⟨name', entry'⟩ := pair
    obtain ⟨hfresh, hrest⟩ := List.nodup_cons.mp hnodup
    rcases List.mem_cons.mp hmem with heq | hmem
    · obtain ⟨rfl, rfl⟩ := Prod.mk.inj heq
      have hnot : ∀ other, (name, other) ∉ entries :=
        fun other hother => hfresh (List.mem_map.mpr ⟨(name, other), hother, rfl⟩)
      rw [sample_some hread, lastDetector_cons]
      refine (get?_signals_sample hnot).trans ?_
      rw [OverloadDetector.observe_signals, Dict.get?_set_self]
    · cases hread' : reading name' entry' with
      | none =>
        rw [sample_none hread']
        exact ih hrest hmem
      | some value' =>
        rw [sample_some hread', lastDetector_cons]
        exact ih hrest hmem

/-- Where all sources are idle, what they leave is idle, and nothing else is new. -/
theorem get?_signals_sample_idle
    (hidle : ∀ name entry, (name, entry) ∈ entries → ∃ value ≤ 0, reading name entry = some value)
    {name : String} {signal : PressureSignal}
    (h : (lastDetector (sample reading passes entries d clock) d).signals.get? name = some signal) :
    signal.ratio = 0 ∨
      (d.signals.get? name = some signal ∧ ∀ entry, (name, entry) ∉ entries) := by
  induction entries generalizing d clock with
  | nil => exact .inr ⟨h, fun _ => List.not_mem_nil⟩
  | cons pair entries ih =>
    obtain ⟨name', entry'⟩ := pair
    obtain ⟨value, hvalue, hread⟩ := hidle name' entry' List.mem_cons_self
    rw [sample_some hread, lastDetector_cons] at h
    rcases ih (fun name entry hmem => hidle name entry (List.mem_cons_of_mem _ hmem)) h with
      hzero | ⟨hbefore, hnot⟩
    · exact .inl hzero
    · rw [OverloadDetector.observe_signals, Dict.get?_set] at hbefore
      by_cases hname : name = name'
      · rw [if_pos hname] at hbefore
        left
        rw [← Option.some.inj hbefore]
        exact PressureSignal.ratio_of_idle hvalue
      · rw [if_neg hname] at hbefore
        refine .inr ⟨hbefore, fun entry hmem => ?_⟩
        rcases List.mem_cons.mp hmem with heq | hmem
        · exact hname (congrArg Prod.fst heq)
        · exact hnot entry hmem

end AdaptiveBackpressureController

end AsyncViz.Runtime.Backpressure
