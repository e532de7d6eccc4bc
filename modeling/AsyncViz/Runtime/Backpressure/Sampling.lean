/-
  AsyncViz.Runtime.Backpressure.Sampling

  What the adaptive controller samples over whole runs: sources are registered and unregistered by
  name, and ticks come at any time with any readings.

  The detector remembers the last sample of every name, and unregistering a source does not make it
  forget.  So the ratio that it uses is that of the registered sources as long as every other sample
  is zero (`Clear`), and a controller without sources does not observe any more, whatever its state.
  `Careful` says which registrations and handles keep this, and `right_iff_careful` that no others
  do.  The dwell time of a downgrade holds in every run.
-/

import AsyncViz.Lib.Transition
import AsyncViz.Runtime.Backpressure.Adaptive

namespace AsyncViz.Runtime.Backpressure.Sampling

open AsyncViz.Lib AsyncViz.Lib.Smoothing AsyncViz.Lib.Transition
open AdaptiveBackpressureController (sample lastDetector lastClock)

/-! ## Runs -/

/-- A call of `tick`: how much time has passed since the last one, what the sources read, and how
    much time passes before each observation. -/
structure Tick where
  waited : Nat
  reading : String → Option Int
  passes : String → Nat

/-- An observation, with the sources that were registered at that time. -/
structure Entry where
  registered : List String
  observation : Observation

/-- The controller, the clock, and what was observed so far. -/
structure World (κ ι : Type _) where
  controller : AdaptiveBackpressureController κ ι
  clock : Int
  journal : List Entry := []

/-- A call of the controller; `unsubscribe` is that of the handle for a name. -/
inductive Action (κ : Type _) where
  | registerSource (name : String) (callable : κ) (capacity : Int)
  | unsubscribe (name : String)
  | tick (t : Tick)

namespace World

variable {κ ι : Type _}

/-- What is observed in a tick. -/
def observations (w : World κ ι) (t : Tick) : List Observation :=
  (w.controller.tick (fun name _ => t.reading name) t.passes (w.clock + t.waited)).1

/-- The call of `tick`. -/
def tick (w : World κ ι) (t : Tick) : World κ ι where
  controller :=
    (w.controller.tick (fun name _ => t.reading name) t.passes (w.clock + t.waited)).2.2
  clock := lastClock (w.observations t) (w.clock + t.waited)
  journal := w.journal ++ (w.observations t).map fun o => ⟨w.controller.sources.keys, o⟩

/-- One call. -/
def act (w : World κ ι) : Action κ → World κ ι
  | .registerSource name callable capacity =>
    { w with controller := w.controller.registerSource name callable capacity }
  | .unsubscribe name => { w with controller := w.controller.unsubscribe name }
  | .tick t => w.tick t

/-- One call as a step; every call is enabled. -/
def step (w : World κ ι) (a : Action κ) : Option (World κ ι) := some (w.act a)

/-- The controller that has just been built, at any reading of the clock. -/
def new (config : BackpressureConfig) (clock : Int) : World κ ι where
  controller := .new config
  clock := clock

/-- The state of the detector. -/
def state (w : World κ ι) : OverloadState := w.controller.detector.state

/-- Every registered source reads that it is idle. -/
def Idle (w : World κ ι) (t : Tick) : Prop :=
  ∀ name ∈ w.controller.sources, ∃ value ≤ 0, t.reading name = some value

end World

/-! ## What is claimed of a run -/

/-- The largest ratio among the latest samples of the registered sources. -/
def latestMax (registered : List String) (signals : Dict String PressureSignal) : ℚ :=
  peak ((registered.filterMap signals.get?).map (·.ratio))

/-- The aggregate that was used is that of the registered sources. -/
def Entry.Right (e : Entry) : Prop :=
  e.observation.ratio = latestMax e.registered e.observation.after.signals

/-- The observation takes the state down. -/
def Entry.Downgrade (e : Entry) : Prop :=
  e.observation.after.state.rank < e.observation.before.state.rank

/-- At the end of the journal the state was `state` and the ratio below its lower band, since an
    observation at `since`. -/
def BelowSince (config : BackpressureConfig) (state : OverloadState) (journal : List Entry)
    (since : Int) : Prop :=
  ∃ old first below, journal = old ++ first :: below ∧ first.observation.now = since ∧
    ∀ e ∈ first :: below, e.observation.before.state = state ∧
      e.observation.after.smoothedRatio < lowerBand state config

/-- No downgrade came before the ratio had been below the lower band for the dwell time. -/
def Held (config : BackpressureConfig) (journal : List Entry) : Prop :=
  ∀ past e, past ++ [e] <+: journal → e.Downgrade →
    ∃ since, BelowSince config e.observation.before.state (past ++ [e]) since ∧
      config.recoveryHoldNs ≤ e.observation.now - since

/-- The aggregates that were used, and those of any next tick, are right; idle sources take the
    detector to its normal state; and downgrades wait for their time. -/
structure Right {κ ι : Type _} (w : World κ ι) : Prop where
  aggregate : ∀ t, ∀ e ∈ (w.tick t).journal, e.Right
  recovers : ∃ n, ∀ early late : List Tick, (∀ t ∈ early ++ late, w.Idle t) → n ≤ early.length →
    w.controller.config.recoveryHoldNs ≤ (late.map (·.waited)).sum →
    ((early ++ late).foldl World.tick w).state = .normal
  held : Held w.controller.config w.journal

/-- The call does no harm: the first source comes while no other name has a sample above zero; the
    last one goes while the state is normal, and any other after a sample of zero (or none). -/
def Careful {κ ι : Type _} (w : World κ ι) : Action κ → Prop
  | .registerSource name _ _ =>
    w.controller.sources.keys = [] → ∀ other signal, other ≠ name →
      w.controller.detector.signals.get? other = some signal → signal.ratio = 0
  | .unsubscribe name =>
    name ∈ w.controller.sources →
      if (w.controller.unsubscribe name).sources.keys = [] then w.state = .normal
      else ∀ signal, w.controller.detector.signals.get? name = some signal → signal.ratio = 0
  | .tick _ => True

/-! ## Ticks -/

section Ticks

variable {κ ι : Type _} {w : World κ ι} {t : Tick}

theorem World.observations_eq (w : World κ ι) (t : Tick) :
    w.observations t = sample (fun name _ => t.reading name) t.passes w.controller.sources.entries
      w.controller.detector (w.clock + t.waited) := rfl

@[simp] theorem World.tick_sources : (w.tick t).controller.sources = w.controller.sources := rfl

@[simp] theorem World.tick_config : (w.tick t).controller.config = w.controller.config := rfl

theorem World.tick_detector :
    (w.tick t).controller.detector = lastDetector (w.observations t) w.controller.detector := rfl

theorem World.detector_config_tick :
    (w.tick t).controller.detector.config = w.controller.detector.config :=
  AdaptiveBackpressureController.sample_config

theorem World.le_clock_tick : w.clock + t.waited ≤ (w.tick t).clock :=
  AdaptiveBackpressureController.le_lastClock_sample

theorem mem_sources_iff {name : String} :
    name ∈ w.controller.sources ↔ ∃ entry, (name, entry) ∈ w.controller.sources.entries := by
  rw [Dict.mem_iff_exists_get?]
  exact exists_congr fun entry => Dict.mem_entries_iff.symm

/-- A name without a source keeps its sample. -/
theorem World.get?_signals_tick {name : String} (hname : name ∉ w.controller.sources) :
    (w.tick t).controller.detector.signals.get? name =
      w.controller.detector.signals.get? name :=
  AdaptiveBackpressureController.get?_signals_sample fun entry hmem =>
    hname (mem_sources_iff.mpr ⟨entry, hmem⟩)

/-- A source that has read something has that as its latest sample. -/
theorem World.get?_signals_tick_self {name : String} {entry : SourceEntry κ} {value : Int}
    (hsource : w.controller.sources.get? name = some entry)
    (hread : t.reading name = some value) :
    (w.tick t).controller.detector.signals.get? name = some ⟨name, value, entry.capacity⟩ :=
  AdaptiveBackpressureController.get?_signals_sample_self w.controller.sources.nodup_keys
    (Dict.mem_entries_iff.mpr hsource) hread

/-- After an idle tick a sample above zero is one that was there before, under a name without a
    source. -/
theorem World.get?_signals_tick_idle (hidle : w.Idle t) {name : String} {signal : PressureSignal}
    (h : (w.tick t).controller.detector.signals.get? name = some signal) :
    signal.ratio = 0 ∨
      (w.controller.detector.signals.get? name = some signal ∧ name ∉ w.controller.sources) := by
  have hentries : ∀ name entry, (name, entry) ∈ w.controller.sources.entries →
      ∃ value ≤ 0, t.reading name = some value :=
    fun name entry hmem => hidle name (mem_sources_iff.mpr ⟨entry, hmem⟩)
  refine (AdaptiveBackpressureController.get?_signals_sample_idle hentries h).imp_right ?_
  rintro ⟨hbefore, hnot⟩
  refine ⟨hbefore, fun hmem => ?_⟩
  obtain ⟨entry, hentry⟩ := mem_sources_iff.mp hmem
  exact hnot entry hentry

/-- The rule for a tick: what every observation keeps, a tick keeps. -/
theorem World.tick_invariant {P : OverloadDetector → Int → List Observation → Prop}
    (hstep : ∀ d clock past signal now, signal.source ∈ w.controller.sources →
      t.reading signal.source = some signal.value → clock ≤ now → P d clock past →
      P (d.observe signal now) now (past ++ [.of d signal now]))
    (hinit : P w.controller.detector (w.clock + t.waited) []) :
    P (w.tick t).controller.detector (w.tick t).clock (w.observations t) := by
  refine AdaptiveBackpressureController.sample_invariant
    (fun d clock past signal now hsampled hle h => ?_) [] hinit
  obtain ⟨entry, hmem, hread⟩ := hsampled
  exact hstep d clock past signal now (mem_sources_iff.mpr ⟨entry, hmem⟩) hread hle h

/-- Without sources there is nothing to observe. -/
theorem World.observations_of_keys_nil (h : w.controller.sources.keys = []) :
    w.observations t = [] := by
  rw [World.observations_eq, List.map_eq_nil_iff.mp h]
  rfl

end Ticks

/-! ## The aggregate -/

section Aggregate

variable {κ ι : Type _} {w : World κ ι} {t : Tick}

/-- All samples of names without a source are zero. -/
def Forgotten (registered : List String) (signals : Dict String PressureSignal) : Prop :=
  ∀ name signal, name ∉ registered → signals.get? name = some signal → signal.ratio = 0

/-- The samples that are remembered are as good as those of the sources: there are sources and no
    others count, or there are none and nothing is left to recover from. -/
def Clear (w : World κ ι) : Prop :=
  if w.controller.sources.keys = [] then w.state = .normal
  else Forgotten w.controller.sources.keys w.controller.detector.signals

theorem aggregate_eq_latestMax {registered : List String} {signals : Dict String PressureSignal}
    (h : Forgotten registered signals) :
    OverloadDetector.aggregate signals = latestMax registered signals := by
  refine peak_eq_of_subset (fun ratio hmem => ?_) (fun ratio hmem => ?_) (fun ratio hmem => ?_)
  · obtain ⟨signal, hsignal, rfl⟩ := List.mem_map.mp hmem
    obtain ⟨name, -, hget⟩ := List.mem_filterMap.mp hsignal
    exact List.mem_map_of_mem (Dict.mem_values_iff.mpr ⟨name, hget⟩)
  · obtain ⟨signal, hsignal, rfl⟩ := List.mem_map.mp hmem
    obtain ⟨name, hget⟩ := Dict.mem_values_iff.mp hsignal
    by_cases hname : name ∈ registered
    · exact .inl (List.mem_map_of_mem (List.mem_filterMap.mpr ⟨name, hname, hget⟩))
    · exact .inr (h name signal hname hget)
  · obtain ⟨signal, -, rfl⟩ := List.mem_map.mp hmem
    exact signal.ratio_nonneg

theorem Forgotten.set {registered : List String} {signals : Dict String PressureSignal}
    (h : Forgotten registered signals) {name : String} (hname : name ∈ registered)
    (signal : PressureSignal) : Forgotten registered (signals.set name signal) := by
  intro other signal' hother hget
  have hne : other ≠ name := by
    rintro rfl
    exact hother hname
  rw [Dict.get?_set_of_ne _ _ hne] at hget
  exact h other signal' hother hget

/-- While no other name counts, every observation of a tick uses the right aggregate. -/
theorem right_observations
    (h : Forgotten w.controller.sources.keys w.controller.detector.signals) :
    ∀ o ∈ w.observations t, Entry.Right ⟨w.controller.sources.keys, o⟩ := by
  refine (World.tick_invariant
    (P := fun d _ past => Forgotten w.controller.sources.keys d.signals ∧
      ∀ o ∈ past, Entry.Right ⟨w.controller.sources.keys, o⟩)
    (fun d _ past signal now hname _ _ hboth => ?_) ⟨h, fun _ ho => absurd ho List.not_mem_nil⟩).2
  have hset := hboth.1.set hname signal
  have hsignals : (d.observe signal now).signals = d.signals.set signal.source signal :=
    OverloadDetector.observe_signals
  refine ⟨by rw [hsignals]; exact hset, fun o ho => ?_⟩
  rcases List.mem_append.mp ho with ho | ho
  · exact hboth.2 o ho
  · rw [List.mem_singleton.mp ho]
    show OverloadDetector.aggregate _ = latestMax _ (d.observe signal now).signals
    rw [hsignals]
    exact aggregate_eq_latestMax hset

theorem World.entries_tick {e : Entry} (h : e ∈ (w.tick t).journal) :
    e ∈ w.journal ∨ ∃ o ∈ w.observations t, e = ⟨w.controller.sources.keys, o⟩ := by
  rcases List.mem_append.mp h with h | h
  · exact .inl h
  · obtain ⟨o, ho, rfl⟩ := List.mem_map.mp h
    exact .inr ⟨o, ho, rfl⟩

theorem right_tick (hclear : Clear w) (hpast : ∀ e ∈ w.journal, e.Right) (t : Tick) :
    ∀ e ∈ (w.tick t).journal, e.Right := by
  intro e he
  rcases World.entries_tick he with he | ⟨o, ho, rfl⟩
  · exact hpast e he
  · by_cases hkeys : w.controller.sources.keys = []
    · rw [World.observations_of_keys_nil hkeys] at ho
      cases ho
    · rw [Clear, if_neg hkeys] at hclear
      exact right_observations hclear o ho

/-- The tick in which all sources are idle. -/
def restingTick : Tick := ⟨0, fun _ => some 0, fun _ => 0⟩

theorem idle_restingTick (w : World κ ι) : w.Idle restingTick :=
  fun _ _ => ⟨0, le_refl 0, rfl⟩

/-- In an idle tick all sources are observed. -/
theorem World.observations_ne_nil (hkeys : w.controller.sources.keys ≠ []) (hidle : w.Idle t) :
    w.observations t ≠ [] := by
  rw [World.observations_eq]
  cases hentries : w.controller.sources.entries with
  | nil => exact absurd (List.map_eq_nil_iff.mpr hentries) hkeys
  | cons pair entries =>
    obtain ⟨name, entry⟩ := pair
    obtain ⟨value, -, hread⟩ := hidle name
      (mem_sources_iff.mpr ⟨entry, by rw [hentries]; exact List.mem_cons_self⟩)
    rw [AdaptiveBackpressureController.sample_some hread]
    exact List.cons_ne_nil _ _

/-- A sample above zero that has lost its source counts as soon as the others rest. -/
theorem exists_wrong (hkeys : w.controller.sources.keys ≠ []) {name : String}
    {signal : PressureSignal} (hname : name ∉ w.controller.sources)
    (hget : w.controller.detector.signals.get? name = some signal) (hratio : signal.ratio ≠ 0) :
    ∃ e ∈ (w.tick restingTick).journal, ¬ e.Right := by
  obtain ⟨o, ho⟩ := Option.ne_none_iff_exists'.mp
    (List.getLast?_eq_none_iff.not.mpr (World.observations_ne_nil hkeys (idle_restingTick w)))
  have hmem : o ∈ w.observations restingTick := List.mem_of_getLast? ho
  have hafter : o.after = (w.tick restingTick).controller.detector := by
    rw [World.tick_detector, lastDetector, ho]
    rfl
  refine ⟨⟨w.controller.sources.keys, o⟩,
    List.mem_append_right _ (List.mem_map_of_mem hmem), fun hright => ?_⟩
  have hused : o.ratio = latestMax w.controller.sources.keys o.after.signals := hright
  rw [AdaptiveBackpressureController.sample_ratio hmem] at hused
  have hzero : latestMax w.controller.sources.keys o.after.signals = 0 := by
    refine peak_eq_zero fun ratio hratio => ?_
    obtain ⟨signal', hsignal', rfl⟩ := List.mem_map.mp hratio
    obtain ⟨name', hname', hget'⟩ := List.mem_filterMap.mp hsignal'
    rw [hafter] at hget'
    rcases World.get?_signals_tick_idle (idle_restingTick w) hget' with hzero | ⟨-, hnot⟩
    · exact hzero
    · exact absurd hname' hnot
  have hkept : o.after.signals.get? name = some signal := by
    rw [hafter, World.get?_signals_tick hname, hget]
  have hle := OverloadDetector.ratio_le_aggregate hkept
  rw [hused, hzero] at hle
  exact hratio (le_antisymm hle signal.ratio_nonneg)

end Aggregate

/-! ## The dwell time -/

section Dwell

variable {κ ι : Type _} {config : BackpressureConfig} {d : OverloadDetector}
  {journal : List Entry} {signal : PressureSignal} {now : Int}

/-- The time of the detector runs from an observation since which the ratio is below the band. -/
def Timed (config : BackpressureConfig) (d : OverloadDetector) (journal : List Entry) : Prop :=
  ∀ since, d.belowLowerSinceNs = some since → BelowSince config d.state journal since

/-- One more observation below the band: the time goes on, or starts now. -/
theorem Timed.extend (h : Timed config d journal) (registered : List String)
    (hband : (d.observe signal now).smoothedRatio < lowerBand d.state config) :
    BelowSince config d.state (journal ++ [⟨registered, .of d signal now⟩])
      (d.belowLowerSinceNs.getD now) := by
  cases hsince : d.belowLowerSinceNs with
  | none =>
    refine ⟨journal, ⟨registered, .of d signal now⟩, [], rfl, rfl, fun e he => ?_⟩
    rw [List.mem_singleton.mp he]
    exact ⟨rfl, hband⟩
  | some since =>
    obtain ⟨old, first, below, rfl, hfirst, hbelow⟩ := h since hsince
    refine ⟨old, first, below ++ [⟨registered, .of d signal now⟩], by simp, hfirst,
      fun e he => ?_⟩
    rw [← List.cons_append] at he
    rcases List.mem_append.mp he with he | he
    · exact hbelow e he
    · rw [List.mem_singleton.mp he]
      exact ⟨rfl, hband⟩

/-- What an observation does to the state and the timer, as `nextState_cases` has it. -/
theorem observe_cases (hconfig : d.config = config) (signal : PressureSignal) (now : Int) :
    (d.state.rank ≤ (d.observe signal now).state.rank ∧
      (d.observe signal now).belowLowerSinceNs = none) ∨
    ((d.observe signal now).state = d.state ∧
      (d.observe signal now).belowLowerSinceNs = some (d.belowLowerSinceNs.getD now) ∧
      (d.observe signal now).smoothedRatio < lowerBand d.state config) ∨
    ((d.observe signal now).belowLowerSinceNs = none ∧
      (d.observe signal now).smoothedRatio < lowerBand d.state config ∧
      config.recoveryHoldNs ≤ now - d.belowLowerSinceNs.getD now) := by
  subst hconfig
  have hstate : (d.observe signal now).state = ((d.smooth signal).nextState now).1 :=
    OverloadDetector.maybeTransition_state
  have hsince : (d.observe signal now).belowLowerSinceNs = ((d.smooth signal).nextState now).2 :=
    OverloadDetector.maybeTransition_since
  have hratio : (d.observe signal now).smoothedRatio = (d.smooth signal).smoothedRatio :=
    OverloadDetector.maybeTransition_rest.2.2
  rw [hstate, hsince, hratio]
  rcases (d.smooth signal).nextState_cases now with ⟨hup, hnone⟩ | heq | ⟨heq, hband, -⟩ |
    ⟨heq, hband, hheld⟩
  · exact .inl ⟨Nat.le_of_lt hup, hnone⟩
  · rw [heq]
    exact .inl ⟨le_refl _, rfl⟩
  · rw [heq]
    exact .inr (.inl ⟨rfl, rfl, hband⟩)
  · rw [heq]
    exact .inr (.inr ⟨rfl, hband, hheld⟩)

theorem Timed.observe (h : Timed config d journal) (hconfig : d.config = config)
    (registered : List String) (signal : PressureSignal) (now : Int) :
    Timed config (d.observe signal now) (journal ++ [⟨registered, .of d signal now⟩]) := by
  intro since hsome
  rcases observe_cases hconfig signal now with ⟨-, hnone⟩ | ⟨hstate, hsince, hband⟩ | ⟨hnone, -⟩
  · rw [hnone] at hsome
    cases hsome
  · rw [hsince] at hsome
    rw [hstate, ← Option.some.inj hsome]
    exact h.extend registered hband
  · rw [hnone] at hsome
    cases hsome

/-- A downgrade comes at the end of its time. -/
theorem Held.observe (hheld : Held config journal) (h : Timed config d journal)
    (hconfig : d.config = config) (registered : List String) (signal : PressureSignal)
    (now : Int) : Held config (journal ++ [⟨registered, .of d signal now⟩]) := by
  intro past e hprefix hdown
  rcases List.prefix_concat_iff.mp hprefix with heq | hprefix
  · obtain ⟨rfl, he⟩ := List.append_inj' heq rfl
    rw [List.singleton_inj.mp he] at hdown ⊢
    rcases observe_cases hconfig signal now with ⟨hup, -⟩ | ⟨hstate, -⟩ | ⟨-, hband, hlong⟩
    · exact absurd hup (Nat.not_le_of_lt hdown)
    · have hlt : (d.observe signal now).state.rank < d.state.rank := hdown
      rw [hstate] at hlt
      exact absurd hlt (Nat.lt_irrefl _)
    · exact ⟨_, h.extend registered hband, hlong⟩
  · exact hheld past e hprefix hdown

end Dwell

/-! ## Recovery -/

section Recovery

variable {κ ι : Type _} {w : World κ ι} {t : Tick} {b : ℚ}

/-- The ratio below which the detector is on its way to normal, whatever its state. -/
def low (config : BackpressureConfig) : ℚ := config.elevatedThreshold * (3 / 4)

theorem low_pos (config : BackpressureConfig) : 0 < low config := by
  have hpos := config.elevated_pos
  unfold low
  linarith

/-- All samples, and the smoothed ratio, are at most `b`. -/
def Bounded (b : ℚ) (d : OverloadDetector) : Prop :=
  (∀ name signal, d.signals.get? name = some signal → signal.ratio ≤ b) ∧ d.smoothedRatio ≤ b

/-- All samples are zero. -/
def Silent (d : OverloadDetector) : Prop :=
  ∀ name signal, d.signals.get? name = some signal → signal.ratio = 0

theorem Silent.aggregate {d : OverloadDetector} (h : Silent d) :
    OverloadDetector.aggregate d.signals = 0 := by
  refine peak_eq_zero fun ratio hmem => ?_
  obtain ⟨signal, hsignal, rfl⟩ := List.mem_map.mp hmem
  obtain ⟨name, hget⟩ := Dict.mem_values_iff.mp hsignal
  exact h name signal hget

theorem Bounded.observe {d : OverloadDetector} (h : Bounded b d) (hb : 0 ≤ b)
    {signal : PressureSignal} (hsignal : signal.ratio ≤ b) (now : Int) :
    Bounded b (d.observe signal now) := by
  have hset : ∀ name signal', (d.signals.set signal.source signal).get? name = some signal' →
      signal'.ratio ≤ b := by
    intro name signal' hget
    rw [Dict.get?_set] at hget
    split_ifs at hget with hname
    · rw [← Option.some.inj hget]
      exact hsignal
    · exact h.1 name signal' hget
  refine ⟨by rw [OverloadDetector.observe_signals]; exact hset, ?_⟩
  rw [OverloadDetector.observe_smoothedRatio]
  refine ema_le d.config.decay_pos.le d.config.decay_lt.le h.2 (peak_le hb fun ratio hmem => ?_)
  obtain ⟨signal', hsignal', rfl⟩ := List.mem_map.mp hmem
  obtain ⟨name, hget⟩ := Dict.mem_values_iff.mp hsignal'
  exact hset name signal' hget

/-- Some bound holds of all that a detector remembers. -/
theorem exists_bounded (d : OverloadDetector) : ∃ b, 0 ≤ b ∧ Bounded b d := by
  refine ⟨max (OverloadDetector.aggregate d.signals) d.smoothedRatio,
    (OverloadDetector.aggregate_nonneg _).trans (le_max_left _ _), fun name signal hget => ?_,
    le_max_right _ _⟩
  exact (OverloadDetector.ratio_le_aggregate hget).trans (le_max_left _ _)

theorem Silent.observe {d : OverloadDetector} (h : Silent d) {signal : PressureSignal}
    (hsignal : signal.ratio = 0) (now : Int) :
    Silent (d.observe signal now) ∧
      (d.observe signal now).smoothedRatio = d.config.degradeDecay * d.smoothedRatio := by
  have hset : Silent (d.observe signal now) := by
    intro name signal' hget
    rw [OverloadDetector.observe_signals, Dict.get?_set] at hget
    split_ifs at hget with hname
    · rw [← Option.some.inj hget]
      exact hsignal
    · exact h name signal' hget
  have hzero := hset.aggregate
  rw [OverloadDetector.observe_signals] at hzero
  exact ⟨hset, by rw [OverloadDetector.observe_smoothedRatio, hzero, ema_zero]⟩

/-- What an idle source sends is zero. -/
theorem ratio_of_reading (hidle : w.Idle t) {signal : PressureSignal}
    (hname : signal.source ∈ w.controller.sources)
    (hread : t.reading signal.source = some signal.value) : signal.ratio = 0 := by
  obtain ⟨value, hvalue, hsome⟩ := hidle signal.source hname
  rw [hread] at hsome
  exact PressureSignal.ratio_of_idle (Option.some.inj hsome ▸ hvalue)

/-- The first idle tick silences all samples. -/
theorem silent_tick (hidle : w.Idle t)
    (hclear : Forgotten w.controller.sources.keys w.controller.detector.signals) :
    Silent (w.tick t).controller.detector := by
  intro name signal hget
  rcases World.get?_signals_tick_idle hidle hget with hzero | ⟨hbefore, hname⟩
  · exact hzero
  · exact hclear name signal hname hbefore

theorem bounded_tick (hidle : w.Idle t) (hb : 0 ≤ b) (h : Bounded b w.controller.detector) :
    Bounded b (w.tick t).controller.detector :=
  World.tick_invariant (P := fun d _ _ => Bounded b d)
    (fun _ _ _ _ now hname hread _ hd =>
      hd.observe hb ((ratio_of_reading hidle hname hread).trans_le hb) now) h

end Recovery

section Recovering

variable {κ ι : Type _} {w : World κ ι} {t : Tick} {x : ℚ} {c : Int}

/-- No time runs from later than now. -/
def TimerPast (d : OverloadDetector) (clock : Int) : Prop :=
  ∀ since, d.belowLowerSinceNs = some since → since ≤ clock

theorem TimerPast.mono {d : OverloadDetector} {clock clock' : Int} (h : TimerPast d clock)
    (hle : clock ≤ clock') : TimerPast d clock' :=
  fun since hsince => (h since hsince).trans hle

theorem TimerPast.observe {d : OverloadDetector} {now : Int} (h : TimerPast d now)
    (signal : PressureSignal) : TimerPast (d.observe signal now) now := by
  intro since hsince
  rcases observe_cases rfl signal now with ⟨-, hnone⟩ | ⟨-, hsome, -⟩ | ⟨hnone, -⟩
  · rw [hnone] at hsince
    cases hsince
  · rw [hsome] at hsince
    rw [← Option.some.inj hsince]
    cases hbefore : d.belowLowerSinceNs with
    | none => exact le_refl _
    | some since' => exact h since' hbefore
  · rw [hnone] at hsince
    cases hsince

theorem timerPast_tick (h : TimerPast w.controller.detector w.clock) (t : Tick) :
    TimerPast (w.tick t).controller.detector (w.tick t).clock :=
  World.tick_invariant (P := fun d clock _ => TimerPast d clock)
    (fun _ _ _ signal _ _ _ hle hd => (hd.mono hle).observe signal)
    (h.mono (by omega))

/-- A tick in which all is silent takes the smoothed ratio down by a constant factor, at least. -/
theorem smoothed_tick (hkeys : w.controller.sources.keys ≠ []) (hidle : w.Idle t) (hx : 0 ≤ x)
    (hsilent : Silent w.controller.detector) (h : w.controller.detector.smoothedRatio ≤ x) :
    Silent (w.tick t).controller.detector ∧
      (w.tick t).controller.detector.smoothedRatio ≤
        w.controller.detector.config.degradeDecay * x := by
  have h0 := w.controller.detector.config.decay_pos.le
  have h1 := w.controller.detector.config.decay_lt.le
  have hdecay : 0 ≤ w.controller.detector.config.degradeDecay * x := mul_nonneg h0 hx
  have hall := World.tick_invariant (w := w) (t := t)
    (P := fun d _ past => Silent d ∧ d.config = w.controller.detector.config ∧
      ((past = [] ∧ d.smoothedRatio ≤ x) ∨
        d.smoothedRatio ≤ w.controller.detector.config.degradeDecay * x))
    (fun d _ past signal now hname hread _ hd => ?_) ⟨hsilent, rfl, .inl ⟨rfl, h⟩⟩
  · obtain ⟨hsilent', -, ⟨hnone, -⟩ | hle⟩ := hall
    · exact absurd hnone (World.observations_ne_nil hkeys hidle)
    · exact ⟨hsilent', hle⟩
  · obtain ⟨hsilent, hconfig, hle⟩ := hd
    obtain ⟨hsilent', hratio⟩ := hsilent.observe (ratio_of_reading hidle hname hread) now
    refine ⟨hsilent', OverloadDetector.observe_config.trans hconfig, .inr ?_⟩
    rw [hratio, hconfig]
    rcases hle with ⟨-, hle⟩ | hle
    · exact mul_le_mul_of_nonneg_left hle h0
    · exact (mul_le_mul_of_nonneg_left hle h0).trans (mul_le_of_le_one_left hdecay h1)

/-- The same over some ticks. -/
theorem smoothed_ticks (hkeys : w.controller.sources.keys ≠ []) {ticks : List Tick}
    (hidle : ∀ t ∈ ticks, w.Idle t) (hx : 0 ≤ x) (hsilent : Silent w.controller.detector)
    (h : w.controller.detector.smoothedRatio ≤ x) :
    Silent (ticks.foldl World.tick w).controller.detector ∧
      (ticks.foldl World.tick w).controller.detector.smoothedRatio ≤
        w.controller.detector.config.degradeDecay ^ ticks.length * x := by
  induction ticks generalizing w x with
  | nil =>
    rw [List.length_nil, pow_zero, one_mul]
    exact ⟨hsilent, h⟩
  | cons t ticks ih =>
    obtain ⟨hsilent', hle⟩ :=
      smoothed_tick hkeys (hidle t List.mem_cons_self) hx hsilent h
    have hnext := @ih (w.tick t) (w.controller.detector.config.degradeDecay * x) hkeys
      (fun t' ht' => hidle t' (List.mem_cons_of_mem _ ht'))
      (mul_nonneg w.controller.detector.config.decay_pos.le hx) hsilent' hle
    rw [World.detector_config_tick] at hnext
    rw [List.foldl_cons, List.length_cons, pow_succ, mul_assoc]
    exact hnext

/-- Far below all bands with silent samples: the detector is normal, or its time runs from before
    `c` and is not over at `clock`. -/
structure Resting (c clock : Int) (d : OverloadDetector) : Prop where
  silent : Silent d
  ratio_low : d.smoothedRatio < low d.config
  waits : d.state = .normal ∨ ∃ since, d.belowLowerSinceNs = some since ∧ since ≤ c ∧
    clock - since < d.config.recoveryHoldNs

/-- One observation of an idle source, far below all bands. -/
theorem observe_of_low {d : OverloadDetector} (hsilent : Silent d)
    (hlow : d.smoothedRatio < low d.config) {signal : PressureSignal} (hsignal : signal.ratio = 0)
    (now : Int) :
    Silent (d.observe signal now) ∧ (d.observe signal now).smoothedRatio < low d.config ∧
      ((d.observe signal now).state = .normal ∨
        (d.observe signal now).state = d.state ∧
          (d.observe signal now).belowLowerSinceNs = some (d.belowLowerSinceNs.getD now) ∧
          now - d.belowLowerSinceNs.getD now < d.config.recoveryHoldNs) := by
  obtain ⟨hsilent', hratio⟩ := hsilent.observe hsignal now
  have hlow' : (d.observe signal now).smoothedRatio < low d.config := by
    rw [hratio]
    have hle : d.config.degradeDecay * d.smoothedRatio ≤ max d.smoothedRatio 0 := by
      rcases le_total 0 d.smoothedRatio with hpos | hneg
      · exact (mul_le_of_le_one_left hpos d.config.decay_lt.le).trans (le_max_left _ _)
      · exact (mul_nonpos_of_nonneg_of_nonpos d.config.decay_pos.le hneg).trans (le_max_right _ _)
    exact hle.trans_lt (max_lt hlow (low_pos d.config))
  have hnext := OverloadDetector.nextState_of_low (d := d.smooth signal)
    (by rw [← OverloadDetector.maybeTransition_rest.2.2]; exact hlow') now
  refine ⟨hsilent', hlow', ?_⟩
  have hstate : (d.observe signal now).state = ((d.smooth signal).nextState now).1 :=
    OverloadDetector.maybeTransition_state
  have hsince : (d.observe signal now).belowLowerSinceNs = ((d.smooth signal).nextState now).2 :=
    OverloadDetector.maybeTransition_since
  rcases hnext with hnormal | ⟨heq, hshort⟩
  · exact .inl (hstate.trans hnormal)
  · rw [hstate, hsince, heq]
    exact .inr ⟨rfl, rfl, hshort⟩

/-- A first tick far below all bands. -/
theorem resting_of_low (hkeys : w.controller.sources.keys ≠ []) (hidle : w.Idle t)
    (hsilent : Silent w.controller.detector)
    (hlow : w.controller.detector.smoothedRatio < low w.controller.detector.config)
    (htimer : TimerPast w.controller.detector w.clock) :
    Resting (w.tick t).clock (w.tick t).clock (w.tick t).controller.detector := by
  have hall := World.tick_invariant (w := w) (t := t)
    (P := fun d clock past => Silent d ∧ d.smoothedRatio < low d.config ∧ TimerPast d clock ∧
      (past = [] ∨ d.state = .normal ∨ ∃ since, d.belowLowerSinceNs = some since ∧
        clock - since < d.config.recoveryHoldNs))
    (fun d clock past signal now hname hread hle hd => ?_)
    ⟨hsilent, hlow, htimer.mono (by omega), .inl rfl⟩
  · obtain ⟨hsilent', hlow', htimer', hnone | hnormal | ⟨since, hsince, hshort⟩⟩ := hall
    · exact absurd hnone (World.observations_ne_nil hkeys hidle)
    · exact ⟨hsilent', hlow', .inl hnormal⟩
    · exact ⟨hsilent', hlow', .inr ⟨since, hsince, htimer' since hsince, hshort⟩⟩
  · obtain ⟨hsilent, hlow, htimer, -⟩ := hd
    obtain ⟨hsilent', hlow', hstate⟩ :=
      observe_of_low hsilent hlow (ratio_of_reading hidle hname hread) now
    rw [OverloadDetector.observe_config]
    refine ⟨hsilent', hlow', (htimer.mono hle).observe signal, .inr ?_⟩
    exact hstate.imp_right fun h => ⟨_, h.2.1, h.2.2⟩

/-- Further ticks: the time goes on from where it began, until the state is normal. -/
theorem Resting.tick (h : Resting c w.clock w.controller.detector)
    (hkeys : w.controller.sources.keys ≠ []) (hidle : w.Idle t) :
    Resting c (w.tick t).clock (w.tick t).controller.detector := by
  have hall := World.tick_invariant (w := w) (t := t)
    (P := fun d clock past => Silent d ∧ d.smoothedRatio < low d.config ∧
      (d.state = .normal ∨ ∃ since, d.belowLowerSinceNs = some since ∧ since ≤ c ∧
        (past = [] ∨ clock - since < d.config.recoveryHoldNs)))
    (fun d clock past signal now hname hread _ hd => ?_)
    ⟨h.silent, h.ratio_low, h.waits.imp_right fun ⟨since, hsince, hle, _⟩ =>
      ⟨since, hsince, hle, .inl rfl⟩⟩
  · obtain ⟨hsilent, hlow, hnormal | ⟨since, hsince, hle, hnone | hshort⟩⟩ := hall
    · exact ⟨hsilent, hlow, .inl hnormal⟩
    · exact absurd hnone (World.observations_ne_nil hkeys hidle)
    · exact ⟨hsilent, hlow, .inr ⟨since, hsince, hle, hshort⟩⟩
  · obtain ⟨hsilent, hlow, hwaits⟩ := hd
    obtain ⟨hsilent', hlow', hnormal | ⟨hstate, hsince', hshort⟩⟩ :=
      observe_of_low hsilent hlow (ratio_of_reading hidle hname hread) now
    · rw [OverloadDetector.observe_config]
      exact ⟨hsilent', hlow', .inl hnormal⟩
    · rw [OverloadDetector.observe_config]
      refine ⟨hsilent', hlow', ?_⟩
      rcases hwaits with hnormal | ⟨since, hsince, hle, -⟩
      · exact .inl (hstate.trans hnormal)
      · rw [hsince, Option.getD_some] at hsince' hshort
        exact .inr ⟨since, hsince', hle, .inr hshort⟩

/-- Over some ticks, the time that they wait goes by. -/
theorem Resting.ticks (h : Resting c w.clock w.controller.detector)
    (hkeys : w.controller.sources.keys ≠ []) {ticks : List Tick} (hidle : ∀ t ∈ ticks, w.Idle t) :
    Resting c (ticks.foldl World.tick w).clock (ticks.foldl World.tick w).controller.detector ∧
      w.clock + ((ticks.map (·.waited)).sum : Nat) ≤ (ticks.foldl World.tick w).clock := by
  induction ticks generalizing w with
  | nil => exact ⟨h, by simp⟩
  | cons t ticks ih =>
    have hnext := @ih (w.tick t) (h.tick hkeys (hidle t List.mem_cons_self)) hkeys
      fun t' ht' => hidle t' (List.mem_cons_of_mem _ ht')
    refine ⟨hnext.1, ?_⟩
    have hclock := World.le_clock_tick (w := w) (t := t)
    rw [List.map_cons, List.sum_cons, List.foldl_cons]
    have hlater := hnext.2
    rw [Nat.cast_add]
    omega

end Recovering

/-! ## Steps -/

section Steps

variable {κ ι : Type _} {w : World κ ι}

/-- What every state of the controller keeps, whatever is called. -/
structure Wired (w : World κ ι) : Prop where
  config : w.controller.detector.config = w.controller.config
  timer : TimerPast w.controller.detector w.clock
  timed : Timed w.controller.config w.controller.detector w.journal
  held : Held w.controller.config w.journal

theorem Wired.tick (h : Wired w) (t : Tick) : Wired (w.tick t) := by
  have hall := World.tick_invariant (w := w) (t := t)
    (P := fun d _ past => d.config = w.controller.config ∧
      Timed w.controller.config d
        (w.journal ++ past.map fun o => ⟨w.controller.sources.keys, o⟩) ∧
      Held w.controller.config
        (w.journal ++ past.map fun o => ⟨w.controller.sources.keys, o⟩))
    (fun d _ past signal now _ _ _ hd => ?_) ?_
  · exact ⟨hall.1, timerPast_tick h.timer t, hall.2.1, hall.2.2⟩
  · obtain ⟨hconfig, htimed, hheld⟩ := hd
    rw [List.map_append, ← List.append_assoc]
    exact ⟨OverloadDetector.observe_config.trans hconfig, htimed.observe hconfig _ _ _,
      hheld.observe htimed hconfig _ _ _⟩
  · rw [List.map_nil, List.append_nil]
    exact ⟨h.config, h.timed, h.held⟩

theorem Wired.act (h : Wired w) (a : Action κ) : Wired (w.act a) := by
  cases a with
  | registerSource name callable capacity => exact ⟨h.config, h.timer, h.timed, h.held⟩
  | unsubscribe name => exact ⟨h.config, h.timer, h.timed, h.held⟩
  | tick t => exact h.tick t

theorem Wired.ticks (h : Wired w) (ticks : List Tick) : Wired (ticks.foldl World.tick w) := by
  induction ticks generalizing w with
  | nil => exact h
  | cons t ticks ih => exact ih (h.tick t)

theorem World.sources_ticks (w : World κ ι) (ticks : List Tick) :
    (ticks.foldl World.tick w).controller.sources = w.controller.sources := by
  induction ticks generalizing w with
  | nil => rfl
  | cons t ticks ih => exact ih (w.tick t)

theorem World.config_ticks (w : World κ ι) (ticks : List Tick) :
    (ticks.foldl World.tick w).controller.config = w.controller.config := by
  induction ticks generalizing w with
  | nil => rfl
  | cons t ticks ih => exact ih (w.tick t)

theorem World.idle_ticks {ticks : List Tick} {t : Tick} (h : w.Idle t) :
    (ticks.foldl World.tick w).Idle t := by
  rw [World.Idle, World.sources_ticks]
  exact h

/-- A list that is long enough has a first element, some in the middle, and one behind them. -/
theorem exists_split {α : Type _} {l : List α} {k : ℕ} (h : k + 2 ≤ l.length) :
    ∃ first middle next more, l = first :: (middle ++ next :: more) ∧ middle.length = k := by
  obtain _ | ⟨first, rest⟩ := l
  · exact absurd h (Nat.not_succ_le_zero _)
  have hlt : k < rest.length := Nat.lt_of_succ_le (Nat.le_of_succ_le_succ h)
  refine ⟨first, rest.take k, rest[k], rest.drop (k + 1), ?_, ?_⟩
  · rw [List.getElem_cons_drop, List.take_append_drop]
  · rw [List.length_take]
    omega

/-- Far below all bands and with silent samples, it is a matter of waiting: one tick starts the time
    unless the state is normal, and later ones come to its end. -/
theorem normal_of_low (h : Wired w) (hkeys : w.controller.sources.keys ≠ [])
    (hsilent : Silent w.controller.detector)
    (hlow : w.controller.detector.smoothedRatio < low w.controller.detector.config)
    {next : Tick} {more late : List Tick} (hidle : ∀ t ∈ next :: (more ++ late), w.Idle t)
    (hlong : w.controller.config.recoveryHoldNs ≤ (late.map (·.waited)).sum) :
    ((next :: (more ++ late)).foldl World.tick w).state = .normal := by
  have hnext := resting_of_low hkeys (hidle next List.mem_cons_self) hsilent hlow h.timer
  have hmoreIdle : ∀ t ∈ more, (w.tick next).Idle t := fun t ht =>
    hidle t (List.mem_cons_of_mem _ (List.mem_append_left _ ht))
  obtain ⟨hmore, hclock⟩ := hnext.ticks hkeys hmoreIdle
  have hkeys' : (more.foldl World.tick (w.tick next)).controller.sources.keys ≠ [] := by
    rw [World.sources_ticks]
    exact hkeys
  have hlateIdle : ∀ t ∈ late, (more.foldl World.tick (w.tick next)).Idle t := fun t ht =>
    World.idle_ticks (w := w.tick next)
      (hidle t (List.mem_cons_of_mem _ (List.mem_append_right _ ht)))
  obtain ⟨hlate, hclock'⟩ := hmore.ticks hkeys' hlateIdle
  rw [List.foldl_cons, List.foldl_append]
  rcases hlate.waits with hnormal | ⟨since, -, hsince, hshort⟩
  · exact hnormal
  · have hwired := ((h.tick next).ticks more).ticks late
    rw [hwired.config, World.config_ticks, World.config_ticks, World.tick_config] at hshort
    omega

/-- Idle sources that nothing else disturbs take the detector to its normal state: the first tick
    silences the samples, and some more bring the ratio down. -/
theorem recovers_of_forgotten (h : Wired w) (hkeys : w.controller.sources.keys ≠ [])
    (hclear : Forgotten w.controller.sources.keys w.controller.detector.signals) :
    ∃ n, ∀ early late : List Tick, (∀ t ∈ early ++ late, w.Idle t) → n ≤ early.length →
      w.controller.config.recoveryHoldNs ≤ (late.map (·.waited)).sum →
      ((early ++ late).foldl World.tick w).state = .normal := by
  obtain ⟨b, hb, hbounded⟩ := exists_bounded w.controller.detector
  obtain ⟨k, hk⟩ := exists_pow_mul_lt w.controller.detector.config.decay_pos.le
    w.controller.detector.config.decay_lt (low_pos w.controller.detector.config) hb
  refine ⟨k + 2, fun early late hidle hlength hlong => ?_⟩
  obtain ⟨first, middle, next, more, rfl, hmiddle⟩ := exists_split hlength
  have hfirst : w.Idle first := hidle first (by simp)
  have hmiddleIdle : ∀ t ∈ middle, (w.tick first).Idle t := fun t ht => hidle t (by simp [ht])
  obtain ⟨hsilent, hratio⟩ := smoothed_ticks (w := w.tick first) hkeys hmiddleIdle hb
    (silent_tick hfirst hclear) (bounded_tick hfirst hb hbounded).2
  have hwired := (h.tick first).ticks middle
  have hconfig : (middle.foldl World.tick (w.tick first)).controller.detector.config =
      w.controller.detector.config := by
    rw [hwired.config, World.config_ticks, World.tick_config, h.config]
  have hlow : (middle.foldl World.tick (w.tick first)).controller.detector.smoothedRatio <
      low (middle.foldl World.tick (w.tick first)).controller.detector.config := by
    rw [World.detector_config_tick, hmiddle] at hratio
    rw [hconfig]
    exact hratio.trans_lt hk
  have hkeys' : (middle.foldl World.tick (w.tick first)).controller.sources.keys ≠ [] := by
    rw [World.sources_ticks]
    exact hkeys
  rw [List.cons_append, List.append_assoc, List.foldl_cons, List.foldl_append, List.cons_append]
  refine normal_of_low hwired hkeys' hsilent hlow (fun t ht => ?_) ?_
  · refine World.idle_ticks (w := w.tick first) (hidle t ?_)
    rw [List.cons_append, List.append_assoc, List.cons_append]
    exact List.mem_cons_of_mem _ (List.mem_append_right _ ht)
  · rw [World.config_ticks, World.tick_config]
    exact hlong

/-- A controller without sources stays as it is. -/
theorem state_ticks_of_keys_nil (hkeys : w.controller.sources.keys = []) (ticks : List Tick) :
    (ticks.foldl World.tick w).state = w.state := by
  induction ticks generalizing w with
  | nil => rfl
  | cons t ticks ih =>
    rw [List.foldl_cons, ih (w := w.tick t) hkeys, World.state, World.tick_detector,
      World.observations_of_keys_nil hkeys]
    rfl

/-- What careful calls keep. -/
structure Kept (w : World κ ι) : Prop where
  wired : Wired w
  right : ∀ e ∈ w.journal, e.Right
  clear : Clear w

theorem Kept.sound (h : Kept w) : Right w where
  aggregate := right_tick h.clear h.right
  recovers := by
    have hclear := h.clear
    by_cases hkeys : w.controller.sources.keys = []
    · rw [Clear, if_pos hkeys] at hclear
      refine ⟨0, fun early late _ _ _ => ?_⟩
      rw [state_ticks_of_keys_nil hkeys, hclear]
    · rw [Clear, if_neg hkeys] at hclear
      exact recovers_of_forgotten h.wired hkeys hclear
  held := h.wired.held

theorem keys_registerSource_ne_nil (c : AdaptiveBackpressureController κ ι) (name : String)
    (callable : κ) (capacity : Int) : (c.registerSource name callable capacity).sources.keys ≠ [] :=
  List.ne_nil_of_mem ((Dict.mem_set_iff c.sources name name _).mpr (.inl rfl))

theorem Clear.registerSource (h : Clear w) {name : String} {callable : κ} {capacity : Int}
    (hcareful : Careful w (.registerSource name callable capacity)) :
    Clear (w.act (.registerSource name callable capacity)) := by
  have hsome : (w.act (.registerSource name callable capacity)).controller.sources.keys ≠ [] :=
    keys_registerSource_ne_nil _ _ _ _
  rw [Clear, if_neg hsome]
  intro other signal hother hget
  obtain ⟨hne, hnot⟩ := not_or.mp
    (mt (Dict.mem_set_iff w.controller.sources name other _).mpr hother)
  by_cases hkeys : w.controller.sources.keys = []
  · exact hcareful hkeys other signal hne hget
  · rw [Clear, if_neg hkeys] at h
    exact h other signal hnot hget

theorem Clear.unsubscribe (h : Clear w) {name : String}
    (hcareful : Careful w (.unsubscribe name)) : Clear (w.act (.unsubscribe name)) := by
  have hmem : ∀ other, other ∈ (w.controller.unsubscribe name).sources ↔
      other ≠ name ∧ other ∈ w.controller.sources :=
    fun other => Dict.mem_pop_iff w.controller.sources name other
  by_cases hname : name ∈ w.controller.sources
  · have hkeys : w.controller.sources.keys ≠ [] := List.ne_nil_of_mem hname
    have hthis := hcareful hname
    rw [Clear, if_neg hkeys] at h
    by_cases hlast : (w.controller.unsubscribe name).sources.keys = []
    · rw [if_pos hlast] at hthis
      exact (if_pos hlast).mpr hthis
    · rw [if_neg hlast] at hthis
      refine (if_neg hlast).mpr fun other signal hother hget => ?_
      by_cases heq : other = name
      · rw [heq] at hget
        exact hthis signal hget
      · exact h other signal (fun hsource => hother ((hmem other).mpr ⟨heq, hsource⟩)) hget
  · have hsame : (w.controller.unsubscribe name).sources.keys = w.controller.sources.keys := by
      rw [AdaptiveBackpressureController.unsubscribe, Dict.keys_pop]
      refine List.filter_eq_self.mpr fun other hother => decide_eq_true ?_
      rintro rfl
      exact hname hother
    show if (w.controller.unsubscribe name).sources.keys = [] then _ else
      Forgotten (w.controller.unsubscribe name).sources.keys _
    rw [hsame]
    exact h

theorem Clear.tick (h : Clear w) (t : Tick) : Clear (w.tick t) := by
  by_cases hkeys : w.controller.sources.keys = []
  · rw [Clear, if_pos hkeys] at h
    rw [Clear, World.tick_sources, if_pos hkeys]
    exact (state_ticks_of_keys_nil hkeys [t]).trans h
  · rw [Clear, if_neg hkeys] at h
    rw [Clear, World.tick_sources, if_neg hkeys]
    intro name signal hname hget
    rw [World.get?_signals_tick hname] at hget
    exact h name signal hname hget

theorem kept_of_careful (w : World κ ι) (a : Action κ) (w' : World κ ι) (h : Kept w)
    (ha : Careful w a) (hstep : World.step w a = some w') : Kept w' := by
  cases hstep
  refine ⟨h.wired.act a, ?_, ?_⟩
  · cases a with
    | registerSource name callable capacity => exact h.right
    | unsubscribe name => exact h.right
    | tick t => exact right_tick h.clear h.right t
  · cases a with
    | registerSource name callable capacity => exact h.clear.registerSource ha
    | unsubscribe name => exact h.clear.unsubscribe ha
    | tick t => exact h.clear.tick t

theorem not_right_of_stale (hkeys : w.controller.sources.keys ≠ []) {name : String}
    {signal : PressureSignal} (hname : name ∉ w.controller.sources)
    (hget : w.controller.detector.signals.get? name = some signal) (hratio : signal.ratio ≠ 0) :
    ¬ Right w := by
  intro hright
  obtain ⟨e, he, hwrong⟩ := exists_wrong hkeys hname hget hratio
  exact hwrong (hright.aggregate restingTick e he)

/-- Every other call leaves a sample that counts without a source, or a state that nothing can
    change any more. -/
theorem not_right_of_careless (w : World κ ι) (a : Action κ) (w' : World κ ι) (_ : Kept w)
    (ha : ¬ Careful w a) (hstep : World.step w a = some w') : ¬ Right w' := by
  cases hstep
  intro hright
  cases a with
  | tick t => exact ha trivial
  | registerSource name callable capacity =>
    simp only [Careful, Classical.not_imp, not_forall] at ha
    obtain ⟨hkeys, other, signal, hne, hget, hratio⟩ := ha
    have hnot : other ∉ (w.controller.registerSource name callable capacity).sources := by
      intro hmem
      rcases (Dict.mem_set_iff w.controller.sources name other _).mp hmem with heq | hmem
      · exact hne heq
      · exact absurd (List.ne_nil_of_mem hmem) (not_not.mpr hkeys)
    exact not_right_of_stale (w := w.act (.registerSource name callable capacity))
      (keys_registerSource_ne_nil _ _ _ _) hnot hget hratio hright
  | unsubscribe name =>
    obtain ⟨hname, hthis⟩ := Classical.not_imp.mp ha
    have hnot : name ∉ (w.controller.unsubscribe name).sources := fun hmem =>
      ((Dict.mem_pop_iff w.controller.sources name name).mp hmem).1 rfl
    by_cases hlast : (w.controller.unsubscribe name).sources.keys = []
    · rw [if_pos hlast] at hthis
      obtain ⟨n, hn⟩ := hright.recovers
      refine hthis ?_
      have hnormal := hn (List.replicate n restingTick)
        [⟨w.controller.config.recoveryHoldNs, fun _ => none, fun _ => 0⟩] ?_ ?_ ?_
      · rw [state_ticks_of_keys_nil hlast] at hnormal
        exact hnormal
      · intro t _ other hmem
        exact absurd (List.ne_nil_of_mem hmem) (not_not.mpr hlast)
      · rw [List.length_replicate]
      · exact le_of_eq (List.sum_singleton).symm
    · rw [if_neg hlast] at hthis
      simp only [Classical.not_imp, not_forall] at hthis
      obtain ⟨signal, hget, hratio⟩ := hthis
      exact not_right_of_stale (w := w.act (.unsubscribe name)) hlast hnot hget hratio hright

theorem kept_new (config : BackpressureConfig) (clock : Int) :
    Kept (.new config clock : World κ ι) where
  wired := by
    refine ⟨rfl, fun _ hsince => (by cases hsince), fun _ hsince => (by cases hsince), ?_⟩
    intro past e hprefix
    exact absurd (List.prefix_nil.mp hprefix) (List.append_ne_nil_of_right_ne_nil _
      (List.cons_ne_nil e []))
  right := fun _ he => absurd he List.not_mem_nil
  clear := rfl

/-- In every run of the controller, what is claimed of its sampling holds in every state reached
    exactly if all of the calls are careful. -/
theorem right_iff_careful (config : BackpressureConfig) (clock : Int) (actions : List (Action κ)) :
    AllStates World.step Right (.new config clock : World κ ι) actions ↔
      AllSteps World.step Careful (.new config clock : World κ ι) actions := by
  obtain ⟨w', hrun⟩ := exec_isSome (fun w a => ⟨w.act a, rfl⟩)
    (World.new config clock : World κ ι) actions
  exact allStates_iff_allSteps_of_keep (fun _ => Kept.sound) kept_of_careful not_right_of_careless
    (kept_new config clock) hrun

end Steps

/-- A full source is unregistered after a tick, and an idle one stays: the aggregate is 1 from then
    on. -/
theorem not_right_of_unsubscribed :
    ¬ AllStates World.step Right (.new .default 0 : World Unit Unit)
      [.registerSource "a" () 10, .registerSource "b" () 10,
        .tick ⟨0, fun name => some (if name = "a" then 10 else 0), fun _ => 0⟩,
        .unsubscribe "a"] := by
  intro hall
  have hright := ((((hall.2 _ rfl).2 _ rfl).2 _ rfl).2 _ rfl)
  have hfull : (PressureSignal.mk "a" 10 10).ratio ≠ 0 := by
    norm_num [PressureSignal.ratio]
  have hsample := World.get?_signals_tick_self (κ := Unit) (ι := Unit)
    (w := ((World.new .default 0).act (.registerSource "a" () 10)).act (.registerSource "b" () 10))
    (t := ⟨0, fun name => some (if name = "a" then 10 else 0), fun _ => 0⟩) (by rfl)
    (show some (if "a" = "a" then (10 : Int) else 0) = some 10 by rfl)
  refine not_right_of_stale ?_ ?_ (by exact hsample) hfull hright
  · decide
  · decide

end AsyncViz.Runtime.Backpressure.Sampling
