/-
  AsyncViz.Runtime.Backpressure.ResetRuns

  A controller that has been reset, next to one that has just been built, through the same calls.

  `reset` forgets the sources and the listeners, but keeps the websocket registry and the recorder
  adapter, emptied.  So it is the new controller without its own listener and with what it has kept
  (`leftBehind`).  The two look the same (`Same`) until a kept adapter is attached again, which
  does not make it a source, or a tick changes the overload state, after which nobody acts.
-/

import AsyncViz.Lib.Transition
import AsyncViz.Runtime.Backpressure.Controller

namespace AsyncViz.Runtime.Backpressure

open AsyncViz.Lib AsyncViz.Lib.Smoothing AsyncViz.Lib.Transition

/-! ## Runs -/

/-- A call in the past of a controller. -/
inductive PastCall (α : Type _) where
  | act (a : Action α)
  | tick (now : Int) (passes : String → Nat)
  | subscribeActions (id : Nat)
  | reset

/-- A call that both controllers get. -/
inductive TwinCall (α : Type _) where
  | act (a : Action α)
  | tick (now : Int) (passes : String → Nat)

namespace EventBackpressureController

variable {α : Type _}

/-- One call of the past. -/
def past (c : EventBackpressureController α) : PastCall α → EventBackpressureController α
  | .act a => c.call a
  | .tick now passes => (c.tick passes now).2.2
  | .subscribeActions id => { c with adaptive := c.adaptive.subscribeActions (.other id) }
  | .reset => c.reset

/-- What a tick observes. -/
def observed (c : EventBackpressureController α) (now : Int) (passes : String → Nat) :
    List Observation :=
  (c.adaptive.tick (fun _ entry => some (c.read entry.callable)) passes now).1

/-- The state of the detector that a tick leaves. -/
def stateAfter (c : EventBackpressureController α) (now : Int) (passes : String → Nat) :
    OverloadState :=
  (c.adaptive.tick (fun _ entry => some (c.read entry.callable)) passes now).2.2.detector.state

/-- The controller without listeners, and with adapters that it has kept. -/
def leftBehind (c : EventBackpressureController α)
    (registry : Option (WebsocketBackpressureRegistry α))
    (recorder : Option (ReplayBackpressureAdapter α)) : EventBackpressureController α :=
  { c with
    adaptive := { c.adaptive with actionListeners := [] }
    websocketRegistry := c.websocketRegistry.or registry
    recorderAdapter := c.recorderAdapter.or recorder }

/-- The call attaches nothing for the first time that has been kept. -/
def AttachesNew (c : EventBackpressureController α)
    (registry : Option (WebsocketBackpressureRegistry α))
    (recorder : Option (ReplayBackpressureAdapter α)) : Action α → Prop
  | .attachWebsocketRegistry _ => c.websocketRegistry = none → registry = none
  | .attachRecorderAdapter _ => c.recorderAdapter = none → recorder = none
  | _ => True

end EventBackpressureController

/-- A controller after its reset, one that has been built instead, and what their ticks have
    shown. -/
structure Twin (α : Type _) where
  reset : EventBackpressureController α
  fresh : EventBackpressureController α
  resetReports : List Report := []
  freshReports : List Report := []

namespace Twin

variable {α : Type _}

/-- The reset comes after `history`. -/
def start (config : BackpressureConfig) (history : List (PastCall α)) : Twin α where
  reset := (history.foldl EventBackpressureController.past (.new config)).reset
  fresh := .new config

/-- Both get the call; an offer needs a handle that the new controller has returned. -/
def run (t : Twin α) : TwinCall α → Twin α
  | .act a =>
    if t.fresh.hasHandle a then { t with reset := t.reset.call a, fresh := t.fresh.call a } else t
  | .tick now passes =>
    let (resetReport, _, reset) := t.reset.tick passes now
    let (freshReport, _, fresh) := t.fresh.tick passes now
    ⟨reset, fresh, t.resetReports ++ [resetReport], t.freshReports ++ [freshReport]⟩

/-- One call as a step; every call is enabled. -/
def step (t : Twin α) (call : TwinCall α) : Option (Twin α) := some (t.run call)

/-- The overload states are the same, so were the reports, and the same is sampled next. -/
structure Same (t : Twin α) : Prop where
  state : t.reset.adaptive.detector.state = t.fresh.adaptive.detector.state
  reports : t.resetReports = t.freshReports
  sampled : t.reset.sampled = t.fresh.sampled

/-- The call does no harm: an adapter that is attached for the first time was not kept, and a tick
    leaves the overload state of the new controller as it is. -/
def Harmless (t : Twin α) : TwinCall α → Prop
  | .act a => t.fresh.AttachesNew t.reset.websocketRegistry t.reset.recorderAdapter a
  | .tick now passes => t.fresh.stateAfter now passes = t.fresh.adaptive.detector.state

end Twin

/-! ## What the reset leaves -/

section LeftBehind

variable {α : Type _} {c : EventBackpressureController α} {config : BackpressureConfig}
  {registry : Option (WebsocketBackpressureRegistry α)}
  {recorder : Option (ReplayBackpressureAdapter α)}

/-- What has been kept is empty. -/
structure Emptied (registry : Option (WebsocketBackpressureRegistry α))
    (recorder : Option (ReplayBackpressureAdapter α)) : Prop where
  registry : ∀ r, registry = some r → r.channels = .empty
  recorder : ∀ a, recorder = some a → a.channel.queue.buf = []

/-- All parts of a controller have its configuration. -/
structure Configured (config : BackpressureConfig) (c : EventBackpressureController α) : Prop where
  controller : c.config = config
  adaptive : c.adaptive.config = config
  detector : c.adaptive.detector.config = config

/-- What a call can do to a controller: what is attached stays, and at most one source is new, for
    what is attached then. -/
structure Grown (c next : EventBackpressureController α) : Prop where
  config : next.config = c.config
  websocket : c.websocketRegistry.isSome → next.websocketRegistry.isSome
  recorder : c.recorderAdapter.isSome → next.recorderAdapter.isSome
  adaptive : next.adaptive = c.adaptive ∨ ∃ name callable capacity,
    next.adaptive = c.adaptive.registerSource name callable capacity ∧
      (callable = .websocket → next.websocketRegistry.isSome) ∧
      (callable = .recorder → next.recorderAdapter.isSome)

theorem Grown.refl (c : EventBackpressureController α) : Grown c c := ⟨rfl, id, id, .inl rfl⟩

theorem grown_call (c : EventBackpressureController α) (a : Action α) : Grown c (c.call a) := by
  cases a with
  | registerChannel name capacity policy =>
    rw [EventBackpressureController.call, EventBackpressureController.registerChannel]
    by_cases hname : name ∈ c.channels
    · rw [if_pos hname]
      exact .refl c
    · rw [if_neg hname]
      exact ⟨rfl, id, id, .inr ⟨_, _, _, rfl, Source.noConfusion, Source.noConfusion⟩⟩
  | attachWebsocketRegistry policy =>
    rw [EventBackpressureController.call, EventBackpressureController.attachWebsocketRegistry]
    cases c.websocketRegistry with
    | none =>
      exact ⟨rfl, fun _ => rfl, id,
        .inr ⟨"websocket", .websocket, 100, rfl, fun _ => rfl, Source.noConfusion⟩⟩
    | some r => exact .refl c
  | attachRecorderAdapter policy =>
    rw [EventBackpressureController.call, EventBackpressureController.attachRecorderAdapter]
    cases c.recorderAdapter with
    | none =>
      exact ⟨rfl, id, fun _ => rfl,
        .inr ⟨"recorder", .recorder, _, rfl, Source.noConfusion, fun _ => rfl⟩⟩
    | some a => exact .refl c
  | attachReducerAdapter name capacity policy =>
    rw [EventBackpressureController.call, EventBackpressureController.attachReducerAdapter]
    by_cases hname : name ∈ c.reducerAdapters
    · rw [if_pos hname]
      exact .refl c
    · rw [if_neg hname]
      exact ⟨rfl, id, id, .inr ⟨_, _, _, rfl, Source.noConfusion, Source.noConfusion⟩⟩
  | offer name item priority =>
    rw [EventBackpressureController.call]
    cases c.channels.get? name with
    | none => exact .refl c
    | some ch => exact ⟨rfl, id, id, .inl rfl⟩
  | offerReducer name item priority =>
    rw [EventBackpressureController.call]
    cases c.reducerAdapters.get? name with
    | none => exact .refl c
    | some a => exact ⟨rfl, id, id, .inl rfl⟩
  | offerRecorder item priority =>
    exact ⟨rfl, id, fun h => Option.isSome_map.trans h, .inl rfl⟩
  | attachSubscriber subscriberId =>
    exact ⟨rfl, fun h => Option.isSome_map.trans h, id, .inl rfl⟩
  | offerSubscriber subscriberId frame priority =>
    exact ⟨rfl, fun h => Option.isSome_map.trans h, id, .inl rfl⟩
  | markSlow subscriberId =>
    exact ⟨rfl, fun h => Option.isSome_map.trans h, id, .inl rfl⟩

/-- The listeners see every action, and change subscribers at most. -/
theorem perform_rest (dispatched : List (DegradationAction × Listener))
    (c : EventBackpressureController α) :
    (EventBackpressureController.perform dispatched c).1.map (fun p => (p.1, p.2.1))
        = dispatched ∧
      (EventBackpressureController.perform dispatched c).2.config = c.config ∧
      (EventBackpressureController.perform dispatched c).2.adaptive = c.adaptive := by
  induction dispatched generalizing c with
  | nil => exact ⟨rfl, rfl, rfl⟩
  | cons pair rest ih =>
    obtain ⟨action, listener⟩ := pair
    cases listener with
    | onAction =>
      have hact : (c.onAction action).2.config = c.config ∧
          (c.onAction action).2.adaptive = c.adaptive := by
        unfold EventBackpressureController.onAction
        cases c.websocketRegistry with
        | none => exact ⟨rfl, rfl⟩
        | some r =>
          dsimp only
          split
          · exact ⟨rfl, rfl⟩
          · exact ⟨rfl, rfl⟩
      obtain ⟨hmap, hconfig, hadaptive⟩ := ih (c.onAction action).2
      exact ⟨congrArg _ hmap, hconfig.trans hact.1, hadaptive.trans hact.2⟩
    | other id =>
      obtain ⟨hmap, hrest⟩ := ih c
      exact ⟨congrArg _ hmap, hrest⟩

theorem Configured.past (h : Configured config c) (call : PastCall α) :
    Configured config (c.past call) := by
  cases call with
  | act a =>
    have hadaptive : (c.call a).adaptive.config = c.adaptive.config ∧
        (c.call a).adaptive.detector = c.adaptive.detector := by
      rcases (grown_call c a).adaptive with hsame | ⟨name, callable, capacity, hset, -⟩
      · rw [hsame]
        exact ⟨rfl, rfl⟩
      · rw [hset]
        exact ⟨rfl, rfl⟩
    exact ⟨(grown_call c a).config.trans h.controller, hadaptive.1.trans h.adaptive,
      (congrArg _ hadaptive.2).trans h.detector⟩
  | tick now passes =>
    obtain ⟨-, hconfig, hadaptive⟩ := perform_rest
      (c.adaptive.tick (fun _ entry => some (c.read entry.callable)) passes now).2.1
      { c with
        adaptive :=
          (c.adaptive.tick (fun _ entry => some (c.read entry.callable)) passes now).2.2 }
    refine ⟨hconfig.trans h.controller, (congrArg _ hadaptive).trans h.adaptive, ?_⟩
    exact (congrArg _ (congrArg _ hadaptive)).trans
      (AdaptiveBackpressureController.sample_config.trans h.detector)
  | subscribeActions id => exact ⟨h.controller, h.adaptive, h.detector⟩
  | reset => exact ⟨h.controller, h.adaptive, h.detector⟩

/-- A reset leaves the new controller, without its listener and with what has been kept. -/
theorem Configured.reset (h : Configured config c) :
    ∃ registry recorder, Emptied registry recorder ∧
      c.reset = EventBackpressureController.leftBehind (.new config) registry recorder := by
  obtain ⟨hcontroller, hadaptive, hdetector⟩ := h
  refine ⟨c.websocketRegistry.map (·.reset), c.recorderAdapter.map (·.reset), ⟨?_, ?_⟩, ?_⟩
  · intro r hr
    obtain ⟨r', -, rfl⟩ := Option.map_eq_some_iff.mp hr
    rfl
  · intro a ha
    obtain ⟨a', -, rfl⟩ := Option.map_eq_some_iff.mp ha
    rfl
  · unfold EventBackpressureController.reset AdaptiveBackpressureController.reset
      OverloadDetector.reset
    rw [hcontroller, hadaptive, hdetector]
    rfl

theorem reset_history (config : BackpressureConfig) (history : List (PastCall α)) :
    ∃ registry recorder, Emptied registry recorder ∧
      (Twin.start config history).reset =
        EventBackpressureController.leftBehind (.new config) registry recorder := by
  have hconfigured : ∀ c : EventBackpressureController α, Configured config c →
      Configured config (history.foldl EventBackpressureController.past c) := by
    induction history with
    | nil => exact fun c hc => hc
    | cons call history ih => exact fun c hc => ih _ (hc.past call)
  exact (hconfigured (.new config) ⟨rfl, rfl, rfl⟩).reset

/-- What has been kept reads as nothing. -/
theorem read_leftBehind (hempty : Emptied registry recorder) (source : Source) :
    (c.leftBehind registry recorder).read source = c.read source := by
  cases source with
  | channel name => rfl
  | reducer name => rfl
  | websocket =>
    unfold EventBackpressureController.read EventBackpressureController.leftBehind
    dsimp only
    cases hfresh : c.websocketRegistry with
    | some r => rfl
    | none =>
      cases hkept : registry with
      | none => rfl
      | some r =>
        have hzero : r.maxPressureRatio = 0 := by
          rw [WebsocketBackpressureRegistry.maxPressureRatio, hempty.registry r hkept]
          rfl
        rw [Option.none_or, Option.map_some, Option.getD_some, hzero]
        rfl
  | recorder =>
    unfold EventBackpressureController.read EventBackpressureController.leftBehind
    dsimp only
    cases hfresh : c.recorderAdapter with
    | some a => rfl
    | none =>
      cases hkept : recorder with
      | none => rfl
      | some a =>
        have hzero : a.channel.depth = 0 := congrArg List.length (hempty.recorder a hkept)
        rw [Option.none_or, Option.map_some, Option.getD_some, hzero]
        rfl

theorem sampled_leftBehind (hempty : Emptied registry recorder) :
    (c.leftBehind registry recorder).sampled = c.sampled := by
  refine List.map_congr_left fun p _ => ?_
  rw [read_leftBehind hempty]

/-- Where the state stays, nobody is called, whoever listens. -/
theorem tick_of_stays {now : Int} {passes : String → Nat}
    (hstay : c.stateAfter now passes = c.adaptive.detector.state) :
    c.tick passes now =
      (⟨c.stateAfter now passes, c.sampled, []⟩,
        AdaptiveBackpressureController.lastClock (c.observed now passes) now,
        { c with
          adaptive :=
            (c.adaptive.tick (fun _ entry => some (c.read entry.callable)) passes now).2.2 }) := by
  have hnone : (c.adaptive.tick (fun _ entry => some (c.read entry.callable)) passes now).2.1
      = [] := by
    show (actionsFor c.adaptive.config c.adaptive.detector.state
      (c.stateAfter now passes)).flatMap _ = []
    rw [actionsFor_eq_nil_iff.mpr hstay.symm]
    rfl
  unfold EventBackpressureController.tick
  dsimp only
  rw [hnone]
  rfl

/-- A tick that leaves the state as it is makes no difference. -/
theorem tick_leftBehind (hempty : Emptied registry recorder) {now : Int} {passes : String → Nat}
    (hstay : c.stateAfter now passes = c.adaptive.detector.state) :
    (c.leftBehind registry recorder).tick passes now =
      ((c.tick passes now).1, (c.tick passes now).2.1,
        (c.tick passes now).2.2.leftBehind registry recorder) := by
  have hread : (c.leftBehind registry recorder).read = c.read :=
    funext fun source => read_leftBehind hempty source
  have hstate : (c.leftBehind registry recorder).stateAfter now passes =
      c.stateAfter now passes := by
    unfold EventBackpressureController.stateAfter
    rw [hread]
    rfl
  rw [tick_of_stays hstay, tick_of_stays (hstate.trans hstay), hstate, sampled_leftBehind hempty]
  unfold EventBackpressureController.observed
  rw [hread]
  rfl

end LeftBehind

/-! ## Twins -/

section Twins

variable {α : Type _} {c : EventBackpressureController α}
  {registry : Option (WebsocketBackpressureRegistry α)}
  {recorder : Option (ReplayBackpressureAdapter α)} {t : Twin α}

/-- A call that attaches nothing kept makes no difference. -/
theorem call_leftBehind {a : Action α} (hhandle : c.hasHandle a = true)
    (hnew : c.AttachesNew registry recorder a) :
    (c.leftBehind registry recorder).call a = (c.call a).leftBehind registry recorder := by
  cases a with
  | registerChannel name capacity policy =>
    simp only [EventBackpressureController.call, EventBackpressureController.registerChannel]
    by_cases hname : name ∈ c.channels
    · rw [if_pos hname]
      exact if_pos hname
    · rw [if_neg hname]
      exact if_neg hname
  | attachWebsocketRegistry policy =>
    simp only [EventBackpressureController.call,
      EventBackpressureController.attachWebsocketRegistry,
      EventBackpressureController.leftBehind]
    cases hregistry : c.websocketRegistry with
    | none =>
      obtain rfl := hnew hregistry
      rfl
    | some r => rw [Option.some_or, hregistry, Option.some_or]
  | attachRecorderAdapter policy =>
    simp only [EventBackpressureController.call,
      EventBackpressureController.attachRecorderAdapter, EventBackpressureController.leftBehind]
    cases hrecorder : c.recorderAdapter with
    | none =>
      obtain rfl := hnew hrecorder
      rfl
    | some r => rw [Option.some_or, hrecorder, Option.some_or]
  | attachReducerAdapter name capacity policy =>
    simp only [EventBackpressureController.call, EventBackpressureController.attachReducerAdapter]
    by_cases hname : name ∈ c.reducerAdapters
    · rw [if_pos hname]
      exact if_pos hname
    · rw [if_neg hname]
      exact if_neg hname
  | offer name item priority =>
    simp only [EventBackpressureController.call, EventBackpressureController.leftBehind]
    cases c.channels.get? name <;> rfl
  | offerReducer name item priority =>
    simp only [EventBackpressureController.call, EventBackpressureController.leftBehind]
    cases c.reducerAdapters.get? name <;> rfl
  | offerRecorder item priority =>
    obtain ⟨a, ha⟩ := Option.isSome_iff_exists.mp hhandle
    simp only [EventBackpressureController.call, EventBackpressureController.leftBehind, ha,
      Option.map_some, Option.some_or]
  | attachSubscriber subscriberId =>
    obtain ⟨r, hr⟩ := Option.isSome_iff_exists.mp hhandle
    simp only [EventBackpressureController.call, EventBackpressureController.leftBehind, hr,
      Option.map_some, Option.some_or]
  | offerSubscriber subscriberId frame priority =>
    obtain ⟨r, hr⟩ := Option.isSome_iff_exists.mp hhandle
    simp only [EventBackpressureController.call, EventBackpressureController.leftBehind, hr,
      Option.map_some, Option.some_or]
  | markSlow subscriberId =>
    obtain ⟨r, hr⟩ := Option.isSome_iff_exists.mp hhandle
    simp only [EventBackpressureController.call, EventBackpressureController.leftBehind, hr,
      Option.map_some, Option.some_or]

/-- Every source of an adapter has its adapter. -/
def Wired (c : EventBackpressureController α) : Prop :=
  ∀ name entry, c.adaptive.sources.get? name = some entry →
    (entry.callable = .websocket → c.websocketRegistry.isSome) ∧
      (entry.callable = .recorder → c.recorderAdapter.isSome)

theorem Wired.call (h : Wired c) (a : Action α) : Wired (c.call a) := by
  have hgrown := grown_call c a
  have hold : ∀ name entry, c.adaptive.sources.get? name = some entry →
      (entry.callable = .websocket → (c.call a).websocketRegistry.isSome) ∧
        (entry.callable = .recorder → (c.call a).recorderAdapter.isSome) :=
    fun name entry hget => ⟨fun hcallable => hgrown.websocket ((h name entry hget).1 hcallable),
      fun hcallable => hgrown.recorder ((h name entry hget).2 hcallable)⟩
  intro name entry hget
  rcases hgrown.adaptive with hsame | ⟨name', callable, capacity, hset, hnew⟩
  · rw [hsame] at hget
    exact hold name entry hget
  · rw [hset, AdaptiveBackpressureController.registerSource, Dict.get?_set] at hget
    by_cases hname : name = name'
    · rw [if_pos hname] at hget
      rw [← Option.some.inj hget]
      exact hnew
    · rw [if_neg hname] at hget
      exact hold name entry hget

/-- The twins differ in what the reset has kept, and in the listener of the new controller. -/
structure Alike (registry : Option (WebsocketBackpressureRegistry α))
    (recorder : Option (ReplayBackpressureAdapter α)) (t : Twin α) : Prop where
  reset : t.reset = t.fresh.leftBehind registry recorder
  listeners : t.fresh.adaptive.actionListeners = [.onAction]
  wired : Wired t.fresh
  reports : t.resetReports = t.freshReports

theorem Alike.same (h : Alike registry recorder t) (hempty : Emptied registry recorder) :
    t.Same := by
  refine ⟨?_, h.reports, ?_⟩
  · rw [h.reset]
    rfl
  · rw [h.reset]
    exact sampled_leftBehind hempty

/-- A call only appends to the listeners where somebody subscribes. -/
theorem listeners_call (c : EventBackpressureController α) (a : Action α) :
    (c.call a).adaptive.actionListeners = c.adaptive.actionListeners := by
  rcases (grown_call c a).adaptive with hsame | ⟨name, callable, capacity, hset, -⟩
  · rw [hsame]
  · rw [hset]
    rfl

/-- What is kept counts only where the new controller has none. -/
theorem Alike.attachesNew_iff (h : Alike registry recorder t) {a : Action α} :
    t.fresh.AttachesNew t.reset.websocketRegistry t.reset.recorderAdapter a ↔
      t.fresh.AttachesNew registry recorder a := by
  rw [h.reset]
  cases a with
  | attachWebsocketRegistry policy =>
    refine forall_congr' fun hnone => ?_
    show t.fresh.websocketRegistry.or registry = none ↔ registry = none
    rw [hnone, Option.none_or]
  | attachRecorderAdapter policy =>
    refine forall_congr' fun hnone => ?_
    show t.fresh.recorderAdapter.or recorder = none ↔ recorder = none
    rw [hnone, Option.none_or]
  | _ => exact Iff.rfl

theorem run_act (t : Twin α) {a : Action α} (hhandle : t.fresh.hasHandle a = true) :
    t.run (.act a) = { t with reset := t.reset.call a, fresh := t.fresh.call a } := if_pos hhandle

theorem run_tick (t : Twin α) (now : Int) (passes : String → Nat) :
    t.run (.tick now passes) =
      ⟨(t.reset.tick passes now).2.2, (t.fresh.tick passes now).2.2,
        t.resetReports ++ [(t.reset.tick passes now).1],
        t.freshReports ++ [(t.fresh.tick passes now).1]⟩ := rfl

theorem Alike.run (h : Alike registry recorder t) (hempty : Emptied registry recorder)
    {call : TwinCall α} (hharmless : t.Harmless call) : Alike registry recorder (t.run call) := by
  cases call with
  | act a =>
    by_cases hhandle : t.fresh.hasHandle a = true
    · rw [run_act t hhandle]
      refine ⟨?_, (listeners_call t.fresh a).trans h.listeners, h.wired.call a, h.reports⟩
      show t.reset.call a = (t.fresh.call a).leftBehind registry recorder
      rw [h.reset, call_leftBehind hhandle (h.attachesNew_iff.mp hharmless)]
    · have hskip : t.run (.act a) = t := if_neg hhandle
      rw [hskip]
      exact h
  | tick now passes =>
    rw [run_tick, h.reset, tick_leftBehind hempty hharmless, tick_of_stays hharmless, h.reports]
    exact ⟨rfl, h.listeners, h.wired, rfl⟩

/-- A source that is new here and not there is not sampled there. -/
theorem sampled_ne {c' : EventBackpressureController α} {name : String} {callable : Source}
    {capacity : Int} {adaptive : AdaptiveBackpressureController Source Listener}
    (hset : c.adaptive = adaptive.registerSource name callable capacity)
    (hnone : ∀ name entry, c'.adaptive.sources.get? name = some entry →
      entry.callable ≠ callable) : c'.sampled ≠ c.sampled := by
  intro heq
  have hget : c.adaptive.sources.get? name = some ⟨callable, capacity⟩ := by
    rw [hset]
    exact Dict.get?_set_self _ _ _
  have hmem : (name, callable, c.read callable) ∈ c.sampled :=
    List.mem_map.mpr ⟨_, Dict.mem_entries_iff.mpr hget, rfl⟩
  rw [← heq] at hmem
  obtain ⟨⟨name', entry⟩, hentry, hsame⟩ := List.mem_map.mp hmem
  refine hnone name' entry (Dict.mem_entries_iff.mp hentry) ?_
  exact congrArg (fun p => p.2.1) hsame

/-- A kept adapter that is attached again does not become a source. -/
theorem Alike.not_same_act (h : Alike registry recorder t) {a : Action α}
    (hnot : ¬ t.Harmless (.act a)) : ¬ (t.run (.act a)).Same := by
  have hsources : t.reset.adaptive.sources = t.fresh.adaptive.sources := by
    rw [h.reset]
    rfl
  intro hsame
  cases a with
  | attachWebsocketRegistry policy =>
    obtain ⟨hnone, hsome⟩ := Classical.not_imp.mp hnot
    obtain ⟨r, hr⟩ := Option.ne_none_iff_exists'.mp hsome
    have hreset : t.reset.attachWebsocketRegistry policy = t.reset := by
      rw [EventBackpressureController.attachWebsocketRegistry, hr]
    have hfresh : (t.fresh.attachWebsocketRegistry policy).adaptive =
        t.fresh.adaptive.registerSource "websocket" .websocket 100 := by
      rw [EventBackpressureController.attachWebsocketRegistry, hnone]
    refine sampled_ne hfresh (fun name entry hget hcallable => ?_)
      ((congrArg _ hreset).symm.trans hsame.sampled)
    rw [hsources] at hget
    have hattached := (h.wired name entry hget).1 hcallable
    rw [hnone] at hattached
    cases hattached
  | attachRecorderAdapter policy =>
    obtain ⟨hnone, hsome⟩ := Classical.not_imp.mp hnot
    obtain ⟨r, hr⟩ := Option.ne_none_iff_exists'.mp hsome
    have hreset : t.reset.attachRecorderAdapter policy = t.reset := by
      rw [EventBackpressureController.attachRecorderAdapter, hr]
    have hfresh : (t.fresh.attachRecorderAdapter policy).adaptive =
        t.fresh.adaptive.registerSource "recorder" .recorder t.fresh.config.recorderCapacity := by
      rw [EventBackpressureController.attachRecorderAdapter, hnone]
    refine sampled_ne hfresh (fun name entry hget hcallable => ?_)
      ((congrArg _ hreset).symm.trans hsame.sampled)
    rw [hsources] at hget
    have hattached := (h.wired name entry hget).2 hcallable
    rw [hnone] at hattached
    cases hattached
  | _ => exact hnot trivial

/-- What was performed in a tick is what was dispatched. -/
theorem performed_tick (c : EventBackpressureController α) (now : Int) (passes : String → Nat) :
    (c.tick passes now).1.performed.map (fun p => (p.1, p.2.1)) =
      (actionsFor c.adaptive.config c.adaptive.detector.state (c.stateAfter now passes)).flatMap
        fun action => c.adaptive.actionListeners.map fun listener => (action, listener) :=
  (perform_rest _ _).1

/-- In a tick that changes the state, the new controller acts and the other does not. -/
theorem Alike.not_same_tick (h : Alike registry recorder t) {now : Int} {passes : String → Nat}
    (hnot : ¬ t.Harmless (.tick now passes)) : ¬ (t.run (.tick now passes)).Same := by
  intro hsame
  have hreports := hsame.reports
  rw [run_tick] at hreports
  have hreport : (t.reset.tick passes now).1 = (t.fresh.tick passes now).1 :=
    List.singleton_inj.mp (List.append_inj' hreports rfl).2
  have hperformed := congrArg (fun r => r.performed.map fun p => (p.1, p.2.1)) hreport
  rw [performed_tick, performed_tick, h.listeners, h.reset] at hperformed
  have hnone := hperformed.symm.trans
    (List.flatMap_eq_nil_iff.mpr fun action _ => rfl : _ = ([] : List (DegradationAction × _)))
  have hactions : actionsFor t.fresh.adaptive.config t.fresh.adaptive.detector.state
      (t.fresh.stateAfter now passes) = [] := by
    refine List.eq_nil_iff_forall_not_mem.mpr fun action hmem => ?_
    exact List.cons_ne_nil _ _ (List.flatMap_eq_nil_iff.mp hnone action hmem)
  exact hnot (actionsFor_eq_nil_iff.mp hactions).symm

/-- At the start nothing has been called yet. -/
theorem alike_start (config : BackpressureConfig) (history : List (PastCall α)) :
    ∃ registry recorder, Emptied registry recorder ∧
      Alike registry recorder (Twin.start config history) := by
  obtain ⟨registry, recorder, hempty, hreset⟩ := reset_history config history
  refine ⟨registry, recorder, hempty, hreset, rfl, fun name entry hget => ?_, rfl⟩
  cases hget

/-- The reset controller and the new one look the same in a run exactly if no call does harm. -/
theorem same_iff_harmless (config : BackpressureConfig) (history : List (PastCall α))
    (calls : List (TwinCall α)) :
    AllStates Twin.step Twin.Same (Twin.start config history) calls ↔
      AllSteps Twin.step Twin.Harmless (Twin.start config history) calls := by
  obtain ⟨registry, recorder, hempty, hstart⟩ := alike_start config history
  have htotal : ∀ (t : Twin α) call, ∃ t', Twin.step t call = some t' :=
    fun t call => ⟨t.run call, rfl⟩
  obtain ⟨t', hrun⟩ := exec_isSome htotal (Twin.start config history) calls
  refine allStates_iff_allSteps_of_keep (K := Alike registry recorder)
    (fun t ht => ht.same hempty) (fun t call t' ht hharmless hstep => ?_)
    (fun t call t' ht hnot hstep => ?_) hstart hrun
  · rw [← Option.some.inj hstep]
    exact ht.run hempty hharmless
  · rw [← Option.some.inj hstep]
    cases call with
    | act a => exact ht.not_same_act hnot
    | tick now passes => exact ht.not_same_tick hnot

end Twins

/-! ## A reset before an emergency -/

theorem quick_capacities_pos : 1 ≤ 1 ∧ 1 ≤ 1 ∧ 1 ≤ 32768 ∧ 1 ≤ 4096 := by decide

theorem quick_decay_pos : (0 : ℚ) < 1 / 100 := by norm_num

theorem quick_decay_lt : (1 / 100 : ℚ) < 1 := by norm_num

/-- One sample is nearly all that counts, and slow clients are disconnected in an emergency. -/
def quickConfig : BackpressureConfig :=
  { BackpressureConfig.default with
    busCapacity := 1
    websocketCapacity := 1
    degradeDecay := 1 / 100
    emergencyAction := .disconnect
    capacities_pos := quick_capacities_pos
    decay_pos := quick_decay_pos
    decay_lt := quick_decay_lt }

/-- A slow subscriber with a full channel, and a tick. -/
def slowSubscriber : List (TwinCall Unit) :=
  [.act (.attachWebsocketRegistry none), .act (.attachSubscriber "client"),
    .act (.offerSubscriber "client" () 0), .act (.markSlow "client"), .tick 0 fun _ => 0]

/-- Only the controller that was never reset disconnects the subscriber. -/
theorem not_same_of_emergency :
    ¬ AllStates Twin.step Twin.Same (Twin.start quickConfig []) slowSubscriber := by
  intro h
  have hlast := ((((h.2 _ rfl).2 _ rfl).2 _ rfl).2 _ rfl).2 _ rfl
  have hreports := hlast.reports
  revert hreports
  decide +kernel

end AsyncViz.Runtime.Backpressure
