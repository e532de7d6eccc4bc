/-
  AsyncViz.Runtime.Resilience.ModeAgreement

  Runs of the failure manager: registrations, boundaries around the code of any
  subsystem, reported failures, recoveries and resets, in any order.

  A call that evaluates the mode last leaves it in agreement with the breakers
  (`agrees_reevaluateMode`); one that moves no breaker keeps what there is.  What is left
  are the entry and the exit that move a breaker and do not evaluate the mode.
-/

import AsyncViz.Runtime.Resilience.FailureManager

namespace AsyncViz.Runtime.Resilience

open AsyncViz.Lib AsyncViz.Lib.Transition

/-! ## What an entry does to the breaker -/

/-- The entry turns an open breaker half open. -/
def FailureDomain.Reopens (d : FailureDomain) (payloadKind : String) (nowNs : Int) : Prop :=
  ¬ d.Quarantined payloadKind ∧ d.breaker.state = .opened ∧ d.breaker.Elapsed nowNs

instance (d : FailureDomain) (payloadKind : String) (nowNs : Int) :
    Decidable (d.Reopens payloadKind nowNs) :=
  inferInstanceAs (Decidable (_ ∧ _ ∧ _))

theorem FailureDomain.allowRequest_state (d : FailureDomain) (payloadKind : String)
    (nowNs : Int) : (d.allowRequest payloadKind nowNs).2.breaker.state
      = if d.Reopens payloadKind nowNs then .halfOpen else d.breaker.state := by
  rcases d.allowRequest_cases payloadKind nowNs with ⟨hquarantined, heq⟩ | ⟨hfree, heq⟩ <;> rw [heq]
  · rw [if_neg fun h => h.1 hquarantined]
  rcases d.breaker.allowRequest_cases nowNs with ⟨hstate, hb⟩ | ⟨hstate, hearly, hb⟩ |
    ⟨hstate, helapsed, -, hb⟩ | ⟨hstate, helapsed, -, hb⟩ | ⟨hstate, -, hb⟩ | ⟨hstate, -, hb⟩ <;>
    rw [hb]
  · rw [if_neg fun h => absurd (hstate.symm.trans h.2.1) (by decide)]
  · rw [if_neg fun h => hearly h.2.2]
  · rw [if_pos ⟨hfree, hstate, helapsed⟩]
    exact CircuitBreaker.maybeReopenProbe_state hstate helapsed
  · rw [if_pos ⟨hfree, hstate, helapsed⟩]
    exact CircuitBreaker.maybeReopenProbe_state hstate helapsed
  · rw [if_neg fun h => absurd (hstate.symm.trans h.2.1) (by decide)]
  · rw [if_neg fun h => absurd (hstate.symm.trans h.2.1) (by decide)]

theorem Boundary.tryEnter_domain (d : FailureDomain) (payloadKind : String)
    (suppress swallowUnavailable : Bool) (nowNs : Int) :
    (Boundary.tryEnter d payloadKind suppress swallowUnavailable nowNs).2
      = (d.allowRequest payloadKind nowNs).2 := by
  unfold Boundary.tryEnter
  dsimp only
  split <;> rfl

/-! ## The manager's calls -/

namespace RuntimeFailureManager

variable {m : RuntimeFailureManager}

/-- The bridge has been told the mode. -/
structure Told (m : RuntimeFailureManager) : Prop where
  mode : m.bridge.mode = m.mode
  suggestion : m.bridge.suggestion = defaultSuggestion m.mode

/-- The mode is what the breakers call for, and once all of them are closed the bridge has
    been told that it is normal again. -/
structure Agrees (m : RuntimeFailureManager) : Prop where
  mode : m.mode = m.derived
  recovered : (∀ p ∈ m.states, p.2 = .closed) →
    m.mode = .normal ∧ m.bridge.mode = .normal ∧
      m.bridge.suggestion = defaultSuggestion .normal

theorem Told.agrees_iff (h : Told m) : Agrees m ↔ m.mode = m.derived := by
  constructor
  · exact Agrees.mode
  · intro hmode
    refine ⟨hmode, fun hclosed => ?_⟩
    have hnormal : m.mode = .normal :=
      hmode.trans (deriveRuntimeMode_of_closed m.config.haltOnCriticalSubsystem hclosed)
    exact ⟨hnormal, h.mode.trans hnormal, h.suggestion.trans (congrArg defaultSuggestion hnormal)⟩

theorem told_onModeChange {bridge : IsolationBackpressureBridge}
    (h : bridge.suggestion = defaultSuggestion bridge.mode) (mode : EmergencyMode) :
    (bridge.onModeChange mode).mode = mode ∧
      (bridge.onModeChange mode).suggestion = defaultSuggestion mode := by
  unfold IsolationBackpressureBridge.onModeChange
  split
  next hsame => exact ⟨hsame, hsame ▸ h⟩
  next => exact ⟨rfl, rfl⟩

theorem Told.transitionMode (h : Told m) (target : EmergencyMode) :
    Told (m.transitionMode target) := by
  unfold RuntimeFailureManager.transitionMode
  split
  · exact h
  · have hconsistent : m.bridge.suggestion = defaultSuggestion m.bridge.mode := by
      rw [h.mode]
      exact h.suggestion
    obtain ⟨hmode, hsuggestion⟩ := told_onModeChange hconsistent target
    exact ⟨hmode, hsuggestion⟩

@[simp] theorem transitionMode_mode (target : EmergencyMode) :
    (m.transitionMode target).mode = target := by
  unfold transitionMode
  split
  next hsame => exact hsame
  next => rfl

@[simp] theorem transitionMode_derived (target : EmergencyMode) :
    (m.transitionMode target).derived = m.derived := by
  unfold transitionMode
  split <;> rfl

/-- The mode that has just been evaluated agrees with the breakers. -/
theorem agrees_reevaluateMode (m : RuntimeFailureManager) :
    m.reevaluateMode.mode = m.reevaluateMode.derived := by
  rw [reevaluateMode, transitionMode_mode, transitionMode_derived]

/-- What `register` leads to. -/
theorem register_cases (m : RuntimeFailureManager) (name : String)
    (policy : Option SubsystemPolicy) :
    (∃ entry, m.subsystems.get? name = some entry ∧ m.register name policy = (entry, m)) ∨
    (m.subsystems.get? name = none ∧
      m.register name policy = (m.freshEntry name policy,
        { m with subsystems := m.subsystems.set name (m.freshEntry name policy) })) := by
  cases hget : m.subsystems.get? name with
  | some entry => exact .inl ⟨entry, rfl, by simp [register, hget]⟩
  | none => exact .inr ⟨rfl, by simp [register, hget]⟩

theorem register_get? (m : RuntimeFailureManager) (name : String)
    (policy : Option SubsystemPolicy) :
    (m.register name policy).2.subsystems.get? name = some (m.register name policy).1 := by
  rcases m.register_cases name policy with ⟨entry, hget, heq⟩ | ⟨-, heq⟩ <;> rw [heq]
  · exact hget
  · exact Dict.get?_set_self _ _ _

/-- A new subsystem starts with a closed breaker, which changes nothing. -/
theorem register_derived (m : RuntimeFailureManager) (name : String)
    (policy : Option SubsystemPolicy) : (m.register name policy).2.derived = m.derived := by
  rcases m.register_cases name policy with ⟨entry, -, heq⟩ | ⟨hget, heq⟩ <;> rw [heq]
  have hmem : name ∉ m.subsystems := Dict.get?_eq_none_iff.mp hget
  have hstates : RuntimeFailureManager.states
      { m with subsystems := m.subsystems.set name (m.freshEntry name policy) }
        = m.states ++ [(name, .closed)] := by
    have hset : (m.subsystems.set name (m.freshEntry name policy)).entries
        = m.subsystems.entries ++ [(name, m.freshEntry name policy)] := by
      rw [Dict.set]
      split
      next hin => exact absurd hin hmem
      next => rfl
    rw [states, hset, List.map_append]
    rfl
  rw [derived, hstates]
  exact deriveRuntimeMode_append_closed _ _ _

theorem register_mode (m : RuntimeFailureManager) (name : String)
    (policy : Option SubsystemPolicy) : (m.register name policy).2.mode = m.mode ∧
      (m.register name policy).2.bridge = m.bridge := by
  rcases m.register_cases name policy with ⟨entry, -, heq⟩ | ⟨-, heq⟩ <;> rw [heq] <;>
    exact ⟨rfl, rfl⟩

theorem Told.register (h : Told m) (name : String) (policy : Option SubsystemPolicy) :
    Told (m.register name policy).2 := by
  obtain ⟨hmode, hbridge⟩ := m.register_mode name policy
  refine ⟨?_, ?_⟩ <;> rw [hmode, hbridge]
  · exact h.mode
  · exact h.suggestion

/-- The mode that the breakers call for once one of them has moved. -/
theorem store_derived {name : String} {entry : SubsystemEntry}
    (hget : m.subsystems.get? name = some entry) (entry' : SubsystemEntry) :
    (m.store name entry').derived
      = deriveRuntimeMode (withState m.states name entry'.domain.breaker.state)
          m.config.haltOnCriticalSubsystem := by
  rw [derived, states_store hget]
  rfl

/-- A call that leaves the breaker in its state leaves the derived mode alone. -/
theorem store_derived_of_state {name : String} {entry entry' : SubsystemEntry}
    (hget : m.subsystems.get? name = some entry)
    (hstate : entry'.domain.breaker.state = entry.domain.breaker.state) :
    (m.store name entry').derived = m.derived := by
  rw [store_derived hget, hstate, withState_self hget]
  rfl

/-- So it keeps an agreement. -/
theorem mode_store (hmode : m.mode = m.derived) {name : String} {entry entry' : SubsystemEntry}
    (hget : m.subsystems.get? name = some entry)
    (hstate : entry'.domain.breaker.state = entry.domain.breaker.state) :
    (m.store name entry').mode = (m.store name entry').derived := by
  rw [store_derived_of_state hget hstate]
  exact hmode

theorem Told.store (h : Told m) (name : String) (entry : SubsystemEntry) :
    Told (m.store name entry) := ⟨h.mode, h.suggestion⟩

theorem reset_states_closed (m : RuntimeFailureManager) : ∀ p ∈ m.reset.states, p.2 = .closed := by
  intro p hp
  obtain ⟨q, hq, rfl⟩ := List.mem_map.mp hp
  obtain ⟨r, -, rfl⟩ := List.mem_map.mp hq
  rfl

end RuntimeFailureManager

/-! ## Runs -/

/-- A manager, the boundaries that have been entered and not left, and the asynchronous
    recoveries that wait for their hook. -/
structure ManagerRun where
  manager : RuntimeFailureManager
  inside : Dict Nat (String × Boundary)
  awaiting : List String

namespace ManagerRun

/-- A call on the manager or through one of its boundaries. -/
inductive Action where
  | register (name : String) (policy : Option SubsystemPolicy)
  | enter (id : Nat) (name payloadKind : String) (suppress swallowUnavailable : Bool)
      (nowNs : Int)
  | exit (id : Nat) (exc : Option PyException) (nowNs : Int)
  | reportException (name : String) (exc : PyException) (payloadKind : String) (nowNs : Int)
  | reportMarker (name marker payloadKind : String) (nowNs : Int)
  | registerRecovery (name : String) (hook : RecoveryHook)
  | registerAsyncRecovery (name : String)
  | attemptRecovery (name : String)
  | attemptRecoveryAsync (name : String)
  /-- The hook that the `i`-th waiting recovery awaits is through. -/
  | resumeRecovery (i : Nat) (hook : RecoveryHook)
  | reset

/-- A new manager. -/
def start (config : IsolationConfig) : ManagerRun := ⟨.new config, .empty, []⟩

/-- One call; `none` is a call that raises or cannot be made, and changes nothing. -/
def step (r : ManagerRun) : Action → Option ManagerRun
  | .register name policy => some { r with manager := (r.manager.register name policy).2 }
  | .enter id name payloadKind suppress swallowUnavailable nowNs =>
    if id ∈ r.inside then none
    else
      let (entry, manager) := r.manager.register name none
      let (boundary, domain) :=
        Boundary.tryEnter entry.domain payloadKind suppress swallowUnavailable nowNs
      some { r with
        manager := manager.store name { entry with domain := domain }
        inside :=
          match boundary with
          | some boundary => r.inside.set id (name, boundary)
          | none => r.inside }
  | .exit id exc nowNs => do
    let (name, boundary) ← r.inside.get? id
    let entry ← r.manager.subsystems.get? name
    let exit := boundary.handleExit entry.domain exc nowNs
    let manager := r.manager.store name { entry with domain := exit.domain }
    return { r with
      manager := if exit.recorded.isSome then manager.reevaluateMode else manager
      inside := r.inside.pop id }
  | .reportException name exc payloadKind nowNs =>
    some { r with manager := r.manager.reportException name exc payloadKind nowNs }
  | .reportMarker name marker payloadKind nowNs =>
    some { r with manager := r.manager.reportMarker name marker payloadKind nowNs }
  | .registerRecovery name hook => do
    let entry ← r.manager.subsystems.get? name
    let supervisor := { entry.supervisor with hook := some hook }
    return { r with manager := r.manager.store name { entry with supervisor := supervisor } }
  | .registerAsyncRecovery name => do
    let entry ← r.manager.subsystems.get? name
    let supervisor := { entry.supervisor with asyncHook := true }
    return { r with manager := r.manager.store name { entry with supervisor := supervisor } }
  | .attemptRecovery name => do
    let entry ← r.manager.subsystems.get? name
    let (supervisor, domain) := entry.supervisor.attempt entry.domain
    return { r with manager := (r.manager.store name ⟨domain, supervisor⟩).reevaluateMode }
  | .attemptRecoveryAsync name => do
    let entry ← r.manager.subsystems.get? name
    let (waits, supervisor, domain) := entry.supervisor.attemptAsync entry.domain
    let manager := r.manager.store name ⟨domain, supervisor⟩
    if waits then return { r with manager := manager, awaiting := r.awaiting ++ [name] }
    else return { r with manager := manager.reevaluateMode }
  | .resumeRecovery i hook => do
    let name ← r.awaiting[i]?
    let entry ← r.manager.subsystems.get? name
    let (supervisor, domain) := entry.supervisor.invokeSync entry.domain hook
    return { r with
      manager := (r.manager.store name ⟨domain, supervisor⟩).reevaluateMode
      awaiting := r.awaiting.eraseIdx i }
  | .reset => some { r with manager := r.manager.reset }

/-- An entry or an exit that moves a breaker without evaluating the mode does not change the
    mode that the breakers call for. -/
def KeepsMode (r : ManagerRun) : Action → Prop
  | .enter _ name payloadKind _ _ nowNs =>
    ∀ entry, r.manager.subsystems.get? name = some entry →
      entry.domain.Reopens payloadKind nowNs →
      deriveRuntimeMode (RuntimeFailureManager.withState r.manager.states name .halfOpen)
        r.manager.config.haltOnCriticalSubsystem = r.manager.derived
  | .exit id none _ =>
    ∀ name boundary entry, r.inside.get? id = some (name, boundary) →
      boundary.admitted = true → r.manager.subsystems.get? name = some entry →
      entry.domain.breaker.state = .halfOpen →
      deriveRuntimeMode (RuntimeFailureManager.withState r.manager.states name .closed)
        r.manager.config.haltOnCriticalSubsystem = r.manager.derived
  | _ => True

/-! ### One call -/

variable {r r' : ManagerRun}

/-- The bridge is told of every change of the mode. -/
theorem told_step (h : r.manager.Told) {a : Action} (hstep : step r a = some r') :
    r'.manager.Told := by
  have hreevaluated : ∀ {m : RuntimeFailureManager}, m.Told → m.reevaluateMode.Told :=
    fun hm => hm.transitionMode _
  cases a with
  | register name policy =>
    cases hstep
    exact h.register name policy
  | enter id name payloadKind suppress swallowUnavailable nowNs =>
    simp only [step] at hstep
    split at hstep
    · cases hstep
    · cases hstep
      exact (h.register name none).store name _
  | exit id exc nowNs =>
    simp only [step, Option.bind_eq_bind, Option.bind_eq_some_iff, Option.pure_def,
      Option.some.injEq] at hstep
    obtain ⟨⟨name, boundary⟩, -, entry, -, rfl⟩ := hstep
    dsimp only
    split
    · exact hreevaluated (h.store name _)
    · exact h.store name _
  | reportException name exc payloadKind nowNs =>
    cases hstep
    exact hreevaluated ((h.register _ none).store _ _)
  | reportMarker name marker payloadKind nowNs =>
    cases hstep
    exact hreevaluated ((h.register _ none).store _ _)
  | registerRecovery name hook =>
    obtain ⟨entry, -, heq⟩ := Option.bind_eq_some_iff.mp hstep
    cases heq
    exact h.store name _
  | registerAsyncRecovery name =>
    obtain ⟨entry, -, heq⟩ := Option.bind_eq_some_iff.mp hstep
    cases heq
    exact h.store name _
  | attemptRecovery name =>
    obtain ⟨entry, -, heq⟩ := Option.bind_eq_some_iff.mp hstep
    cases heq
    exact hreevaluated (h.store name _)
  | attemptRecoveryAsync name =>
    obtain ⟨entry, -, heq⟩ := Option.bind_eq_some_iff.mp hstep
    dsimp only at heq
    split at heq <;> cases heq
    · exact h.store name _
    · exact hreevaluated (h.store name _)
  | resumeRecovery i hook =>
    obtain ⟨name, -, hrest⟩ := Option.bind_eq_some_iff.mp hstep
    obtain ⟨entry, -, heq⟩ := Option.bind_eq_some_iff.mp hrest
    cases heq
    exact hreevaluated (h.store name _)
  | reset =>
    cases hstep
    have hconsistent : r.manager.bridge.suggestion = defaultSuggestion r.manager.bridge.mode := by
      rw [h.mode]
      exact h.suggestion
    obtain ⟨hmode, hsuggestion⟩ := RuntimeFailureManager.told_onModeChange hconsistent .normal
    exact ⟨hmode, hsuggestion⟩

/-- An entry keeps the agreement unless it moves the derived mode by a reopened breaker. -/
theorem mode_enter_iff (hmode : r.manager.mode = r.manager.derived) {id : Nat}
    {name payloadKind : String} {suppress swallowUnavailable : Bool} {nowNs : Int}
    (hstep : step r (.enter id name payloadKind suppress swallowUnavailable nowNs) = some r') :
    r'.manager.mode = r'.manager.derived ↔
      KeepsMode r (.enter id name payloadKind suppress swallowUnavailable nowNs) := by
  simp only [step, Boundary.tryEnter_domain] at hstep
  split at hstep
  · cases hstep
  cases hstep
  rcases r.manager.register_cases name none with ⟨entry, hget, heq⟩ | ⟨hget, heq⟩
  · simp only [heq]
    have hderived := RuntimeFailureManager.store_derived hget
      { entry with domain := (entry.domain.allowRequest payloadKind nowNs).2 }
    rw [FailureDomain.allowRequest_state] at hderived
    have hkeeps : KeepsMode r (.enter id name payloadKind suppress swallowUnavailable nowNs) ↔
        (entry.domain.Reopens payloadKind nowNs →
          deriveRuntimeMode (RuntimeFailureManager.withState r.manager.states name .halfOpen)
            r.manager.config.haltOnCriticalSubsystem = r.manager.derived) := by
      constructor
      · exact fun h => h entry hget
      · intro h entry' hget'
        rw [hget] at hget'
        cases hget'
        exact h
    rw [hkeeps]
    change r.manager.mode = _ ↔ _
    rw [hmode, hderived]
    by_cases hreopens : entry.domain.Reopens payloadKind nowNs
    · rw [if_pos hreopens]
      exact ⟨fun h _ => h.symm, fun h => (h hreopens).symm⟩
    · rw [if_neg hreopens, RuntimeFailureManager.withState_self hget]
      exact iff_of_true rfl fun h => absurd h hreopens
  · -- the subsystem is new, and its breaker closed
    have hregistered := r.manager.register_get? name none
    have hderived := r.manager.register_derived name none
    simp only [heq] at hregistered hderived ⊢
    have hclosed : ¬ (r.manager.freshEntry name none).domain.Reopens payloadKind nowNs :=
      fun h => BreakerState.noConfusion h.2.1
    refine iff_of_true ?_ ?_
    · rw [RuntimeFailureManager.store_derived_of_state hregistered
        (by rw [FailureDomain.allowRequest_state, if_neg hclosed]), hderived]
      exact hmode
    · intro entry hget'
      rw [hget] at hget'
      cases hget'

/-- An exit keeps it unless it moves the derived mode by closing a breaker. -/
theorem mode_exit_iff (hmode : r.manager.mode = r.manager.derived) {id : Nat}
    {exc : Option PyException} {nowNs : Int} (hstep : step r (.exit id exc nowNs) = some r') :
    r'.manager.mode = r'.manager.derived ↔ KeepsMode r (.exit id exc nowNs) := by
  simp only [step, Option.bind_eq_bind, Option.bind_eq_some_iff, Option.pure_def,
    Option.some.injEq] at hstep
  obtain ⟨⟨name, boundary⟩, hinside, entry, hget, rfl⟩ := hstep
  dsimp only at hget ⊢
  rcases boundary.handleExit_cases entry.domain exc nowNs with ⟨haway, hdomain, hrecorded⟩ |
    ⟨-, ⟨e, hexc, -⟩, hdomain, hrecorded⟩ | ⟨hadmitted, hexc, hdomain, hrecorded⟩ |
    ⟨-, ⟨e, hexc, -⟩, event, -, -, hrecorded⟩
  · rw [hrecorded, hdomain]
    refine iff_of_true ?_ ?_
    · rw [if_neg (by simp)]
      exact RuntimeFailureManager.mode_store hmode hget rfl
    · cases exc with
      | some e => trivial
      | none =>
        intro name' boundary' entry' hinside' hadmitted
        rw [hinside] at hinside'
        cases hinside'
        exact absurd (haway.symm.trans hadmitted) (by decide)
  · rw [hrecorded, hdomain, hexc]
    refine iff_of_true ?_ trivial
    rw [if_neg (by simp)]
    exact RuntimeFailureManager.mode_store hmode hget rfl
  · subst hexc
    rw [hrecorded, hdomain, if_neg (by simp)]
    have hderived := RuntimeFailureManager.store_derived hget
      { entry with domain := entry.domain.recordSuccess nowNs }
    rw [FailureDomain.recordSuccess_breaker, CircuitBreaker.recordSuccess_state] at hderived
    have hkeeps : KeepsMode r (.exit id none nowNs) ↔
        (entry.domain.breaker.state = .halfOpen →
          deriveRuntimeMode (RuntimeFailureManager.withState r.manager.states name .closed)
            r.manager.config.haltOnCriticalSubsystem = r.manager.derived) := by
      constructor
      · exact fun h => h name boundary entry hinside hadmitted hget
      · intro h name' boundary' entry' hinside' _ hget'
        rw [hinside] at hinside'
        cases hinside'
        rw [hget] at hget'
        cases hget'
        exact h
    rw [hkeeps]
    change r.manager.mode = _ ↔ _
    rw [hmode, hderived]
    by_cases hhalf : entry.domain.breaker.state = .halfOpen
    · rw [if_pos hhalf]
      exact ⟨fun h _ => h.symm, fun h => (h hhalf).symm⟩
    · rw [if_neg hhalf, RuntimeFailureManager.withState_self hget]
      exact iff_of_true rfl fun h => absurd h hhalf
  · rw [hrecorded, hexc]
    refine iff_of_true ?_ trivial
    rw [if_pos (by simp)]
    exact RuntimeFailureManager.agrees_reevaluateMode _

/-- From agreement a call leads to agreement exactly if it keeps the mode. -/
theorem mode_step_iff (hmode : r.manager.mode = r.manager.derived) {a : Action}
    (hstep : step r a = some r') : r'.manager.mode = r'.manager.derived ↔ KeepsMode r a := by
  cases a with
  | enter id name payloadKind suppress swallowUnavailable nowNs => exact mode_enter_iff hmode hstep
  | exit id exc nowNs => exact mode_exit_iff hmode hstep
  | register name policy =>
    cases hstep
    refine iff_of_true ?_ trivial
    rw [(r.manager.register_mode name policy).1, r.manager.register_derived name policy]
    exact hmode
  | reportException name exc payloadKind nowNs =>
    cases hstep
    exact iff_of_true (RuntimeFailureManager.agrees_reevaluateMode _) trivial
  | reportMarker name marker payloadKind nowNs =>
    cases hstep
    exact iff_of_true (RuntimeFailureManager.agrees_reevaluateMode _) trivial
  | registerRecovery name hook =>
    obtain ⟨entry, hget, heq⟩ := Option.bind_eq_some_iff.mp hstep
    cases heq
    exact iff_of_true (RuntimeFailureManager.mode_store hmode hget (by rfl)) trivial
  | registerAsyncRecovery name =>
    obtain ⟨entry, hget, heq⟩ := Option.bind_eq_some_iff.mp hstep
    cases heq
    exact iff_of_true (RuntimeFailureManager.mode_store hmode hget (by rfl)) trivial
  | attemptRecovery name =>
    obtain ⟨entry, -, heq⟩ := Option.bind_eq_some_iff.mp hstep
    cases heq
    exact iff_of_true (RuntimeFailureManager.agrees_reevaluateMode _) trivial
  | attemptRecoveryAsync name =>
    obtain ⟨entry, hget, heq⟩ := Option.bind_eq_some_iff.mp hstep
    refine iff_of_true ?_ trivial
    have hwaiting : (entry.supervisor.attemptAsync entry.domain).1 = true →
        (entry.supervisor.attemptAsync entry.domain).2.2 = entry.domain := by
      unfold RecoverySupervisor.attemptAsync
      split
      · exact fun _ => rfl
      split
      · exact fun _ => rfl
      split
      · exact fun _ => rfl
      · exact fun _ => rfl
      · exact fun h => absurd h Bool.false_ne_true
    dsimp only at heq
    split at heq <;> cases heq
    next hwaits =>
      exact RuntimeFailureManager.mode_store hmode hget (by rw [hwaiting hwaits])
    next => exact RuntimeFailureManager.agrees_reevaluateMode _
  | resumeRecovery i hook =>
    obtain ⟨name, -, hrest⟩ := Option.bind_eq_some_iff.mp hstep
    obtain ⟨entry, -, heq⟩ := Option.bind_eq_some_iff.mp hrest
    cases heq
    exact iff_of_true (RuntimeFailureManager.agrees_reevaluateMode _) trivial
  | reset =>
    cases hstep
    refine iff_of_true ?_ trivial
    exact (deriveRuntimeMode_of_closed _ r.manager.reset_states_closed).symm

/-! ### Runs -/

theorem told_start (config : IsolationConfig) : (start config).manager.Told := ⟨rfl, rfl⟩

/-- The mode agrees with the breakers after every call of a run exactly when every call
    keeps the mode that they call for. -/
theorem agrees_iff_keepsMode (config : IsolationConfig) (acts : List Action)
    (hrun : exec step (start config) acts = some r') :
    AllStates step (fun r => r.manager.Agrees) (start config) acts ↔
      AllSteps step KeepsMode (start config) acts := by
  have htold := told_start config
  refine allStates_iff_allSteps (J := fun r => r.manager.Told)
    (fun r a r' hr hstep => told_step hr hstep) ?_ htold (htold.agrees_iff.mpr rfl) hrun
  intro r a r' hr hagrees hstep
  rw [(told_step hr hstep).agrees_iff]
  exact mode_step_iff hagrees.mode hstep

/-- A failure opens the breaker at once, and a probe may follow three seconds later. -/
def fragile : IsolationConfig :=
  ⟨{ failureThreshold := 1, openDurationNs := 3000000000 }, .empty, false⟩

/-- The failure, the probe and its clean exit. -/
def recoveredProbe : List Action :=
  [.reportMarker "render" "timeout" "" 1, .enter 0 "render" "" true true 3000000001,
    .exit 0 none 3000000002]

/-- Every breaker is closed again and the runtime stays degraded. -/
theorem not_agrees_recoveredProbe :
    ∃ r, exec step (start fragile) recoveredProbe = some r ∧
      (∀ p ∈ r.manager.states, p.2 = .closed) ∧ r.manager.derived = .normal ∧
      r.manager.mode = .degraded ∧ r.manager.bridge.mode = .degraded ∧ ¬ r.manager.Agrees := by
  refine ⟨_, rfl, by decide, by decide, by decide, by decide, fun hagrees => ?_⟩
  exact absurd hagrees.mode (by decide)

/-- An entry while the breaker is open, and a recovery hook that reports success. -/
def recoveredByHook : List Action :=
  [.reportMarker "render" "timeout" "" 1, .registerRecovery "render" fun d => (true, d),
    .enter 0 "render" "" true true 2, .attemptRecovery "render"]

theorem agrees_recoveredByHook :
    AllStates step (fun r => r.manager.Agrees) (start fragile) recoveredByHook := by
  refine (agrees_iff_keepsMode fragile recoveredByHook rfl).mpr ?_
  refine .cons rfl trivial (.cons rfl trivial (.cons rfl ?_ (.cons rfl trivial trivial)))
  intro entry hget hreopens
  cases hget
  exact absurd hreopens.2.2 (by decide)

end ManagerRun

end AsyncViz.Runtime.Resilience
