/-
  AsyncViz.Runtime.Warnings.Blocking.Telling

  What one call of the emitter tells, group by group, where no cooldown is set: `Tells` lists the
  payloads that are handed to the router, and says of every group how it has changed, with a
  payload (`Said`) or without (`Unsaid`).

  A call is put together from parts that move different groups (`Tells.trans`): the close before
  the rest of a detection, and the turns of a sweep.
-/

import AsyncViz.Runtime.Warnings.Blocking.Lifecycle

namespace AsyncViz.Runtime.Warnings.Blocking

open AsyncViz.Lib

variable {e e₁ e₂ : BlockingWarningEmitter} {raises : BlockingWarningPayload → Bool}
  {g : WarningGroup} {t : Transition} {ns : Int}

/-! ## Nothing is suppressed or refused -/

/-- Neither a cooldown nor the backpressure keeps a transition from the router. -/
structure Unhindered (e : BlockingWarningEmitter) : Prop where
  idle : e.inDispatch = false
  cooldowns : e.dedup.cooldownsNs = ⟨0, 0, 0, 0, 0⟩
  pending : e.backpressure.pending = 0

theorem unhindered_new (runtimeId : String) {configuration : BlockingWarningConfiguration}
    (hcooldowns : configuration.cooldowns = ⟨0, 0, 0, 0, 0⟩) :
    Unhindered (.new runtimeId configuration) :=
  ⟨rfl, hcooldowns, rfl⟩

/-- Every transition gets the next sequence number and is handed on. -/
theorem Unhindered.emitTransition (h : Unhindered e) (raises : BlockingWarningPayload → Bool)
    (g : WarningGroup) (t : Transition) (ns : Int) :
    ∃ dedup backpressure,
      (e.emitTransition raises g t ns).2 =
        { e with
          registry := { e.registry with sequence := e.registry.sequence + 1 }
          dedup := dedup
          backpressure := backpressure
          history :=
            { e.history with
              dispatched := e.history.dispatched ++
                [buildPayload g t (e.registry.sequence + 1)] } } ∧
      Unhindered (e.emitTransition raises g t ns).2 := by
  have hcooldown : ((e.dedup.cooldownsNs.for t : Nat) : Int) ≤ 0 := by
    rw [h.cooldowns]
    cases t <;> exact Int.le_refl 0
  have hcheck : e.dedup.checkAndRecord g.groupId t ns
      = (false, { e.dedup with lastEmit := e.dedup.lastEmit.set (g.groupId, t) ns }) :=
    if_pos hcooldown
  have hacquire : e.backpressure.acquire
      = (true, { e.backpressure with pending := e.backpressure.pending + 1 }) := by
    rw [WarningEmitterBackpressure.acquire]
    split
    case isTrue => rfl
    case isFalse hcapacity =>
      refine if_neg ?_
      rw [h.pending]
      exact fun hle => hcapacity (Nat.le_zero.mp hle)
  have hresult : (e.emitTransition raises g t ns).2 =
      { e with
        registry := { e.registry with sequence := e.registry.sequence + 1 }
        dedup := { e.dedup with lastEmit := e.dedup.lastEmit.set (g.groupId, t) ns }
        backpressure :=
          ({ e.backpressure with
            pending := e.backpressure.pending + 1 } : WarningEmitterBackpressure).release
        history :=
          { e.history with
            dispatched := e.history.dispatched ++
              [buildPayload g t (e.registry.sequence + 1)] } } := by
    simp [BlockingWarningEmitter.emitTransition, hcheck, hacquire,
      WarningGroupRegistry.nextSequence, BlockingWarningEmitter.dispatch, h.idle]
  refine ⟨_, _, hresult, ?_⟩
  rw [hresult]
  refine ⟨h.idle, h.cooldowns, ?_⟩
  show e.backpressure.pending + 1 - 1 = 0
  rw [h.pending]

/-! ## What is told of a group -/

/-- An observation that escalates raises the severity, and one that does not lowers it or leaves
    it. -/
theorem WarningGroup.rank_recordObservation (g : WarningGroup) (severity : BlockingSeverity)
    (lagNs monotonicNs : Int) (sampleIndex : Int) :
    ((g.recordObservation severity lagNs monotonicNs sampleIndex).state = .escalating →
        g.severity.rank
          < (g.recordObservation severity lagNs monotonicNs sampleIndex).severity.rank) ∧
      ((g.recordObservation severity lagNs monotonicNs sampleIndex).state = .active →
        (g.recordObservation severity lagNs monotonicNs sampleIndex).severity.rank
          ≤ g.severity.rank) := by
  by_cases h : severity.rank > g.severity.rank
  · constructor <;> simp [recordObservation, h]
  · have hle : severity.rank ≤ g.severity.rank := Nat.le_of_not_gt h
    constructor
    · cases hstate : g.state <;> simp [recordObservation, h, hstate]
    · intro
      simpa [recordObservation, h] using hle

/-- The ids that have been given out. -/
def BlockingWarningEmitter.openedIds (e : BlockingWarningEmitter) : List String :=
  e.history.opened.map WarningGroup.groupId

/-- What becomes of a group that nothing is told of. -/
inductive Unsaid (openedIds : List String) (groupId : String) :
    Option WarningGroup → Option WarningGroup → Prop
  | same (held : Option WarningGroup) : Unsaid openedIds groupId held held
  | noted (g g' : WarningGroup) (hstate : g'.state = g.state)
      (hseen : g'.lastSeenNs = g.lastSeenNs) (hseverity : g'.severity = g.severity) :
      Unsaid openedIds groupId (some g) (some g')
  | opened (g : WarningGroup) (hfresh : groupId ∉ openedIds) (hstate : g.state = .opened) :
      Unsaid openedIds groupId none (some g)

/-- What becomes of the group of a payload. -/
inductive Said (openedIds : List String) (p : BlockingWarningPayload) :
    Option WarningGroup → Option WarningGroup → Prop
  | opened (hfresh : p.groupId ∉ openedIds) (hstate : p.state = .opened) :
      Said openedIds p none (some p.toWarningGroup)
  | escalated (g : WarningGroup) (hlive : g.state.isTerminal = false)
      (hstate : p.state = .escalating) (hrank : g.severity.rank < p.severity.rank) :
      Said openedIds p (some g) (some p.toWarningGroup)
  | refreshed (g : WarningGroup) (hlive : g.state.isTerminal = false)
      (hstate : p.state = .active) (hrank : p.severity.rank ≤ g.severity.rank) :
      Said openedIds p (some g) (some p.toWarningGroup)
  | recovered (g : WarningGroup) (hlive : g.state.isTerminal = false)
      (hstate : p.state = .recovered) : Said openedIds p (some g) (some p.toWarningGroup)
  | expired (g : WarningGroup) (hlive : g.state ≠ .expired) (hstate : p.state = .expired) :
      Said openedIds p (some g) none

/-- The payloads between two states of the emitter, and what has become of the groups. -/
structure Tells (e e' : BlockingWarningEmitter) (payloads : List BlockingWarningPayload) :
    Prop where
  dispatched : e'.history.dispatched = e.history.dispatched ++ payloads
  grows : ∀ groupId ∈ e.openedIds, groupId ∈ e'.openedIds
  le : e.registry.sequence ≤ e'.registry.sequence
  newer : ∀ p ∈ payloads,
    e.registry.sequence < p.sequence ∧ p.sequence ≤ e'.registry.sequence
  increasing : payloads.Pairwise fun p q => p.sequence < q.sequence
  once : (payloads.map fun p => p.groupId).Nodup
  unsaid : ∀ groupId ∉ payloads.map fun p => p.groupId,
    Unsaid e.openedIds groupId (e.registry.active.get? groupId) (e'.registry.active.get? groupId)
  said : ∀ p ∈ payloads,
    Said e.openedIds p (e.registry.active.get? p.groupId) (e'.registry.active.get? p.groupId)

namespace Tells

variable {payloads payloads₁ payloads₂ : List BlockingWarningPayload}

theorem refl (e : BlockingWarningEmitter) : Tells e e [] where
  dispatched := (List.append_nil _).symm
  grows _ hmem := hmem
  le := Nat.le_refl _
  newer _ hmem := absurd hmem List.not_mem_nil
  increasing := List.Pairwise.nil
  once := List.nodup_nil
  unsaid _ _ := .same _
  said _ hmem := absurd hmem List.not_mem_nil

/-- The first part moves only the groups that it tells of, the second one moves others. -/
theorem trans (h₁ : Tells e e₁ payloads₁) (h₂ : Tells e₁ e₂ payloads₂)
    (hids : e₁.openedIds = e.openedIds)
    (hothers : ∀ groupId ∉ payloads₁.map fun p => p.groupId,
      e₁.registry.active.get? groupId = e.registry.active.get? groupId)
    (hrest : ∀ groupId ∈ payloads₁.map fun p => p.groupId,
      groupId ∉ payloads₂.map (fun p => p.groupId) ∧
        e₂.registry.active.get? groupId = e₁.registry.active.get? groupId) :
    Tells e e₂ (payloads₁ ++ payloads₂) where
  dispatched := by rw [h₂.dispatched, h₁.dispatched, List.append_assoc]
  grows groupId hmem := h₂.grows groupId (h₁.grows groupId hmem)
  le := Nat.le_trans h₁.le h₂.le
  newer p hmem := by
    rcases List.mem_append.mp hmem with hmem | hmem
    · exact ⟨(h₁.newer p hmem).1, Nat.le_trans (h₁.newer p hmem).2 h₂.le⟩
    · exact ⟨Nat.lt_of_le_of_lt h₁.le (h₂.newer p hmem).1, (h₂.newer p hmem).2⟩
  increasing := by
    refine List.pairwise_append.mpr ⟨h₁.increasing, h₂.increasing, fun p hp q hq => ?_⟩
    exact Nat.lt_of_le_of_lt (h₁.newer p hp).2 (h₂.newer q hq).1
  once := by
    rw [List.map_append]
    refine List.nodup_append.mpr ⟨h₁.once, h₂.once, ?_⟩
    rintro groupId hmem _ hmem' rfl
    exact (hrest groupId hmem).1 hmem'
  unsaid groupId hnot := by
    rw [List.map_append, List.mem_append, not_or] at hnot
    rw [← hothers groupId hnot.1, ← hids]
    exact h₂.unsaid groupId hnot.2
  said p hmem := by
    rcases List.mem_append.mp hmem with hmem | hmem
    · rw [(hrest p.groupId (List.mem_map_of_mem hmem)).2]
      exact h₁.said p hmem
    · have hnot : p.groupId ∉ payloads₁.map fun p => p.groupId :=
        fun hfirst => (hrest p.groupId hfirst).1 (List.mem_map_of_mem hmem)
      rw [← hothers p.groupId hnot, ← hids]
      exact h₂.said p hmem

/-- One group changes to `g'`, and a payload says so. -/
theorem single {g' : WarningGroup} (hdispatched : e₁.history.dispatched
      = e.history.dispatched ++ [buildPayload g' t e₁.registry.sequence])
    (hgrows : ∀ groupId ∈ e.openedIds, groupId ∈ e₁.openedIds)
    (hlt : e.registry.sequence < e₁.registry.sequence)
    (hothers : ∀ groupId, groupId ≠ g'.groupId →
      e₁.registry.active.get? groupId = e.registry.active.get? groupId)
    (hsaid : Said e.openedIds (buildPayload g' t e₁.registry.sequence)
      (e.registry.active.get? g'.groupId) (e₁.registry.active.get? g'.groupId)) :
    Tells e e₁ [buildPayload g' t e₁.registry.sequence] where
  dispatched := hdispatched
  grows := hgrows
  le := Nat.le_of_lt hlt
  newer p hmem := by
    rw [List.mem_singleton.mp hmem]
    exact ⟨hlt, Nat.le_refl _⟩
  increasing := List.pairwise_singleton _ _
  once := List.nodup_singleton _
  unsaid groupId hnot := by
    rw [hothers groupId fun heq => hnot (heq ▸ List.mem_singleton.mpr rfl)]
    exact .same _
  said p hmem := by
    rw [List.mem_singleton.mp hmem]
    exact hsaid

end Tells

/-! ## The parts of a call -/

/-- What the emitter keeps between the calls. -/
structure Steady (e : BlockingWarningEmitter) : Prop where
  kept : Kept e []
  free : Unhindered e
  /-- What is in the ring has expired, and is tracked no more. -/
  retired : ∀ g ∈ e.registry.recent.items, g.state = .expired ∧
    e.registry.active.get? g.groupId = none ∧ g.groupId ∈ e.openedIds

theorem Steady.opened (h : Steady e) {groupId : String}
    (hget : e.registry.active.get? groupId = some g) : groupId ∈ e.openedIds :=
  h.kept.mem_opened hget

/-- Changing a tracked group leaves the ring to the others. -/
theorem Steady.retired_set (h : Steady e) {g' : WarningGroup}
    (hget : e.registry.active.get? g'.groupId = some g)
    (hactive : e₁.registry.active = e.registry.active.set g'.groupId g')
    (hrecent : e₁.registry.recent = e.registry.recent) (hopened : e₁.openedIds = e.openedIds) :
    ∀ g ∈ e₁.registry.recent.items, g.state = .expired ∧
      e₁.registry.active.get? g.groupId = none ∧ g.groupId ∈ e₁.openedIds := by
  intro g₀ hmem
  rw [hrecent] at hmem
  obtain ⟨hexpired, hnone, hopened₀⟩ := h.retired g₀ hmem
  have hne : g₀.groupId ≠ g'.groupId := by
    intro heq
    rw [heq, hget] at hnone
    cases hnone
  rw [hactive, Dict.get?_set_of_ne _ _ hne, hopened]
  exact ⟨hexpired, hnone, hopened₀⟩

/-- A tracked group goes on to `g'`, and a payload says so. -/
theorem Steady.tell (h : Steady e) {g' : WarningGroup}
    (hget : e.registry.active.get? g'.groupId = some g)
    (hsaid : Said e.openedIds (buildPayload g' t (e.registry.sequence + 1)) (some g) (some g'))
    (hkept : Kept ({ e with registry := e.registry.put g' }.emitTransition raises g' t ns).2 []) :
    Steady ({ e with registry := e.registry.put g' }.emitTransition raises g' t ns).2 ∧
      ∃ p, p.groupId = g'.groupId ∧ p.toWarningGroup = g' ∧
        Tells e ({ e with registry := e.registry.put g' }.emitTransition raises g' t ns).2 [p] ∧
        ({ e with registry := e.registry.put g' }.emitTransition raises g' t ns).2.openedIds
          = e.openedIds ∧
        ({ e with registry := e.registry.put g' }.emitTransition raises g' t ns).2.registry.active
          = e.registry.active.set g'.groupId g' := by
  have hput : Unhindered { e with registry := e.registry.put g' } :=
    ⟨h.free.idle, h.free.cooldowns, h.free.pending⟩
  obtain ⟨dedup, backpressure, hresult, hfree⟩ := hput.emitTransition raises g' t ns
  rw [hresult] at hkept hfree ⊢
  refine ⟨⟨hkept, hfree, h.retired_set hget rfl rfl rfl⟩,
    buildPayload g' t (e.registry.sequence + 1), rfl, rfl, ?_, rfl, rfl⟩
  refine Tells.single rfl (fun _ hmem => hmem) (Nat.lt_succ_self _)
    (fun groupId hne => Dict.get?_set_of_ne _ _ hne) ?_
  rw [hget]
  show Said _ _ _ ((e.registry.active.set g'.groupId g').get? g'.groupId)
  rw [Dict.get?_set_self]
  exact hsaid

/-- The close of a detection: the group that it finds recovers, unless it has. -/
theorem Steady.recover (h : Steady e) (raises : BlockingWarningPayload → Bool) (ns : Int)
    (hget : e.registry.active.get? g.groupId = some g) :
    Steady (e.finalizeRecovered raises g ns) ∧ ∃ payloads,
      Tells e (e.finalizeRecovered raises g ns) payloads ∧
      (e.finalizeRecovered raises g ns).openedIds = e.openedIds ∧
      (∀ groupId ∉ payloads.map fun p => p.groupId,
        (e.finalizeRecovered raises g ns).registry.active.get? groupId
          = e.registry.active.get? groupId) ∧
      ∀ groupId ∈ payloads.map fun p => p.groupId, ∃ g',
        (e.finalizeRecovered raises g ns).registry.active.get? groupId = some g' ∧
          g'.state.isTerminal = true := by
  have hkept : Kept (e.finalizeRecovered raises g ns) [] := h.kept.recover hget
  by_cases hstate : g.state = .recovered
  · have hsame : e.finalizeRecovered raises g ns = e := if_pos hstate
    rw [hsame]
    exact ⟨h, [], .refl e, rfl, fun _ _ => rfl, fun _ hmem => absurd hmem List.not_mem_nil⟩
  · have hlive : g.state.isTerminal = false := by
      have hexpired := (h.kept.filed _ g hget).2.1
      cases hs : g.state <;>
        simp [hs, BlockingWarningGroupState.isTerminal] at hstate hexpired ⊢
    have hresult : e.finalizeRecovered raises g ns
        = ({ e with registry := e.registry.put (g.markRecovered ns) }.emitTransition raises
            (g.markRecovered ns) .recovered ns).2 := if_neg hstate
    rw [hresult] at hkept ⊢
    obtain ⟨hsteady, p, hid, -, htells, hopened, hactive⟩ :=
      h.tell (show e.registry.active.get? (g.markRecovered ns).groupId = some g from hget)
        (.recovered g hlive rfl) hkept
    refine ⟨hsteady, [p], htells, hopened, fun groupId hnot => ?_, fun groupId hmem => ?_⟩
    · rw [hactive]
      refine Dict.get?_set_of_ne _ _ fun heq => hnot ?_
      rw [heq, ← hid]
      exact List.mem_singleton.mpr rfl
    · have heq : groupId = (g.markRecovered ns).groupId :=
        (List.mem_singleton.mp hmem).trans hid
      rw [heq, hactive]
      exact ⟨g.markRecovered ns, Dict.get?_set_self _ _ _, rfl⟩

/-- The refresh of a group that has not ended. -/
theorem Steady.refresh (h : Steady e) (hget : e.registry.active.get? g.groupId = some g)
    (hlive : g.state.isTerminal = false) (outcome : DetectionOutcome) :
    Steady (e.refresh raises g outcome).2 ∧ ∃ payloads,
      Tells e (e.refresh raises g outcome).2 payloads ∧
      ∀ groupId g₀, e.registry.active.get? groupId = some g₀ → g₀.state.isTerminal = true →
        groupId ∉ payloads.map (fun p => p.groupId) ∧
          (e.refresh raises g outcome).2.registry.active.get? groupId = some g₀ := by
  have hkept : Kept (e.refresh raises g outcome).2 [] := h.kept.refresh hget hlive outcome
  have hstate := WarningGroup.state_recordObservation hlive outcome.effectiveSeverity
    outcome.lagNs outcome.actualNs outcome.sampleIndex
  have horigin : (g.recordObservation outcome.effectiveSeverity outcome.lagNs outcome.actualNs
      outcome.sampleIndex).origin = g.origin := WarningGroup.origin_recordObservation _ _ _ _
  have hrank := g.rank_recordObservation outcome.effectiveSeverity outcome.lagNs outcome.actualNs
    outcome.sampleIndex
  unfold BlockingWarningEmitter.refresh at hkept ⊢
  generalize g.recordObservation outcome.effectiveSeverity outcome.lagNs outcome.actualNs
    outcome.sampleIndex = g' at hstate horigin hrank hkept ⊢
  have hid : g'.groupId = g.groupId := WarningGroup.groupId_of_origin horigin
  have hget' : e.registry.active.get? g'.groupId = some g := by rw [hid, hget]
  -- the label is that of the state
  have hcases : ∀ t : Transition,
      Said e.openedIds (buildPayload g' t (e.registry.sequence + 1)) (some g) (some g') →
      Kept ({ e with registry := e.registry.put g' }.emitTransition raises g' t
        outcome.actualNs).2 [] →
      Steady ({ e with registry := e.registry.put g' }.emitTransition raises g' t
          outcome.actualNs).2 ∧ ∃ payloads,
        Tells e ({ e with registry := e.registry.put g' }.emitTransition raises g' t
          outcome.actualNs).2 payloads ∧
        ∀ groupId g₀, e.registry.active.get? groupId = some g₀ → g₀.state.isTerminal = true →
          groupId ∉ payloads.map (fun p => p.groupId) ∧
            ({ e with registry := e.registry.put g' }.emitTransition raises g' t
              outcome.actualNs).2.registry.active.get? groupId = some g₀ := by
    intro t hsaid hkept
    obtain ⟨hsteady, p, hpid, -, htells, -, hactive⟩ := h.tell hget' hsaid hkept
    refine ⟨hsteady, [p], htells, fun groupId g₀ hg₀ hterminal => ?_⟩
    have hne : groupId ≠ g'.groupId := by
      rintro rfl
      rw [hget'] at hg₀
      rw [← Option.some.inj hg₀, hlive] at hterminal
      cases hterminal
    refine ⟨fun hmem => hne ((List.mem_singleton.mp hmem).trans hpid), ?_⟩
    rw [hactive, Dict.get?_set_of_ne _ _ hne]
    exact hg₀
  dsimp only at hkept ⊢
  rcases hstate with hescalating | hactive
  · rw [if_pos hescalating] at hkept ⊢
    exact hcases .escalated (.escalated g hlive hescalating (hrank.1 hescalating)) hkept
  · have hnot : g'.state ≠ .escalating := by
      rw [hactive]
      simp
    rw [if_neg hnot] at hkept ⊢
    exact hcases .active (.refreshed g hlive hactive (hrank.2 hactive)) hkept

/-! ## Openings and captures -/

/-- What `_open_group` leaves: a new group under a fresh id, and the others as they are. -/
theorem Steady.openGroup (h : Steady e) (ns : Int) (outcome : DetectionOutcome) {windowKey : String}
    (hfind : e.registry.findByWindowId windowKey = none) :
    Steady (e.openGroup outcome windowKey ns).2 ∧
      (e.openGroup outcome windowKey ns).1.groupId ∉ e.openedIds ∧
      (e.openGroup outcome windowKey ns).1.state = .opened ∧
      (e.openGroup outcome windowKey ns).2.registry.active.get?
        (e.openGroup outcome windowKey ns).1.groupId
          = some (e.openGroup outcome windowKey ns).1 ∧
      ∀ groupId, groupId ≠ (e.openGroup outcome windowKey ns).1.groupId →
        (e.openGroup outcome windowKey ns).2.registry.active.get? groupId
          = e.registry.active.get? groupId := by
  have hfresh : (e.openGroup outcome windowKey ns).1.groupId ∉ e.openedIds := h.kept.fresh
  have hothers : ∀ groupId, groupId ≠ (e.openGroup outcome windowKey ns).1.groupId →
      (e.openGroup outcome windowKey ns).2.registry.active.get? groupId
        = e.registry.active.get? groupId := by
    intro groupId hne
    exact (Dict.get?_set_of_ne _ _ hne).trans (Dict.get?_set_of_ne _ _ hne)
  refine ⟨⟨?_, ⟨h.free.idle, h.free.cooldowns, h.free.pending⟩, ?_⟩, hfresh, rfl,
    Dict.get?_set_self _ _ _, hothers⟩
  · exact h.kept.openGroup outcome hfind fun _ => List.not_mem_nil
  · intro g hmem
    obtain ⟨hexpired, hnone, hopened⟩ := h.retired g hmem
    have hne : g.groupId ≠ (e.openGroup outcome windowKey ns).1.groupId :=
      fun heq => hfresh (heq ▸ hopened)
    refine ⟨hexpired, (hothers _ hne).trans hnone, ?_⟩
    show g.groupId ∈ (e.history.opened ++ [_]).map WarningGroup.groupId
    rw [List.map_append]
    exact List.mem_append_left _ hopened

theorem grows_openGroup (e : BlockingWarningEmitter) (ns : Int) (outcome : DetectionOutcome)
    (windowKey : String) :
    ∀ groupId ∈ e.openedIds, groupId ∈ (e.openGroup outcome windowKey ns).2.openedIds := by
  intro groupId hmem
  show groupId ∈ (e.history.opened ++ [_]).map WarningGroup.groupId
  rw [List.map_append]
  exact List.mem_append_left _ hmem

theorem Steady.not_tracked (h : Steady e) {groupId : String} (hnot : groupId ∉ e.openedIds) :
    e.registry.active.get? groupId = none := by
  cases hget : e.registry.active.get? groupId with
  | none => rfl
  | some g => exact absurd (h.opened hget) hnot

/-- A silent opening. -/
theorem Steady.openSilently (h : Steady e) (ns : Int) (outcome : DetectionOutcome) {windowKey : String}
    (hfind : e.registry.findByWindowId windowKey = none) :
    Tells e (e.openGroup outcome windowKey ns).2 [] := by
  obtain ⟨-, hfresh, hstate, hself, hothers⟩ := h.openGroup ns outcome hfind
  refine { Tells.refl e with
    dispatched := (List.append_nil _).symm
    grows := grows_openGroup e ns outcome windowKey
    le := Nat.le_succ _
    newer := fun _ hmem => absurd hmem List.not_mem_nil
    unsaid := fun groupId _ => ?_
    said := fun _ hmem => absurd hmem List.not_mem_nil }
  by_cases hid : groupId = (e.openGroup outcome windowKey ns).1.groupId
  · rw [hid, h.not_tracked hfresh, hself]
    exact .opened _ hfresh hstate
  · rw [hothers groupId hid]
    exact .same _

/-- An opening that is told. -/
theorem Steady.openAndTell (h : Steady e) (raises : BlockingWarningPayload → Bool) (ns : Int)
    (outcome : DetectionOutcome) {windowKey : String}
    (hfind : e.registry.findByWindowId windowKey = none) :
    Steady ((e.openGroup outcome windowKey ns).2.emitTransition raises
        (e.openGroup outcome windowKey ns).1 .opened ns).2 ∧
      ∃ payloads, Tells e ((e.openGroup outcome windowKey ns).2.emitTransition raises
          (e.openGroup outcome windowKey ns).1 .opened ns).2 payloads ∧
        ∀ groupId g₀, e.registry.active.get? groupId = some g₀ →
          groupId ∉ payloads.map (fun p => p.groupId) ∧
            ((e.openGroup outcome windowKey ns).2.emitTransition raises
              (e.openGroup outcome windowKey ns).1 .opened ns).2.registry.active.get? groupId
                = some g₀ := by
  have hkept : Kept ((e.openGroup outcome windowKey ns).2.emitTransition raises
      (e.openGroup outcome windowKey ns).1 .opened ns).2 [] :=
    h.kept.openAndTell outcome hfind fun _ => List.not_mem_nil
  obtain ⟨hsteady, hfresh, hstate, hself, hothers⟩ := h.openGroup ns outcome hfind
  have hgrows := grows_openGroup e ns outcome windowKey
  have hdispatched : (e.openGroup outcome windowKey ns).2.history.dispatched
      = e.history.dispatched := rfl
  have hsequence : (e.openGroup outcome windowKey ns).2.registry.sequence
      = e.registry.sequence + 1 := rfl
  generalize e.openGroup outcome windowKey ns = opened
    at hkept hsteady hfresh hstate hself hothers hgrows hdispatched hsequence ⊢
  obtain ⟨g, e'⟩ := opened
  dsimp only at hkept hsteady hfresh hstate hself hothers hgrows hdispatched hsequence ⊢
  obtain ⟨dedup, backpressure, hresult, hfree⟩ :=
    hsteady.free.emitTransition raises g .opened ns
  rw [hresult] at hkept hfree ⊢
  refine ⟨⟨hkept, hfree, hsteady.retired⟩,
    [buildPayload g .opened (e'.registry.sequence + 1)], ?_, fun groupId g₀ hg₀ => ?_⟩
  · refine Tells.single ?_ hgrows ?_ hothers ?_
    · exact congrArg (· ++ [buildPayload g .opened (e'.registry.sequence + 1)]) hdispatched
    · show e.registry.sequence < e'.registry.sequence + 1
      omega
    · rw [h.not_tracked hfresh]
      show Said _ _ none (e'.registry.active.get? g.groupId)
      rw [hself]
      exact .opened hfresh hstate
  · have hne : groupId ≠ g.groupId := fun heq => hfresh (heq ▸ h.opened hg₀)
    refine ⟨fun hmem => hne (List.mem_singleton.mp hmem), ?_⟩
    exact (hothers groupId hne).trans hg₀

/-- A capture is noted, and nothing is told. -/
theorem Steady.onCapture (h : Steady e) (stack : CapturedStack) :
    Steady (e.onCapture stack).2 ∧ Tells e (e.onCapture stack).2 [] := by
  have hkept := h.kept.onCapture stack
  unfold BlockingWarningEmitter.onCapture at hkept ⊢
  split at hkept
  case isTrue hoff =>
    rw [if_pos hoff]
    exact ⟨h, .refl e⟩
  case isFalse hon =>
    rw [if_neg hon]
    cases hwindow : stack.windowId.bind e.registry.findByWindowId with
    | none => exact ⟨h, .refl e⟩
    | some g =>
      rw [hwindow] at hkept
      dsimp only at hkept ⊢
      obtain ⟨windowId, -, hfind⟩ := Option.bind_eq_some_iff.mp hwindow
      have hget := h.kept.get_found hfind
      have hfields : ∀ g' : WarningGroup, g' = (g.recordCapture stack.captureId).attachTask
          stack.taskId stack.taskName stack.coroutineName →
          g'.groupId = g.groupId ∧ g'.state = g.state ∧ g'.lastSeenNs = g.lastSeenNs ∧
            g'.severity = g.severity := by
        rintro _ rfl
        exact ⟨rfl, rfl, rfl, rfl⟩
      obtain ⟨hid, hstate, hseen, hseverity⟩ := hfields _ rfl
      generalize (g.recordCapture stack.captureId).attachTask stack.taskId stack.taskName
        stack.coroutineName = g' at hkept hid hstate hseen hseverity ⊢
      have hget' : e.registry.active.get? g'.groupId = some g := by rw [hid, hget]
      refine ⟨⟨hkept, ⟨h.free.idle, h.free.cooldowns, h.free.pending⟩,
        h.retired_set hget' rfl rfl rfl⟩,
        { Tells.refl e with
          unsaid := fun groupId _ => ?_
          said := fun _ hmem => absurd hmem List.not_mem_nil }⟩
      show Unsaid _ _ _ ((e.registry.active.set g'.groupId g').get? groupId)
      rw [Dict.get?_set]
      split
      case isTrue heq =>
        rw [heq, hget']
        exact .noted g g' hstate hseen hseverity
      case isFalse => exact .same _

/-! ## Detections -/

theorem Steady.handle (h : Steady e) (raises : BlockingWarningPayload → Bool)
    (outcome : DetectionOutcome) :
    Steady (e.handle raises outcome).2 ∧ ∃ payloads,
      Tells e (e.handle raises outcome).2 payloads ∧
      ∀ groupId g₀, e.registry.active.get? groupId = some g₀ → g₀.state.isTerminal = true →
        groupId ∉ payloads.map (fun p => p.groupId) ∧
          (e.handle raises outcome).2.registry.active.get? groupId = some g₀ := by
  have hnothing : Steady e ∧ ∃ payloads, Tells e e payloads ∧
      ∀ groupId g₀, e.registry.active.get? groupId = some g₀ → g₀.state.isTerminal = true →
        groupId ∉ payloads.map (fun p : BlockingWarningPayload => p.groupId) ∧
          e.registry.active.get? groupId = some g₀ :=
    ⟨h, [], .refl e, fun groupId g₀ hg₀ _ => ⟨List.not_mem_nil, hg₀⟩⟩
  unfold BlockingWarningEmitter.handle
  dsimp only
  cases hfind : e.registry.findByWindowId
    (BlockingWarningEmitter.windowKey outcome.windowTransition) with
  | none =>
    cases (e.policy.evaluate outcome).accept with
    | true =>
      obtain ⟨hsteady, payloads, htells, hothers⟩ :=
        h.openAndTell raises outcome.actualNs outcome hfind
      exact ⟨hsteady, payloads, htells, fun groupId g₀ hg₀ _ => hothers groupId g₀ hg₀⟩
    | false =>
      dsimp only
      split
      case isTrue =>
        obtain ⟨hsteady, hfresh, -, -, hothers⟩ :=
          h.openGroup outcome.actualNs outcome hfind
        refine ⟨hsteady, [], h.openSilently outcome.actualNs outcome hfind, fun groupId g₀ hg₀ _ =>
          ⟨List.not_mem_nil, ?_⟩⟩
        exact (hothers groupId fun heq => hfresh (heq ▸ h.opened hg₀)).trans hg₀
      case isFalse => exact hnothing
  | some g =>
    cases (e.policy.evaluate outcome).accept with
    | false => exact hnothing
    | true =>
      dsimp only
      split
      case isTrue => exact hnothing
      case isFalse hlive =>
        exact h.refresh (h.kept.get_found hfind) (by simpa using hlive) outcome

/-- A detection: the close first, then the rest. -/
theorem Steady.onDetection (h : Steady e) (raises : BlockingWarningPayload → Bool)
    (outcome : DetectionOutcome) :
    Steady (e.onDetection raises outcome).2 ∧ ∃ payloads,
      Tells e (e.onDetection raises outcome).2 payloads := by
  unfold BlockingWarningEmitter.onDetection
  rw [h.free.idle]
  cases e.configuration.enabled with
  | false => exact ⟨h, [], .refl e⟩
  | true =>
    simp only [Bool.not_true, Bool.false_eq_true, if_false]
    have hlatest : Steady (e.updateLatestNs outcome.actualNs) :=
      ⟨h.kept.updateLatestNs _, ⟨h.free.idle, h.free.cooldowns, h.free.pending⟩, h.retired⟩
    have hclose : ∃ e₁, (e.updateLatestNs outcome.actualNs).recoverClosed raises outcome = e₁ ∧
        Steady e₁ ∧ ∃ payloads, Tells (e.updateLatestNs outcome.actualNs) e₁ payloads ∧
          e₁.openedIds = e.openedIds ∧
          (∀ groupId ∉ payloads.map fun p => p.groupId,
            e₁.registry.active.get? groupId = e.registry.active.get? groupId) ∧
          ∀ groupId ∈ payloads.map fun p => p.groupId, ∃ g',
            e₁.registry.active.get? groupId = some g' ∧ g'.state.isTerminal = true := by
      refine ⟨_, rfl, ?_⟩
      unfold BlockingWarningEmitter.recoverClosed
      cases hclosed : outcome.windowTransition.closed.bind
        (e.updateLatestNs outcome.actualNs).registry.findByWindowId with
      | none =>
        exact ⟨hlatest, [], .refl _, rfl, fun _ _ => rfl,
          fun _ hmem => absurd hmem List.not_mem_nil⟩
      | some g =>
        obtain ⟨windowId, -, hfind⟩ := Option.bind_eq_some_iff.mp hclosed
        obtain ⟨hsteady, payloads, htells, hids, hothers, hended⟩ :=
          hlatest.recover raises outcome.actualNs (hlatest.kept.get_found hfind)
        exact ⟨hsteady, payloads, htells, hids, hothers, hended⟩
    obtain ⟨e₁, heq, hsteady, payloads, htells, hids, hothers, hended⟩ := hclose
    rw [heq]
    obtain ⟨hsteady', payloads', htells', hterminal⟩ :=
      hsteady.handle raises outcome
    refine ⟨hsteady', payloads ++ payloads', ?_⟩
    have hwhole := htells.trans htells' hids hothers fun groupId hmem => by
      obtain ⟨g', hget, hended⟩ := hended groupId hmem
      rw [hget]
      exact hterminal groupId g' hget hended
    exact ⟨hwhole.dispatched, hwhole.grows, hwhole.le, hwhole.newer, hwhole.increasing,
      hwhole.once, hwhole.unsaid, hwhole.said⟩

/-! ## Sweeps -/

/-- A payload of a part that only lets groups expire. -/
structure Sweeps (e e' : BlockingWarningEmitter) (groupIds : List String)
    (payloads : List BlockingWarningPayload) : Prop where
  tells : Tells e e' payloads
  ids : ∀ p ∈ payloads, p.groupId ∈ groupIds
  opened : e'.openedIds = e.openedIds
  others : ∀ groupId ∉ payloads.map fun p => p.groupId,
    e'.registry.active.get? groupId = e.registry.active.get? groupId

theorem Sweeps.refl (e : BlockingWarningEmitter) (groupIds : List String) :
    Sweeps e e groupIds [] :=
  ⟨.refl e, fun _ hmem => absurd hmem List.not_mem_nil, rfl, fun _ _ => rfl⟩

/-- One turn of the loop: the group is told to expire and leaves, or nothing happens. -/
theorem Steady.expireOne {swept : Nat × BlockingWarningEmitter} (h : Steady swept.2)
    (raises : BlockingWarningPayload → Bool) (ttl : Nat) (nowNs : Int) (snap : WarningGroup) :
    Steady (BlockingWarningEmitter.expireOne raises ttl nowNs swept snap).2 ∧ ∃ payloads,
      Sweeps swept.2 (BlockingWarningEmitter.expireOne raises ttl nowNs swept snap).2
        [snap.groupId] payloads := by
  have hkept : Kept (BlockingWarningEmitter.expireOne raises ttl nowNs swept snap).2 [] :=
    h.kept.expireOne ttl nowNs snap
  obtain ⟨expired, e⟩ := swept
  dsimp only at h
  have hnothing : Steady e ∧ ∃ payloads, Sweeps e e [snap.groupId] payloads :=
    ⟨h, [], .refl e _⟩
  unfold BlockingWarningEmitter.expireOne at hkept ⊢
  dsimp only at hkept ⊢
  split at hkept
  case isTrue hstate =>
    rw [if_pos hstate]
    exact hnothing
  case isFalse hstate =>
    rw [if_neg hstate]
    split at hkept
    case isTrue hearly =>
      rw [if_pos hearly]
      exact hnothing
    case isFalse hearly =>
      rw [if_neg hearly]
      cases hfound : e.registry.findByGroupId snap.groupId with
      | none => exact hnothing
      | some live =>
        rw [hfound] at hkept
        dsimp only at hkept ⊢
        obtain ⟨hid, hnot, -⟩ := h.kept.filed _ live hfound
        have hmarked : (live.markExpired nowNs).groupId = snap.groupId ∧
            (live.markExpired nowNs).state = .expired := ⟨hid, rfl⟩
        obtain ⟨hid', hstate'⟩ := hmarked
        generalize live.markExpired nowNs = g' at hkept hid' hstate' ⊢
        have hget : e.registry.active.get? g'.groupId = some live := by
          rw [hid']
          exact hfound
        have hput : Unhindered
            { e with
              registry := e.registry.put g'
              dedup := e.dedup.forgetGroup g'.groupId
              history := { e.history with expired := e.history.expired ++ [g'] } } :=
          ⟨h.free.idle, h.free.cooldowns, h.free.pending⟩
        obtain ⟨dedup, backpressure, hresult, hfree⟩ := hput.emitTransition raises g' .expired
          nowNs
        rw [hresult] at hkept hfree ⊢
        -- the group leaves the registry, and goes to the ring
        have hactive : ∀ groupId, groupId ≠ g'.groupId →
            ((e.registry.active.set g'.groupId g').pop g'.groupId).get? groupId
              = e.registry.active.get? groupId := by
          intro groupId hne
          rw [Dict.get?_pop_of_ne _ hne, Dict.get?_set_of_ne _ _ hne]
        refine ⟨⟨hkept, ⟨hfree.idle, hfree.cooldowns, hfree.pending⟩, ?_⟩,
          [buildPayload g' .expired (e.registry.sequence + 1)], ?_, ?_, rfl, ?_⟩
        · intro g₀ hmem
          have hring : g₀ ∈ e.registry.recent.items ++ [g'] :=
            (BoundedRing.push_items_suffix _ _).subset hmem
          rcases List.mem_append.mp hring with hmem | hmem
          · obtain ⟨hexpired, hnone, hopened⟩ := h.retired g₀ hmem
            have hne : g₀.groupId ≠ g'.groupId := by
              intro heq
              rw [heq, hget] at hnone
              cases hnone
            exact ⟨hexpired, (hactive _ hne).trans hnone, hopened⟩
          · rw [List.mem_singleton.mp hmem]
            exact ⟨hstate', Dict.get?_pop_self _ _, h.opened hget⟩
        · refine Tells.single rfl (fun _ hmem => hmem) (Nat.lt_succ_self _) hactive ?_
          rw [hget]
          show Said _ _ _ (((e.registry.active.set g'.groupId g').pop g'.groupId).get? g'.groupId)
          rw [Dict.get?_pop_self]
          exact .expired live hnot hstate'
        · intro p hmem
          rw [List.mem_singleton.mp hmem]
          exact List.mem_singleton.mpr hid'
        · intro groupId hout
          exact hactive groupId fun heq => hout (heq ▸ List.mem_singleton.mpr rfl)

/-- The loop over groups with different ids. -/
theorem Steady.expireAll {snaps : List WarningGroup}
    (hnodup : (snaps.map WarningGroup.groupId).Nodup) {swept : Nat × BlockingWarningEmitter}
    (h : Steady swept.2) (raises : BlockingWarningPayload → Bool) (ttl : Nat) (nowNs : Int) :
    Steady (snaps.foldl (BlockingWarningEmitter.expireOne raises ttl nowNs) swept).2 ∧
      ∃ payloads, Sweeps swept.2
        (snaps.foldl (BlockingWarningEmitter.expireOne raises ttl nowNs) swept).2
        (snaps.map WarningGroup.groupId) payloads := by
  induction snaps generalizing swept with
  | nil => exact ⟨h, [], .refl _ _⟩
  | cons snap snaps ih =>
    obtain ⟨hnot, hnodup⟩ := List.nodup_cons.mp hnodup
    obtain ⟨hsteady, payloads, hfirst⟩ := h.expireOne raises ttl nowNs snap
    obtain ⟨hsteady', payloads', hrest⟩ := ih hnodup hsteady
    have hdisjoint : ∀ groupId ∈ payloads.map fun p => p.groupId,
        groupId ∉ payloads'.map fun p => p.groupId := by
      intro groupId hmem hmem'
      obtain ⟨p, hp, rfl⟩ := List.mem_map.mp hmem
      obtain ⟨p', hp', heq⟩ := List.mem_map.mp hmem'
      have hsnap : p.groupId = snap.groupId := List.mem_singleton.mp (hfirst.ids p hp)
      exact hnot (hsnap ▸ heq ▸ hrest.ids p' hp')
    refine ⟨hsteady', payloads ++ payloads', ?_, ?_, hrest.opened.trans hfirst.opened, ?_⟩
    · exact hfirst.tells.trans hrest.tells hfirst.opened hfirst.others fun groupId hmem =>
        ⟨hdisjoint groupId hmem, hrest.others groupId (hdisjoint groupId hmem)⟩
    · intro p hmem
      rcases List.mem_append.mp hmem with hmem | hmem
      · exact List.mem_cons.mpr (.inl (List.mem_singleton.mp (hfirst.ids p hmem)))
      · exact List.mem_cons_of_mem _ (hrest.ids p hmem)
    · intro groupId hout
      rw [List.map_append, List.mem_append, not_or] at hout
      exact (hrest.others groupId hout.2).trans (hfirst.others groupId hout.1)

theorem Steady.sweepExpirations (h : Steady e) (raises : BlockingWarningPayload → Bool)
    (nowMonotonicNs : Option Int) :
    Steady (e.sweepExpirations raises nowMonotonicNs).2 ∧ ∃ payloads,
      Tells e (e.sweepExpirations raises nowMonotonicNs).2 payloads := by
  have hids : e.registry.active.values.map WarningGroup.groupId = e.registry.active.keys := by
    rw [Dict.values, Dict.keys, List.map_map]
    refine List.map_congr_left fun p hmem => ?_
    exact (h.kept.filed p.1 p.2 (Dict.mem_entries_iff.mp hmem)).1
  unfold BlockingWarningEmitter.sweepExpirations
  dsimp only
  split
  case isTrue => exact ⟨h, [], .refl e⟩
  case isFalse =>
    split
    case isTrue => exact ⟨h, [], .refl e⟩
    case isFalse =>
      have hnodup : (e.registry.active.values.map WarningGroup.groupId).Nodup := by
        rw [hids]
        exact e.registry.active.nodup_keys
      obtain ⟨hsteady, payloads, hsweeps⟩ := Steady.expireAll hnodup (show Steady (0, e).2 from h) raises
        e.configuration.expirationTtlNs (nowMonotonicNs.getD e.latestMonotonicNs)
      exact ⟨hsteady, payloads, hsweeps.tells⟩

/-! ## Calls -/

/-- The calls of the emitter, with what the bus does meanwhile. -/
inductive Call where
  | onDetection (outcome : DetectionOutcome) (raises : BlockingWarningPayload → Bool)
  | onCapture (stack : CapturedStack)
  | sweepExpirations (nowMonotonicNs : Option Int) (raises : BlockingWarningPayload → Bool)

namespace BlockingWarningEmitter

def call (e : BlockingWarningEmitter) : Call → BlockingWarningEmitter
  | .onDetection outcome raises => (e.onDetection raises outcome).2
  | .onCapture stack => (e.onCapture stack).2
  | .sweepExpirations nowMonotonicNs raises => (e.sweepExpirations raises nowMonotonicNs).2

/-- The emitter behind the calls. -/
def calls (e : BlockingWarningEmitter) (cs : List Call) : BlockingWarningEmitter := cs.foldl call e

/-- The payloads that a call hands to the router. -/
def payloadsOf (e : BlockingWarningEmitter) (c : Call) : List BlockingWarningPayload :=
  (e.call c).history.dispatched.drop e.history.dispatched.length

end BlockingWarningEmitter

theorem steady_new (runtimeId : String) {configuration : BlockingWarningConfiguration}
    (hcooldowns : configuration.cooldowns = ⟨0, 0, 0, 0, 0⟩) :
    Steady (.new runtimeId configuration) :=
  ⟨.of_nothing_opened rfl rfl rfl rfl, unhindered_new runtimeId hcooldowns,
    fun _ hmem => absurd hmem List.not_mem_nil⟩

/-- One call of the emitter. -/
theorem Steady.call (h : Steady e) (c : Call) :
    Steady (e.call c) ∧ Tells e (e.call c) (e.payloadsOf c) := by
  have hsome : Steady (e.call c) ∧ ∃ payloads, Tells e (e.call c) payloads := by
    cases c with
    | onDetection outcome raises => exact h.onDetection raises outcome
    | onCapture stack => exact ⟨(h.onCapture stack).1, [], (h.onCapture stack).2⟩
    | sweepExpirations nowMonotonicNs raises => exact h.sweepExpirations raises nowMonotonicNs
  obtain ⟨hsteady, payloads, htells⟩ := hsome
  have heq : e.payloadsOf c = payloads := by
    rw [BlockingWarningEmitter.payloadsOf, htells.dispatched, List.drop_left]
  exact ⟨hsteady, heq ▸ htells⟩

theorem Steady.calls (h : Steady e) (cs : List Call) : Steady (e.calls cs) := by
  induction cs generalizing e with
  | nil => exact h
  | cons c cs ih => exact ih (h.call c).1

end AsyncViz.Runtime.Warnings.Blocking
