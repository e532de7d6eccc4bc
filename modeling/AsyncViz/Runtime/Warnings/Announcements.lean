/-
  AsyncViz.Runtime.Warnings.Announcements

  When the warning manager announces a sequence.  A delta carries the sequence of its
  trigger, or, on auto-resolution and expiration, the last sequence that the manager has
  seen.  The `Muted` predicates say of an evaluation, detector by detector and trigger by
  trigger, that nothing of the kind comes up; `applyEvent_announced` and
  `evaluate_announced` that they are exact.
-/

import AsyncViz.Runtime.Warnings.Manager

namespace AsyncViz.Runtime.Warnings

namespace RuntimeWarningManager

/-- The sequences that deltas carry. -/
def announced (deltas : List WarningDelta) : List Int := deltas.filterMap WarningDelta.sequence

@[simp] theorem announced_append (deltas deltas' : List WarningDelta) :
    announced (deltas ++ deltas') = announced deltas ++ announced deltas' :=
  List.filterMap_append

/-! ## Triggers -/

/-- The trigger has no sequence, or is suppressed. -/
def Muted (m : RuntimeWarningManager) (t : WarningTrigger) : Prop :=
  t.sequence = none ∨ evaluateDedup (m.lifecycles.get? t.warningKey) t.sequence = .suppress

/-- Each trigger is muted when its turn comes. -/
def MutedTriggers : RuntimeWarningManager → List WarningTrigger → Prop
  | _, [] => True
  | m, t :: triggers => m.Muted t ∧ MutedTriggers (m.applyTrigger t).1 triggers

theorem applyTrigger_announced (m : RuntimeWarningManager) (t : WarningTrigger) :
    announced (m.applyTrigger t).2 = [] ↔ m.Muted t := by
  rw [applyTrigger, Muted]
  -- a delta goes out unless the trigger is suppressed, and it carries the trigger's sequence
  cases hexisting : m.lifecycles.get? t.warningKey with
  | none =>
    cases hsequence : t.sequence with
    | none => simp [evaluateDedup, notify, announced]
    | some n => simp [evaluateDedup, notify, announced]
  | some existing =>
    cases hdedup : evaluateDedup (some existing) t.sequence with
    | suppress => simp [announced]
    | activate =>
      cases hsequence : t.sequence with
      | none => simp [notify, announced]
      | some n => simp [notify, announced]
    | refresh =>
      cases hsequence : t.sequence with
      | none => simp [notify, announced]
      | some n => simp [notify, announced]

/-- A loop that collects deltas puts them behind those it starts with. -/
theorem foldl_deltas {α : Type _}
    (f : RuntimeWarningManager → α → RuntimeWarningManager × List WarningDelta)
    (m : RuntimeWarningManager) (deltas : List WarningDelta) (items : List α) :
    items.foldl (fun acc item => ((f acc.1 item).1, acc.2 ++ (f acc.1 item).2)) (m, deltas)
      = ((items.foldl (fun acc item => ((f acc.1 item).1, acc.2 ++ (f acc.1 item).2)) (m, [])).1,
        deltas ++
          (items.foldl (fun acc item => ((f acc.1 item).1, acc.2 ++ (f acc.1 item).2))
            (m, [])).2) := by
  induction items generalizing m deltas with
  | nil => simp
  | cons item items ih =>
    rw [List.foldl_cons, List.foldl_cons, ih, ih (f m item).1 ([] ++ (f m item).2)]
    simp

theorem applyTriggers_cons (m : RuntimeWarningManager) (t : WarningTrigger)
    (triggers : List WarningTrigger) :
    m.applyTriggers (t :: triggers)
      = (((m.applyTrigger t).1.applyTriggers triggers).1,
        (m.applyTrigger t).2 ++ ((m.applyTrigger t).1.applyTriggers triggers).2) := by
  exact foldl_deltas applyTrigger (m.applyTrigger t).1 ([] ++ (m.applyTrigger t).2) triggers

theorem applyTriggers_announced (m : RuntimeWarningManager) (triggers : List WarningTrigger) :
    announced (m.applyTriggers triggers).2 = [] ↔ m.MutedTriggers triggers := by
  -- the manager moves with every trigger, so the rest is judged from where it is then
  induction triggers generalizing m with
  | nil => exact iff_of_true rfl trivial
  | cons t triggers ih =>
    rw [applyTriggers_cons, announced_append, List.append_eq_nil_iff, applyTrigger_announced, ih]
    rfl

/-! ## Events -/

/-- No detector fires a trigger that is announced with a sequence. -/
def MutedEvent (event : RuntimeEvent) (sequence : Option Int) : Pass → List WarningDetector → Prop
  | _, [] => True
  | pass, d :: detectors =>
    (∀ triggers, (d.evaluateEvent pass.context event sequence).triggers = some triggers →
      pass.manager.recordEvaluation.MutedTriggers triggers) ∧
    MutedEvent event sequence (eventPass event sequence pass d) detectors

theorem eventPass_announced (event : RuntimeEvent) (sequence : Option Int) (pass : Pass)
    (d : WarningDetector) :
    ∃ deltas, (eventPass event sequence pass d).deltas = pass.deltas ++ deltas ∧
      (announced deltas = [] ↔
        ∀ triggers, (d.evaluateEvent pass.context event sequence).triggers = some triggers →
          pass.manager.recordEvaluation.MutedTriggers triggers) := by
  rw [eventPass]
  cases htriggers : (d.evaluateEvent pass.context event sequence).triggers with
  | none =>
    refine ⟨[], (List.append_nil _).symm, iff_of_true rfl fun triggers h => ?_⟩
    cases h
  | some triggers =>
    refine ⟨(pass.manager.recordEvaluation.applyTriggers triggers).2, rfl, ?_⟩
    rw [applyTriggers_announced]
    constructor
    · rintro h _ ⟨rfl⟩
      exact h
    · exact fun h => h triggers rfl

theorem foldl_eventPass_announced (event : RuntimeEvent) (sequence : Option Int)
    (detectors : List WarningDetector) (pass : Pass) :
    ∃ deltas, (detectors.foldl (eventPass event sequence) pass).deltas = pass.deltas ++ deltas ∧
      (announced deltas = [] ↔ MutedEvent event sequence pass detectors) := by
  induction detectors generalizing pass with
  | nil => exact ⟨[], (List.append_nil _).symm, iff_of_true rfl trivial⟩
  | cons d detectors ih =>
    obtain ⟨first, hfirst, hmuted⟩ := eventPass_announced event sequence pass d
    obtain ⟨rest, hrest, hmutedRest⟩ := ih (eventPass event sequence pass d)
    refine ⟨first ++ rest, ?_, ?_⟩
    · rw [List.foldl_cons, hrest, hfirst, List.append_assoc]
    · rw [announced_append, List.append_eq_nil_iff, hmuted, hmutedRest]
      rfl

/-- An event announces no sequence exactly when it is muted for every detector. -/
theorem applyEvent_announced (m : RuntimeWarningManager) (ctx : DetectorContext)
    (event : RuntimeEvent) (sequence : Option Int) :
    announced (m.applyEvent ctx event sequence).deltas = [] ↔
      MutedEvent event sequence ⟨m, ctx, []⟩ m.detectors := by
  obtain ⟨deltas, hdeltas, hmuted⟩ :=
    foldl_eventPass_announced event sequence m.detectors ⟨m, ctx, []⟩
  have hsame : (m.applyEvent ctx event sequence).deltas
      = (m.detectors.foldl (eventPass event sequence) ⟨m, ctx, []⟩).deltas := by
    cases sequence with
    | none => rfl
    | some n =>
      simp only [applyEvent]
      split
      next => rfl
      next => rfl
  rw [hsame, hdeltas, List.nil_append, hmuted]

/-! ## Evaluations -/

/-- No detector fires a trigger that is announced with a sequence, and none that is
    snapshot-driven leaves an open warning of its own behind. -/
def MutedSnapshot (monotonicNs : Int) (wallSeconds : ℚ) : Pass → List WarningDetector → Prop
  | _, [] => True
  | pass, d :: detectors =>
    (∀ triggers, (d.evaluateSnapshot pass.context pass.manager.lastSequence monotonicNs
        wallSeconds).triggers = some triggers →
      pass.manager.recordEvaluation.MutedTriggers triggers ∧
        (d.snapshotDriven = true →
          (pass.manager.recordEvaluation.applyTriggers triggers).1.unfired d triggers = [])) ∧
    MutedSnapshot monotonicNs wallSeconds (snapshotPass monotonicNs wallSeconds pass d) detectors

/-- An evaluation that announces no sequence: nothing fires, nothing is resolved and nothing
    expires. -/
def MutedEvaluation (m : RuntimeWarningManager) (ctx : DetectorContext) (monotonicNs : Int)
    (wallSeconds : ℚ) : Prop :=
  MutedSnapshot monotonicNs wallSeconds ⟨m, ctx, []⟩ m.detectors ∧
    (m.detectors.foldl (snapshotPass monotonicNs wallSeconds) ⟨m, ctx, []⟩).manager.expirable
      monotonicNs = []

/-- A loop that announces a sequence for each of its items announces none only when there
    are no items. -/
theorem foldl_announced {α : Type _}
    (f : RuntimeWarningManager → α → RuntimeWarningManager × List WarningDelta)
    (hone : ∀ m item, announced (f m item).2 ≠ []) (m : RuntimeWarningManager) (items : List α) :
    announced
        (items.foldl (fun acc item => ((f acc.1 item).1, acc.2 ++ (f acc.1 item).2)) (m, [])).2 = []
      ↔ items = [] := by
  cases items with
  | nil => exact iff_of_true rfl rfl
  | cons item items =>
    -- the first item already announces its sequence
    refine iff_of_false (fun h => ?_) (List.cons_ne_nil item items)
    rw [List.foldl_cons, foldl_deltas, List.nil_append, announced_append,
      List.append_eq_nil_iff] at h
    exact hone m item h.1

theorem autoResolve_announced (m : RuntimeWarningManager) (d : WarningDetector)
    (triggers : List WarningTrigger) (monotonicNs : Int) (wallSeconds : ℚ) :
    announced (m.autoResolve d triggers monotonicNs wallSeconds).2 = [] ↔
      (d.snapshotDriven = true → m.unfired d triggers = []) := by
  rw [autoResolve]
  cases hdriven : d.snapshotDriven with
  | false => simp [announced]
  | true =>
    simp only [if_true, true_imp_iff]
    refine foldl_announced
      (fun m (w : WarningLifecycle) =>
        m.markResolvedInternal w (some m.lastSequence) monotonicNs wallSeconds) ?_ m _
    intro m w
    exact List.cons_ne_nil _ _

theorem sweepExpired_announced (m : RuntimeWarningManager) (nowMonotonicNs : Int) (nowWall : ℚ) :
    announced (m.sweepExpired nowMonotonicNs nowWall).2 = [] ↔ m.expirable nowMonotonicNs = [] := by
  -- each expired record is announced under the manager's last sequence
  refine foldl_announced
    (fun m (w : WarningLifecycle) =>
      let w := w.markExpired nowMonotonicNs nowWall
      let m := m.put w
      let m := { m with selfMetrics :=
        { m.selfMetrics with warningsExpired := m.selfMetrics.warningsExpired + 1 } }
      m.notify w .expired (some m.lastSequence)) ?_ m _
  intro m w
  exact List.cons_ne_nil _ _

theorem snapshotPass_announced (monotonicNs : Int) (wallSeconds : ℚ) (pass : Pass)
    (d : WarningDetector) :
    ∃ deltas, (snapshotPass monotonicNs wallSeconds pass d).deltas = pass.deltas ++ deltas ∧
      (announced deltas = [] ↔
        ∀ triggers, (d.evaluateSnapshot pass.context pass.manager.lastSequence monotonicNs
            wallSeconds).triggers = some triggers →
          pass.manager.recordEvaluation.MutedTriggers triggers ∧
            (d.snapshotDriven = true →
              (pass.manager.recordEvaluation.applyTriggers triggers).1.unfired d triggers = [])) := by
  rw [snapshotPass]
  cases htriggers : (d.evaluateSnapshot pass.context pass.manager.lastSequence monotonicNs
      wallSeconds).triggers with
  | none =>
    refine ⟨[], (List.append_nil _).symm, iff_of_true rfl fun triggers h => ?_⟩
    cases h
  | some triggers =>
    refine ⟨_, List.append_assoc _ _ _, ?_⟩
    rw [announced_append, List.append_eq_nil_iff, applyTriggers_announced, autoResolve_announced]
    constructor
    · rintro h _ ⟨rfl⟩
      exact h
    · exact fun h => h triggers rfl

theorem foldl_snapshotPass_announced (monotonicNs : Int) (wallSeconds : ℚ)
    (detectors : List WarningDetector) (pass : Pass) :
    ∃ deltas,
      (detectors.foldl (snapshotPass monotonicNs wallSeconds) pass).deltas = pass.deltas ++ deltas ∧
      (announced deltas = [] ↔ MutedSnapshot monotonicNs wallSeconds pass detectors) := by
  induction detectors generalizing pass with
  | nil => exact ⟨[], (List.append_nil _).symm, iff_of_true rfl trivial⟩
  | cons d detectors ih =>
    obtain ⟨first, hfirst, hmuted⟩ := snapshotPass_announced monotonicNs wallSeconds pass d
    obtain ⟨rest, hrest, hmutedRest⟩ := ih (snapshotPass monotonicNs wallSeconds pass d)
    refine ⟨first ++ rest, ?_, ?_⟩
    · rw [List.foldl_cons, hrest, hfirst, List.append_assoc]
    · rw [announced_append, List.append_eq_nil_iff, hmuted, hmutedRest]
      rfl

/-- An evaluation announces no sequence exactly when it is muted. -/
theorem evaluate_announced (m : RuntimeWarningManager) (ctx : DetectorContext) (monotonicNs : Int)
    (wallSeconds : ℚ) :
    announced (m.evaluate ctx monotonicNs wallSeconds).deltas = [] ↔
      m.MutedEvaluation ctx monotonicNs wallSeconds := by
  obtain ⟨deltas, hdeltas, hmuted⟩ :=
    foldl_snapshotPass_announced monotonicNs wallSeconds m.detectors ⟨m, ctx, []⟩
  rw [List.nil_append] at hdeltas
  change announced (_ ++ (sweepExpired (m.detectors.foldl (snapshotPass monotonicNs wallSeconds)
    ⟨m, ctx, []⟩).manager monotonicNs wallSeconds).2) = [] ↔ _
  rw [announced_append, List.append_eq_nil_iff, hdeltas, hmuted, sweepExpired_announced]
  rfl

end RuntimeWarningManager

end AsyncViz.Runtime.Warnings
