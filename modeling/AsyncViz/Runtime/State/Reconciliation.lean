/-
  AsyncViz.Runtime.State.Reconciliation

  The sequence-aware dedup and stale filter of the state store
  (`runtime/state/reconciliation.py`).

  `_seen_ids_set` and `_seen_ids_order` are one list here, the order: an id is
  recorded only after `evaluate` found it unseen, so the set always holds
  exactly the ids of the list.
-/

import Mathlib.Data.List.Basic

namespace AsyncViz.Runtime.State

/-- `ReconciliationDecision`. -/
inductive ReconciliationDecision where
  | apply
  | stale
  | duplicate
deriving DecidableEq, Repr

/-- `ReconciliationPolicy`. -/
structure ReconciliationPolicy where
  eventIdWindow : Nat
  window_pos : 0 < eventIdWindow
  lastSequence : Int
  seenIds : List String
deriving DecidableEq, Repr

namespace ReconciliationPolicy

/-- `ReconciliationPolicy(event_id_window)`. -/
def new (eventIdWindow : Nat) (h : 0 < eventIdWindow) : ReconciliationPolicy :=
  ⟨eventIdWindow, h, 0, []⟩

/-- `ReconciliationPolicy()`. -/
def default : ReconciliationPolicy := new 4096 (by decide)

/-- `ReconciliationPolicy.evaluate`. -/
def evaluate (p : ReconciliationPolicy) (sequence : Option Int) (eventId : String) :
    ReconciliationDecision :=
  -- the id is looked at before the sequence
  if eventId ∈ p.seenIds then .duplicate
  else
    match sequence with
    | some n => if n ≤ p.lastSequence then .stale else .apply
    | none => .apply

/-- `ReconciliationPolicy.record_applied`. -/
def recordApplied (p : ReconciliationPolicy) (sequence : Option Int) (eventId : String) :
    ReconciliationPolicy :=
  let lastSequence :=
    match sequence with
    | some n => if n > p.lastSequence then n else p.lastSequence
    | none => p.lastSequence
  let order := p.seenIds ++ [eventId]
  { p with
    lastSequence := lastSequence
    seenIds := if order.length > p.eventIdWindow then order.tail else order }

/-- `ReconciliationPolicy.reset_for_rebuild`. -/
def resetForRebuild (p : ReconciliationPolicy) : ReconciliationPolicy :=
  { p with lastSequence := 0, seenIds := [] }

theorem evaluate_eq_apply_iff {p : ReconciliationPolicy} {sequence : Option Int}
    {eventId : String} :
    p.evaluate sequence eventId = .apply ↔
      eventId ∉ p.seenIds ∧ ∀ n, sequence = some n → p.lastSequence < n := by
  unfold evaluate
  by_cases hseen : eventId ∈ p.seenIds
  · simp [hseen]
  · cases sequence with
    | none => simp [hseen]
    | some n =>
      by_cases hle : n ≤ p.lastSequence
      · have hnot : ¬ p.lastSequence < n := by omega
        simp [hseen, hle, hnot]
      · have hlt : p.lastSequence < n := by omega
        simp [hseen, hle, hlt]

/-- An event is classified stale only when its sequence is at or below the mark. -/
theorem evaluate_ne_stale {p : ReconciliationPolicy} {n : Int} (eventId : String)
    (h : p.lastSequence < n) : p.evaluate (some n) eventId ≠ .stale := by
  rw [evaluate]
  have hnot : ¬ n ≤ p.lastSequence := by omega
  by_cases hseen : eventId ∈ p.seenIds <;> simp [hseen, hnot]

theorem recordApplied_lastSequence_some {p : ReconciliationPolicy} {n : Int} {eventId : String}
    (h : p.lastSequence < n) : (p.recordApplied (some n) eventId).lastSequence = n :=
  if_pos h

end ReconciliationPolicy

end AsyncViz.Runtime.State
