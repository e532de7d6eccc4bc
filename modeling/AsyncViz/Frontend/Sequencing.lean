/-
  AsyncViz.Frontend.Sequencing

  The two sequence cursors of the frontend: the websocket client's
  `SequenceTracker` (`runtime/websocket/sequencing.ts`) and the store's
  `decideStoreSequence` and `maxSequence` (`state/runtime/sequencing.ts`).

  `null` and `undefined` are both `none`; a sequence is an integer.
-/

import Mathlib.Data.Int.Basic
import Mathlib.Order.Basic

namespace AsyncViz.Frontend

/-- `SequenceDecision` and `StoreSequenceDecision`. -/
inductive SequenceDecision where
  | accept
  | stale
  | duplicate
  | outOfOrder
deriving DecidableEq, Repr

/-- The envelope is applied: an out-of-order one is accepted too. -/
def SequenceDecision.Accepted : SequenceDecision → Prop
  | .accept | .outOfOrder => True
  | .stale | .duplicate => False

instance : DecidablePred SequenceDecision.Accepted := fun d => by
  cases d <;> unfold SequenceDecision.Accepted <;> infer_instance

/-! ## The client's tracker -/

/-- `SequenceTracker`. -/
structure SequenceTracker where
  lastSequence : Int := 0
  accepted : Nat := 0
  duplicate : Nat := 0
  stale : Nat := 0
  outOfOrder : Nat := 0
  allowBackwardSnapshot : Bool := true
deriving DecidableEq, Repr

namespace SequenceTracker

/-- `tracker.decide(sequence)`. -/
def decide (t : SequenceTracker) : Option Int → SequenceDecision
  | none => .accept
  | some sequence =>
    if sequence > t.lastSequence then
      if sequence - t.lastSequence - 1 = 0 then .accept else .outOfOrder
    else if sequence = t.lastSequence then .duplicate
    else .stale

/-- `tracker.commit(sequence)`. -/
def commit (t : SequenceTracker) : Option Int → SequenceTracker
  | none => t
  | some sequence =>
    { t with
      accepted := t.accepted + 1
      lastSequence := if sequence > t.lastSequence then sequence else t.lastSequence }

/-- `tracker.resnap(sequence)`. -/
def resnap (t : SequenceTracker) (sequence : Int) : SequenceTracker :=
  if t.allowBackwardSnapshot || sequence > t.lastSequence then { t with lastSequence := sequence }
  else t

/-- `tracker.reset(initial)`. -/
def reset (t : SequenceTracker) (initial : Int) : SequenceTracker :=
  { t with lastSequence := initial, accepted := 0, duplicate := 0, stale := 0, outOfOrder := 0 }

/-- The tracker's part in `_handleMessage` for an envelope that is no snapshot:
    decide, count what is dropped, commit what is kept. -/
def receive (t : SequenceTracker) (sequence : Option Int) : SequenceDecision × SequenceTracker :=
  match t.decide sequence with
  | .duplicate => (.duplicate, { t with duplicate := t.duplicate + 1 })
  | .stale => (.stale, { t with stale := t.stale + 1 })
  | .outOfOrder => (.outOfOrder, { t with outOfOrder := t.outOfOrder + 1 }.commit sequence)
  | .accept => (.accept, t.commit sequence)

/-- The decisions on a stream of sequences, and the tracker after it. -/
def receiveAll (t : SequenceTracker) : List (Option Int) → List SequenceDecision × SequenceTracker
  | [] => ([], t)
  | sequence :: sequences =>
    let (decision, t) := t.receive sequence
    let (decisions, t) := t.receiveAll sequences
    (decision :: decisions, t)

/-- A sequence is accepted exactly above the cursor. -/
theorem decide_accepted_iff {t : SequenceTracker} {n : Int} :
    (t.decide (some n)).Accepted ↔ t.lastSequence < n := by
  rw [decide]
  by_cases habove : n > t.lastSequence
  · rw [if_pos habove]
    refine iff_of_true ?_ habove
    split <;> trivial
  · rw [if_neg habove]
    refine iff_of_false ?_ habove
    split <;> exact not_false

theorem receive_decision (t : SequenceTracker) (sequence : Option Int) :
    (t.receive sequence).1 = t.decide sequence := by
  rw [receive]
  cases h : t.decide sequence <;> rfl

/-- An accepted sequence is the new cursor; a dropped one leaves it alone. -/
theorem receive_lastSequence (t : SequenceTracker) (n : Int) :
    (t.receive (some n)).2.lastSequence = if t.lastSequence < n then n else t.lastSequence := by
  have haccepted := decide_accepted_iff (t := t) (n := n)
  rw [receive]
  cases h : t.decide (some n) with
  | accept | outOfOrder =>
    rw [h] at haccepted
    have habove : t.lastSequence < n := haccepted.mp trivial
    simp [commit, habove]
  | stale | duplicate =>
    rw [h] at haccepted
    have hnot : ¬ t.lastSequence < n := fun habove => haccepted.mpr habove
    simp [hnot]

/-- What a tracker accepts of a stream whose sequences increase from above its
    cursor: all. -/
theorem receiveAll_accepted {t : SequenceTracker} {sequences : List (Option Int)}
    (hpairs : (sequences.filterMap id).Pairwise (· < ·))
    (habove : ∀ n ∈ sequences.filterMap id, t.lastSequence < n) :
    ∀ decision ∈ (t.receiveAll sequences).1, decision.Accepted := by
  induction sequences generalizing t with
  | nil =>
    intro decision hdecision
    cases hdecision
  | cons sequence sequences ih =>
    intro decision hdecision
    cases sequence with
    | none =>
      rcases List.mem_cons.mp hdecision with rfl | htail
      · trivial
      · exact ih hpairs habove decision htail
    | some n =>
      have hcons : (some n :: sequences).filterMap id = n :: sequences.filterMap id := rfl
      rw [hcons] at hpairs habove
      obtain ⟨hfirst, hrest⟩ := List.pairwise_cons.mp hpairs
      have hn : t.lastSequence < n := habove n List.mem_cons_self
      have hcursor : (t.receive (some n)).2.lastSequence = n := by
        rw [receive_lastSequence, if_pos hn]
      rcases List.mem_cons.mp hdecision with rfl | htail
      · show (t.receive (some n)).1.Accepted
        rw [receive_decision]
        exact decide_accepted_iff.mpr hn
      -- the accepted sequence is the new cursor, and the rest lies above it
      · have hnext : ∀ m ∈ sequences.filterMap id, (t.receive (some n)).2.lastSequence < m := by
          intro m hm
          rw [hcursor]
          exact hfirst m hm
        exact ih hrest hnext decision htail

/-- A sequence is a duplicate only of the cursor's. -/
theorem decide_eq_duplicate_iff {t : SequenceTracker} {n : Int} :
    t.decide (some n) = .duplicate ↔ n = t.lastSequence := by
  rw [decide]
  by_cases habove : n > t.lastSequence
  · rw [if_pos habove]
    refine iff_of_false ?_ (by omega)
    split <;> exact fun h => by cases h
  · rw [if_neg habove]
    by_cases hsame : n = t.lastSequence
    · rw [if_pos hsame]
      exact iff_of_true rfl hsame
    · rw [if_neg hsame]
      exact iff_of_false (fun h => by cases h) hsame

/-- In a stream without repetitions nothing is a duplicate, unless of the cursor that the
    tracker starts with. -/
theorem receiveAll_no_duplicate {t : SequenceTracker} {sequences : List (Option Int)}
    (hnodup : (sequences.filterMap id).Nodup) (hcursor : t.lastSequence ∉ sequences.filterMap id) :
    .duplicate ∉ (t.receiveAll sequences).1 := by
  induction sequences generalizing t with
  | nil => exact List.not_mem_nil
  | cons sequence sequences ih =>
    cases sequence with
    | none =>
      intro hmem
      rcases List.mem_cons.mp hmem with hfirst | hrest
      · cases hfirst
      · exact ih hnodup hcursor hrest
    | some n =>
      have hcons : (some n :: sequences).filterMap id = n :: sequences.filterMap id := rfl
      rw [hcons] at hnodup hcursor
      obtain ⟨hn, hnodup⟩ := List.nodup_cons.mp hnodup
      rw [List.mem_cons, not_or] at hcursor
      obtain ⟨hne, hcursor⟩ := hcursor
      intro hmem
      rcases List.mem_cons.mp hmem with hfirst | hrest
      · change .duplicate = (t.receive (some n)).1 at hfirst
        rw [receive_decision] at hfirst
        exact hne (decide_eq_duplicate_iff.mp hfirst.symm).symm
      · -- the cursor is the old one, or this sequence, and neither comes again
        have hnext : (t.receive (some n)).2.lastSequence ∉ sequences.filterMap id := by
          rw [receive_lastSequence]
          split
          next => exact hn
          next => exact hcursor
        exact ih hnodup hnext hrest

end SequenceTracker

/-! ## The store's cursor -/

/-- `decideStoreSequence(envelope, lastSequence)`. -/
def decideStoreSequence (sequence : Option Int) (lastSequence : Int) : SequenceDecision :=
  match sequence with
  | none => .accept
  | some n =>
    if n > lastSequence + 1 then .outOfOrder
    else if n = lastSequence + 1 then .accept
    else if n = lastSequence then .duplicate
    else .stale

/-- `maxSequence(a, b)`. -/
def maxSequence (a : Int) : Option Int → Int
  | none => a
  | some b => if b > a then b else a

/-- The store accepts exactly above its cursor, too. -/
theorem decideStoreSequence_accepted_iff {n lastSequence : Int} :
    (decideStoreSequence (some n) lastSequence).Accepted ↔ lastSequence < n := by
  rw [decideStoreSequence]
  by_cases hgap : n > lastSequence + 1
  · rw [if_pos hgap]
    exact iff_of_true trivial (by omega)
  · rw [if_neg hgap]
    by_cases hnext : n = lastSequence + 1
    · rw [if_pos hnext]
      exact iff_of_true trivial (by omega)
    · rw [if_neg hnext]
      refine iff_of_false ?_ (by omega)
      split <;> exact not_false

end AsyncViz.Frontend
