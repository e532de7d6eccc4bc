/-
  AsyncViz.Runtime.Warnings.Blocking.Phases

  The order in which the transitions of one group may be told, and the ids that tell groups
  apart.
-/

import Std.Data.String.ToNat
import AsyncViz.Runtime.Warnings.Blocking.Emitter

namespace AsyncViz.Runtime.Warnings.Blocking

/-! ## The order of the transitions -/

/-- Where a transition stands in the life of a group. -/
def Transition.phase : Transition → Nat
  | .opened => 0
  | .escalated | .active => 1
  | .recovered => 2
  | .expired => 3

/-- A transition may be told before another one of the same group. -/
def Transition.Precedes (t t' : Transition) : Prop :=
  t.phase < t'.phase ∨ t.phase = 1 ∧ t'.phase = 1

/-- The last phase that has been told of a group in this state. -/
def BlockingWarningGroupState.phase : BlockingWarningGroupState → Nat
  | .opened | .escalating | .active => 1
  | .recovered => 2
  | .expired => 3

namespace Transition

variable {t : Transition} {l : List Transition}

theorem eq_nil_of_phase (h : ∀ t ∈ l, 3 < t.phase) : l = [] := by
  refine List.eq_nil_iff_forall_not_mem.mpr fun t ht => ?_
  have hlt := h t ht
  cases t <;> simp [phase] at hlt

/-- What comes after a transition that is told once is of a later phase. -/
theorem lt_of_precedes (hpair : (t :: l).Pairwise Precedes) (ht : t.phase ≠ 1) :
    ∀ t' ∈ l, t.phase < t'.phase := by
  intro t' ht'
  rcases List.rel_of_pairwise_cons hpair ht' with h | h
  · exact h
  · exact absurd h.1 ht

/-- What comes after a transition is not of an earlier phase. -/
theorem le_of_precedes (hpair : (t :: l).Pairwise Precedes) : ∀ t' ∈ l, t.phase ≤ t'.phase := by
  intro t' ht'
  rcases List.rel_of_pairwise_cons hpair ht' with h | h
  · exact Nat.le_of_lt h
  · omega

theorem sublist_expired (hpair : l.Pairwise Precedes) (h : ∀ t ∈ l, 3 ≤ t.phase) :
    l.Sublist [.expired] := by
  cases l with
  | nil => exact List.nil_sublist _
  | cons t l =>
    have ht : t = .expired := by
      have hle := h t List.mem_cons_self
      cases t <;> simp [phase] at hle ⊢
    subst ht
    rw [eq_nil_of_phase (lt_of_precedes hpair (by simp [phase]))]

theorem sublist_ended (hpair : l.Pairwise Precedes) (h : ∀ t ∈ l, 2 ≤ t.phase) :
    l.Sublist [.recovered, .expired] := by
  cases l with
  | nil => exact List.nil_sublist _
  | cons t l =>
    by_cases ht : t = .recovered
    · subst ht
      have hlt := lt_of_precedes hpair (by simp [phase])
      exact (sublist_expired hpair.of_cons hlt).cons_cons _
    · -- No recovery is told: all that is left is the expiry.
      have hle : 3 ≤ t.phase := by
        have hle := h t List.mem_cons_self
        cases t <;> simp [phase] at hle ht ⊢
      refine (sublist_expired hpair fun t' ht' => ?_).cons _
      rcases List.mem_cons.mp ht' with rfl | ht'
      · exact hle
      · exact Nat.le_trans hle (le_of_precedes hpair t' ht')

/-- By induction on the transitions that may repeat. -/
theorem sublist_refreshed (hpair : l.Pairwise Precedes) (h : ∀ t ∈ l, 1 ≤ t.phase) :
    ∃ mid : List Transition, (∀ t ∈ mid, t = .escalated ∨ t = .active) ∧
      l.Sublist (mid ++ [.recovered, .expired]) := by
  induction l with
  | nil => exact ⟨[], fun _ ht => absurd ht List.not_mem_nil, List.nil_sublist _⟩
  | cons t l ih =>
    by_cases ht : t.phase = 1
    · obtain ⟨mid, hmid, hsub⟩ := ih hpair.of_cons fun t' ht' =>
        h t' (List.mem_cons_of_mem t ht')
      refine ⟨t :: mid, fun t' ht' => ?_, hsub.cons_cons t⟩
      rcases List.mem_cons.mp ht' with rfl | ht'
      · cases t' <;> simp [phase] at ht ⊢
      · exact hmid t' ht'
    · -- From here on nothing repeats.
      have hle : 2 ≤ t.phase := by
        have hle := h t List.mem_cons_self
        omega
      refine ⟨[], fun _ ht => absurd ht List.not_mem_nil, ?_⟩
      refine sublist_ended hpair fun t' ht' => ?_
      rcases List.mem_cons.mp ht' with rfl | ht'
      · exact hle
      · exact Nat.le_trans hle (le_of_precedes hpair t' ht')

/-- Transitions of which each may be told before the later ones are part of a life. -/
theorem sublist_life (hpair : l.Pairwise Precedes) :
    ∃ mid : List Transition, (∀ t ∈ mid, t = .escalated ∨ t = .active) ∧
      l.Sublist (.opened :: (mid ++ [.recovered, .expired])) := by
  cases l with
  | nil => exact ⟨[], fun _ ht => absurd ht List.not_mem_nil, List.nil_sublist _⟩
  | cons t l =>
    by_cases ht : t = .opened
    · subst ht
      have hlt := lt_of_precedes hpair (by simp [phase])
      obtain ⟨mid, hmid, hsub⟩ := sublist_refreshed hpair.of_cons hlt
      exact ⟨mid, hmid, hsub.cons_cons _⟩
    · have hle : 1 ≤ t.phase := by cases t <;> simp [phase] at ht ⊢
      obtain ⟨mid, hmid, hsub⟩ := sublist_refreshed hpair (by
        intro t' ht'
        rcases List.mem_cons.mp ht' with rfl | ht'
        · exact hle
        · exact Nat.le_trans hle (le_of_precedes hpair t' ht'))
      exact ⟨mid, hmid, hsub.cons _⟩

end Transition

/-! ## Ids -/

/-- What a group keeps from the time it is opened. -/
structure GroupOrigin where
  groupId : String
  warningId : String
  runtimeId : String
  windowId : Option String
  firstSeenNs : Int
deriving DecidableEq, Repr

def WarningGroup.origin (g : WarningGroup) : GroupOrigin :=
  ⟨g.groupId, g.warningId, g.runtimeId, g.windowId, g.firstSeenNs⟩

/-- The key that a group is filed under. -/
def WarningGroup.key (g : WarningGroup) : String := g.windowId.getD noWindowKey

namespace WarningGroup

variable {g g' : WarningGroup}

theorem groupId_of_origin (h : g'.origin = g.origin) : g'.groupId = g.groupId :=
  congrArg GroupOrigin.groupId h

theorem windowId_of_origin (h : g'.origin = g.origin) : g'.windowId = g.windowId :=
  congrArg GroupOrigin.windowId h

theorem key_of_origin (h : g'.origin = g.origin) : g'.key = g.key :=
  congrArg (fun o => o.windowId.getD noWindowKey) h

@[simp] theorem origin_recordObservation (severity : BlockingSeverity) (lagNs monotonicNs : Int)
    (sampleIndex : Int) :
    (g.recordObservation severity lagNs monotonicNs sampleIndex).origin = g.origin := by
  by_cases h : severity.rank > g.severity.rank <;> simp [recordObservation, h, origin]

/-- An observation escalates a group or leaves it active. -/
theorem state_recordObservation (hlive : g.state.isTerminal = false)
    (severity : BlockingSeverity) (lagNs monotonicNs : Int) (sampleIndex : Int) :
    (g.recordObservation severity lagNs monotonicNs sampleIndex).state = .escalating ∨
      (g.recordObservation severity lagNs monotonicNs sampleIndex).state = .active := by
  by_cases h : severity.rank > g.severity.rank
  · exact .inl (by simp [recordObservation, h])
  · refine .inr ?_
    cases hstate : g.state <;>
      simp [recordObservation, h, hstate, BlockingWarningGroupState.isTerminal] at hlive ⊢

end WarningGroup

namespace BlockingWarningEmitter

theorem warningIdOf_inj {runtimeId : String} {m n : Nat}
    (h : warningIdOf runtimeId m = warningIdOf runtimeId n) : m = n := by
  have happend : ("bw:" ++ runtimeId ++ ":") ++ toString m
      = ("bw:" ++ runtimeId ++ ":") ++ toString n := h
  exact Nat.repr_inj.mp ((String.append_right_inj _).mp happend)

@[simp] theorem key_newGroup (runtimeId warningId windowKey : String) (outcome : DetectionOutcome)
    (ns : Int) : (newGroup runtimeId warningId windowKey outcome ns).key = windowKey := by
  show (if windowKey = noWindowKey then none else some windowKey).getD noWindowKey = windowKey
  split
  · exact Eq.symm ‹_›
  · rfl

end BlockingWarningEmitter

end AsyncViz.Runtime.Warnings.Blocking
