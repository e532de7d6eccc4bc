/-
  AsyncViz.Frontend.WarningCounts

  The severity counters of the warning slice over whole streams of deltas.

  `reduceWarningDelta` moves a counter by the severity that the payload carries
  and never looks at the stored one.  So the counters are those of the active
  warnings as long as each payload fits what is stored: an update keeps the
  severity, a resolution carries the one stored, an ended warning is not ended
  again beside another of its severity, and none comes back.  `Fits` states this
  for one payload, and `consistent_iff_fits` says that it is exact.
-/

import AsyncViz.Frontend.Reducers
import AsyncViz.Lib.Transition

namespace AsyncViz.Frontend

open AsyncViz.Lib AsyncViz.Lib.Transition AsyncViz.Runtime.Warnings

/-! ## Counting the members of a list by a value -/

section Counting

variable {κ ν : Type _} [DecidableEq κ] [DecidableEq ν]

theorem filter_ne_of_not_mem {l : List κ} {k : κ} (h : k ∉ l) : l.filter (· ≠ k) = l := by
  refine List.filter_eq_self.mpr fun x hx => decide_eq_true ?_
  rintro rfl
  exact h hx

/-- Taking one member out of a list without repetitions takes its own count out. -/
theorem countP_filter_ne {l : List κ} (hnodup : l.Nodup) {k : κ} (hmem : k ∈ l) (q : κ → Bool) :
    l.countP q = (l.filter (· ≠ k)).countP q + if q k then 1 else 0 := by
  have hfilter : l.filter (· ≠ k) = l.erase k := by
    rw [hnodup.erase_eq_filter]
    exact List.filter_congr fun x _ => by simp [bne, beq_eq_decide]
  rw [hfilter, (List.perm_cons_erase hmem).countP_eq q, List.countP_cons]

/-- Writing the value of a key outside the list moves no count. -/
theorem countP_update_of_not_mem {l : List κ} {k : κ} (h : k ∉ l) (f : κ → ν) (v w : ν) :
    l.countP (fun x => Function.update f k v x = w) = l.countP (fun x => f x = w) := by
  refine List.countP_congr fun x hx => ?_
  have hne : x ≠ k := by
    rintro rfl
    exact h hx
  rw [Function.update_of_ne hne]

/-- Writing the value of a member moves one from the count of the old value to the count
    of the new one. -/
theorem countP_update_of_mem {l : List κ} (hnodup : l.Nodup) {k : κ} (hmem : k ∈ l) (f : κ → ν)
    (v w : ν) :
    l.countP (fun x => Function.update f k v x = w) + (if f k = w then 1 else 0) =
      l.countP (fun x => f x = w) + if v = w then 1 else 0 := by
  have hrest : k ∉ l.filter (· ≠ k) := by simp
  have hnew := countP_filter_ne hnodup hmem fun x => decide (Function.update f k v x = w)
  have hold := countP_filter_ne hnodup hmem fun x => decide (f x = w)
  rw [countP_update_of_not_mem hrest, Function.update_self] at hnew
  simp only [decide_eq_true_eq] at hnew hold
  omega

end Counting

/-! ## What the slice is to say -/

namespace NormalizedWarningState

/-- The severity of the stored warning. -/
def severityOf (s : NormalizedWarningState) (id : String) : Option WarningSeverity :=
  (s.warningsById.get? id).map WarningLifecycle.severity

/-- The number of active ids whose stored warning has the severity. -/
def shown (s : NormalizedWarningState) (severity : WarningSeverity) : Nat :=
  s.activeWarningIds.countP fun id => s.severityOf id = some severity

/-- The counters count the active warnings, and no id is listed twice. -/
structure Consistent (s : NormalizedWarningState) : Prop where
  counts : ∀ severity, s.countsBySeverity severity = (s.shown severity : Int)
  active_nodup : s.activeWarningIds.Nodup
  resolved_nodup : s.resolvedWarningIds.Nodup
  disjoint : s.activeWarningIds.Disjoint s.resolvedWarningIds

/-- Every active id has its record. -/
def Stored (s : NormalizedWarningState) : Prop :=
  ∀ id ∈ s.activeWarningIds, ∃ severity, s.severityOf id = some severity

/-- The payload ends its warning. -/
abbrev Ends (payload : WarningDelta) : Prop := payload.change = .resolved ∨ payload.change = .expired

/-- The payload fits the slice: for an active warning it carries the stored severity; an
    ended one is not ended once more while a warning of that severity is active, and does
    not come back. -/
def Fits (s : NormalizedWarningState) (payload : WarningDelta) : Prop :=
  let id := payload.warning.warningId
  let severity := payload.warning.severity
  (id ∈ s.activeWarningIds → s.severityOf id = some severity) ∧
  (id ∉ s.activeWarningIds → Ends payload →
    ∀ other ∈ s.activeWarningIds, s.severityOf other ≠ some severity) ∧
  (id ∉ s.activeWarningIds → ¬ Ends payload → id ∉ s.resolvedWarningIds)

/-- One payload is folded. -/
def step (s : NormalizedWarningState) (payload : WarningDelta) : Option NormalizedWarningState :=
  some (reduceWarningDelta s payload)

variable {s : NormalizedWarningState} {payload : WarningDelta}

/-! ## One payload -/

/-- Every payload stores its warning. -/
theorem severityOf_reduceWarningDelta (s : NormalizedWarningState) (payload : WarningDelta) :
    (reduceWarningDelta s payload).severityOf =
      Function.update s.severityOf payload.warning.warningId (some payload.warning.severity) := by
  have hstored : (reduceWarningDelta s payload).warningsById =
      s.warningsById.set payload.warning.warningId payload.warning := by
    rw [reduceWarningDelta]
    split
    · rfl
    · split <;> rfl
  funext id
  rw [severityOf, hstored]
  by_cases hid : id = payload.warning.warningId
  · subst hid
    rw [Dict.get?_set_self, Function.update_self]
    rfl
  · rw [Dict.get?_set_of_ne _ _ hid, Function.update_of_ne hid]
    rfl

/-- An end leaves the id out of the active ones, listed or not. -/
theorem activeWarningIds_of_ends (hends : Ends payload) :
    (reduceWarningDelta s payload).activeWarningIds =
      s.activeWarningIds.filter (· ≠ payload.warning.warningId) := by
  rw [reduceWarningDelta]
  rw [if_pos hends]
  show (if _ then _ else _) = _
  split
  · rfl
  · next hinactive => exact (filter_ne_of_not_mem hinactive).symm

/-- An end enters the id among the resolved ones, once. -/
theorem resolvedWarningIds_of_ends (hends : Ends payload) :
    (reduceWarningDelta s payload).resolvedWarningIds =
      if payload.warning.warningId ∈ s.resolvedWarningIds then s.resolvedWarningIds
      else s.resolvedWarningIds ++ [payload.warning.warningId] := by
  rw [reduceWarningDelta]
  rw [if_pos hends]

/-- An end takes one from the counter of the payload's severity, down to zero. -/
theorem countsBySeverity_of_ends (hends : Ends payload) (severity : WarningSeverity) :
    (reduceWarningDelta s payload).countsBySeverity severity =
      if severity = payload.warning.severity ∧ s.countsBySeverity severity > 0 then
        s.countsBySeverity severity - 1
      else s.countsBySeverity severity := by
  have hcounts : (reduceWarningDelta s payload).countsBySeverity =
      if s.countsBySeverity payload.warning.severity > 0 then
        Function.update s.countsBySeverity payload.warning.severity
          (s.countsBySeverity payload.warning.severity - 1)
      else s.countsBySeverity := by
    rw [reduceWarningDelta]
    rw [if_pos hends]
  rw [hcounts]
  by_cases hseverity : severity = payload.warning.severity
  · subst hseverity
    by_cases hpos : s.countsBySeverity payload.warning.severity > 0
    · rw [if_pos hpos, Function.update_self]
      exact (if_pos ⟨rfl, hpos⟩).symm
    · rw [if_neg hpos]
      exact (if_neg fun hboth => hpos hboth.2).symm
  · rw [if_neg (fun hboth : severity = payload.warning.severity ∧ _ => hseverity hboth.1)]
    split
    · exact Function.update_of_ne hseverity _ _
    · rfl

/-- An update of an active warning stores it and does nothing else. -/
theorem reduceWarningDelta_of_active (hends : ¬ Ends payload)
    (hactive : payload.warning.warningId ∈ s.activeWarningIds) :
    reduceWarningDelta s payload =
      { s with
        warningsById := s.warningsById.set payload.warning.warningId payload.warning } := by
  rw [reduceWarningDelta]
  rw [if_neg hends, if_pos hactive]

/-- Any other payload but an end activates its warning. -/
theorem reduceWarningDelta_of_new (hends : ¬ Ends payload)
    (hinactive : payload.warning.warningId ∉ s.activeWarningIds) :
    reduceWarningDelta s payload =
      { s with
        warningsById := s.warningsById.set payload.warning.warningId payload.warning
        activeWarningIds := s.activeWarningIds ++ [payload.warning.warningId]
        countsBySeverity := Function.update s.countsBySeverity payload.warning.severity
          (s.countsBySeverity payload.warning.severity + 1) } := by
  rw [reduceWarningDelta]
  rw [if_neg hends, if_neg hinactive]

/-- What an end leaves to show: everything but its own warning. -/
theorem shown_of_ends (h : s.activeWarningIds.Nodup) (hends : Ends payload)
    (severity : WarningSeverity) :
    s.shown severity = (reduceWarningDelta s payload).shown severity +
      if payload.warning.warningId ∈ s.activeWarningIds ∧
        s.severityOf payload.warning.warningId = some severity then 1 else 0 := by
  have hrest : payload.warning.warningId ∉
      s.activeWarningIds.filter (· ≠ payload.warning.warningId) := by
    simp
  have hshown : (reduceWarningDelta s payload).shown severity =
      (s.activeWarningIds.filter (· ≠ payload.warning.warningId)).countP
        fun id => s.severityOf id = some severity := by
    rw [shown, severityOf_reduceWarningDelta, activeWarningIds_of_ends hends]
    exact countP_update_of_not_mem hrest _ _ _
  rw [hshown, shown]
  by_cases hactive : payload.warning.warningId ∈ s.activeWarningIds
  · rw [countP_filter_ne h hactive]
    simp only [hactive, true_and, decide_eq_true_eq]
  · rw [filter_ne_of_not_mem hactive, if_neg fun hboth => hactive hboth.1, Nat.add_zero]

/-- What an update of an active warning leaves to show. -/
theorem shown_of_active (h : s.activeWarningIds.Nodup) (hends : ¬ Ends payload)
    (hactive : payload.warning.warningId ∈ s.activeWarningIds) (severity : WarningSeverity) :
    (reduceWarningDelta s payload).shown severity +
        (if s.severityOf payload.warning.warningId = some severity then 1 else 0) =
      s.shown severity + if payload.warning.severity = severity then 1 else 0 := by
  have hids : (reduceWarningDelta s payload).activeWarningIds = s.activeWarningIds := by
    rw [reduceWarningDelta_of_active hends hactive]
  rw [shown, severityOf_reduceWarningDelta, hids, shown]
  rw [countP_update_of_mem h hactive]
  simp only [Option.some.injEq]

/-- What an activation adds to what is shown. -/
theorem shown_of_new (hends : ¬ Ends payload)
    (hinactive : payload.warning.warningId ∉ s.activeWarningIds) (severity : WarningSeverity) :
    (reduceWarningDelta s payload).shown severity =
      s.shown severity + if payload.warning.severity = severity then 1 else 0 := by
  have hids : (reduceWarningDelta s payload).activeWarningIds =
      s.activeWarningIds ++ [payload.warning.warningId] := by
    rw [reduceWarningDelta_of_new hends hinactive]
  rw [shown, severityOf_reduceWarningDelta, hids, List.countP_append, shown]
  rw [countP_update_of_not_mem hinactive]
  simp [List.countP_cons, Function.update_self]

/-! ## When a payload keeps the slice consistent -/

/-- An end keeps the lists apart. -/
theorem listed_of_ends (h : s.Consistent) (hends : Ends payload) :
    (reduceWarningDelta s payload).activeWarningIds.Nodup ∧
    (reduceWarningDelta s payload).resolvedWarningIds.Nodup ∧
    (reduceWarningDelta s payload).activeWarningIds.Disjoint
      (reduceWarningDelta s payload).resolvedWarningIds := by
  rw [activeWarningIds_of_ends hends, resolvedWarningIds_of_ends hends]
  refine ⟨h.active_nodup.filter _, ?_, ?_⟩
  · split
    · exact h.resolved_nodup
    · next hnew =>
      rw [← List.concat_eq_append]
      exact List.Nodup.concat hnew h.resolved_nodup
  · intro id hid
    obtain ⟨hid, hne⟩ := List.mem_filter.mp hid
    rw [decide_eq_true_eq] at hne
    split
    · exact h.disjoint hid
    · rw [List.mem_append, List.mem_singleton]
      rintro (hresolved | heq)
      · exact h.disjoint hid hresolved
      · exact hne heq

/-- The end of an active warning is counted right exactly when it carries the stored
    severity. -/
theorem consistent_ends_active_iff (h : s.Consistent) (hstored : s.Stored) (hends : Ends payload)
    (hactive : payload.warning.warningId ∈ s.activeWarningIds) :
    (reduceWarningDelta s payload).Consistent ↔
      s.severityOf payload.warning.warningId = some payload.warning.severity := by
  obtain ⟨old, hold⟩ := hstored _ hactive
  have hshown : ∀ severity, s.shown severity =
      (reduceWarningDelta s payload).shown severity + if old = severity then 1 else 0 := by
    intro severity
    rw [shown_of_ends h.active_nodup hends, hold]
    simp only [hactive, true_and, Option.some.injEq]
  rw [hold, Option.some.injEq]
  constructor
  · intro h'
    by_contra hne
    -- the counter of the stored severity stays where it was
    have hcount := h'.counts old
    rw [countsBySeverity_of_ends hends, if_neg fun hboth => hne hboth.1, h.counts] at hcount
    have hone := hshown old
    rw [if_pos rfl] at hone
    omega
  · rintro rfl
    obtain ⟨hactive', hresolved', hdisjoint'⟩ := listed_of_ends h hends
    refine ⟨fun severity => ?_, hactive', hresolved', hdisjoint'⟩
    have hone := hshown severity
    rw [countsBySeverity_of_ends hends, h.counts]
    by_cases hseverity : payload.warning.severity = severity
    · rw [if_pos hseverity] at hone
      rw [if_pos ⟨hseverity.symm, by omega⟩]
      omega
    · rw [if_neg hseverity] at hone
      rw [if_neg fun hboth => hseverity hboth.1.symm]
      omega

/-- The end of a warning that is not active is counted right exactly when it finds no
    active warning of its severity. -/
theorem consistent_ends_inactive_iff (h : s.Consistent) (hends : Ends payload)
    (hinactive : payload.warning.warningId ∉ s.activeWarningIds) :
    (reduceWarningDelta s payload).Consistent ↔
      ∀ other ∈ s.activeWarningIds, s.severityOf other ≠ some payload.warning.severity := by
  have hshown : ∀ severity, s.shown severity = (reduceWarningDelta s payload).shown severity := by
    intro severity
    rw [shown_of_ends h.active_nodup hends, if_neg fun hboth => hinactive hboth.1, Nat.add_zero]
  have hzero : s.shown payload.warning.severity = 0 ↔
      ∀ other ∈ s.activeWarningIds, s.severityOf other ≠ some payload.warning.severity := by
    rw [shown, List.countP_eq_zero]
    simp only [decide_eq_true_eq, ne_eq]
  rw [← hzero]
  constructor
  · intro h'
    have hcount := h'.counts payload.warning.severity
    rw [countsBySeverity_of_ends hends, h.counts, ← hshown] at hcount
    by_contra hpos
    rw [if_pos ⟨rfl, by omega⟩] at hcount
    omega
  · intro hnone
    obtain ⟨hactive', hresolved', hdisjoint'⟩ := listed_of_ends h hends
    refine ⟨fun severity => ?_, hactive', hresolved', hdisjoint'⟩
    rw [countsBySeverity_of_ends hends, h.counts, ← hshown]
    refine if_neg ?_
    rintro ⟨rfl, hpos⟩
    omega

/-- An update of an active warning is counted right exactly when it keeps the severity. -/
theorem consistent_active_iff (h : s.Consistent) (hstored : s.Stored) (hends : ¬ Ends payload)
    (hactive : payload.warning.warningId ∈ s.activeWarningIds) :
    (reduceWarningDelta s payload).Consistent ↔
      s.severityOf payload.warning.warningId = some payload.warning.severity := by
  obtain ⟨old, hold⟩ := hstored _ hactive
  have hshown := shown_of_active h.active_nodup hends hactive
  have hcounts : (reduceWarningDelta s payload).countsBySeverity = s.countsBySeverity := by
    rw [reduceWarningDelta_of_active hends hactive]
  rw [hold] at hshown ⊢
  simp only [Option.some.injEq] at hshown ⊢
  constructor
  · intro h'
    by_contra hne
    have hcount := h'.counts old
    have hold' := hshown old
    rw [hcounts, h.counts] at hcount
    rw [if_pos rfl, if_neg (Ne.symm hne)] at hold'
    omega
  · rintro rfl
    have hlists : (reduceWarningDelta s payload).activeWarningIds = s.activeWarningIds ∧
        (reduceWarningDelta s payload).resolvedWarningIds = s.resolvedWarningIds := by
      rw [reduceWarningDelta_of_active hends hactive]
      exact ⟨rfl, rfl⟩
    refine ⟨fun severity => ?_, ?_, ?_, ?_⟩
    · rw [hcounts, h.counts, Nat.add_right_cancel (hshown severity)]
    · rw [hlists.1]
      exact h.active_nodup
    · rw [hlists.2]
      exact h.resolved_nodup
    · rw [hlists.1, hlists.2]
      exact h.disjoint

/-- An activation keeps the lists apart exactly when its warning has not ended before. -/
theorem consistent_new_iff (h : s.Consistent) (hends : ¬ Ends payload)
    (hinactive : payload.warning.warningId ∉ s.activeWarningIds) :
    (reduceWarningDelta s payload).Consistent ↔
      payload.warning.warningId ∉ s.resolvedWarningIds := by
  have hactive : (reduceWarningDelta s payload).activeWarningIds =
      s.activeWarningIds ++ [payload.warning.warningId] := by
    rw [reduceWarningDelta_of_new hends hinactive]
  have hresolved : (reduceWarningDelta s payload).resolvedWarningIds = s.resolvedWarningIds := by
    rw [reduceWarningDelta_of_new hends hinactive]
  constructor
  · intro h' hmem
    refine h'.disjoint (a := payload.warning.warningId) ?_ ?_
    · rw [hactive]
      exact List.mem_append_right _ (List.mem_singleton_self _)
    · rw [hresolved]
      exact hmem
  · intro hnew
    refine ⟨fun severity => ?_, ?_, ?_, ?_⟩
    · rw [shown_of_new hends hinactive]
      rw [reduceWarningDelta_of_new hends hinactive]
      show Function.update _ _ _ severity = _
      by_cases hseverity : severity = payload.warning.severity
      · subst hseverity
        rw [Function.update_self, h.counts, if_pos rfl]
        rfl
      · rw [Function.update_of_ne hseverity, h.counts, if_neg (Ne.symm hseverity), Nat.add_zero]
    · rw [hactive, ← List.concat_eq_append]
      exact List.Nodup.concat hinactive h.active_nodup
    · rw [hresolved]
      exact h.resolved_nodup
    · rw [hactive, hresolved]
      intro id hid
      rcases List.mem_append.mp hid with hid | hid
      · exact h.disjoint hid
      · rw [List.mem_singleton.mp hid]
        exact hnew

/-- A payload keeps the slice consistent exactly when it fits. -/
theorem consistent_step_iff (h : s.Consistent) (hstored : s.Stored) :
    (reduceWarningDelta s payload).Consistent ↔ s.Fits payload := by
  rw [Fits]
  by_cases hends : Ends payload <;>
    by_cases hactive : payload.warning.warningId ∈ s.activeWarningIds
  · rw [consistent_ends_active_iff h hstored hends hactive]
    simp [hactive]
  · rw [consistent_ends_inactive_iff h hends hactive]
    simp [hactive, hends]
  · rw [consistent_active_iff h hstored hends hactive]
    simp [hactive]
  · rw [consistent_new_iff h hends hactive]
    simp [hactive, hends]

/-- Every active warning stays stored. -/
theorem stored_reduceWarningDelta (hstored : s.Stored) (payload : WarningDelta) :
    (reduceWarningDelta s payload).Stored := by
  intro id hid
  rw [severityOf_reduceWarningDelta]
  by_cases hself : id = payload.warning.warningId
  · subst hself
    exact ⟨_, Function.update_self _ _ _⟩
  · rw [Function.update_of_ne hself]
    refine hstored id ?_
    by_cases hends : Ends payload
    · rw [activeWarningIds_of_ends hends] at hid
      exact (List.mem_filter.mp hid).1
    · by_cases hactive : payload.warning.warningId ∈ s.activeWarningIds
      · rw [reduceWarningDelta_of_active hends hactive] at hid
        exact hid
      · rw [reduceWarningDelta_of_new hends hactive] at hid
        rcases List.mem_append.mp hid with hid | hid
        · exact hid
        · exact absurd (List.mem_singleton.mp hid) hself

/-! ## Whole streams -/

/-- From the empty slice, the counters are those of the active warnings and the lists are
    apart in every state exactly when every payload fits the slice it meets. -/
theorem consistent_iff_fits (payloads : List WarningDelta) :
    AllStates step Consistent {} payloads ↔ AllSteps step Fits {} payloads := by
  obtain ⟨s', hrun⟩ := exec_isSome (fun s payload => ⟨reduceWarningDelta s payload, rfl⟩)
    ({} : NormalizedWarningState) payloads
  refine allStates_iff_allSteps (J := Stored) (fun s payload s' hstored hstep => ?_)
    (fun s payload s' hstored h hstep => ?_) (fun id hid => absurd hid List.not_mem_nil) ?_ hrun
  · obtain rfl := Option.some.inj hstep
    exact stored_reduceWarningDelta hstored payload
  · obtain rfl := Option.some.inj hstep
    exact consistent_step_iff h hstored
  · exact ⟨fun _ => rfl, List.nodup_nil, List.nodup_nil, List.disjoint_nil_left _⟩

/-- A payload about a warning of the stuck-task detector. -/
def stuckDelta (change : WarningChange) (id : String) (severity : WarningSeverity) :
    WarningDelta :=
  { warning :=
      { warningId := id
        warningKey := id
        warningType := "stuck_task"
        severity := severity
        detector := "stuck"
        message := "stuck"
        createdSequence := none
        createdMonotonicNs := 0
        createdAtWall := 0
        lastObservedSequence := none
        lastObservedMonotonicNs := 0
        lastObservedWall := 0 }
    change := change
    sequence := none
    lastSequence := 0 }

/-- Three streams go wrong: an update that escalates, a resolution that is told twice beside
    another warning, and a warning that comes back. -/
theorem not_consistent_streams :
    (∀ s, exec step {}
        [stuckDelta .activated "w-1" .warning, stuckDelta .updated "w-1" .critical] = some s →
      ¬ s.Consistent) ∧
    (∀ s, exec step {}
        [stuckDelta .activated "w-1" .warning, stuckDelta .activated "w-2" .warning,
          stuckDelta .resolved "w-1" .warning, stuckDelta .expired "w-1" .warning] = some s →
      ¬ s.Consistent) ∧
    ∀ s, exec step {}
        [stuckDelta .activated "w-1" .warning, stuckDelta .resolved "w-1" .warning,
          stuckDelta .activated "w-1" .warning] = some s →
      ¬ s.Consistent := by
  refine ⟨?_, ?_, ?_⟩ <;> intro s hrun h <;> obtain rfl := Option.some.inj hrun
  · -- counted as a warning, stored as a critical one
    have hcount := h.counts .critical
    revert hcount
    decide +kernel
  · -- the second warning is active and not counted
    have hcount := h.counts .warning
    revert hcount
    decide +kernel
  · -- the id stands in both lists
    have hboth : "w-1" ∈ ["w-1"] := List.mem_singleton_self _
    exact h.disjoint hboth hboth

end NormalizedWarningState

end AsyncViz.Frontend
