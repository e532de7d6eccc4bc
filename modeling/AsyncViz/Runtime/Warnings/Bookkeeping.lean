/-
  AsyncViz.Runtime.Warnings.Bookkeeping

  The books of the warning manager over whole runs: one open warning per key, the counters, the
  lookup by id, and what a subscriber gets by folding the deltas.

  A trigger goes by the key and a manual resolution by the id.  A record that is replaced under
  its key is resolved by then and stays under its id only; so an open record is filed under both
  (`Kept`), and each of the four ways to end it finds it in the same place.

  The ids are uuids: that they never repeat is the one thing assumed.
-/

import Mathlib.Data.Finset.Basic
import Mathlib.Data.Finset.Dedup
import AsyncViz.Lib.Transition
import AsyncViz.Runtime.Warnings.Manager

namespace AsyncViz.Runtime.Warnings

open AsyncViz.Lib AsyncViz.Lib.Transition

/-- A record that has not ended. -/
def WarningLifecycle.isOpen (w : WarningLifecycle) : Bool := !w.resolved

namespace RuntimeWarningManager

/-! ## Reads -/

/-- `manager.active_view()`. -/
def activeView (m : RuntimeWarningManager) : List WarningLifecycle :=
  m.lifecycles.values.filter WarningLifecycle.isOpen

/-- `manager.resolved_view()`. -/
def resolvedView (m : RuntimeWarningManager) : List WarningLifecycle :=
  m.lifecycles.values.filter WarningLifecycle.resolved

/-- `manager.find_by_id(warning_id)`. -/
def findById (m : RuntimeWarningManager) (warningId : String) : Option WarningLifecycle :=
  m.byId.get? warningId

/-- The values that `manager.snapshot()` hands to `build_warning_snapshot`. -/
structure SnapshotParts where
  active : List WarningLifecycle
  resolved : List WarningLifecycle
  selfMetrics : WarningSelfMetrics
  lastSequence : Int

/-- `manager.snapshot()`: the sweep comes first.  The count of the snapshots is left out. -/
def snapshot (m : RuntimeWarningManager) (nowMonotonicNs : Int) (nowWall : ℚ) :
    SnapshotParts × RuntimeWarningManager × List WarningDelta :=
  let (m, deltas) := m.sweepExpired nowMonotonicNs nowWall
  (⟨m.activeView, m.resolvedView, m.selfMetrics, m.lastSequence⟩, m, deltas)

/-! ## Runs -/

/-- The manager and every delta it has sent. -/
structure Run where
  manager : RuntimeWarningManager
  deltas : List WarningDelta

namespace Run

/-- The calls, each with what the clock says and the context that the detectors read; between
    them detectors may be registered and unregistered. -/
inductive Action where
  | detectors (detectors : List WarningDetector)
  | applyEvent (ctx : DetectorContext) (event : RuntimeEvent) (sequence : Option Int)
  | evaluate (ctx : DetectorContext) (monotonicNs : Int) (wallSeconds : ℚ)
  | resolveWarning (warningId : String) (sequence : Option Int) (monotonicNs : Int)
      (wallSeconds : ℚ)
  | snapshot (monotonicNs : Int) (wallSeconds : ℚ)

/-- The run goes on with a manager and what it has sent meanwhile. -/
def next (r : Run) (manager : RuntimeWarningManager) (deltas : List WarningDelta) : Run :=
  ⟨manager, r.deltas ++ deltas⟩

def step (r : Run) : Action → Option Run
  | .detectors detectors => some { r with manager := { r.manager with detectors := detectors } }
  | .applyEvent ctx event sequence =>
    let pass := r.manager.applyEvent ctx event sequence
    some (r.next pass.manager pass.deltas)
  | .evaluate ctx monotonicNs wallSeconds =>
    let pass := r.manager.evaluate ctx monotonicNs wallSeconds
    some (r.next pass.manager pass.deltas)
  | .resolveWarning warningId sequence monotonicNs wallSeconds =>
    match r.manager.resolveWarning warningId sequence monotonicNs wallSeconds with
    | some (manager, deltas) => some (r.next manager deltas)
    | none => some r
  | .snapshot monotonicNs wallSeconds =>
    let (_, manager, deltas) := r.manager.snapshot monotonicNs wallSeconds
    some (r.next manager deltas)

/-- A manager that has seen nothing. -/
def start (runtimeId : String) (detectors : List WarningDetector) (expiration : ExpirationPolicy)
    (freshIds : Nat → String) : Run :=
  ⟨.new runtimeId detectors expiration freshIds, []⟩

end Run

/-- What a delta does to the set of warnings that a subscriber takes for active. -/
def fold (ids : Finset String) (delta : WarningDelta) : Finset String :=
  match delta.change with
  | .activated => insert delta.warning.warningId ids
  | .resolved | .expired => ids.erase delta.warning.warningId
  | .updated | .deduplicated => ids

/-- The books agree: one open record per key, every record that was emitted resolved, expired or
    open, every record of the views found by its id, and the deltas folded to the active ids. -/
structure Bookkept (r : Run) : Prop where
  single : ∀ key, r.manager.byId.tally (fun w => w.isOpen && w.warningKey = key) ≤ 1
  counted : r.manager.selfMetrics.warningsEmitted = r.manager.selfMetrics.warningsResolved
    + r.manager.selfMetrics.warningsExpired + r.manager.byId.tally WarningLifecycle.isOpen
  reachable : ∀ w, w ∈ r.manager.activeView ∨ w ∈ r.manager.resolvedView →
    r.manager.findById w.warningId = some w
  folded : r.deltas.foldl fold ∅ = (r.manager.activeView.map WarningLifecycle.warningId).toFinset

/-! ## One record -/

/-- What every operation keeps, with the ids that its subscriber takes for active. -/
structure Kept (m : RuntimeWarningManager) (ids : Finset String) : Prop where
  byKey : ∀ key w, m.lifecycles.get? key = some w →
    w.warningKey = key ∧ m.byId.get? w.warningId = some w
  byId : ∀ id w, m.byId.get? id = some w → w.warningId = id ∧
    (w.isOpen = true → w.expired = false ∧ m.lifecycles.get? w.warningKey = some w)
  fresh : Function.Injective m.freshIds
  issued : ∀ id, id ∈ m.byId → ∃ n < m.issued, id = m.freshIds n
  counted : m.selfMetrics.warningsEmitted = m.selfMetrics.warningsResolved
    + m.selfMetrics.warningsExpired + m.byId.tally WarningLifecycle.isOpen
  active : ∀ id, id ∈ ids ↔ ∃ w, m.byId.get? id = some w ∧ w.isOpen = true

variable {m m' : RuntimeWarningManager} {ids : Finset String} {w w' : WarningLifecycle}

/-- Nothing of the books has moved. -/
structure SameBooks (m m' : RuntimeWarningManager) : Prop where
  lifecycles : m'.lifecycles = m.lifecycles
  byId : m'.byId = m.byId
  freshIds : m'.freshIds = m.freshIds
  issued : m'.issued = m.issued
  emitted : m'.selfMetrics.warningsEmitted = m.selfMetrics.warningsEmitted
  resolved : m'.selfMetrics.warningsResolved = m.selfMetrics.warningsResolved
  expired : m'.selfMetrics.warningsExpired = m.selfMetrics.warningsExpired

theorem Kept.same (h : Kept m ids) (hsame : SameBooks m m') : Kept m' ids := by
  obtain ⟨hlifecycles, hbyId, hfreshIds, hissued, hemitted, hresolved, hexpired⟩ := hsame
  refine ⟨?_, ?_, ?_, ?_, ?_, ?_⟩
  · rw [hlifecycles, hbyId]
    exact h.byKey
  · rw [hlifecycles, hbyId]
    exact h.byId
  · rw [hfreshIds]
    exact h.fresh
  · rw [hbyId, hissued, hfreshIds]
    exact h.issued
  · rw [hemitted, hresolved, hexpired, hbyId]
    exact h.counted
  · rw [hbyId]
    exact h.active

/-- An open record is filed anew under its key and its id: the two dicts still agree. -/
theorem Kept.filed (h : Kept m ids) (hget : m.byId.get? w.warningId = some w)
    (hopen : w.isOpen = true) (hid : w'.warningId = w.warningId)
    (hkey : w'.warningKey = w.warningKey) (hlive : w'.isOpen = true → w'.expired = false) :
    (∀ key v, (m.lifecycles.set w'.warningKey w').get? key = some v →
      v.warningKey = key ∧ (m.byId.set w'.warningId w').get? v.warningId = some v) ∧
    ∀ id v, (m.byId.set w'.warningId w').get? id = some v → v.warningId = id ∧
      (v.isOpen = true → v.expired = false ∧
        (m.lifecycles.set w'.warningKey w').get? v.warningKey = some v) := by
  have hfiled := ((h.byId _ w hget).2 hopen).2
  rw [hid, hkey]
  constructor
  · intro key v hv
    rw [Dict.get?_set] at hv
    split at hv
    · rename_i heq
      cases hv
      refine ⟨hkey.trans heq.symm, ?_⟩
      rw [hid, Dict.get?_set_self]
    · rename_i hne
      obtain ⟨hvkey, hvid⟩ := h.byKey key v hv
      refine ⟨hvkey, ?_⟩
      rw [Dict.get?_set_of_ne _ _ fun hsame => hne ?_]
      · exact hvid
      · rw [hsame, hget] at hvid
        rw [← hvkey, ← Option.some.inj hvid]
  · intro id v hv
    rw [Dict.get?_set] at hv
    split at hv
    · rename_i heq
      cases hv
      refine ⟨hid.trans heq.symm, fun hv' => ⟨hlive hv', ?_⟩⟩
      rw [hkey, Dict.get?_set_self]
    · rename_i hne
      obtain ⟨hvid, hvopen⟩ := h.byId id v hv
      refine ⟨hvid, fun hv' => ⟨(hvopen hv').1, ?_⟩⟩
      have hvfiled := (hvopen hv').2
      rw [Dict.get?_set_of_ne _ _ fun hsame => hne ?_]
      · exact hvfiled
      · rw [hsame, hfiled] at hvfiled
        rw [← hvid, ← Option.some.inj hvfiled]

theorem mem_put_iff (hget : m.byId.get? w.warningId = some w) (hid : w'.warningId = w.warningId)
    (id : String) : id ∈ m.byId.set w'.warningId w' ↔ id ∈ m.byId := by
  rw [hid, Dict.mem_set_iff]
  refine ⟨?_, Or.inr⟩
  rintro (rfl | hmem)
  · exact Dict.mem_of_get?_eq_some hget
  · exact hmem

/-- A trigger for an open record. -/
theorem Kept.put_open (h : Kept m ids) (hget : m.byId.get? w.warningId = some w)
    (hopen : w.isOpen = true) (hid : w'.warningId = w.warningId)
    (hkey : w'.warningKey = w.warningKey) (hopen' : w'.isOpen = true)
    (hlive : w'.expired = w.expired) : Kept (m.put w') ids := by
  have hunexpired := ((h.byId _ w hget).2 hopen).1
  obtain ⟨hbyKey, hbyId⟩ := h.filed hget hopen hid hkey fun _ => hlive.trans hunexpired
  refine ⟨hbyKey, hbyId, h.fresh, fun id hmem => h.issued id ?_, ?_, fun id => ?_⟩
  · exact (mem_put_iff hget hid id).mp hmem
  · have htally := Dict.tally_set_of_get? WarningLifecycle.isOpen w' hget
    rw [hopen, hopen'] at htally
    have hcounted := h.counted
    change _ = _ + (m.byId.set w'.warningId w').tally _
    rw [hid, Nat.add_right_cancel htally]
    exact hcounted
  · change _ ↔ ∃ v, (m.byId.set w'.warningId w').get? id = some v ∧ _
    rw [h.active id, hid, Dict.get?_set]
    split
    · rename_i heq
      rw [heq]
      exact iff_of_true ⟨w, hget, hopen⟩ ⟨w', rfl, hopen'⟩
    · exact Iff.rfl

/-- An open record ends. -/
theorem Kept.put_ended (h : Kept m ids) (hget : m.byId.get? w.warningId = some w)
    (hopen : w.isOpen = true) (hid : w'.warningId = w.warningId)
    (hkey : w'.warningKey = w.warningKey) (hended : w'.isOpen = false)
    (hlifecycles : m'.lifecycles = m.lifecycles.set w'.warningKey w')
    (hbyId : m'.byId = m.byId.set w'.warningId w') (hfreshIds : m'.freshIds = m.freshIds)
    (hissued : m'.issued = m.issued)
    (hemitted : m'.selfMetrics.warningsEmitted = m.selfMetrics.warningsEmitted)
    (hends : m'.selfMetrics.warningsResolved + m'.selfMetrics.warningsExpired
      = m.selfMetrics.warningsResolved + m.selfMetrics.warningsExpired + 1) :
    Kept m' (ids.erase w.warningId) := by
  obtain ⟨hfiled, hfiled'⟩ := h.filed hget hopen hid hkey fun hopen' => by
    rw [hended] at hopen'
    cases hopen'
  rw [← hlifecycles, ← hbyId] at hfiled hfiled'
  refine ⟨hfiled, hfiled', ?_, fun id hmem => ?_, ?_, fun id => ?_⟩
  · rw [hfreshIds]
    exact h.fresh
  · rw [hbyId, mem_put_iff hget hid] at hmem
    rw [hissued, hfreshIds]
    exact h.issued id hmem
  · have htally := Dict.tally_set_of_get? WarningLifecycle.isOpen w' hget
    rw [hopen, hended] at htally
    have hcounted := h.counted
    rw [hemitted, hends, hbyId, hid]
    simp only [Bool.toNat_true, Bool.toNat_false] at htally
    omega
  · rw [Finset.mem_erase, h.active id, hbyId, hid, Dict.get?_set]
    by_cases heq : id = w.warningId
    · rw [if_pos heq]
      refine iff_of_false (fun hmem => hmem.1 heq) ?_
      rintro ⟨v, hv, hvopen⟩
      rw [← Option.some.inj hv, hended] at hvopen
      cases hvopen
    · rw [if_neg heq]
      exact and_iff_right heq

/-- A new record, under a key without an open one. -/
theorem Kept.put_new (h : Kept m ids)
    (hkey : ∀ v, m.lifecycles.get? w.warningKey = some v → v.isOpen = false)
    (hid : w.warningId = m.freshIds m.issued) (hopen : w.isOpen = true)
    (hlive : w.expired = false)
    (hlifecycles : m'.lifecycles = m.lifecycles.set w.warningKey w)
    (hbyId : m'.byId = m.byId.set w.warningId w) (hfreshIds : m'.freshIds = m.freshIds)
    (hissued : m'.issued = m.issued + 1)
    (hemitted : m'.selfMetrics.warningsEmitted = m.selfMetrics.warningsEmitted + 1)
    (hresolved : m'.selfMetrics.warningsResolved = m.selfMetrics.warningsResolved)
    (hexpired : m'.selfMetrics.warningsExpired = m.selfMetrics.warningsExpired) :
    Kept m' (insert w.warningId ids) := by
  have hnew : w.warningId ∉ m.byId := by
    intro hmem
    obtain ⟨n, hn, hsame⟩ := h.issued _ hmem
    rw [hid] at hsame
    exact absurd (h.fresh hsame) (Nat.ne_of_gt hn)
  have hother : ∀ id v, m.byId.get? id = some v → id ≠ w.warningId := by
    rintro id v hv rfl
    exact hnew (Dict.mem_of_get?_eq_some hv)
  refine ⟨fun key v hv => ?_, fun id v hv => ?_, ?_, fun id hmem => ?_, ?_, fun id => ?_⟩
  · rw [hlifecycles, Dict.get?_set] at hv
    rw [hbyId]
    split at hv
    · rename_i heq
      cases hv
      exact ⟨heq.symm, Dict.get?_set_self _ _ _⟩
    · obtain ⟨hvkey, hvid⟩ := h.byKey key v hv
      exact ⟨hvkey, (Dict.get?_set_of_ne _ _ (hother _ v hvid)).trans hvid⟩
  · rw [hbyId, Dict.get?_set] at hv
    rw [hlifecycles]
    split at hv
    · rename_i heq
      cases hv
      exact ⟨heq.symm, fun _ => ⟨hlive, Dict.get?_set_self _ _ _⟩⟩
    · obtain ⟨hvid, hvopen⟩ := h.byId id v hv
      refine ⟨hvid, fun hv' => ⟨(hvopen hv').1, ?_⟩⟩
      have hvfiled := (hvopen hv').2
      rw [Dict.get?_set_of_ne _ _ fun hsame => ?_]
      · exact hvfiled
      · rw [hsame] at hvfiled
        rw [hkey v hvfiled] at hv'
        cases hv'
  · rw [hfreshIds]
    exact h.fresh
  · rw [hbyId, Dict.mem_set_iff] at hmem
    rw [hissued, hfreshIds]
    obtain rfl | hold := hmem
    · exact ⟨m.issued, Nat.lt_succ_self _, hid⟩
    · obtain ⟨n, hn, hsame⟩ := h.issued id hold
      exact ⟨n, Nat.lt_succ_of_lt hn, hsame⟩
  · have htally := Dict.tally_set_of_not_mem WarningLifecycle.isOpen w hnew
    have hcounted := h.counted
    rw [hopen, Bool.toNat_true] at htally
    rw [hemitted, hresolved, hexpired, hbyId]
    omega
  · rw [Finset.mem_insert, h.active id, hbyId, Dict.get?_set]
    by_cases heq : id = w.warningId
    · rw [if_pos heq]
      exact iff_of_true (.inl heq) ⟨w, rfl, hopen⟩
    · rw [if_neg heq]
      exact or_iff_right heq

/-! ## Operations -/

theorem Kept.notify (h : Kept m ids) (w : WarningLifecycle) (change : WarningChange)
    (sequence : Option Int) : Kept (m.notify w change sequence).1 ids :=
  h.same ⟨rfl, rfl, rfl, rfl, rfl, rfl, rfl⟩

/-- A record is replaced only when it is resolved, and refreshed only while it is open. -/
theorem evaluateDedup_isOpen {existing : WarningLifecycle} {sequence : Option Int} :
    (evaluateDedup (some existing) sequence = .activate → existing.isOpen = false) ∧
      (evaluateDedup (some existing) sequence = .refresh → existing.isOpen = true) := by
  simp only [evaluateDedup, WarningLifecycle.isOpen]
  cases existing.resolved with
  | false =>
    refine ⟨fun h => ?_, fun _ => rfl⟩
    split at h
    · split at h <;> cases h
    · cases h
  | true =>
    refine ⟨fun _ => rfl, fun h => ?_⟩
    split at h
    · split at h <;> cases h
    · cases h

/-- `_apply_trigger` keeps the books. -/
theorem Kept.applyTrigger (h : Kept m ids) (t : WarningTrigger) :
    Kept (m.applyTrigger t).1 ((m.applyTrigger t).2.foldl fold ids) := by
  simp only [RuntimeWarningManager.applyTrigger]
  cases hdedup : evaluateDedup (m.lifecycles.get? t.warningKey) t.sequence with
  | suppress => exact h.same ⟨rfl, rfl, rfl, rfl, rfl, rfl, rfl⟩
  | activate =>
    have hkey : ∀ v, m.lifecycles.get? (m.activated t).warningKey = some v → v.isOpen = false := by
      intro v hv
      change m.lifecycles.get? t.warningKey = some v at hv
      rw [hv] at hdedup
      exact evaluateDedup_isOpen.1 hdedup
    exact h.put_new hkey rfl rfl rfl rfl rfl rfl rfl rfl rfl rfl
  | refresh =>
    cases hexisting : m.lifecycles.get? t.warningKey with
    | none => exact h
    | some existing =>
      rw [hexisting] at hdedup
      have hopen := evaluateDedup_isOpen.2 hdedup
      obtain ⟨hkey, hget⟩ := h.byKey _ existing hexisting
      refine Kept.notify (Kept.put_open h hget hopen ?_ ?_ ?_ ?_) _ _ _
      · rfl
      · rfl
      · exact hopen
      · rfl

/-- A loop over operations that keep the books keeps them. -/
theorem Kept.foldl {α : Type _}
    {f : RuntimeWarningManager → α → RuntimeWarningManager × List WarningDelta}
    (hf : ∀ m ids a, Kept m ids → Kept (f m a).1 ((f m a).2.foldl fold ids))
    (items : List α) {deltas : List WarningDelta} (h : Kept m (deltas.foldl fold ids)) :
    Kept (items.foldl (fun acc a => ((f acc.1 a).1, acc.2 ++ (f acc.1 a).2)) (m, deltas)).1
      ((items.foldl (fun acc a => ((f acc.1 a).1, acc.2 ++ (f acc.1 a).2)) (m, deltas)).2.foldl
        fold ids) := by
  induction items generalizing m deltas with
  | nil => exact h
  | cons a items ih =>
    refine ih ?_
    rw [List.foldl_append]
    exact hf m _ a h

theorem Kept.applyTriggers (h : Kept m ids) (triggers : List WarningTrigger) :
    Kept (m.applyTriggers triggers).1 ((m.applyTriggers triggers).2.foldl fold ids) :=
  Kept.foldl (fun _ _ t hm => hm.applyTrigger t) triggers h

/-- What the loops over open records do with one of them. -/
structure Ends (f : RuntimeWarningManager → WarningLifecycle →
    RuntimeWarningManager × List WarningDelta) : Prop where
  kept : ∀ m ids w, Kept m ids → m.byId.get? w.warningId = some w → w.isOpen = true →
    Kept (f m w).1 ((f m w).2.foldl fold ids)
  others : ∀ m (w : WarningLifecycle) id, id ≠ w.warningId →
    (f m w).1.byId.get? id = m.byId.get? id

/-- A loop that ends records keeps the books, for records that are open and have different
    ids when it starts. -/
theorem Kept.foldl_ends {f : RuntimeWarningManager → WarningLifecycle →
    RuntimeWarningManager × List WarningDelta} (hf : Ends f) {ws : List WarningLifecycle}
    (hws : ∀ w ∈ ws, m.byId.get? w.warningId = some w ∧ w.isOpen = true)
    (hids : (ws.map WarningLifecycle.warningId).Nodup) {deltas : List WarningDelta}
    (h : Kept m (deltas.foldl fold ids)) :
    Kept (ws.foldl (fun acc w => ((f acc.1 w).1, acc.2 ++ (f acc.1 w).2)) (m, deltas)).1
      ((ws.foldl (fun acc w => ((f acc.1 w).1, acc.2 ++ (f acc.1 w).2)) (m, deltas)).2.foldl
        fold ids) := by
  induction ws generalizing m deltas with
  | nil => exact h
  | cons w ws ih =>
    rw [List.map_cons, List.nodup_cons] at hids
    obtain ⟨hget, hopen⟩ := hws w List.mem_cons_self
    refine ih (fun v hv => ?_) hids.2 ?_
    · obtain ⟨hvget, hvopen⟩ := hws v (List.mem_cons_of_mem w hv)
      have hne : v.warningId ≠ w.warningId :=
        fun hsame => hids.1 (hsame ▸ List.mem_map_of_mem hv)
      exact ⟨(hf.others m w v.warningId hne).trans hvget, hvopen⟩
    · rw [List.foldl_append]
      exact hf.kept m _ w h hget hopen

/-- A record of the manager is filed under its id. -/
theorem Kept.get?_of_mem (h : Kept m ids) (hw : w ∈ m.lifecycles.values) :
    m.byId.get? w.warningId = some w := by
  obtain ⟨key, hkey⟩ := Dict.mem_values_iff.mp hw
  exact (h.byKey key w hkey).2

/-- The records of the manager have different ids. -/
theorem Kept.nodup_ids (h : Kept m ids) :
    (m.lifecycles.values.map WarningLifecycle.warningId).Nodup := by
  have hkeys : m.lifecycles.values.map WarningLifecycle.warningKey = m.lifecycles.keys := by
    rw [Dict.values, Dict.keys, List.map_map]
    refine List.map_congr_left fun p hp => ?_
    exact (h.byKey p.1 p.2 (Dict.mem_entries_iff.mp hp)).1
  have hnodup : (m.lifecycles.values.map WarningLifecycle.warningKey).Nodup := by
    rw [hkeys]
    exact m.lifecycles.nodup_keys
  refine (List.nodup_map_iff_inj_on hnodup.of_map).mpr fun w hw v hv hsame => ?_
  have hwget := h.get?_of_mem hw
  rw [hsame, h.get?_of_mem hv] at hwget
  exact (Option.some.inj hwget).symm

/-- What holds of the open records among those of the manager. -/
theorem Kept.open_values (h : Kept m ids) {p : WarningLifecycle → Bool}
    (hp : ∀ w, p w = true → w.isOpen = true) :
    (∀ w ∈ m.lifecycles.values.filter p, m.byId.get? w.warningId = some w ∧ w.isOpen = true) ∧
      ((m.lifecycles.values.filter p).map WarningLifecycle.warningId).Nodup := by
  constructor
  · intro w hw
    obtain ⟨hmem, hpw⟩ := List.mem_filter.mp hw
    exact ⟨h.get?_of_mem hmem, hp w hpw⟩
  · exact h.nodup_ids.sublist (List.filter_sublist.map _)

theorem markResolved_ends (w : WarningLifecycle) (sequence : Option Int) (monotonicNs : Int)
    (wallSeconds : ℚ) : (w.markResolved sequence monotonicNs wallSeconds).warningId = w.warningId ∧
      (w.markResolved sequence monotonicNs wallSeconds).warningKey = w.warningKey ∧
      (w.markResolved sequence monotonicNs wallSeconds).isOpen = false := by
  rw [WarningLifecycle.markResolved]
  split
  · rename_i hresolved
    exact ⟨rfl, rfl, by rw [WarningLifecycle.isOpen, hresolved]; rfl⟩
  · exact ⟨rfl, rfl, rfl⟩

theorem markExpired_ends (w : WarningLifecycle) (hlive : w.expired = false) (monotonicNs : Int)
    (wallSeconds : ℚ) : (w.markExpired monotonicNs wallSeconds).warningId = w.warningId ∧
      (w.markExpired monotonicNs wallSeconds).warningKey = w.warningKey ∧
      (w.markExpired monotonicNs wallSeconds).isOpen = false := by
  rw [WarningLifecycle.markExpired, hlive, if_neg Bool.false_ne_true]
  split
  · rename_i hresolved
    exact ⟨rfl, rfl, by rw [WarningLifecycle.isOpen, hresolved]; rfl⟩
  · exact ⟨rfl, rfl, rfl⟩

/-- Auto-resolution ends a record at the manager's sequence. -/
theorem Kept.markResolvedInternal (h : Kept m ids) (hget : m.byId.get? w.warningId = some w)
    (hopen : w.isOpen = true) (sequence : Option Int) (monotonicNs : Int) (wallSeconds : ℚ) :
    Kept (m.markResolvedInternal w sequence monotonicNs wallSeconds).1
      ((m.markResolvedInternal w sequence monotonicNs wallSeconds).2.foldl fold ids) := by
  obtain ⟨hid, hkey, hended⟩ := markResolved_ends w sequence monotonicNs wallSeconds
  change Kept _ (ids.erase (w.markResolved sequence monotonicNs wallSeconds).warningId)
  rw [hid]
  exact h.put_ended hget hopen hid hkey hended rfl rfl rfl rfl rfl (Nat.add_right_comm _ _ _)

theorem ends_autoResolve (monotonicNs : Int) (wallSeconds : ℚ) :
    Ends fun m w => m.markResolvedInternal w (some m.lastSequence) monotonicNs wallSeconds := by
  refine ⟨fun m ids w h hget hopen => h.markResolvedInternal hget hopen _ _ _,
    fun m w id hne => ?_⟩
  have hid := (markResolved_ends w (some m.lastSequence) monotonicNs wallSeconds).1
  change (m.byId.set (w.markResolved _ _ _).warningId _).get? id = _
  rw [hid, Dict.get?_set_of_ne _ _ hne]

/-- What the sweep does with a record. -/
def expire (nowMonotonicNs : Int) (nowWall : ℚ) (m : RuntimeWarningManager)
    (w : WarningLifecycle) : RuntimeWarningManager × List WarningDelta :=
  let w := w.markExpired nowMonotonicNs nowWall
  let m := m.put w
  let m := { m with selfMetrics :=
    { m.selfMetrics with warningsExpired := m.selfMetrics.warningsExpired + 1 } }
  m.notify w .expired (some m.lastSequence)

theorem ends_expire (nowMonotonicNs : Int) (nowWall : ℚ) :
    Ends (expire nowMonotonicNs nowWall) := by
  refine ⟨fun m ids w h hget hopen => ?_, fun m w id hne => ?_⟩
  · have hlive := ((h.byId _ w hget).2 hopen).1
    obtain ⟨hid, hkey, hended⟩ := markExpired_ends w hlive nowMonotonicNs nowWall
    change Kept _ (ids.erase (w.markExpired nowMonotonicNs nowWall).warningId)
    rw [hid]
    exact h.put_ended hget hopen hid hkey hended rfl rfl rfl rfl rfl (Nat.add_assoc _ _ _).symm
  · have hid : (w.markExpired nowMonotonicNs nowWall).warningId = w.warningId := by
      rw [WarningLifecycle.markExpired]
      split
      · rfl
      · split <;> rfl
    change (m.byId.set (w.markExpired _ _).warningId _).get? id = _
    rw [hid, Dict.get?_set_of_ne _ _ hne]

theorem Kept.autoResolve (h : Kept m ids) (d : WarningDetector) (triggers : List WarningTrigger)
    (monotonicNs : Int) (wallSeconds : ℚ) :
    Kept (m.autoResolve d triggers monotonicNs wallSeconds).1
      ((m.autoResolve d triggers monotonicNs wallSeconds).2.foldl fold ids) := by
  rw [RuntimeWarningManager.autoResolve]
  split
  · have hopen : ∀ w : WarningLifecycle, decide (w.detector = d.name ∧ w.resolved = false ∧
        w.warningKey ∉ triggers.map WarningTrigger.warningKey) = true → w.isOpen = true := by
      intro w hw
      rw [WarningLifecycle.isOpen, (of_decide_eq_true hw).2.1]
      rfl
    obtain ⟨hws, hids⟩ := h.open_values hopen
    exact Kept.foldl_ends (ends_autoResolve monotonicNs wallSeconds) hws hids h
  · exact h

theorem Kept.sweepExpired (h : Kept m ids) (nowMonotonicNs : Int) (nowWall : ℚ) :
    Kept (m.sweepExpired nowMonotonicNs nowWall).1
      ((m.sweepExpired nowMonotonicNs nowWall).2.foldl fold ids) := by
  have hopen : ∀ w : WarningLifecycle, m.expiration.isExpired w nowMonotonicNs = true →
      w.isOpen = true := by
    intro w hw
    rw [ExpirationPolicy.isExpired, Bool.and_eq_true] at hw
    exact hw.1
  obtain ⟨hws, hids⟩ := h.open_values hopen
  exact Kept.foldl_ends (ends_expire nowMonotonicNs nowWall) hws hids h

/-- One detector of `apply_event`. -/
theorem Kept.eventPass {pass : Pass} (h : Kept pass.manager (pass.deltas.foldl fold ids))
    (event : RuntimeEvent) (sequence : Option Int) (d : WarningDetector) :
    Kept (eventPass event sequence pass d).manager
      ((eventPass event sequence pass d).deltas.foldl fold ids) := by
  rw [RuntimeWarningManager.eventPass]
  cases (d.evaluateEvent pass.context event sequence).triggers with
  | none => exact h.same ⟨rfl, rfl, rfl, rfl, rfl, rfl, rfl⟩
  | some triggers =>
    have hrecorded : Kept pass.manager.recordEvaluation (pass.deltas.foldl fold ids) :=
      h.same ⟨rfl, rfl, rfl, rfl, rfl, rfl, rfl⟩
    change Kept _ ((pass.deltas ++ _).foldl fold ids)
    rw [List.foldl_append]
    exact hrecorded.applyTriggers triggers

/-- One detector of `evaluate`. -/
theorem Kept.snapshotPass {pass : Pass} (h : Kept pass.manager (pass.deltas.foldl fold ids))
    (monotonicNs : Int) (wallSeconds : ℚ) (d : WarningDetector) :
    Kept (snapshotPass monotonicNs wallSeconds pass d).manager
      ((snapshotPass monotonicNs wallSeconds pass d).deltas.foldl fold ids) := by
  rw [RuntimeWarningManager.snapshotPass]
  cases (d.evaluateSnapshot pass.context pass.manager.lastSequence monotonicNs
      wallSeconds).triggers with
  | none => exact h.same ⟨rfl, rfl, rfl, rfl, rfl, rfl, rfl⟩
  | some triggers =>
    have hrecorded : Kept pass.manager.recordEvaluation (pass.deltas.foldl fold ids) :=
      h.same ⟨rfl, rfl, rfl, rfl, rfl, rfl, rfl⟩
    change Kept _ ((pass.deltas ++ _ ++ _).foldl fold ids)
    rw [List.foldl_append, List.foldl_append]
    exact (hrecorded.applyTriggers triggers).autoResolve d triggers monotonicNs wallSeconds

theorem Kept.passes {f : Pass → WarningDetector → Pass}
    (hf : ∀ pass d, Kept pass.manager (pass.deltas.foldl fold ids) →
      Kept (f pass d).manager ((f pass d).deltas.foldl fold ids))
    (detectors : List WarningDetector) {pass : Pass}
    (h : Kept pass.manager (pass.deltas.foldl fold ids)) :
    Kept (detectors.foldl f pass).manager ((detectors.foldl f pass).deltas.foldl fold ids) := by
  induction detectors generalizing pass with
  | nil => exact h
  | cons d detectors ih => exact ih (hf pass d h)

theorem Kept.applyEvent (h : Kept m ids) (ctx : DetectorContext) (event : RuntimeEvent)
    (sequence : Option Int) : Kept (m.applyEvent ctx event sequence).manager
      ((m.applyEvent ctx event sequence).deltas.foldl fold ids) := by
  have hpasses : Kept
      (m.detectors.foldl (RuntimeWarningManager.eventPass event sequence) ⟨m, ctx, []⟩).manager
      ((m.detectors.foldl (RuntimeWarningManager.eventPass event sequence)
        ⟨m, ctx, []⟩).deltas.foldl fold ids) :=
    Kept.passes (fun pass d hpass => hpass.eventPass event sequence d) m.detectors h
  simp only [RuntimeWarningManager.applyEvent]
  split
  · exact hpasses
  · split
    · exact hpasses.same ⟨rfl, rfl, rfl, rfl, rfl, rfl, rfl⟩
    · exact hpasses

theorem Kept.evaluate (h : Kept m ids) (ctx : DetectorContext) (monotonicNs : Int)
    (wallSeconds : ℚ) : Kept (m.evaluate ctx monotonicNs wallSeconds).manager
      ((m.evaluate ctx monotonicNs wallSeconds).deltas.foldl fold ids) := by
  have hpasses : Kept
      (m.detectors.foldl (RuntimeWarningManager.snapshotPass monotonicNs wallSeconds)
        ⟨m, ctx, []⟩).manager
      ((m.detectors.foldl (RuntimeWarningManager.snapshotPass monotonicNs wallSeconds)
        ⟨m, ctx, []⟩).deltas.foldl fold ids) :=
    Kept.passes (fun pass d hpass => hpass.snapshotPass monotonicNs wallSeconds d) m.detectors h
  change Kept _ ((_ ++ _ : List WarningDelta).foldl fold ids)
  rw [List.foldl_append]
  exact hpasses.sweepExpired monotonicNs wallSeconds

theorem Kept.resolveWarning (h : Kept m ids) {warningId : String} {sequence : Option Int}
    {monotonicNs : Int} {wallSeconds : ℚ} {deltas : List WarningDelta}
    (hresolve : m.resolveWarning warningId sequence monotonicNs wallSeconds = some (m', deltas)) :
    Kept m' (deltas.foldl fold ids) := by
  obtain ⟨w, hget, hresolved, heq⟩ := resolveWarning_eq_some hresolve
  obtain ⟨hid, -⟩ := h.byId warningId w hget
  have hopen : w.isOpen = true := by rw [WarningLifecycle.isOpen, hresolved]; rfl
  have hkept := h.markResolvedInternal (hid.symm ▸ hget) hopen sequence monotonicNs wallSeconds
  rw [heq] at hkept
  exact hkept

/-! ## Whole runs -/

/-- The books agree. -/
theorem Kept.bookkept {r : Run} (h : Kept r.manager (r.deltas.foldl fold ∅)) : Bookkept r := by
  refine ⟨fun key => ?_, h.counted, fun w hw => ?_, ?_⟩
  · refine Dict.tally_le_one _ fun id id' w w' hget hget' hp hp' => ?_
    rw [Bool.and_eq_true, decide_eq_true_iff] at hp hp'
    obtain ⟨hid, hfiled⟩ := h.byId id w hget
    obtain ⟨hid', hfiled'⟩ := h.byId id' w' hget'
    have hsame := (hfiled hp.1).2
    rw [hp.2, ← hp'.2, (hfiled' hp'.1).2] at hsame
    rw [← hid, ← hid', Option.some.inj hsame]
  · have hmem : w ∈ r.manager.lifecycles.values := by
      obtain hactive | hresolved := hw
      · exact List.mem_of_mem_filter hactive
      · exact List.mem_of_mem_filter hresolved
    exact h.get?_of_mem hmem
  · ext id
    rw [h.active, List.mem_toFinset, List.mem_map]
    constructor
    · rintro ⟨w, hget, hopen⟩
      obtain ⟨hid, hfiled⟩ := h.byId id w hget
      refine ⟨w, List.mem_filter.mpr ⟨?_, hopen⟩, hid⟩
      exact Dict.mem_values_iff.mpr ⟨_, (hfiled hopen).2⟩
    · rintro ⟨w, hw, rfl⟩
      obtain ⟨hmem, hopen⟩ := List.mem_filter.mp hw
      exact ⟨w, h.get?_of_mem hmem, hopen⟩

namespace Run

variable {r r' : Run}

theorem kept_step (h : Kept r.manager (r.deltas.foldl fold ∅)) {a : Action}
    (hstep : step r a = some r') : Kept r'.manager (r'.deltas.foldl fold ∅) := by
  cases a with
  | detectors detectors =>
    cases hstep
    exact h.same ⟨rfl, rfl, rfl, rfl, rfl, rfl, rfl⟩
  | applyEvent ctx event sequence =>
    cases hstep
    rw [next, List.foldl_append]
    exact h.applyEvent ctx event sequence
  | evaluate ctx monotonicNs wallSeconds =>
    cases hstep
    rw [next, List.foldl_append]
    exact h.evaluate ctx monotonicNs wallSeconds
  | resolveWarning warningId sequence monotonicNs wallSeconds =>
    simp only [step] at hstep
    split at hstep
    · rename_i manager deltas hresolve
      cases hstep
      rw [next, List.foldl_append]
      exact h.resolveWarning hresolve
    · cases hstep
      exact h
  | snapshot monotonicNs wallSeconds =>
    cases hstep
    rw [next, List.foldl_append]
    exact h.sweepExpired monotonicNs wallSeconds

theorem kept_start (runtimeId : String) (detectors : List WarningDetector)
    (expiration : ExpirationPolicy) {freshIds : Nat → String}
    (hfresh : Function.Injective freshIds) :
    Kept (start runtimeId detectors expiration freshIds).manager ∅ := by
  refine ⟨fun key w hw => ?_, fun id w hw => ?_, hfresh, fun id hid => ?_, rfl, fun id => ?_⟩
  · cases hw
  · cases hw
  · exact absurd hid (Dict.not_mem_empty id)
  · refine iff_of_false (Finset.notMem_empty id) ?_
    rintro ⟨w, hw, -⟩
    cases hw

/-- Through every run the books agree. -/
theorem allStates_bookkept (runtimeId : String) (detectors : List WarningDetector)
    (expiration : ExpirationPolicy) {freshIds : Nat → String}
    (hfresh : Function.Injective freshIds) (acts : List Action) :
    AllStates step Bookkept (start runtimeId detectors expiration freshIds) acts :=
  (allStates_of_allSteps (I := fun r => Kept r.manager (r.deltas.foldl fold ∅))
    (fun _ _ _ h _ hstep => kept_step h hstep)
    (kept_start runtimeId detectors expiration hfresh) allSteps_true).mono fun _ h => h.bookkept

/-- A detector that fires on every event, and one that fires on every evaluation until ten
    nanoseconds have passed. -/
def firing : List WarningDetector :=
  [{ name := "slow"
     snapshotDriven := false
     evaluateEvent := fun ctx _ sequence =>
       ⟨some [⟨"slow", "slow:1", .warning, "slow task", "slow", sequence, 0, 0, [], none, .empty⟩],
         ctx.aggregator⟩
     evaluateSnapshot := fun ctx _ _ _ => ⟨some [], ctx.aggregator⟩ },
    { name := "busy"
      snapshotDriven := true
      evaluateEvent := fun ctx _ _ => ⟨some [], ctx.aggregator⟩
      evaluateSnapshot := fun ctx sequence monotonicNs wallSeconds =>
        ⟨some (if monotonicNs ≤ 10 then
          [⟨"busy", "busy:all", .error, "busy loop", "busy", some sequence, monotonicNs,
            wallSeconds, [], none, .empty⟩] else []), ctx.aggregator⟩ }]

/-- The event's warning is refreshed, resolved and raised again, the other one resolved when it
    no longer fires; at last a snapshot lets the first expire. -/
def fourEnds : List Action :=
  [.applyEvent ⟨.new, none⟩ ⟨"e-1", 0, 0, 0, "", "runtime", 1, .other "tick" []⟩ (some 1),
    .applyEvent ⟨.new, none⟩ ⟨"e-2", 0, 0, 0, "", "runtime", 1, .other "tick" []⟩ (some 2),
    .evaluate ⟨.new, none⟩ 5 0, .resolveWarning "" (some 2) 6 0,
    .applyEvent ⟨.new, none⟩ ⟨"e-3", 0, 0, 0, "", "runtime", 1, .other "tick" []⟩ (some 3),
    .evaluate ⟨.new, none⟩ 20 0, .snapshot 60000000000 60]

theorem allStates_bookkept_fourEnds :
    AllStates step Bookkept (start "rt" firing {} fun n => String.ofList (List.replicate n 'f'))
      fourEnds := by
  refine allStates_bookkept "rt" firing {} (fun n n' hsame => ?_) fourEnds
  have hlist := congrArg String.toList hsame
  simpa using congrArg List.length hlist

end Run

end RuntimeWarningManager

end AsyncViz.Runtime.Warnings
