/-
  AsyncViz.Runtime.Warnings.Blocking.Memory

  What the emitter remembers of its groups over whole runs: the table of the deduplicator and
  the window index of the registry hold nothing of groups that are no longer tracked, and no
  more than a fixed number of entries for each that is.

  Two things break this, and no others.  A sweep that expires a group has the deduplicator
  forget it before the expiry is told, and telling it is remembered.  A registry that was
  swapped starts counting again, and a group opened under the id of a tracked one takes a second
  window for the same group.
-/

import AsyncViz.Runtime.Warnings.Blocking.Lifecycle

namespace AsyncViz.Runtime.Warnings.Blocking

open AsyncViz.Lib AsyncViz.Lib.Transition

/-! ## The tables of the registry -/

namespace WarningGroupRegistry

/-- Every group is filed under its own id. -/
def Keyed (r : WarningGroupRegistry) : Prop :=
  ∀ id g, r.active.get? id = some g → g.groupId = id

/-- The windows point to groups that are tracked, and there are no more windows than groups. -/
structure Indexed (r : WarningGroupRegistry) : Prop where
  tracked : ∀ windowId id, r.byWindow.get? windowId = some id → id ∈ r.active
  size_le : r.byWindow.size ≤ r.active.size

variable {r : WarningGroupRegistry} {g : WarningGroup} {id windowId : String}

theorem keyed_new (recentCapacity : Nat) : (new recentCapacity).Keyed := by
  intro id g hget
  cases hget

theorem indexed_new (recentCapacity : Nat) : (new recentCapacity).Indexed where
  tracked windowId id hget := by cases hget
  size_le := Nat.le_refl 0

theorem Keyed.put (h : r.Keyed) (g : WarningGroup) : (r.put g).Keyed := by
  intro id g' hget
  rw [WarningGroupRegistry.put, Dict.get?_set] at hget
  split at hget
  · rename_i hid
    rw [← Option.some.inj hget, hid]
  · exact h id g' hget

theorem Keyed.add (h : r.Keyed) (g : WarningGroup) : (r.add g).Keyed := h.put g

theorem Keyed.finalize (h : r.Keyed) (g : WarningGroup) : (r.finalize g).Keyed := by
  intro id g' hget
  rw [WarningGroupRegistry.finalize, Dict.get?_pop] at hget
  split at hget
  · cases hget
  · exact h id g' hget

/-- The ids of the tracked groups, in order, are the keys they are filed under. -/
theorem Keyed.map_values (h : r.Keyed) :
    r.active.values.map WarningGroup.groupId = r.active.keys := by
  rw [Dict.values, List.map_map]
  refine List.map_congr_left fun p hp => ?_
  exact h p.1 p.2 (Dict.mem_entries_iff.mp hp)

theorem Keyed.mem_of_mem_values (h : r.Keyed) (hg : g ∈ r.active.values) :
    g.groupId ∈ r.active := by
  have hmem : g.groupId ∈ r.active.values.map WarningGroup.groupId := List.mem_map_of_mem hg
  rwa [h.map_values] at hmem

theorem Keyed.mem_of_find (h : r.Keyed) (hfind : r.findByWindowId windowId = some g) :
    g.groupId ∈ r.active := by
  obtain ⟨id, -, hget⟩ := Option.bind_eq_some_iff.mp hfind
  rw [h id g hget]
  exact Dict.mem_of_get?_eq_some hget

theorem keys_put (hmem : g.groupId ∈ r.active) : (r.put g).active.keys = r.active.keys :=
  Dict.keys_set_of_mem g hmem

theorem findByWindowId_eq_none_iff : r.findByWindowId windowId = none ↔
    ∀ id, r.byWindow.get? windowId = some id → id ∉ r.active := by
  rw [findByWindowId, Option.bind_eq_none_iff]
  simp only [Dict.get?_eq_none_iff]

section Congr

/-! What the tables hold depends on the groups by their ids only. -/

variable {r' : WarningGroupRegistry} (hkeys : r'.active.keys = r.active.keys)
include hkeys

theorem mem_congr : id ∈ r'.active ↔ id ∈ r.active := by
  show id ∈ r'.active.keys ↔ id ∈ r.active.keys
  rw [hkeys]

theorem size_congr : r'.active.size = r.active.size := by
  rw [Dict.size_eq_length_keys, Dict.size_eq_length_keys, hkeys]

theorem findByWindowId_congr (hwindow : r'.byWindow = r.byWindow) :
    r'.findByWindowId windowId = none ↔ r.findByWindowId windowId = none := by
  rw [findByWindowId_eq_none_iff, findByWindowId_eq_none_iff, hwindow]
  simp only [mem_congr hkeys]

theorem indexed_congr (hwindow : r'.byWindow = r.byWindow) : r'.Indexed ↔ r.Indexed := by
  constructor
  · rintro ⟨htracked, hle⟩
    rw [hwindow] at htracked hle
    rw [size_congr hkeys] at hle
    exact ⟨fun w id hget => (mem_congr hkeys).mp (htracked w id hget), hle⟩
  · rintro ⟨htracked, hle⟩
    refine ⟨fun w id hget => (mem_congr hkeys).mpr (htracked w id (hwindow ▸ hget)), ?_⟩
    rw [size_congr hkeys, hwindow]
    exact hle

end Congr

/-- Under a key that finds no group there is no entry at all. -/
theorem Indexed.get?_of_find (h : r.Indexed) (hfind : r.findByWindowId windowId = none) :
    r.byWindow.get? windowId = none := by
  cases hget : r.byWindow.get? windowId with
  | none => rfl
  | some id =>
    obtain ⟨g, hg⟩ := Dict.mem_iff_exists_get?.mp (h.tracked windowId id hget)
    rw [findByWindowId, hget, Option.bind_some, hg] at hfind
    cases hfind

theorem Indexed.tracked_add (h : r.Indexed) (g : WarningGroup) :
    ∀ windowId id, (r.add g).byWindow.get? windowId = some id → id ∈ (r.add g).active := by
  intro windowId id hget
  refine (Dict.mem_set_iff _ _ _ _).mpr ?_
  cases hwindow : g.windowId with
  | none =>
    simp only [add, hwindow] at hget
    exact .inr (h.tracked windowId id hget)
  | some own =>
    simp only [add, hwindow, Dict.get?_set] at hget
    split at hget
    · exact .inl (Option.some.inj hget).symm
    · exact .inr (h.tracked windowId id hget)

/-- A group with an id of its own brings no more than one entry. -/
theorem Indexed.add (h : r.Indexed) (hnew : g.groupId ∉ r.active) : (r.add g).Indexed := by
  refine ⟨h.tracked_add g, ?_⟩
  have hactive : (r.add g).active.size = r.active.size + 1 := Dict.size_set_of_not_mem g hnew
  have hwindow : (r.add g).byWindow.size ≤ r.byWindow.size + 1 := by
    unfold WarningGroupRegistry.add
    cases g.windowId with
    | none => exact Nat.le_succ _
    | some windowId => exact Dict.size_set_le _ _ _
  have hle := h.size_le
  omega

/-- A group for a new window is one entry more: there must be one more group, or room. -/
theorem indexed_add_iff (h : r.Indexed) (hwindow : g.windowId = some windowId)
    (hnone : r.byWindow.get? windowId = none) :
    (r.add g).Indexed ↔ g.groupId ∉ r.active ∨ r.byWindow.size < r.active.size := by
  have hsize : (r.add g).byWindow.size = r.byWindow.size + 1 := by
    simp only [WarningGroupRegistry.add, hwindow]
    exact Dict.size_set_of_not_mem _ (Dict.get?_eq_none_iff.mp hnone)
  constructor
  · intro hadd
    by_cases hmem : g.groupId ∈ r.active
    · refine .inr ?_
      have hle := hadd.size_le
      have hactive : (r.add g).active.size = r.active.size := Dict.size_set_of_mem g hmem
      omega
    · exact .inl hmem
  · rintro (hnew | hlt)
    · exact h.add hnew
    · refine ⟨h.tracked_add g, ?_⟩
      have hactive : r.active.size ≤ (r.add g).active.size := Dict.size_le_size_set _ _ _
      omega

end WarningGroupRegistry

/-! ## The table of the deduplicator -/

namespace TransitionDeduplicator

variable (d : TransitionDeduplicator) {key : String × Transition} {groupId : String}

/-- A transition that is told is remembered, and one that is suppressed was told before. -/
theorem mem_checkAndRecord (t : Transition) (ns : Int) :
    key ∈ (d.checkAndRecord groupId t ns).2.lastEmit ↔
      key = (groupId, t) ∨ key ∈ d.lastEmit := by
  unfold checkAndRecord
  dsimp only
  split
  · exact Dict.mem_set_iff _ _ _ _
  · cases hlast : d.lastEmit.get? (groupId, t) with
    | none => exact Dict.mem_set_iff _ _ _ _
    | some last =>
      dsimp only
      split
      · exact Dict.mem_set_iff _ _ _ _
      · refine ⟨.inr, ?_⟩
        rintro (rfl | hmem)
        · exact Dict.mem_of_get?_eq_some hlast
        · exact hmem

theorem mem_forgetGroup :
    key ∈ (d.forgetGroup groupId).lastEmit ↔ key.1 ≠ groupId ∧ key ∈ d.lastEmit := by
  have hpops : ∀ (keys : List (String × Transition)) (table : Dict (String × Transition) Int),
      key ∈ keys.foldl Dict.pop table ↔ key ∉ keys ∧ key ∈ table := by
    intro keys
    induction keys with
    | nil => simp
    | cons k keys ih =>
      intro table
      rw [List.foldl_cons, ih, Dict.mem_pop_iff, List.mem_cons, not_or]
      tauto
  have hfilter : key ∉ d.lastEmit.keys.filter (fun k => k.1 = groupId) ∧ key ∈ d.lastEmit ↔
      key.1 ≠ groupId ∧ key ∈ d.lastEmit := by
    rw [List.mem_filter, decide_eq_true_iff]
    constructor
    · rintro ⟨hnot, hmem⟩
      exact ⟨fun hid => hnot ⟨hmem, hid⟩, hmem⟩
    · rintro ⟨hid, hmem⟩
      exact ⟨fun hboth => hid hboth.2, hmem⟩
  exact (hpops _ _).trans hfilter

end TransitionDeduplicator

/-! ## What holds of the emitter -/

/-- The labels of the transitions. -/
def Transition.all : List Transition := [.opened, .escalated, .active, .recovered, .expired]

/-- The tables of the emitter hold nothing of groups that are not tracked. -/
structure MemoryBounded (e : BlockingWarningEmitter) : Prop where
  told : ∀ key ∈ e.dedup.lastEmit, key.1 ∈ e.registry.active
  told_size_le : e.dedup.lastEmit.size ≤ e.registry.active.size * Transition.all.length
  indexed : e.registry.Indexed

/-- What every call keeps. -/
structure Filed (e : BlockingWarningEmitter) : Prop where
  idle : e.inDispatch = false
  keyed : e.registry.Keyed

variable {e : BlockingWarningEmitter} {g : WarningGroup} {raises : BlockingWarningPayload → Bool}
  {t : Transition} {ns : Int}

theorem Transition.mem_all (t : Transition) : t ∈ Transition.all := by cases t <;> decide

theorem MemoryBounded.of_told (htold : ∀ key ∈ e.dedup.lastEmit, key.1 ∈ e.registry.active)
    (hindexed : e.registry.Indexed) : MemoryBounded e :=
  ⟨htold, Dict.size_le_mul_of_keys Transition.all Transition.mem_all htold, hindexed⟩

namespace BlockingWarningEmitter

/-- The number that an emission leaves behind: it takes the next one unless it is suppressed. -/
def sequenceAfter (e : BlockingWarningEmitter) (g : WarningGroup) (t : Transition) (ns : Int) :
    Nat :=
  if (e.dedup.checkAndRecord g.groupId t ns).1 then e.registry.sequence
  else e.registry.sequence + 1

/-- What an emission does to the tables. -/
theorem emitTransition_eq (hidle : e.inDispatch = false) (raises : BlockingWarningPayload → Bool)
    (g : WarningGroup) (t : Transition) (ns : Int) :
    ∃ backpressure dispatched, (e.emitTransition raises g t ns).2 =
      { e with
        registry := { e.registry with sequence := e.sequenceAfter g t ns }
        dedup := (e.dedup.checkAndRecord g.groupId t ns).2
        backpressure := backpressure
        history := { e.history with dispatched := dispatched } } := by
  unfold emitTransition sequenceAfter
  generalize e.dedup.checkAndRecord g.groupId t ns = check
  obtain ⟨suppressed, dedup⟩ := check
  cases suppressed with
  | true => exact ⟨e.backpressure, e.history.dispatched, rfl⟩
  | false =>
    generalize hacquire : e.backpressure.acquire = acquired
    obtain ⟨accepted, backpressure⟩ := acquired
    cases accepted with
    | true =>
      refine ⟨backpressure.release, e.history.dispatched ++ [buildPayload g t
        (e.registry.sequence + 1)], ?_⟩
      simp [hacquire, WarningGroupRegistry.nextSequence, dispatch, hidle]
    | false =>
      refine ⟨backpressure, e.history.dispatched, ?_⟩
      simp [hacquire, WarningGroupRegistry.nextSequence]

end BlockingWarningEmitter

/-! ## Emissions and groups that change -/

theorem Filed.emit (h : Filed e) (raises : BlockingWarningPayload → Bool) (g : WarningGroup)
    (t : Transition) (ns : Int) : Filed (e.emitTransition raises g t ns).2 := by
  obtain ⟨backpressure, dispatched, heq⟩ := e.emitTransition_eq h.idle raises g t ns
  rw [heq]
  exact ⟨h.idle, h.keyed⟩

theorem Filed.put (h : Filed e) (g : WarningGroup) :
    Filed { e with registry := e.registry.put g } :=
  ⟨h.idle, h.keyed.put g⟩

/-- Telling something of a tracked group changes nothing. -/
theorem memoryBounded_emit_iff (h : Filed e) (hmem : g.groupId ∈ e.registry.active) :
    MemoryBounded (e.emitTransition raises g t ns).2 ↔ MemoryBounded e := by
  obtain ⟨backpressure, dispatched, heq⟩ := e.emitTransition_eq h.idle raises g t ns
  rw [heq]
  constructor
  · intro hafter
    refine .of_told (fun key hkey => hafter.told key ?_) ⟨hafter.indexed.1, hafter.indexed.2⟩
    exact (e.dedup.mem_checkAndRecord t ns).mpr (.inr hkey)
  · intro hbefore
    refine .of_told (fun key hkey => ?_) ⟨hbefore.indexed.1, hbefore.indexed.2⟩
    rcases (e.dedup.mem_checkAndRecord t ns).mp hkey with rfl | hkey
    · exact hmem
    · exact hbefore.told key hkey

/-- A tracked group may change. -/
theorem memoryBounded_put_iff (hmem : g.groupId ∈ e.registry.active) :
    MemoryBounded { e with registry := e.registry.put g } ↔ MemoryBounded e := by
  have hkeys := WarningGroupRegistry.keys_put hmem
  have hsame : ∀ id, id ∈ (e.registry.put g).active ↔ id ∈ e.registry.active := fun _ =>
    WarningGroupRegistry.mem_congr hkeys
  have hindexed : (e.registry.put g).Indexed ↔ e.registry.Indexed :=
    WarningGroupRegistry.indexed_congr hkeys rfl
  constructor
  · intro hafter
    exact .of_told (fun key hkey => (hsame _).mp (hafter.told key hkey))
      (hindexed.mp hafter.indexed)
  · intro hbefore
    exact .of_told (fun key hkey => (hsame _).mpr (hbefore.told key hkey))
      (hindexed.mpr hbefore.indexed)

theorem mem_put_self : g.groupId ∈ (e.registry.put g).active :=
  (Dict.mem_set_iff _ _ _ _).mpr (.inl rfl)

/-! ## Detections -/

theorem Filed.finalizeRecovered (h : Filed e) : Filed (e.finalizeRecovered raises g ns) := by
  unfold BlockingWarningEmitter.finalizeRecovered
  split
  · exact h
  · exact (h.put _).emit _ _ _ _

theorem memoryBounded_finalizeRecovered_iff (h : Filed e) (hmem : g.groupId ∈ e.registry.active) :
    MemoryBounded (e.finalizeRecovered raises g ns) ↔ MemoryBounded e := by
  unfold BlockingWarningEmitter.finalizeRecovered
  split
  · exact Iff.rfl
  · have hmem' : (g.markRecovered ns).groupId ∈ e.registry.active := hmem
    exact (memoryBounded_emit_iff (h.put _) mem_put_self).trans (memoryBounded_put_iff hmem')

theorem Filed.refresh (h : Filed e) (outcome : DetectionOutcome) :
    Filed (e.refresh raises g outcome).2 := by
  unfold BlockingWarningEmitter.refresh
  dsimp only
  split
  · exact (h.put _).emit _ _ _ _
  · exact (h.put _).emit _ _ _ _

theorem memoryBounded_refresh_iff (h : Filed e) (hmem : g.groupId ∈ e.registry.active)
    (outcome : DetectionOutcome) :
    MemoryBounded (e.refresh raises g outcome).2 ↔ MemoryBounded e := by
  have hid : (g.recordObservation outcome.effectiveSeverity outcome.lagNs outcome.actualNs
      outcome.sampleIndex).groupId = g.groupId :=
    WarningGroup.groupId_of_origin (WarningGroup.origin_recordObservation _ _ _ _)
  unfold BlockingWarningEmitter.refresh
  generalize g.recordObservation outcome.effectiveSeverity outcome.lagNs outcome.actualNs
    outcome.sampleIndex = g' at hid ⊢
  have hput := memoryBounded_put_iff (e := e) (g := g') (hid ▸ hmem)
  dsimp only
  split
  · exact (memoryBounded_emit_iff (h.put g') mem_put_self).trans hput
  · exact (memoryBounded_emit_iff (h.put g') mem_put_self).trans hput

theorem Filed.openGroup (h : Filed e) (outcome : DetectionOutcome) (windowKey : String) :
    Filed (e.openGroup outcome windowKey ns).2 :=
  ⟨h.idle, (WarningGroupRegistry.Keyed.add (r := { e.registry with
    sequence := e.registry.sequence + 1 }) h.keyed _).put _⟩

/-- The id of the next group. -/
def BlockingWarningEmitter.groupIdAt (e : BlockingWarningEmitter) (sequence : Nat) : String :=
  BlockingWarningEmitter.warningIdOf e.runtimeId (sequence + 1)

theorem memoryBounded_openGroup_iff (h : MemoryBounded e) {windowKey : String}
    (hfind : e.registry.findByWindowId windowKey = none) (outcome : DetectionOutcome) (ns : Int) :
    MemoryBounded (e.openGroup outcome windowKey ns).2 ↔
      e.groupIdAt e.registry.sequence ∉ e.registry.active ∨
        e.registry.byWindow.size < e.registry.active.size := by
  have hnone := h.indexed.get?_of_find hfind
  let g := BlockingWarningEmitter.newGroup e.runtimeId (e.groupIdAt e.registry.sequence) windowKey
    outcome ns
  let counted : WarningGroupRegistry := { e.registry with sequence := e.registry.sequence + 1 }
  let added := counted.add { g with windowId := some windowKey }
  have hcounted : counted.Indexed := ⟨h.indexed.1, h.indexed.2⟩
  have hopened : (e.openGroup outcome windowKey ns).2.registry = added.put g := rfl
  have hself : g.groupId ∈ added.active := (Dict.mem_set_iff _ _ _ _).mpr (.inl rfl)
  have hput : (added.put g).Indexed ↔ added.Indexed :=
    WarningGroupRegistry.indexed_congr (WarningGroupRegistry.keys_put hself) rfl
  have hadd : added.Indexed ↔ g.groupId ∉ e.registry.active ∨
      e.registry.byWindow.size < e.registry.active.size :=
    WarningGroupRegistry.indexed_add_iff hcounted rfl hnone
  constructor
  · intro hafter
    have hindexed := hafter.indexed
    rw [hopened] at hindexed
    exact hadd.mp (hput.mp hindexed)
  · intro hroom
    refine .of_told (fun key hkey => ?_) (hput.mpr (hadd.mpr hroom))
    have hbefore := h.told key hkey
    exact (Dict.mem_set_iff _ _ _ _).mpr (.inr ((Dict.mem_set_iff _ _ _ _).mpr (.inr hbefore)))

theorem mem_openGroup (outcome : DetectionOutcome) (windowKey : String) :
    (e.openGroup outcome windowKey ns).1.groupId
      ∈ (e.openGroup outcome windowKey ns).2.registry.active :=
  (Dict.mem_set_iff _ _ _ _).mpr (.inl rfl)

/-- A group that is opened is told of. -/
theorem memoryBounded_openAndTell_iff (hfiled : Filed e) (outcome : DetectionOutcome)
    (windowKey : String) :
    MemoryBounded ((e.openGroup outcome windowKey ns).2.emitTransition raises
        (e.openGroup outcome windowKey ns).1 .opened ns).2 ↔
      MemoryBounded (e.openGroup outcome windowKey ns).2 :=
  memoryBounded_emit_iff (hfiled.openGroup outcome windowKey) (mem_openGroup outcome windowKey)

/-- The room there must be for what an outcome opens, if the numbering has come so far. -/
def BlockingWarningEmitter.HasRoom (e : BlockingWarningEmitter) (sequence : Nat)
    (outcome : DetectionOutcome) : Prop :=
  e.registry.findByWindowId (BlockingWarningEmitter.windowKey outcome.windowTransition) = none →
    e.opens outcome = true →
      e.groupIdAt sequence ∉ e.registry.active ∨ e.registry.byWindow.size < e.registry.active.size

theorem hasRoom_congr {e' : BlockingWarningEmitter}
    (hkeys : e'.registry.active.keys = e.registry.active.keys)
    (hwindow : e'.registry.byWindow = e.registry.byWindow) (hruntime : e'.runtimeId = e.runtimeId)
    (hpolicy : e'.policy = e.policy) (hconfiguration : e'.configuration = e.configuration)
    (sequence : Nat) (outcome : DetectionOutcome) :
    e'.HasRoom sequence outcome ↔ e.HasRoom sequence outcome := by
  have hopens : e'.opens outcome = e.opens outcome := by
    unfold BlockingWarningEmitter.opens BlockingWarningEmitter.opensSilently
    rw [hpolicy, hconfiguration]
  unfold BlockingWarningEmitter.HasRoom BlockingWarningEmitter.groupIdAt
  rw [WarningGroupRegistry.findByWindowId_congr hkeys hwindow, hopens, hruntime,
    WarningGroupRegistry.mem_congr hkeys, WarningGroupRegistry.size_congr hkeys, hwindow]

theorem Filed.handle (h : Filed e) (outcome : DetectionOutcome) :
    Filed (e.handle raises outcome).2 := by
  unfold BlockingWarningEmitter.handle
  dsimp only
  cases e.registry.findByWindowId (BlockingWarningEmitter.windowKey outcome.windowTransition) with
  | none =>
    cases (e.policy.evaluate outcome).accept with
    | true => exact (h.openGroup outcome _).emit _ _ _ _
    | false =>
      dsimp only
      split
      · exact h.openGroup outcome _
      · exact h
  | some g =>
    cases (e.policy.evaluate outcome).accept with
    | false => exact h
    | true =>
      dsimp only
      split
      · exact h
      · exact h.refresh outcome

theorem memoryBounded_handle_iff (hfiled : Filed e) (h : MemoryBounded e)
    (outcome : DetectionOutcome) :
    MemoryBounded (e.handle raises outcome).2 ↔ e.HasRoom e.registry.sequence outcome := by
  unfold BlockingWarningEmitter.handle BlockingWarningEmitter.HasRoom
  dsimp only
  cases hfind : e.registry.findByWindowId
    (BlockingWarningEmitter.windowKey outcome.windowTransition) with
  | none =>
    have hopen := memoryBounded_openGroup_iff h hfind outcome outcome.actualNs
    cases haccept : (e.policy.evaluate outcome).accept with
    | true =>
      have hopens : e.opens outcome = true := by simp [BlockingWarningEmitter.opens, haccept]
      refine ((memoryBounded_openAndTell_iff hfiled outcome _).trans hopen).trans ?_
      exact ⟨fun hroom _ _ => hroom, fun hroom => hroom rfl hopens⟩
    | false =>
      dsimp only
      split
      · rename_i hsilent
        have hopens : e.opens outcome = true := by simp [BlockingWarningEmitter.opens, hsilent]
        exact hopen.trans ⟨fun hroom _ _ => hroom, fun hroom => hroom rfl hopens⟩
      · rename_i hsilent
        have hopens : e.opens outcome = false := by
          simp [BlockingWarningEmitter.opens, haccept, hsilent]
        refine iff_of_true h fun _ hopens' => ?_
        rw [hopens] at hopens'
        cases hopens'
  | some g =>
    have hroom : some g = none → e.opens outcome = true →
        e.groupIdAt e.registry.sequence ∉ e.registry.active ∨
          e.registry.byWindow.size < e.registry.active.size := fun hnone => by cases hnone
    cases (e.policy.evaluate outcome).accept with
    | false => exact iff_of_true h hroom
    | true =>
      dsimp only
      split
      · exact iff_of_true h hroom
      · exact iff_of_true ((memoryBounded_refresh_iff hfiled (hfiled.keyed.mem_of_find hfind)
          outcome).mpr h) hroom

/-- Where the numbering stands once the group of the window that the outcome closes has
    recovered: telling the recovery takes a number. -/
def BlockingWarningEmitter.sequenceAfterClose (e : BlockingWarningEmitter)
    (outcome : DetectionOutcome) : Nat :=
  match outcome.windowTransition.closed.bind e.registry.findByWindowId with
  | some g =>
    if g.state = .recovered then e.registry.sequence
    else e.sequenceAfter g .recovered outcome.actualNs
  | none => e.registry.sequence

theorem Filed.recoverClosed (h : Filed e) (outcome : DetectionOutcome) :
    Filed (e.recoverClosed raises outcome) := by
  unfold BlockingWarningEmitter.recoverClosed
  split
  · exact h.finalizeRecovered
  · exact h

theorem MemoryBounded.recoverClosed (h : MemoryBounded e) (hfiled : Filed e)
    (outcome : DetectionOutcome) : MemoryBounded (e.recoverClosed raises outcome) := by
  unfold BlockingWarningEmitter.recoverClosed
  split
  · rename_i g hclosed
    obtain ⟨windowId, -, hfind⟩ := Option.bind_eq_some_iff.mp hclosed
    exact (memoryBounded_finalizeRecovered_iff hfiled (hfiled.keyed.mem_of_find hfind)).mpr h
  · exact h

/-- The close takes a number and changes a group, and nothing else that an outcome looks at to
    open one. -/
theorem hasRoom_recoverClosed_iff (hfiled : Filed e) (outcome : DetectionOutcome) :
    (e.recoverClosed raises outcome).HasRoom (e.recoverClosed raises outcome).registry.sequence
      outcome ↔ e.HasRoom (e.sequenceAfterClose outcome) outcome := by
  unfold BlockingWarningEmitter.recoverClosed BlockingWarningEmitter.sequenceAfterClose
  cases hclosed : outcome.windowTransition.closed.bind e.registry.findByWindowId with
  | none => exact Iff.rfl
  | some g =>
    dsimp only
    unfold BlockingWarningEmitter.finalizeRecovered
    by_cases hstate : g.state = .recovered
    · rw [if_pos hstate, if_pos hstate]
    · rw [if_neg hstate, if_neg hstate]
      obtain ⟨backpressure, dispatched, heq⟩ := BlockingWarningEmitter.emitTransition_eq
        (hfiled.put (g.markRecovered outcome.actualNs)).idle raises
        (g.markRecovered outcome.actualNs) .recovered outcome.actualNs
      dsimp only
      rw [heq]
      obtain ⟨windowId, -, hfind⟩ := Option.bind_eq_some_iff.mp hclosed
      have hmem : g.groupId ∈ e.registry.active := hfiled.keyed.mem_of_find hfind
      refine hasRoom_congr ?_ ?_ ?_ ?_ ?_ _ outcome
      · exact WarningGroupRegistry.keys_put (g := g.markRecovered outcome.actualNs) hmem
      all_goals rfl

theorem Filed.onDetection (h : Filed e) (outcome : DetectionOutcome) :
    Filed (e.onDetection raises outcome).2 := by
  have hlatest : Filed (e.updateLatestNs outcome.actualNs) := ⟨h.idle, h.keyed⟩
  unfold BlockingWarningEmitter.onDetection
  rw [h.idle]
  split
  · exact h
  · exact (hlatest.recoverClosed outcome).handle outcome

theorem memoryBounded_onDetection_iff (hfiled : Filed e) (h : MemoryBounded e)
    (outcome : DetectionOutcome) :
    MemoryBounded (e.onDetection raises outcome).2 ↔
      (e.configuration.enabled = true → e.HasRoom (e.sequenceAfterClose outcome) outcome) := by
  unfold BlockingWarningEmitter.onDetection
  rw [hfiled.idle]
  cases henabled : e.configuration.enabled with
  | false => exact iff_of_true h fun hon => by cases hon
  | true =>
    have hfiled' : Filed (e.updateLatestNs outcome.actualNs) := ⟨hfiled.idle, hfiled.keyed⟩
    have h' : MemoryBounded (e.updateLatestNs outcome.actualNs) :=
      ⟨h.told, h.told_size_le, h.indexed⟩
    have hfiled'' : Filed ((e.updateLatestNs outcome.actualNs).recoverClosed raises outcome) :=
      hfiled'.recoverClosed outcome
    have hhandle : MemoryBounded (((e.updateLatestNs outcome.actualNs).recoverClosed raises
        outcome).handle raises outcome).2 ↔ _ :=
      memoryBounded_handle_iff hfiled'' (h'.recoverClosed hfiled' outcome) outcome
    have hroom : (e.updateLatestNs outcome.actualNs).HasRoom
        ((e.updateLatestNs outcome.actualNs).sequenceAfterClose outcome) outcome ↔
        e.HasRoom (e.sequenceAfterClose outcome) outcome := Iff.rfl
    refine (hhandle.trans (hasRoom_recoverClosed_iff hfiled' outcome)).trans (hroom.trans ?_)
    exact ⟨fun hroom _ => hroom, fun hroom => hroom rfl⟩

/-! ## Captures -/

theorem Filed.onCapture (h : Filed e) (stack : CapturedStack) : Filed (e.onCapture stack).2 := by
  unfold BlockingWarningEmitter.onCapture
  split
  · exact h
  · split
    · exact h
    · exact h.put _

theorem MemoryBounded.onCapture (h : MemoryBounded e) (hfiled : Filed e) (stack : CapturedStack) :
    MemoryBounded (e.onCapture stack).2 := by
  unfold BlockingWarningEmitter.onCapture
  split
  · exact h
  · split
    · exact h
    · rename_i g hwindow
      obtain ⟨windowId, -, hfind⟩ := Option.bind_eq_some_iff.mp hwindow
      have hmem : g.groupId ∈ e.registry.active := hfiled.keyed.mem_of_find hfind
      refine (memoryBounded_put_iff (e := e) ?_).mpr h
      exact hmem

/-! ## Sweeps -/

/-- The sweep takes the group for one that has been recovered for the whole of its time. -/
def WarningGroup.Due (g : WarningGroup) (ttl : Nat) (nowNs : Int) : Prop :=
  g.state = .recovered ∧ g.recoveredNs.getD 0 ≠ 0 ∧ ttl ≤ nowNs - g.recoveredNs.getD 0

/-- The deduplicator remembers the expiry of a group that is gone. -/
def Leaked (e : BlockingWarningEmitter) (id : String) : Prop :=
  (id, Transition.expired) ∈ e.dedup.lastEmit ∧ id ∉ e.registry.active

theorem Leaked.not_memoryBounded {id : String} (h : Leaked e id) : ¬ MemoryBounded e :=
  fun hbounded => h.2 (hbounded.told _ h.1)

theorem expireOne_of_not_due {ttl : Nat} {nowNs : Int} {swept : Nat × BlockingWarningEmitter}
    {snap : WarningGroup} (h : ¬ snap.Due ttl nowNs) :
    BlockingWarningEmitter.expireOne raises ttl nowNs swept snap = swept := by
  unfold BlockingWarningEmitter.expireOne
  dsimp only
  split
  · rfl
  · rename_i hstate
    split
    · rfl
    · rename_i hage
      rw [not_or] at hage
      exact absurd ⟨not_not.mp hstate, hage.1, Int.not_lt.mp hage.2⟩ h

/-- What expiring a tracked group leaves: the table of the deduplicator has its expiry, and the
    groups are those without it. -/
theorem expireOne_of_due (hfiled : Filed e) (raises : BlockingWarningPayload → Bool) {ttl : Nat}
    {nowNs : Int} (count : Nat) {snap live : WarningGroup} (hdue : snap.Due ttl nowNs)
    (hfind : e.registry.findByGroupId snap.groupId = some live) :
    (BlockingWarningEmitter.expireOne raises ttl nowNs (count, e) snap).2.dedup =
        ((e.dedup.forgetGroup live.groupId).checkAndRecord live.groupId .expired nowNs).2 ∧
      (BlockingWarningEmitter.expireOne raises ttl nowNs (count, e) snap).2.registry.active =
        (e.registry.put (live.markExpired nowNs)).active.pop live.groupId := by
  obtain ⟨hstate, hsome, hage⟩ := hdue
  have hskip : ¬ (snap.recoveredNs.getD 0 = 0 ∨ nowNs - snap.recoveredNs.getD 0 < ttl) :=
    not_or.mpr ⟨hsome, Int.not_lt.mpr hage⟩
  unfold BlockingWarningEmitter.expireOne
  dsimp only
  rw [if_neg (not_not.mpr hstate), if_neg hskip, hfind]
  dsimp only
  obtain ⟨backpressure, dispatched, heq⟩ := BlockingWarningEmitter.emitTransition_eq
    (e := { e with
      registry := e.registry.put (live.markExpired nowNs)
      dedup := e.dedup.forgetGroup (live.markExpired nowNs).groupId
      history :=
        { e.history with expired := e.history.expired ++ [live.markExpired nowNs] } })
    hfiled.idle raises (live.markExpired nowNs) .expired nowNs
  rw [heq]
  exact ⟨rfl, rfl⟩

theorem Filed.expireOne {ttl : Nat} {nowNs : Int} {swept : Nat × BlockingWarningEmitter}
    (h : Filed swept.2) (snap : WarningGroup) :
    Filed (BlockingWarningEmitter.expireOne raises ttl nowNs swept snap).2 := by
  obtain ⟨count, e⟩ := swept
  unfold BlockingWarningEmitter.expireOne
  dsimp only at h ⊢
  split
  · exact h
  split
  · exact h
  split
  · exact h
  · rename_i live _
    have hput : Filed { e with
        registry := e.registry.put (live.markExpired nowNs)
        dedup := e.dedup.forgetGroup (live.markExpired nowNs).groupId
        history :=
          { e.history with expired := e.history.expired ++ [live.markExpired nowNs] } } :=
      ⟨h.idle, h.keyed.put _⟩
    have hemit := hput.emit raises (live.markExpired nowNs) .expired nowNs
    exact ⟨hemit.idle, hemit.keyed.finalize _⟩

/-- What has leaked stays, whatever else expires. -/
theorem Leaked.expireOne {ttl : Nat} {nowNs : Int} {swept : Nat × BlockingWarningEmitter}
    {id : String} (h : Leaked swept.2 id) (hfiled : Filed swept.2) (snap : WarningGroup) :
    Leaked (BlockingWarningEmitter.expireOne raises ttl nowNs swept snap).2 id := by
  by_cases hdue : snap.Due ttl nowNs
  · obtain ⟨count, e⟩ := swept
    cases hfind : e.registry.findByGroupId snap.groupId with
    | none =>
      have hsame :
          BlockingWarningEmitter.expireOne raises ttl nowNs (count, e) snap = (count, e) := by
        unfold BlockingWarningEmitter.expireOne
        dsimp only
        rw [hfind]
        split
        · rfl
        split
        · rfl
        · rfl
      rw [hsame]
      exact h
    | some live =>
      obtain ⟨hdedup, hactive⟩ := expireOne_of_due hfiled raises count hdue hfind
      have hlive : live.groupId ∈ e.registry.active := by
        rw [hfiled.keyed _ live hfind]
        exact Dict.mem_of_get?_eq_some hfind
      have hne : id ≠ live.groupId := fun hsame => h.2 (hsame ▸ hlive)
      refine ⟨?_, fun hmem => ?_⟩
      · rw [hdedup, TransitionDeduplicator.mem_checkAndRecord]
        exact .inr ((TransitionDeduplicator.mem_forgetGroup _).mpr ⟨hne, h.1⟩)
      · rw [hactive, Dict.mem_pop_iff] at hmem
        rcases (Dict.mem_set_iff _ _ _ _).mp hmem.2 with hsame | hmem
        · exact hne hsame
        · exact h.2 hmem
  · rw [expireOne_of_not_due hdue]
    exact h

theorem Leaked.sweep {ttl : Nat} {nowNs : Int} {swept : Nat × BlockingWarningEmitter} {id : String}
    (h : Leaked swept.2 id) (hfiled : Filed swept.2) (snaps : List WarningGroup) :
    Leaked (snaps.foldl (BlockingWarningEmitter.expireOne raises ttl nowNs) swept).2 id := by
  induction snaps generalizing swept with
  | nil => exact h
  | cons snap snaps ih => exact ih (h.expireOne hfiled snap) (hfiled.expireOne snap)

/-- A tracked group that is due leaks. -/
theorem leaked_of_due (hfiled : Filed e) (raises : BlockingWarningPayload → Bool) {ttl : Nat}
    {nowNs : Int} (count : Nat) {snap : WarningGroup} (hdue : snap.Due ttl nowNs)
    (hmem : snap.groupId ∈ e.registry.active) :
    Leaked (BlockingWarningEmitter.expireOne raises ttl nowNs (count, e) snap).2 snap.groupId := by
  obtain ⟨live, hfind⟩ := Dict.mem_iff_exists_get?.mp hmem
  obtain ⟨hdedup, hactive⟩ := expireOne_of_due hfiled raises count hdue hfind
  have hid : live.groupId = snap.groupId := hfiled.keyed _ live hfind
  refine ⟨?_, fun hmem => ?_⟩
  · rw [hdedup, TransitionDeduplicator.mem_checkAndRecord, hid]
    exact .inl rfl
  · rw [hactive, Dict.mem_pop_iff, hid] at hmem
    exact hmem.1 rfl

/-- A sweep expires no group: it is switched off, or none is due. -/
def BlockingWarningEmitter.SweepsNone (e : BlockingWarningEmitter) (nowMonotonicNs : Option Int) :
    Prop :=
  e.configuration.expirationTtlNs = 0 ∨ nowMonotonicNs.getD e.latestMonotonicNs ≤ 0 ∨
    ∀ g ∈ e.registry.active.values,
      ¬ g.Due e.configuration.expirationTtlNs (nowMonotonicNs.getD e.latestMonotonicNs)

/-- A sweep that does anything leaks. -/
theorem memoryBounded_sweepExpirations_iff (hfiled : Filed e) (h : MemoryBounded e)
    (nowMonotonicNs : Option Int) :
    MemoryBounded (e.sweepExpirations raises nowMonotonicNs).2 ↔ e.SweepsNone nowMonotonicNs := by
  unfold BlockingWarningEmitter.sweepExpirations BlockingWarningEmitter.SweepsNone
  dsimp only
  generalize nowMonotonicNs.getD e.latestMonotonicNs = nowNs
  generalize e.configuration.expirationTtlNs = ttl
  split
  · rename_i hoff
    exact iff_of_true h (.inl hoff)
  · rename_i hon
    split
    · rename_i hnow
      exact iff_of_true h (.inr (.inl hnow))
    · rename_i hnow
      rw [or_iff_right hon, or_iff_right hnow]
      have hmem : ∀ g ∈ e.registry.active.values, g.groupId ∈ e.registry.active := fun g hg =>
        hfiled.keyed.mem_of_mem_values hg
      revert hmem
      generalize e.registry.active.values = snaps
      intro hmem
      -- Up to the first group that is due nothing changes; what it leaks the rest leaves.
      induction snaps with
      | nil => exact iff_of_true h fun g hg => absurd hg List.not_mem_nil
      | cons snap snaps ih =>
        rw [List.foldl_cons]
        by_cases hdue : snap.Due ttl nowNs
        · have hleaked := leaked_of_due hfiled raises 0 hdue
            (hmem snap List.mem_cons_self)
          refine iff_of_false ?_ fun hnone => hnone snap List.mem_cons_self hdue
          have hfiled' : Filed (BlockingWarningEmitter.expireOne raises ttl nowNs (0, e) snap).2 :=
            Filed.expireOne hfiled snap
          exact (hleaked.sweep hfiled' snaps).not_memoryBounded
        · have hrest := ih fun g hg => hmem g (List.mem_cons_of_mem _ hg)
          rw [expireOne_of_not_due hdue]
          refine hrest.trans ?_
          constructor
          · intro hnone g hg
            rcases List.mem_cons.mp hg with rfl | hg
            · exact hdue
            · exact hnone g hg
          · exact fun hnone g hg => hnone g (List.mem_cons_of_mem _ hg)

theorem Filed.sweepExpirations (h : Filed e) (nowMonotonicNs : Option Int) :
    Filed (e.sweepExpirations raises nowMonotonicNs).2 := by
  unfold BlockingWarningEmitter.sweepExpirations
  dsimp only
  split
  · exact h
  split
  · exact h
  · generalize e.registry.active.values = snaps
    suffices hloop : ∀ swept : Nat × BlockingWarningEmitter, Filed swept.2 →
        Filed (snaps.foldl (BlockingWarningEmitter.expireOne raises e.configuration.expirationTtlNs
          (nowMonotonicNs.getD e.latestMonotonicNs)) swept).2 from hloop (0, e) h
    induction snaps with
    | nil => exact fun _ hswept => hswept
    | cons snap snaps ih => exact fun _ hswept => ih _ (hswept.expireOne snap)

/-! ## Changes of the configuration -/

namespace WarningGroupRegistry

variable {r : WarningGroupRegistry}

/-- Filing groups with ids of their own keeps the tables in order. -/
theorem filed_foldl_add {groups : List WarningGroup} (hkeyed : r.Keyed) (hindexed : r.Indexed)
    (hnodup : (groups.map WarningGroup.groupId).Nodup)
    (hnew : ∀ g ∈ groups, g.groupId ∉ r.active) :
    (groups.foldl add r).Keyed ∧ (groups.foldl add r).Indexed ∧
      ∀ id, id ∈ (groups.foldl add r).active ↔
        id ∈ r.active ∨ id ∈ groups.map WarningGroup.groupId := by
  induction groups generalizing r with
  | nil => exact ⟨hkeyed, hindexed, fun id => (or_iff_left List.not_mem_nil).symm⟩
  | cons g groups ih =>
    rw [List.map_cons, List.nodup_cons] at hnodup
    have hmem : ∀ id, id ∈ (r.add g).active ↔ id = g.groupId ∨ id ∈ r.active := fun id =>
      Dict.mem_set_iff _ _ _ _
    have hnew' : ∀ g' ∈ groups, g'.groupId ∉ (r.add g).active := by
      intro g' hg' hmem'
      rcases (hmem _).mp hmem' with hsame | hmem'
      · exact hnodup.1 (hsame ▸ List.mem_map_of_mem hg')
      · exact hnew g' (List.mem_cons_of_mem _ hg') hmem'
    obtain ⟨hkeyed', hindexed', hids⟩ := ih (hkeyed.add g)
      (hindexed.add (hnew g List.mem_cons_self)) hnodup.2 hnew'
    refine ⟨hkeyed', hindexed', fun id => ?_⟩
    rw [List.foldl_cons, hids, hmem, List.map_cons, List.mem_cons]
    tauto

theorem swapRegistry_eq_of_keyed (h : r.Keyed) (recentCapacity : Nat) :
    BlockingWarningEmitter.swapRegistry r recentCapacity
      = r.active.values.foldl add (new recentCapacity) := by
  refine List.foldl_ext _ _ _ fun swapped snap hsnap => ?_
  obtain ⟨id, hget⟩ := Dict.mem_values_iff.mp hsnap
  have hfind : r.findByGroupId snap.groupId = some snap := by
    rw [findByGroupId, h id snap hget]
    exact hget
  rw [hfind]

/-- The swapped registry tracks the same groups, in order. -/
theorem filed_swapRegistry (hkeyed : r.Keyed) (recentCapacity : Nat) :
    (BlockingWarningEmitter.swapRegistry r recentCapacity).Keyed ∧
      (BlockingWarningEmitter.swapRegistry r recentCapacity).Indexed ∧
      ∀ id, id ∈ (BlockingWarningEmitter.swapRegistry r recentCapacity).active ↔
        id ∈ r.active := by
  rw [swapRegistry_eq_of_keyed hkeyed]
  have hkeys := hkeyed.map_values
  have hnodup : (r.active.values.map WarningGroup.groupId).Nodup := by
    rw [hkeys]
    exact r.active.nodup_keys
  obtain ⟨hkeyed', hindexed', hids⟩ := filed_foldl_add (keyed_new recentCapacity)
    (indexed_new recentCapacity) hnodup fun g _ => Dict.not_mem_empty _
  refine ⟨hkeyed', hindexed', fun id => ?_⟩
  rw [hids, hkeys]
  exact or_iff_right (Dict.not_mem_empty id)

end WarningGroupRegistry

theorem Filed.reconfigure (h : Filed e) (configuration : BlockingWarningConfiguration) :
    Filed (e.reconfigure configuration) := by
  refine ⟨h.idle, ?_⟩
  unfold BlockingWarningEmitter.reconfigure
  dsimp only
  split
  · exact (WarningGroupRegistry.filed_swapRegistry h.keyed _).1
  · exact h.keyed

theorem MemoryBounded.reconfigure (h : MemoryBounded e) (hfiled : Filed e)
    (configuration : BlockingWarningConfiguration) :
    MemoryBounded (e.reconfigure configuration) := by
  have hregistry : (e.reconfigure configuration).registry.Indexed ∧
      ∀ id, id ∈ e.registry.active → id ∈ (e.reconfigure configuration).registry.active := by
    unfold BlockingWarningEmitter.reconfigure
    dsimp only
    split
    · obtain ⟨-, hindexed, hids⟩ := WarningGroupRegistry.filed_swapRegistry hfiled.keyed
        configuration.recentCapacity
      exact ⟨hindexed, fun id => (hids id).mpr⟩
    · exact ⟨h.indexed, fun _ hmem => hmem⟩
  refine .of_told (fun key hkey => hregistry.2 _ (h.told key ?_)) hregistry.1
  -- The deduplicator is kept, or is a new one that remembers nothing.
  unfold BlockingWarningEmitter.reconfigure at hkey
  dsimp only at hkey
  split at hkey
  · exact absurd hkey (Dict.not_mem_empty key)
  · exact hkey

/-! ## Runs -/

namespace World

/-- The call neither opens a group without room for it nor expires one. -/
def KeepsMemory (w : World) : Action → Prop
  | .onDetection outcome _ =>
    w.emitter.configuration.enabled = true →
      w.emitter.HasRoom (w.emitter.sequenceAfterClose outcome) outcome
  | .sweepExpirations nowMonotonicNs _ => w.emitter.SweepsNone nowMonotonicNs
  | _ => True

theorem filed_step {w w' : World} {a : Action} (h : Filed w.emitter) (hstep : step w a = some w') :
    Filed w'.emitter := by
  cases a <;> cases hstep
  case onDetection outcome _ => exact h.onDetection outcome
  case onCapture stack => exact h.onCapture stack
  case sweepExpirations nowMonotonicNs _ => exact h.sweepExpirations nowMonotonicNs
  case reconfigure configuration => exact h.reconfigure configuration

theorem memoryBounded_step_iff {w w' : World} {a : Action} (hfiled : Filed w.emitter)
    (h : MemoryBounded w.emitter) (hstep : step w a = some w') :
    MemoryBounded w'.emitter ↔ KeepsMemory w a := by
  cases a <;> cases hstep
  case onDetection outcome _ => exact memoryBounded_onDetection_iff hfiled h outcome
  case onCapture stack => exact iff_of_true (h.onCapture hfiled stack) trivial
  case sweepExpirations nowMonotonicNs _ =>
    exact memoryBounded_sweepExpirations_iff hfiled h nowMonotonicNs
  case reconfigure configuration => exact iff_of_true (h.reconfigure hfiled configuration) trivial

theorem exists_step (w : World) (a : Action) : ∃ w', step w a = some w' := by
  cases a <;> exact ⟨_, rfl⟩

/-- The emitter's memory is bounded along a run exactly if no call of it expires a group or opens
    one without room. -/
theorem allStates_memoryBounded_iff (runtimeId : String)
    (configuration : BlockingWarningConfiguration) (actions : List Action) :
    AllStates step (fun w => MemoryBounded w.emitter) (start runtimeId configuration) actions ↔
      AllSteps step KeepsMemory (start runtimeId configuration) actions := by
  obtain ⟨w, hrun⟩ := exec_isSome exists_step (start runtimeId configuration) actions
  refine allStates_iff_allSteps (J := fun w => Filed w.emitter) (fun _ _ _ => filed_step)
    (fun _ _ _ => memoryBounded_step_iff) ⟨rfl, ?_⟩ ?_ hrun
  · exact WarningGroupRegistry.keyed_new _
  · exact .of_told (fun key hkey => absurd hkey (Dict.not_mem_empty key))
      (WarningGroupRegistry.indexed_new _)

/-- A window that freezes, closes and expires, under the default configuration. -/
def expiringRun : List Action :=
  [.onDetection ⟨10, 1, 500, .freeze, true, opening "rt:w:1"⟩ fun _ => false,
    .onDetection ⟨20, 2, 0, .none, false, closing "rt:w:1"⟩ fun _ => false,
    .sweepExpirations (some 40000000000) fun _ => false]

theorem not_memoryBounded_expiringRun :
    ¬ AllStates step (fun w => MemoryBounded w.emitter) (start "rt" .default) expiringRun := by
  intro h
  have hlast := (((h.2 _ rfl).2 _ rfl).2 _ rfl).head.told ("bw:rt:1", .expired) (by decide)
  revert hlast
  decide

end World

end AsyncViz.Runtime.Warnings.Blocking
