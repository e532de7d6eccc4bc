/-
  AsyncViz.Runtime.Tasks.Representation

  The redundant parts of a `TaskRegistry` over whole runs: the state and parent
  indexes, the asyncio-id index, the counters, and the lineage fields mirrored onto
  the records.

  * `Indexed` and `Mirrored` hold after every call: the two bucket indexes and the
    counters are exact, and a record shows the child count of the tracker.
  * The asyncio-id index and the child counts are exact as long as the run is
    `Safe` (`represented_iff_safe`): `TaskIndex.remove` drops the entry of an
    asyncio id whoever owns it, and a new record starts without the children that
    an earlier record of its id left behind.
-/

import AsyncViz.Runtime.Lineage.Coherence
import AsyncViz.Runtime.Tasks.Calls
import Mathlib.Data.List.Find

namespace AsyncViz.Runtime.Tasks

open AsyncViz.Lib AsyncViz.Lib.Transition AsyncViz.Runtime.Lineage

/-! ## Exact indexes -/

namespace TaskIndex

variable {κ : Type} [DecidableEq κ] {buckets : Dict κ (Finset String)} {f : String → Option κ}
  {key : κ} {x : String}

/-- The buckets list precisely the ids with each key. -/
def Indexes (buckets : Dict κ (Finset String)) (f : String → Option κ) : Prop :=
  ∀ key id, id ∈ bucket buckets key ↔ f id = some key

theorem Indexes.addTo (h : Indexes buckets f) (hx : f x = none) :
    Indexes (addTo buckets key x) fun id => if id = x then some key else f id := by
  intro key' id
  rw [bucket_addTo]
  dsimp only
  by_cases hid : id = x
  · rw [if_pos hid, Option.some.injEq]
    by_cases hkey : key' = key
    · simp [hkey, hid]
    · have hno : id ∉ bucket buckets key' := by
        rw [h, hid, hx]
        exact (Option.some_ne_none key').symm
      rw [if_neg hkey]
      exact iff_of_false hno (Ne.symm hkey)
  · rw [if_neg hid]
    by_cases hkey : key' = key
    · rw [if_pos hkey, Finset.mem_insert, or_iff_right hid, h, hkey]
    · rw [if_neg hkey, h]

theorem Indexes.discardFrom (h : Indexes buckets f) (hx : f x = some key) :
    Indexes (discardFrom buckets key x) fun id => if id = x then none else f id := by
  intro key' id
  rw [bucket_discardFrom]
  dsimp only
  by_cases hid : id = x
  · rw [if_pos hid]
    refine iff_of_false ?_ (Option.some_ne_none key').symm
    by_cases hkey : key' = key
    · simp [hkey, hid]
    · rw [if_neg hkey, h, hid, hx, Option.some.injEq]
      exact Ne.symm hkey
  · rw [if_neg hid]
    by_cases hkey : key' = key
    · rw [if_pos hkey, Finset.mem_erase, and_iff_right hid, h, hkey]
    · rw [if_neg hkey, h]

theorem Indexes.card_addTo (h : Indexes buckets f) (hx : f x = none) (key' : κ) :
    ((bucket (TaskIndex.addTo buckets key x) key').card : Int) =
      if key' = key then ((bucket buckets key).card : Int) + 1 else (bucket buckets key').card := by
  rw [bucket_addTo]
  split
  · have hno : x ∉ bucket buckets key := by
      rw [h, hx]
      exact (Option.some_ne_none key).symm
    rw [Finset.card_insert_of_notMem hno]
    omega
  · rfl

theorem Indexes.card_discardFrom (h : Indexes buckets f) (hx : f x = some key) (key' : κ) :
    ((bucket (TaskIndex.discardFrom buckets key x) key').card : Int) =
      if key' = key then ((bucket buckets key).card : Int) - 1 else (bucket buckets key').card := by
  rw [bucket_discardFrom]
  split
  · have hcard := Finset.card_erase_add_one ((h key x).mpr hx)
    omega
  · rfl

end TaskIndex

namespace TaskRegistry

/-! ## The property -/

/-- The parent of a registered task. -/
def parentIn (r : TaskRegistry) (id : String) : Option (Option String) :=
  (r.get id).map RuntimeTask.parentTaskId

/-- The asyncio id of a registered task. -/
def asyncioIn (r : TaskRegistry) (id : String) : Option (Option Int) :=
  (r.get id).map RuntimeTask.asyncioTaskId

/-- The mirrored child count of a registered task. -/
def countIn (r : TaskRegistry) (id : String) : Option Nat := (r.get id).map RuntimeTask.childCount

theorem parentIn_of_get {r : TaskRegistry} {id : String} {task : RuntimeTask}
    (h : r.get id = some task) : r.parentIn id = some task.parentTaskId :=
  congrArg (Option.map RuntimeTask.parentTaskId) h

theorem asyncioIn_of_get {r : TaskRegistry} {id : String} {task : RuntimeTask}
    (h : r.get id = some task) : r.asyncioIn id = some task.asyncioTaskId :=
  congrArg (Option.map RuntimeTask.asyncioTaskId) h

theorem countIn_of_get {r : TaskRegistry} {id : String} {task : RuntimeTask}
    (h : r.get id = some task) : r.countIn id = some task.childCount :=
  congrArg (Option.map RuntimeTask.childCount) h

/-- The most recently registered of the registered tasks that carry an asyncio id. -/
def lastCarrying (r : TaskRegistry) (asyncioTaskId : Int) : Option String :=
  r.ids.reverse.find? fun id => r.asyncioIn id = some (some asyncioTaskId)

/-- The registered tasks with the given parent. -/
def childIds (r : TaskRegistry) (parentTaskId : String) : List String :=
  r.ids.filter fun id => r.parentIn id = some (some parentTaskId)

/-- The state and parent indexes and the counters agree with the records. -/
structure Indexed (r : TaskRegistry) : Prop where
  byState : TaskIndex.Indexes r.index.byState r.stateOf
  byState_nonempty : TaskIndex.NoEmptyBucket r.index.byState
  byParent : TaskIndex.Indexes r.index.byParent r.parentIn
  byParent_nonempty : TaskIndex.NoEmptyBucket r.index.byParent
  total_eq : r.metrics.total = r.ids.length
  counts_eq : ∀ state,
    r.metrics.byStateCounts state = (TaskIndex.bucket r.index.byState state).card

/-- An asyncio id resolves to the most recently registered task that carries it. -/
def AsyncioExact (r : TaskRegistry) : Prop :=
  ∀ asyncioTaskId id, r.lastCarrying asyncioTaskId = some id →
    r.index.byAsyncioId.get? asyncioTaskId = some id

/-- The mirrored child counts count the registered children. -/
def ChildCountExact (r : TaskRegistry) : Prop :=
  ∀ id n, r.countIn id = some n → n = (r.childIds id).length

/-- Every redundant part of the registry is exact. -/
structure Represented (r : TaskRegistry) : Prop where
  indexed : r.Indexed
  asyncio : r.AsyncioExact
  childCount : r.ChildCountExact

/-! ## Reading the records after a call -/

section Reads

variable {r r' : TaskRegistry} {task : RuntimeTask} {asked : Option String} {target : TaskState}

theorem Enters.mem_iff (h : Enters r task asked r') {id : String} :
    id ∈ r' ↔ id = task.taskId ∨ id ∈ r := by
  rw [← mem_ids, h.ids_eq, List.mem_append, List.mem_singleton, or_comm]
  rfl

/-- Apart from a restamped child count, the other records are the old ones. -/
theorem Enters.read {β : Type} (h : Enters r task asked r') (f : RuntimeTask → β)
    (hf : ∀ old n, f { old with childCount := n } = f old) (id : String) :
    (r'.get id).map f = if id = task.taskId then some (f task) else (r.get id).map f := by
  rw [h.get_eq]
  split
  · rfl
  · rw [Option.map_map]
    congr 1
    funext old
    show f (if asked = some id then _ else _) = f old
    split
    · exact hf old _
    · rfl

theorem Enters.stateOf_eq (h : Enters r task asked r') (id : String) :
    r'.stateOf id = if id = task.taskId then some task.state else r.stateOf id :=
  h.read RuntimeTask.state (fun _ _ => rfl) id

theorem Enters.parentIn_eq (h : Enters r task asked r') (id : String) :
    r'.parentIn id = if id = task.taskId then some task.parentTaskId else r.parentIn id :=
  h.read RuntimeTask.parentTaskId (fun _ _ => rfl) id

theorem Enters.asyncioIn_eq (h : Enters r task asked r') (id : String) :
    r'.asyncioIn id = if id = task.taskId then some task.asyncioTaskId else r.asyncioIn id :=
  h.read RuntimeTask.asyncioTaskId (fun _ _ => rfl) id

theorem Moves.mem_iff (h : Moves r task target r') {id : String} : id ∈ r' ↔ id ∈ r := by
  rw [← mem_ids, h.ids_eq, mem_ids]

theorem Moves.stateOf_eq (h : Moves r task target r') (id : String) :
    r'.stateOf id = if id = task.taskId then some target else r.stateOf id := by
  split
  · next hid =>
    obtain ⟨moved, hmoved, hstate, -⟩ := h.get_self
    rw [hid, stateOf_of_get hmoved, hstate]
  · next hid => rw [stateOf, stateOf, h.get_eq id hid]

/-- A transition keeps what is not about the state. -/
theorem Moves.read {β : Type} (h : Moves r task target r') (f : RuntimeTask → β)
    (hf : ∀ moved, r'.get task.taskId = some moved → f moved = f task) (id : String) :
    (r'.get id).map f = (r.get id).map f := by
  by_cases hid : id = task.taskId
  · obtain ⟨moved, hmoved, -⟩ := h.get_self
    rw [hid, hmoved, h.found, Option.map_some, Option.map_some, hf moved hmoved]
  · rw [h.get_eq id hid]

theorem Moves.same (h : Moves r task target r') {moved : RuntimeTask}
    (hmoved : r'.get task.taskId = some moved) :
    moved.asyncioTaskId = task.asyncioTaskId ∧ moved.parentTaskId = task.parentTaskId ∧
      moved.childCount = task.childCount := by
  obtain ⟨found, hfound, -, hsame⟩ := h.get_self
  rw [hfound] at hmoved
  rw [← Option.some.inj hmoved]
  exact hsame

theorem Moves.parentIn_eq (h : Moves r task target r') : r'.parentIn = r.parentIn :=
  funext fun id => h.read _ (fun _ hmoved => (h.same hmoved).2.1) id

theorem Moves.asyncioIn_eq (h : Moves r task target r') : r'.asyncioIn = r.asyncioIn :=
  funext fun id => h.read _ (fun _ hmoved => (h.same hmoved).1) id

theorem Moves.countIn_eq (h : Moves r task target r') : r'.countIn = r.countIn :=
  funext fun id => h.read _ (fun _ hmoved => (h.same hmoved).2.2) id

theorem Leaves.mem_iff (h : Leaves r task r') {id : String} :
    id ∈ r' ↔ id ≠ task.taskId ∧ id ∈ r := by
  rw [← mem_ids, h.ids_eq, List.mem_filter, decide_eq_true_eq, and_comm]
  rfl

theorem Leaves.read {β : Type} (h : Leaves r task r') (f : RuntimeTask → β)
    (hf : ∀ old n, f { old with childCount := n } = f old) (id : String) :
    (r'.get id).map f = if id = task.taskId then none else (r.get id).map f := by
  rw [h.get_eq]
  split
  · rfl
  · rw [Option.map_map]
    congr 1
    funext old
    show f (if task.parentTaskId = some id then _ else _) = f old
    split
    · exact hf old _
    · rfl

theorem Leaves.stateOf_eq (h : Leaves r task r') (id : String) :
    r'.stateOf id = if id = task.taskId then none else r.stateOf id :=
  h.read RuntimeTask.state (fun _ _ => rfl) id

theorem Leaves.parentIn_eq (h : Leaves r task r') (id : String) :
    r'.parentIn id = if id = task.taskId then none else r.parentIn id :=
  h.read RuntimeTask.parentTaskId (fun _ _ => rfl) id

theorem Leaves.asyncioIn_eq (h : Leaves r task r') (id : String) :
    r'.asyncioIn id = if id = task.taskId then none else r.asyncioIn id :=
  h.read RuntimeTask.asyncioTaskId (fun _ _ => rfl) id

end Reads

/-! ## The indexes after a call -/

theorem nodup_ids (r : TaskRegistry) : r.ids.Nodup := r.index.byId.nodup_keys

theorem indexed_clear (r : TaskRegistry) : r.clear.Indexed :=
  { byState := fun _ _ => iff_of_false (Finset.notMem_empty _) nofun
    byState_nonempty := fun _ => nofun
    byParent := fun _ _ => iff_of_false (Finset.notMem_empty _) nofun
    byParent_nonempty := fun _ => nofun
    total_eq := rfl
    counts_eq := fun _ => rfl }

theorem Indexed.enters {r r' : TaskRegistry} {task : RuntimeTask} {asked : Option String}
    (h : r.Indexed) (henters : Enters r task asked r') : r'.Indexed := by
  have hnone : r.get task.taskId = none := get_eq_none_iff.mpr henters.fresh
  have hstate : r.stateOf task.taskId = none := congrArg (Option.map _) hnone
  have hparent : r.parentIn task.taskId = none := congrArg (Option.map _) hnone
  refine
    { byState := ?_
      byState_nonempty := ?_
      byParent := ?_
      byParent_nonempty := ?_
      total_eq := ?_
      counts_eq := fun state => ?_ }
  · rw [henters.byState_eq, funext henters.stateOf_eq]
    exact h.byState.addTo hstate
  · rw [henters.byState_eq]
    exact h.byState_nonempty.addTo _ _
  · rw [henters.byParent_eq, funext henters.parentIn_eq]
    exact h.byParent.addTo hparent
  · rw [henters.byParent_eq]
    exact h.byParent_nonempty.addTo _ _
  · rw [henters.total_eq, henters.ids_eq, h.total_eq, List.length_append, List.length_singleton]
    omega
  · rw [henters.counts_eq, henters.byState_eq, h.byState.card_addTo hstate, Function.update_apply,
      h.counts_eq, h.counts_eq]

theorem Indexed.moves {r r' : TaskRegistry} {task : RuntimeTask} {target : TaskState}
    (h : r.Indexed) (hmoves : Moves r task target r') : r'.Indexed := by
  have hstate := stateOf_of_get hmoves.found
  -- `move_state` takes the id out of the old bucket before it puts it into the new one
  have hdrop := h.byState.discardFrom hstate
  have hadd : TaskIndex.Indexes
      (TaskIndex.addTo (TaskIndex.discardFrom r.index.byState task.state task.taskId) target
        task.taskId) _ := hdrop.addTo (if_pos rfl)
  have hsame : (fun id => if id = task.taskId then some target
      else if id = task.taskId then none else r.stateOf id) = r'.stateOf := by
    funext id
    rw [hmoves.stateOf_eq]
    split <;> rfl
  refine
    { byState := ?_
      byState_nonempty := ?_
      byParent := ?_
      byParent_nonempty := ?_
      total_eq := ?_
      counts_eq := fun state => ?_ }
  · rw [hmoves.byState_eq, ← hsame]
    exact hadd
  · rw [hmoves.byState_eq]
    exact (h.byState_nonempty.discardFrom _ _).addTo _ _
  · rw [hmoves.byParent_eq, hmoves.parentIn_eq]
    exact h.byParent
  · rw [hmoves.byParent_eq]
    exact h.byParent_nonempty
  · rw [hmoves.total_eq, hmoves.ids_eq, h.total_eq]
  · rw [hmoves.counts_eq, hmoves.byState_eq, hdrop.card_addTo (if_pos rfl)]
    rw [h.byState.card_discardFrom hstate, h.byState.card_discardFrom hstate]
    simp only [RegistryMetrics.taskTransitioned, RegistryMetrics.bump, Function.update_apply,
      h.counts_eq]
    rfl

theorem Indexed.leaves {r r' : TaskRegistry} {task : RuntimeTask} (h : r.Indexed)
    (hleaves : Leaves r task r') : r'.Indexed := by
  have hstate := stateOf_of_get hleaves.found
  have hparent := parentIn_of_get hleaves.found
  refine
    { byState := ?_
      byState_nonempty := ?_
      byParent := ?_
      byParent_nonempty := ?_
      total_eq := ?_
      counts_eq := fun state => ?_ }
  · rw [hleaves.byState_eq, funext hleaves.stateOf_eq]
    exact h.byState.discardFrom hstate
  · rw [hleaves.byState_eq]
    exact h.byState_nonempty.discardFrom _ _
  · rw [hleaves.byParent_eq, funext hleaves.parentIn_eq]
    exact h.byParent.discardFrom hparent
  · rw [hleaves.byParent_eq]
    exact h.byParent_nonempty.discardFrom _ _
  · have hmem : task.taskId ∈ r.ids := mem_of_get hleaves.found
    -- each id is registered once, so the filter drops exactly one
    have herase : r.ids.filter (· ≠ task.taskId) = r.ids.erase task.taskId := by
      rw [(nodup_ids r).erase_eq_filter]
      refine List.filter_congr fun id _ => ?_
      by_cases hid : id = task.taskId <;> simp [hid]
    have hlen := List.length_erase_add_one hmem
    rw [hleaves.total_eq, hleaves.ids_eq, h.total_eq, herase]
    omega
  · rw [hleaves.counts_eq, hleaves.byState_eq, h.byState.card_discardFrom hstate,
      Function.update_apply, h.counts_eq, h.counts_eq]

/-! ## The lineage mirror -/

/-- What every run keeps of the lineage: the tracker knows the registered tasks and
    their parents, only registered tasks have children in it, and each record shows
    the tracker's child count. -/
structure Mirrored (r : TaskRegistry) : Prop where
  tracked : r.Tracked
  bucketed : r.lineage.Bucketed
  parent_eq : ∀ id parent, r.parentIn id = some parent → r.lineage.parent id = parent
  childless : ∀ id, id ∉ r → r.lineage.children id = ∅
  count_eq : ∀ id n, r.countIn id = some n → n = r.lineage.childCount id

theorem mirrored_empty {r : TaskRegistry} (hindex : r.index = .new)
    (hparent : r.lineage.parentOf = .empty) (hchildren : r.lineage.childrenOf = .empty)
    (hancestors : r.lineage.ancestorsOf = .empty) : r.Mirrored := by
  have hno : ∀ id, r.get id = none := by
    intro id
    rw [get]
    rw [hindex]
    rfl
  have hbuckets : ∀ id, r.lineage.children id = ∅ := by
    intro id
    rw [LineageTracker.children]
    rw [hchildren]
    rfl
  have hchains : ∀ id, r.lineage.ancestors id = [] := by
    intro id
    rw [LineageTracker.ancestors]
    rw [hancestors]
    rfl
  refine
    { tracked := fun id => iff_of_false ?_ (get_eq_none_iff.mp (hno id))
      bucketed := ⟨fun c q hc => ?_, fun c q rest hchain => ?_⟩
      parent_eq := fun id parent h => ?_
      childless := fun id _ => hbuckets id
      count_eq := fun id n h => ?_ }
  · show id ∉ r.lineage.parentOf
    rw [hparent]
    exact Dict.not_mem_empty id
  · rw [hbuckets] at hc
    exact absurd hc (Finset.notMem_empty c)
  · rw [hchains] at hchain
    cases hchain
  · rw [parentIn, hno] at h
    cases h
  · rw [countIn, hno] at h
    cases h

theorem Mirrored.parent_of_mem {r : TaskRegistry} (h : r.Mirrored) {id p : String}
    (hp : r.lineage.parent id = some p) : r.parentIn id = some (some p) := by
  have hmem : id ∈ r := (h.tracked id).mp (LineageTracker.mem_of_parent_eq_some hp)
  obtain ⟨task, htask⟩ := mem_iff_exists_get.mp hmem
  have hread := parentIn_of_get htask
  rw [hread, ← hp, h.parent_eq id _ hread]

theorem Mirrored.enters {r r' : TaskRegistry} {task : RuntimeTask} {asked : Option String}
    (h : r.Mirrored) (henters : Enters r task asked r') : r'.Mirrored := by
  have hnew : task.taskId ∉ r.lineage := fun hmem => henters.fresh ((h.tracked _).mp hmem)
  refine
    { tracked := fun id => ?_
      bucketed := h.bucketed.links hnew henters.links
      parent_eq := fun id parent hread => ?_
      childless := fun id hid => ?_
      count_eq := fun id n hread => ?_ }
  · rw [henters.links.mem_iff, henters.mem_iff, h.tracked id]
  · rw [henters.parentIn_eq] at hread
    rw [henters.links.parent_eq]
    split at hread
    · next hself =>
      rw [if_pos hself]
      exact Option.some.inj hread
    · next hself =>
      rw [if_neg hself]
      exact h.parent_eq id parent hread
  · obtain ⟨hne, hout⟩ := not_or.mp (henters.mem_iff.not.mp hid)
    -- only a registered task is taken as a parent
    have hparent : task.parentTaskId ≠ some id := fun hp => hout (henters.parent_mem id hp)
    rw [henters.links.children_eq, if_neg hparent]
    exact h.childless id hout
  · rw [countIn] at hread
    rw [henters.get_eq] at hread
    split at hread
    · next hself =>
      rw [← Option.some.inj hread, hself]
      exact henters.childCount_eq
    · rw [Option.map_map] at hread
      obtain ⟨old, hold, hcount⟩ := Option.map_eq_some_iff.mp hread
      rw [← hcount, Function.comp_apply]
      split
      · rfl
      · next hasked =>
        -- the bucket of a task that was not asked for has not changed
        have hparent : task.parentTaskId ≠ some id :=
          fun hp => hasked (henters.parent_asked id hp).1
        rw [LineageTracker.childCount]
        rw [henters.links.children_eq, if_neg hparent]
        exact h.count_eq id old.childCount (countIn_of_get hold)

theorem Mirrored.moves {r r' : TaskRegistry} {task : RuntimeTask} {target : TaskState}
    (h : r.Mirrored) (hmoves : Moves r task target r') : r'.Mirrored := by
  refine
    { tracked := fun id => ?_
      bucketed := ?_
      parent_eq := ?_
      childless := fun id hid => ?_
      count_eq := ?_ }
  · rw [hmoves.lineage_eq, hmoves.mem_iff]
    exact h.tracked id
  · rw [hmoves.lineage_eq]
    exact h.bucketed
  · rw [hmoves.lineage_eq, hmoves.parentIn_eq]
    exact h.parent_eq
  · rw [hmoves.lineage_eq]
    exact h.childless id (hmoves.mem_iff.not.mp hid)
  · rw [hmoves.lineage_eq, hmoves.countIn_eq]
    exact h.count_eq

theorem Mirrored.leaves {r r' : TaskRegistry} {task : RuntimeTask} (h : r.Mirrored)
    (hleaves : Leaves r task r') : r'.Mirrored := by
  have hparent : r.lineage.parent task.taskId = task.parentTaskId :=
    h.parent_eq _ _ (parentIn_of_get hleaves.found)
  refine
    { tracked := fun id => ?_
      bucketed := h.bucketed.unlinks hleaves.unlinks
      parent_eq := fun id parent hread => ?_
      childless := fun id hid => ?_
      count_eq := fun id n hread => ?_ }
  · rw [hleaves.unlinks.mem_iff, hleaves.mem_iff, h.tracked id]
  · rw [hleaves.parentIn_eq] at hread
    rw [hleaves.unlinks.parent_eq]
    split at hread
    · cases hread
    · next hother =>
      rw [if_neg hother]
      exact h.parent_eq id parent hread
  · refine Finset.eq_empty_of_forall_notMem fun c hc => ?_
    obtain ⟨hchild, hne, -⟩ := (hleaves.unlinks.mem_children c id).mp hc
    have hout : id ∉ r := fun hmem => hid (hleaves.mem_iff.mpr ⟨hne, hmem⟩)
    rw [h.childless id hout] at hchild
    exact Finset.notMem_empty c hchild
  · rw [countIn] at hread
    rw [hleaves.get_eq] at hread
    split at hread
    · cases hread
    · next hother =>
      rw [Option.map_map] at hread
      obtain ⟨old, hold, hcount⟩ := Option.map_eq_some_iff.mp hread
      rw [← hcount, Function.comp_apply]
      split
      · rfl
      · next hnot =>
        -- only the bucket of the parent has lost a task
        have hsame : r'.lineage.children id = r.lineage.children id := by
          ext c
          rw [hleaves.unlinks.mem_children c id, hparent]
          exact ⟨fun hc => hc.1, fun hc => ⟨hc, hother, fun _ => hnot⟩⟩
        rw [LineageTracker.childCount]
        rw [hsame]
        exact h.count_eq id old.childCount (countIn_of_get hold)

/-! ## The child counts -/

/-- Every registered child of a registered task is in the tracker's bucket of it. -/
def NoStrays (r : TaskRegistry) : Prop :=
  ∀ id ∈ r, ∀ c, r.parentIn c = some (some id) → c ∈ r.lineage.children id

theorem mem_of_parentIn {r : TaskRegistry} {id : String} {parent : Option String}
    (h : r.parentIn id = some parent) : id ∈ r := by
  obtain ⟨task, htask, -⟩ := Option.map_eq_some_iff.mp h
  exact mem_of_get htask

/-- The child counts are exact when no child strays from its parent's bucket. -/
theorem childCountExact_iff {r : TaskRegistry} (h : r.Mirrored) :
    r.ChildCountExact ↔ r.NoStrays := by
  -- the tracker's bucket is a subset of the registered children, and its size is the count
  have hmem : ∀ id c, c ∈ (r.childIds id).toFinset ↔ r.parentIn c = some (some id) := by
    intro id c
    rw [List.mem_toFinset, childIds, List.mem_filter, decide_eq_true_eq]
    exact and_iff_right_of_imp fun hc => mem_of_parentIn hc
  have hcard : ∀ id, (r.childIds id).toFinset.card = (r.childIds id).length := fun id =>
    List.toFinset_card_of_nodup ((nodup_ids r).filter _)
  have hsub : ∀ id, r.lineage.children id ⊆ (r.childIds id).toFinset := by
    intro id c hc
    exact (hmem id c).mpr (h.parent_of_mem (h.bucketed.parent_of_child c id hc))
  have hcount : ∀ id ∈ r, ∃ n, r.countIn id = some n ∧ n = (r.lineage.children id).card := by
    intro id hid
    obtain ⟨task, htask⟩ := mem_iff_exists_get.mp hid
    have hread := countIn_of_get htask
    exact ⟨_, hread, h.count_eq id _ hread⟩
  constructor
  · intro hexact id hid c hc
    obtain ⟨n, hread, hn⟩ := hcount id hid
    have hle : (r.childIds id).toFinset.card ≤ (r.lineage.children id).card := by
      rw [hcard, ← hexact id n hread, hn]
    -- a subset of the same size is the whole set
    rw [Finset.eq_of_subset_of_card_le (hsub id) hle]
    exact (hmem id c).mpr hc
  · intro hstrays id n hread
    have hid : id ∈ r := by
      obtain ⟨task, htask, -⟩ := Option.map_eq_some_iff.mp hread
      exact mem_of_get htask
    have hsame : r.lineage.children id = (r.childIds id).toFinset :=
      Finset.Subset.antisymm (hsub id) fun c hc => hstrays id hid c ((hmem id c).mp hc)
    rw [h.count_eq id n hread, LineageTracker.childCount, hsame, hcard]

/-- A new record has strays exactly when a registered task already names its id. -/
theorem noStrays_enters_iff {r r' : TaskRegistry} {task : RuntimeTask} {asked : Option String}
    (h : r.Mirrored) (hstrays : r.NoStrays) (henters : Enters r task asked r') :
    r'.NoStrays ↔ ∀ c, r.parentIn c ≠ some (some task.taskId) := by
  have hself : task.parentTaskId ≠ some task.taskId :=
    fun hp => henters.fresh (henters.parent_mem _ hp)
  constructor
  · intro hstrays' c hc
    have hne : c ≠ task.taskId := by
      rintro rfl
      exact henters.fresh (mem_of_parentIn hc)
    have hc' : r'.parentIn c = some (some task.taskId) := by
      rw [henters.parentIn_eq, if_neg hne]
      exact hc
    have hbucket := hstrays' task.taskId (henters.mem_iff.mpr (.inl rfl)) c hc'
    -- the bucket of a new id starts empty, whoever names it
    rw [henters.links.children_eq, if_neg hself, h.childless _ henters.fresh] at hbucket
    exact Finset.notMem_empty c hbucket
  · intro hfree id hid c hc
    rw [henters.parentIn_eq] at hc
    rw [henters.links.children_eq]
    split at hc
    · next hcself =>
      rw [if_pos (Option.some.inj hc), hcself]
      exact Finset.mem_insert_self _ _
    · have hne : id ≠ task.taskId := by
        rintro rfl
        exact hfree c hc
      have hold := hstrays id ((henters.mem_iff.mp hid).resolve_left hne) c hc
      split
      · exact Finset.mem_insert_of_mem hold
      · exact hold

theorem NoStrays.moves {r r' : TaskRegistry} {task : RuntimeTask} {target : TaskState}
    (h : r.NoStrays) (hmoves : Moves r task target r') : r'.NoStrays := by
  intro id hid c hc
  rw [hmoves.parentIn_eq] at hc
  rw [hmoves.lineage_eq]
  exact h id (hmoves.mem_iff.mp hid) c hc

theorem NoStrays.leaves {r r' : TaskRegistry} {task : RuntimeTask} (h : r.NoStrays)
    (hleaves : Leaves r task r') : r'.NoStrays := by
  intro id hid c hc
  obtain ⟨hne, hmem⟩ := hleaves.mem_iff.mp hid
  rw [hleaves.parentIn_eq] at hc
  split at hc
  · cases hc
  · next hother =>
    exact (hleaves.unlinks.mem_children c id).mpr
      ⟨h id hmem c hc, hne, fun heq => absurd heq hother⟩

/-! ## The asyncio ids -/

theorem mem_of_asyncioIn {r : TaskRegistry} {id : String} {asyncioTaskId : Option Int}
    (h : r.asyncioIn id = some asyncioTaskId) : id ∈ r := by
  obtain ⟨task, htask, -⟩ := Option.map_eq_some_iff.mp h
  exact mem_of_get htask

theorem lastCarrying_spec {r : TaskRegistry} {a : Int} {id : String}
    (h : r.lastCarrying a = some id) : r.asyncioIn id = some (some a) := by
  simpa using List.find?_some h

theorem lastCarrying_isSome {r : TaskRegistry} {a : Int} {id : String}
    (h : r.asyncioIn id = some (some a)) : ∃ last, r.lastCarrying a = some last := by
  rw [← Option.isSome_iff_exists, lastCarrying, List.find?_isSome]
  exact ⟨id, List.mem_reverse.mpr (mem_of_asyncioIn h), by simp [h]⟩

/-- A new record is the last one that carries its asyncio id. -/
theorem AsyncioExact.enters {r r' : TaskRegistry} {task : RuntimeTask} {asked : Option String}
    (h : r.AsyncioExact) (henters : Enters r task asked r') : r'.AsyncioExact := by
  intro a id hlast
  -- behind the new record the candidates are the old ones
  have hother : (r.ids.reverse.find? fun id => r'.asyncioIn id = some (some a)) =
      r.lastCarrying a := by
    refine List.find?_congr fun c hc => ?_
    have hne : c ≠ task.taskId := by
      rintro rfl
      exact henters.fresh (List.mem_reverse.mp hc)
    rw [henters.asyncioIn_eq, if_neg hne]
  rw [lastCarrying] at hlast
  rw [henters.ids_eq, List.reverse_append, List.reverse_singleton, List.singleton_append,
    List.find?_cons, henters.asyncioIn_eq, if_pos rfl, hother] at hlast
  rw [henters.byAsyncioId_eq]
  cases hasyncio : task.asyncioTaskId with
  | none =>
    simp only [hasyncio, Option.some.injEq, reduceCtorEq, decide_false] at hlast
    exact h a id hlast
  | some b =>
    dsimp only
    rw [Dict.get?_set]
    by_cases hab : a = b
    · simp only [hasyncio, hab, decide_true, Option.some.injEq] at hlast
      rw [if_pos hab, hlast]
    · have hba : ¬ b = a := fun heq => hab heq.symm
      simp only [hasyncio, Option.some.injEq, hba, decide_false] at hlast
      rw [if_neg hab]
      exact h a id hlast

theorem AsyncioExact.moves {r r' : TaskRegistry} {task : RuntimeTask} {target : TaskState}
    (h : r.AsyncioExact) (hmoves : Moves r task target r') : r'.AsyncioExact := by
  intro a id hlast
  rw [lastCarrying] at hlast
  rw [hmoves.ids_eq, hmoves.asyncioIn_eq] at hlast
  rw [hmoves.byAsyncioId_eq]
  exact h a id hlast

/-- `TaskIndex.remove` drops the entry of the asyncio id, so no other registered task
    may carry it. -/
theorem asyncioExact_leaves_iff {r r' : TaskRegistry} {task : RuntimeTask} (h : r.AsyncioExact)
    (hleaves : Leaves r task r') :
    r'.AsyncioExact ↔ ∀ a, r.asyncioIn task.taskId = some (some a) →
      ∀ c, c ≠ task.taskId → r.asyncioIn c ≠ some (some a) := by
  have hread := asyncioIn_of_get hleaves.found
  constructor
  · intro h' a ha c hne hc
    rw [hread] at ha
    have hcarries : r'.asyncioIn c = some (some a) := by
      rw [hleaves.asyncioIn_eq, if_neg hne]
      exact hc
    obtain ⟨last, hlast⟩ := lastCarrying_isSome hcarries
    -- the entry is gone, whoever else carries the id
    have hentry := h' a last hlast
    rw [hleaves.byAsyncioId_eq, Option.some.inj ha] at hentry
    simp at hentry
  · intro halone a id hlast
    have hid := lastCarrying_spec hlast
    rw [hleaves.asyncioIn_eq] at hid
    split at hid
    · cases hid
    · next hne =>
      have hother : task.asyncioTaskId ≠ some a := by
        intro hsame
        rw [hsame] at hread
        exact halone a hread id hne hid
      -- the removed task is not among the candidates
      have hsame : r'.lastCarrying a = r.lastCarrying a := by
        rw [lastCarrying]
        rw [hleaves.ids_eq, ← List.filter_reverse, List.find?_filter]
        refine List.find?_congr fun c _ => ?_
        rw [hleaves.asyncioIn_eq]
        by_cases hc : c = task.taskId
        · rw [hc, hread]
          simp [hother]
        · simp [hc]
      rw [hsame] at hlast
      rw [hleaves.byAsyncioId_eq]
      cases hasyncio : task.asyncioTaskId with
      | none => exact h a id hlast
      | some b =>
        dsimp only
        have hab : a ≠ b := by
          rintro rfl
          exact hother hasyncio
        rw [Dict.get?_pop_of_ne _ hab]
        exact h a id hlast

/-! ## Whole runs -/

/-- The calls that keep the redundant parts exact: no registered task names a new id
    as its parent, and no other registered task carries the asyncio id of a removed one. -/
structure Safe (r : TaskRegistry) (call : Call) : Prop where
  fresh : ∀ id, r.creates call = some id → ∀ c, r.parentIn c ≠ some (some id)
  alone : ∀ id, call = .remove id → ∀ a, r.asyncioIn id = some (some a) →
    ∀ c, c ≠ id → r.asyncioIn c ≠ some (some a)

/-- What every call preserves. -/
structure Kept (r : TaskRegistry) : Prop where
  indexed : r.Indexed
  mirrored : r.Mirrored

theorem kept_initial (maxDepth : Nat) : (initial maxDepth).Kept :=
  ⟨indexed_clear (initial maxDepth), mirrored_empty rfl rfl rfl rfl⟩

/-- The registry after a call without a visible effect. -/
theorem Unchanged.exists_eq {r r' : TaskRegistry} (h : Unchanged r r') :
    ∃ m : RegistryMetrics, m.total = r.metrics.total ∧
      m.byStateCounts = r.metrics.byStateCounts ∧ r' = ⟨r.index, m, r.lineage⟩ := by
  obtain ⟨index, m, lineage⟩ := r'
  obtain ⟨hindex, hlineage, htotal, hcounts⟩ := h
  dsimp only at hindex hlineage htotal hcounts
  exact ⟨m, htotal, hcounts, by rw [hindex, hlineage]⟩

theorem Kept.step {r r' : TaskRegistry} {call : Call} (h : r.Kept) (hstep : step r call = some r') :
    r'.Kept := by
  cases step_changes h.mirrored.tracked hstep with
  | unchanged _ _ hsame =>
    obtain ⟨m, htotal, hcounts, rfl⟩ := hsame.exists_eq
    obtain ⟨hi, hm⟩ := h
    exact ⟨⟨hi.byState, hi.byState_nonempty, hi.byParent, hi.byParent_nonempty,
      htotal.trans hi.total_eq, fun state => (congrFun hcounts state).trans (hi.counts_eq state)⟩,
      ⟨hm.tracked, hm.bucketed, hm.parent_eq, hm.childless, hm.count_eq⟩⟩
  | enters _ henters => exact ⟨h.indexed.enters henters, h.mirrored.enters henters⟩
  | moves _ _ hmoves => exact ⟨h.indexed.moves hmoves, h.mirrored.moves hmoves⟩
  | leaves hleaves => exact ⟨h.indexed.leaves hleaves, h.mirrored.leaves hleaves⟩
  | cleared => exact ⟨indexed_clear r, mirrored_empty rfl rfl rfl rfl⟩

theorem Kept.handleEvent {r : TaskRegistry} (h : r.Kept) (now : ℚ) (event : RuntimeEvent) :
    (r.handleEvent now event).Kept := by
  have hstep : TaskRegistry.step r (.handleEvent now event) = some (r.handleEvent now event) := rfl
  exact h.step hstep

theorem represented_step_iff {r r' : TaskRegistry} {call : Call} (hkept : r.Kept)
    (h : r.Represented) (hstep : step r call = some r') : r'.Represented ↔ r.Safe call := by
  have hkept' := hkept.step hstep
  have hstrays := (childCountExact_iff hkept.mirrored).mp h.childCount
  have hassemble : r'.Represented ↔ r'.AsyncioExact ∧ r'.NoStrays := by
    rw [← childCountExact_iff hkept'.mirrored]
    exact ⟨fun h' => ⟨h'.asyncio, h'.childCount⟩, fun h' => ⟨hkept'.indexed, h'.1, h'.2⟩⟩
  rw [hassemble]
  cases step_changes hkept.mirrored.tracked hstep with
  | unchanged hnone hremove hsame =>
    obtain ⟨m, -, -, rfl⟩ := hsame.exists_eq
    refine iff_of_true ⟨h.asyncio, hstrays⟩ ⟨fun id hid => ?_, fun id hid a ha => ?_⟩
    · rw [hnone] at hid
      cases hid
    · exact absurd (mem_of_asyncioIn ha) (hremove id hid)
  | enters hsome henters =>
    have hiff := noStrays_enters_iff hkept.mirrored hstrays henters
    constructor
    · rintro ⟨-, hstrays'⟩
      refine ⟨fun id hid => ?_, fun id hid => ?_⟩
      · rw [hsome] at hid
        rw [← Option.some.inj hid]
        exact hiff.mp hstrays'
      · rw [hid] at hsome
        cases hsome
    · intro hsafe
      exact ⟨h.asyncio.enters henters, hiff.mpr (hsafe.fresh _ hsome)⟩
  | moves hnone hremove hmoves =>
    refine iff_of_true ⟨h.asyncio.moves hmoves, hstrays.moves hmoves⟩
      ⟨fun id hid => ?_, fun id hid => absurd hid (hremove id)⟩
    rw [hnone] at hid
    cases hid
  | leaves hleaves =>
    have hiff := asyncioExact_leaves_iff h.asyncio hleaves
    constructor
    · rintro ⟨hasyncio, -⟩
      refine ⟨(fun id hid => nomatch hid), fun id hid => ?_⟩
      rw [← Call.remove.inj hid]
      exact hiff.mp hasyncio
    · intro hsafe
      exact ⟨hiff.mpr (hsafe.alone _ rfl), hstrays.leaves hleaves⟩
  | cleared =>
    refine iff_of_true ⟨(fun a id hlast => nomatch hlast), fun id hid => ?_⟩
      ⟨(fun id hid => nomatch hid), (fun id hid => nomatch hid)⟩
    exact absurd hid (Dict.not_mem_empty id)

/-- A raising call is a step as well. -/
theorem step_total (r : TaskRegistry) (call : Call) : ∃ r', step r call = some r' := by
  cases call <;> exact ⟨_, rfl⟩

/-- Every redundant part of the registry is exact in every state of a run exactly when
    every call of the run is safe. -/
theorem represented_iff_safe (maxDepth : Nat) (calls : List Call) :
    AllStates step Represented (initial maxDepth) calls ↔
      AllSteps step Safe (initial maxDepth) calls := by
  obtain ⟨r, hrun⟩ := exec_isSome step_total (initial maxDepth) calls
  have hstart : (initial maxDepth).Represented :=
    ⟨(kept_initial maxDepth).indexed, (fun a id hlast => nomatch hlast),
      (fun id n hread => nomatch hread)⟩
  exact allStates_iff_allSteps (J := Kept) (fun r call r' h hstep => h.step hstep)
    (fun r call r' hkept h hstep => represented_step_iff hkept h hstep)
    (kept_initial maxDepth) hstart hrun

/-- Two tasks share an asyncio id; removing the older one loses the newer. -/
theorem not_represented_after_remove :
    ¬ ∀ (calls : List Call) (r : TaskRegistry),
      exec step (initial defaultMaxDepth) calls = some r → r.Represented := by
  intro hall
  obtain ⟨-, hasyncio, -⟩ := hall
    [.register 0 "a" { asyncioTaskId := some 1 } .created,
      .register 0 "b" { asyncioTaskId := some 1 } .created, .remove "a"] _ rfl
  have hentry := hasyncio 1 "b" (by decide +kernel)
  revert hentry
  decide +kernel

end TaskRegistry

end AsyncViz.Runtime.Tasks
