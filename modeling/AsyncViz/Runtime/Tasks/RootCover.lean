/-
  AsyncViz.Runtime.Tasks.RootCover

  The root listing of a `TaskRegistry` over whole runs: does every registered task
  show up exactly once, as a root or below one root?

  `parent_of` never contains a cycle.  A task whose parent was removed keeps the
  parent's id, and `roots_in` lists the tasks without a parent only, so it is lost
  from the listing: the cover holds in a run exactly when every removed task is
  without children (`covered_iff_rooted`).
-/

import AsyncViz.Runtime.Lineage.Roots
import AsyncViz.Runtime.Tasks.Representation

namespace AsyncViz.Runtime.Tasks

open AsyncViz.Lib AsyncViz.Lib.Forest AsyncViz.Lib.Transition AsyncViz.Runtime.Lineage Relation

namespace TaskRegistry

/-! ## The property -/

/-- The ids of `get_root_tasks()`. -/
def rootIds (r : TaskRegistry) : List String := r.getRootTasks.map RuntimeTask.taskId

/-- The ids of `get_descendants(task_id)`. -/
def descendantIds (r : TaskRegistry) (taskId : String) : List String :=
  (r.getDescendants taskId).map RuntimeTask.taskId

/-- A task is reached once: it is a root that is below none, or it is below exactly
    one root. -/
def ReachedOnce (r : TaskRegistry) (id : String) : Prop :=
  (id ∈ r.rootIds ∧ ∀ root ∈ r.rootIds, id ∉ r.descendantIds root) ∨
    (id ∉ r.rootIds ∧ ∃! root, root ∈ r.rootIds ∧ id ∈ r.descendantIds root)

/-- The roots with their descendants list every registered task once, and no task is
    its own ancestor. -/
structure Covered (r : TaskRegistry) : Prop where
  nodup_roots : r.rootIds.Nodup
  nodup_descendants : ∀ id, (r.descendantIds id).Nodup
  reached : ∀ id ∈ r, r.ReachedOnce id
  acyclic : ∀ id, ¬ TransGen (IsParent r.lineage.parent) id id

/-! ## The cover as a property of the links -/

/-- A listing of registered ids comes back unchanged. -/
theorem map_taskId_filterMap_get (r : TaskRegistry) (l : List String) (h : ∀ id ∈ l, id ∈ r) :
    (l.filterMap r.get).map RuntimeTask.taskId = l := by
  induction l with
  | nil => rfl
  | cons id l ih =>
    obtain ⟨task, htask⟩ := mem_iff_exists_get.mp (h id List.mem_cons_self)
    rw [List.filterMap_cons_some htask, List.map_cons, r.index.keyed htask,
      ih fun id' hid' => h id' (List.mem_cons_of_mem id hid')]

/-- Every parent is tracked and has its children in its bucket. -/
def Linked (r : TaskRegistry) : Prop :=
  ∀ c p, r.lineage.parent c = some p → c ∈ r.lineage.children p ∧ p ∈ r

section Cover

variable {r : TaskRegistry}

theorem rootIds_eq (h : r.Mirrored) : r.rootIds = r.lineage.listRoots :=
  map_taskId_filterMap_get r _ fun id hid =>
    (h.tracked id).mp (LineageTracker.mem_listRoots_iff.mp hid).1

theorem mem_rootIds_iff (h : r.Mirrored) {id : String} :
    id ∈ r.rootIds ↔ id ∈ r ∧ r.lineage.parent id = none := by
  rw [rootIds_eq h, LineageTracker.mem_listRoots_iff, h.tracked]

/-- A child in a bucket is registered under that parent. -/
theorem isParent_of_isChild (h : r.Mirrored) {p c : String} (hc : r.lineage.IsChild p c) :
    IsParent r.lineage.parent p c := h.bucketed.parent_of_child c p hc

theorem descendantIds_eq (h : r.Mirrored) (id : String) :
    r.descendantIds id = r.lineage.descendants id := by
  refine map_taskId_filterMap_get r _ fun c hc => ?_
  obtain ⟨hne, hpath⟩ := LineageTracker.mem_descendants_iff.mp hc
  rcases ReflTransGen.cases_tail hpath with rfl | ⟨p, -, hlast⟩
  · exact absurd rfl hne
  · exact (h.tracked c).mp (LineageTracker.mem_of_parent_eq_some (isParent_of_isChild h hlast))

theorem mem_descendantIds_iff (h : r.Mirrored) {root id : String} :
    id ∈ r.descendantIds root ↔ id ≠ root ∧ ReflTransGen r.lineage.IsChild root id := by
  rw [descendantIds_eq h, LineageTracker.mem_descendants_iff]

/-- In a grounded registry the cover comes down to the links. -/
theorem covered_iff_linked (h : r.Mirrored) (hgrounded : Grounded r.lineage.parent) :
    r.Covered ↔ r.Linked := by
  -- what is below a task has a parent
  have hnotRoot : ∀ root id, id ∈ r.descendantIds root → id ∉ r.rootIds := by
    intro root id hid hroot
    obtain ⟨hne, hpath⟩ := (mem_descendantIds_iff h).mp hid
    rcases ReflTransGen.cases_tail hpath with rfl | ⟨p, -, hlast⟩
    · exact hne rfl
    · have hparent : r.lineage.parent id = some p := isParent_of_isChild h hlast
      rw [((mem_rootIds_iff h).mp hroot).2] at hparent
      cases hparent
  constructor
  · intro hcovered c p hp
    have hc : c ∈ r := (h.tracked c).mp (LineageTracker.mem_of_parent_eq_some hp)
    rcases hcovered.reached c hc with ⟨hroot, -⟩ | ⟨-, root, ⟨hroot, hbelow⟩, -⟩
    · rw [((mem_rootIds_iff h).mp hroot).2] at hp
      cases hp
    · -- the last step of the path from the root leads from the parent to the child
      obtain ⟨hne, hpath⟩ := (mem_descendantIds_iff h).mp hbelow
      rcases ReflTransGen.cases_tail hpath with rfl | ⟨q, hprefix, hlast⟩
      · exact absurd rfl hne
      · have hq : r.lineage.parent c = some q := isParent_of_isChild h hlast
        rw [hp] at hq
        obtain rfl := Option.some.inj hq
        refine ⟨hlast, ?_⟩
        rcases ReflTransGen.cases_tail hprefix with rfl | ⟨q', -, hlast'⟩
        · exact ((mem_rootIds_iff h).mp hroot).1
        · exact (h.tracked p).mp
            (LineageTracker.mem_of_parent_eq_some (isParent_of_isChild h hlast'))
  · intro hlinked
    -- with exact links the buckets and `parent_of` give the same paths
    have hchild : ∀ {a b : String}, ReflTransGen (IsParent r.lineage.parent) a b →
        ReflTransGen r.lineage.IsChild a b :=
      fun hpath => ReflTransGen.mono (fun p c hpc => (hlinked c p hpc).1) _ _ hpath
    have hup : ∀ {a b : String}, ReflTransGen r.lineage.IsChild a b →
        ReflTransGen (IsParent r.lineage.parent) a b :=
      fun hpath => ReflTransGen.mono (fun p c hpc => isParent_of_isChild h hpc) _ _ hpath
    refine
      { nodup_roots := ?_
        nodup_descendants := fun id => ?_
        reached := fun id hid => ?_
        acyclic := hgrounded.acyclic }
    · rw [rootIds_eq h]
      exact r.lineage.nodup_listRoots
    · rw [descendantIds_eq h]
      exact r.lineage.nodup_descendants id
    · obtain ⟨root, hnone, hroot, hpath⟩ := hgrounded.exists_root (s := (· ∈ r))
        (fun x p _ hp => (hlinked x p hp).2) hid
      have hrootIds : root ∈ r.rootIds := (mem_rootIds_iff h).mpr ⟨hroot, hnone⟩
      by_cases hself : id = root
      · refine .inl ⟨hself ▸ hrootIds, fun root' _ hbelow => ?_⟩
        exact hnotRoot root' id hbelow (hself ▸ hrootIds)
      · have hbelow : id ∈ r.descendantIds root :=
          (mem_descendantIds_iff h).mpr ⟨hself, hchild hpath⟩
        refine .inr ⟨hnotRoot root id hbelow, root, ⟨hrootIds, hbelow⟩, ?_⟩
        -- two roots above one task are the same
        rintro root' ⟨hrootIds', hbelow'⟩
        exact root_unique ((mem_rootIds_iff h).mp hrootIds').2 hnone
          (hup ((mem_descendantIds_iff h).mp hbelow').2) hpath

end Cover

/-! ## Whole runs -/

/-- A call that leaves no child behind: no registered task names a removed one as its
    parent. -/
def Rooted (r : TaskRegistry) (call : Call) : Prop :=
  ∀ id, call = .remove id → ∀ c, r.parentIn c ≠ some (some id)

/-- What every call preserves of the shape of the lineage. -/
structure Shaped (r : TaskRegistry) : Prop where
  kept : r.Kept
  grounded : Grounded r.lineage.parent

theorem shaped_initial (maxDepth : Nat) : (initial maxDepth).Shaped :=
  ⟨kept_initial maxDepth, LineageTracker.grounded_of_parentOf_empty rfl⟩

theorem Shaped.step {r r' : TaskRegistry} {call : Call} (h : r.Shaped)
    (hstep : step r call = some r') : r'.Shaped := by
  refine ⟨h.kept.step hstep, ?_⟩
  cases step_changes h.kept.mirrored.tracked hstep with
  | unchanged _ _ hsame =>
    rw [hsame.lineage_eq]
    exact h.grounded
  | enters _ henters =>
    exact henters.links.grounded h.grounded fun p hp => (henters.parent_asked p hp).2
  | moves _ _ hmoves =>
    rw [hmoves.lineage_eq]
    exact h.grounded
  | leaves hleaves => exact hleaves.unlinks.grounded h.grounded
  | cleared => exact LineageTracker.grounded_of_parentOf_empty rfl

theorem Linked.enters {r r' : TaskRegistry} {task : RuntimeTask} {asked : Option String}
    (h : r.Linked) (henters : Enters r task asked r') : r'.Linked := by
  intro c p hp
  rw [henters.links.parent_eq] at hp
  rw [henters.links.children_eq, henters.mem_iff]
  split at hp
  · next hself =>
    rw [if_pos hp, hself]
    exact ⟨Finset.mem_insert_self _ _, .inr (henters.parent_mem p hp)⟩
  · obtain ⟨hchild, hmem⟩ := h c p hp
    refine ⟨?_, .inr hmem⟩
    split
    · exact Finset.mem_insert_of_mem hchild
    · exact hchild

/-- Removing a task breaks the links exactly when it leaves a child behind. -/
theorem linked_leaves_iff {r r' : TaskRegistry} {task : RuntimeTask} (hshaped : r.Shaped)
    (h : r.Linked) (hleaves : Leaves r task r') :
    r'.Linked ↔ ∀ c, r.parentIn c ≠ some (some task.taskId) := by
  constructor
  · intro h' c hc
    have hp := hshaped.kept.mirrored.parent_eq c _ hc
    have hne : c ≠ task.taskId := by
      rintro rfl
      exact hshaped.grounded.acyclic _ (.single hp)
    -- the child keeps the removed parent's id
    have hp' : r'.lineage.parent c = some task.taskId := by
      rw [hleaves.unlinks.parent_eq, if_neg hne]
      exact hp
    exact (hleaves.mem_iff.mp (h' c _ hp').2).1 rfl
  · intro hnone c p hp
    rw [hleaves.unlinks.parent_eq] at hp
    split at hp
    · cases hp
    · next hne =>
      obtain ⟨hchild, hmem⟩ := h c p hp
      have hpne : p ≠ task.taskId := by
        rintro rfl
        exact hnone c (hshaped.kept.mirrored.parent_of_mem hp)
      exact ⟨(hleaves.unlinks.mem_children c p).mpr ⟨hchild, hpne, fun heq => absurd heq hne⟩,
        hleaves.mem_iff.mpr ⟨hpne, hmem⟩⟩

theorem covered_step_iff {r r' : TaskRegistry} {call : Call} (hshaped : r.Shaped)
    (h : r.Covered) (hstep : step r call = some r') : r'.Covered ↔ r.Rooted call := by
  have hshaped' := hshaped.step hstep
  have hlinked := (covered_iff_linked hshaped.kept.mirrored hshaped.grounded).mp h
  rw [covered_iff_linked hshaped'.kept.mirrored hshaped'.grounded]
  cases step_changes hshaped.kept.mirrored.tracked hstep with
  | unchanged _ hremove hsame =>
    obtain ⟨m, -, -, rfl⟩ := hsame.exists_eq
    refine iff_of_true hlinked fun id hid c hc => ?_
    exact hremove id hid (hlinked c id (hshaped.kept.mirrored.parent_eq c _ hc)).2
  | enters hsome henters =>
    refine iff_of_true (hlinked.enters henters) fun id hid => ?_
    rw [hid] at hsome
    cases hsome
  | moves _ hremove hmoves =>
    refine iff_of_true (fun c p hp => ?_) fun id hid => absurd hid (hremove id)
    rw [hmoves.lineage_eq] at hp ⊢
    exact ⟨(hlinked c p hp).1, hmoves.mem_iff.mpr (hlinked c p hp).2⟩
  | leaves hleaves =>
    rw [linked_leaves_iff hshaped hlinked hleaves]
    constructor
    · intro hnone id hid
      rw [← Call.remove.inj hid]
      exact hnone
    · intro hrooted
      exact hrooted _ rfl
  | cleared => exact iff_of_true (fun c p hp => nomatch hp) fun id hid => nomatch hid

/-- Every registered task is reached exactly once in every state of a run exactly when
    no call of the run removes a task that a registered one names as its parent. -/
theorem covered_iff_rooted (maxDepth : Nat) (calls : List Call) :
    AllStates step Covered (initial maxDepth) calls ↔
      AllSteps step Rooted (initial maxDepth) calls := by
  obtain ⟨r, hrun⟩ := exec_isSome step_total (initial maxDepth) calls
  have hshaped := shaped_initial maxDepth
  have hstart : (initial maxDepth).Covered :=
    (covered_iff_linked hshaped.kept.mirrored hshaped.grounded).mpr fun c p hp => nomatch hp
  exact allStates_iff_allSteps (J := Shaped) (fun r call r' h hstep => h.step hstep)
    (fun r call r' hs h hstep => covered_step_iff hs h hstep) hshaped hstart hrun

/-- A task whose parent was removed is in no root listing and below no root. -/
theorem not_covered_after_remove :
    ¬ ∀ (calls : List Call) (r : TaskRegistry),
      exec step (initial defaultMaxDepth) calls = some r → r.Covered := by
  intro hall
  have hcovered := hall
    [.register 0 "a" {} .created, .register 0 "b" { parentTaskId := some "a" } .created,
      .remove "a"] _ rfl
  rcases hcovered.reached "b" (by decide +kernel) with ⟨hroot, -⟩ | ⟨-, root, ⟨hroot, -⟩, -⟩
  · revert hroot
    decide +kernel
  · -- there is no root left
    revert hroot
    have hnone : rootIds (((((initial defaultMaxDepth).register 0 "a" {} .created).2.register 0 "b"
      { parentTaskId := some "a" } .created).2.remove "a").2) = [] := by decide +kernel
    show root ∈ rootIds (((((initial defaultMaxDepth).register 0 "a" {} .created).2.register 0 "b"
      { parentTaskId := some "a" } .created).2.remove "a").2) → False
    rw [hnone]
    exact List.not_mem_nil

end TaskRegistry

end AsyncViz.Runtime.Tasks
