/-
  AsyncViz.Runtime.Lineage.Tracker

  Parent/child bookkeeping of tasks: the ancestor walk, the cycle test and the
  subtree traversal (`runtime/lineage/ancestry.py`) and the `LineageTracker`
  (`tracker.py`).

  A Python `set` of task ids is a `Finset`; a missing key of a
  `defaultdict(set)` reads as the empty set.  Where the source iterates over a
  set, the sorted order is taken.

  `register_registers` and `unregister_unlinks` say what the two mutations do to
  the three maps.
-/

import AsyncViz.Lib.Dict
import AsyncViz.Lib.Search
import Mathlib.Algebra.GroupWithZero.Nat
import Mathlib.Data.Finset.Sort
import Mathlib.Data.String.Basic

namespace AsyncViz.Runtime.Lineage

open AsyncViz.Lib

/-- `DEFAULT_MAX_DEPTH`. -/
def defaultMaxDepth : Nat := 8192

/-- The parent map: a tracked task has a parent or is a root. -/
abbrev ParentMap := Dict String (Option String)

/-- `parent_of.get(task_id)`. -/
def ParentMap.parent (parentOf : ParentMap) (taskId : String) : Option String :=
  (parentOf.get? taskId).join

namespace ParentMap

theorem parent_set (parentOf : ParentMap) (taskId id : String) (parentTaskId : Option String) :
    ParentMap.parent (Dict.set parentOf taskId parentTaskId) id =
      if id = taskId then parentTaskId else parentOf.parent id := by
  rw [ParentMap.parent]
  rw [Dict.get?_set]
  split <;> rfl

theorem parent_pop (parentOf : ParentMap) (taskId id : String) :
    ParentMap.parent (Dict.pop parentOf taskId) id =
      if id = taskId then none else parentOf.parent id := by
  rw [ParentMap.parent]
  rw [Dict.get?_pop]
  split <;> rfl

theorem mem_of_parent_eq_some {parentOf : ParentMap} {taskId p : String}
    (h : parentOf.parent taskId = some p) : taskId ∈ parentOf := by
  exact Dict.mem_of_get?_eq_some (Option.join_eq_some_iff.mp h)

end ParentMap

/-- What the generator `walk_ancestors` produces: the ids it yields, closest
    first, and whether it ends by raising `LineageDepthExceededError`. -/
structure Walk where
  yielded : List String
  raised : Bool
deriving DecidableEq, Repr

/-- The loop of `walk_ancestors`, with `max_depth - steps` iterations left. -/
def walkFrom (parentOf : ParentMap) : Nat → List String → Option String → Walk
  | _, _, none => ⟨[], false⟩
  | 0, _, some _ => ⟨[], true⟩
  | steps + 1, visited, some current =>
    if current ∈ visited then ⟨[], true⟩
    else
      let rest := walkFrom parentOf steps (current :: visited) (parentOf.parent current)
      ⟨current :: rest.yielded, rest.raised⟩

/-- `walk_ancestors`. -/
def walkAncestors (taskId : String) (parentOf : ParentMap) (maxDepth : Nat) : Walk :=
  walkFrom parentOf maxDepth [] (parentOf.parent taskId)

/-- `detect_cycle`: would `candidateChild` under `candidateParent` close a cycle? -/
def detectCycle (candidateParent candidateChild : String) (parentOf : ParentMap)
    (maxDepth : Nat) : Bool :=
  if candidateParent = candidateChild then true
  else if candidateParent ∈ parentOf then
    let walk := walkAncestors candidateParent parentOf maxDepth
    decide (candidateChild ∈ walk.yielded) || walk.raised
  else false

/-- `TaskLineage`. -/
structure TaskLineage where
  taskId : String
  parentTaskId : Option String
  rootTaskId : String
  depth : Nat
  ancestorChain : List String
  childCount : Nat
deriving DecidableEq, Repr

/-- `CyclicAncestryError`. -/
inductive LineageError where
  | cyclicAncestry (taskId parentTaskId : String)
deriving DecidableEq, Repr

/-- `LineageTracker`. -/
structure LineageTracker where
  maxDepth : Nat
  parentOf : ParentMap
  childrenOf : Dict String (Finset String)
  ancestorsOf : Dict String (List String)
  cyclicRejections : Nat
deriving DecidableEq

namespace LineageTracker

/-- `LineageTracker()`. -/
def new : LineageTracker := ⟨defaultMaxDepth, .empty, .empty, .empty, 0⟩

/-- `_children_of.get(task_id, set())`. -/
def children (t : LineageTracker) (taskId : String) : Finset String :=
  (t.childrenOf.get? taskId).getD ∅

/-- `_ancestors_of.get(task_id, ())`. -/
def ancestors (t : LineageTracker) (taskId : String) : List String :=
  (t.ancestorsOf.get? taskId).getD []

/-- `child_count`. -/
def childCount (t : LineageTracker) (taskId : String) : Nat := (t.children taskId).card

/-- `_lineage_locked`. -/
def lineageLocked (t : LineageTracker) (taskId : String) : TaskLineage :=
  let chain := t.ancestors taskId
  { taskId := taskId
    parentTaskId := t.parentOf.parent taskId
    rootTaskId := (chain.getLast?).getD taskId
    depth := chain.length
    ancestorChain := chain
    childCount := t.childCount taskId }

/-- `_children_of[parent].add(task_id)`. -/
def addChild (t : LineageTracker) (parent taskId : String) : LineageTracker :=
  { t with childrenOf := t.childrenOf.set parent (insert taskId (t.children parent)) }

/-- `LineageTracker.register`. -/
def register (t : LineageTracker) (taskId : String) (parentTaskId : Option String) :
    Except LineageError TaskLineage × LineageTracker :=
  if taskId ∈ t.parentOf then
    (.ok (t.lineageLocked taskId), t)
  else
    match parentTaskId with
    | some parent =>
      if detectCycle parent taskId t.parentOf t.maxDepth then
        (.error (.cyclicAncestry taskId parent),
          { t with cyclicRejections := t.cyclicRejections + 1 })
      else
        let chain := if parent ∈ t.parentOf then parent :: t.ancestors parent else []
        let t := { t with parentOf := t.parentOf.set taskId (some parent) }
        let t := t.addChild parent taskId
        let t := { t with ancestorsOf := t.ancestorsOf.set taskId chain }
        (.ok (t.lineageLocked taskId), t)
    | none =>
      let t := { t with
        parentOf := t.parentOf.set taskId none
        ancestorsOf := t.ancestorsOf.set taskId [] }
      (.ok (t.lineageLocked taskId), t)

/-- The parent's bucket after the task left it. -/
def discardChild (t : LineageTracker) (parent taskId : String) : LineageTracker :=
  match t.childrenOf.get? parent with
  | none => t
  | some bucket =>
    let bucket := bucket.erase taskId
    if bucket = ∅ then { t with childrenOf := t.childrenOf.pop parent }
    else { t with childrenOf := t.childrenOf.set parent bucket }

/-- `LineageTracker.unregister`.  The order in which the loop visits the orphaned
    children does not matter; the sorted one is taken. -/
def unregister (t : LineageTracker) (taskId : String) : LineageTracker :=
  let parent := t.parentOf.parent taskId
  let t := { t with
    parentOf := t.parentOf.pop taskId
    ancestorsOf := t.ancestorsOf.pop taskId }
  let t := match parent with
    | none => t
    | some parent => t.discardChild parent taskId
  let orphans := (t.children taskId).sort (· ≤ ·)
  { t with
    childrenOf := t.childrenOf.pop taskId
    ancestorsOf := orphans.foldl (fun d child => d.set child []) t.ancestorsOf }

/-- `LineageTracker.clear`. -/
def clear (t : LineageTracker) : LineageTracker :=
  { t with parentOf := .empty, childrenOf := .empty, ancestorsOf := .empty, cyclicRejections := 0 }

/-! ## Reads -/

/-- `parent_of(task_id)`. -/
def parent (t : LineageTracker) (taskId : String) : Option String := t.parentOf.parent taskId

instance : Membership String LineageTracker := ⟨fun t taskId => taskId ∈ t.parentOf⟩

instance (t : LineageTracker) (taskId : String) : Decidable (taskId ∈ t) :=
  inferInstanceAs (Decidable (taskId ∈ t.parentOf))

/-- `lineage_of`. -/
def lineageOf (t : LineageTracker) (taskId : String) : Option TaskLineage :=
  if taskId ∈ t then some (t.lineageLocked taskId) else none

/-- `root_of`. -/
def rootOf (t : LineageTracker) (taskId : String) : Option String :=
  if taskId ∈ t then some ((t.ancestors taskId).getLast?.getD taskId) else none

/-- `depth_of`. -/
def depthOf (t : LineageTracker) (taskId : String) : Nat := (t.ancestors taskId).length

/-- `list_roots`: the tracked tasks without a parent, sorted. -/
def listRoots (t : LineageTracker) : List String :=
  ((t.parentOf.entries.filter fun e => e.2 = none).map Prod.fst).insertionSort (· ≤ ·)

/-- `children`. -/
def sortedChildren (t : LineageTracker) (taskId : String) : List String :=
  (t.children taskId).sort (· ≤ ·)

/-- `iter_subtree(task_id, _children_of)`.  Every iteration of the loop but the first
    pops an entry that a bucket put there, which bounds their number. -/
def iterSubtree (t : LineageTracker) (taskId : String) : List String :=
  Search.search t.sortedChildren
    ((t.childrenOf.keys.map fun parent => (t.sortedChildren parent).length).sum + 1) [taskId] []

/-- `descendants`. -/
def descendants (t : LineageTracker) (taskId : String) : List String :=
  (t.iterSubtree taskId).filter (· ≠ taskId)

/-! ## What the mutations do -/

/-- The chain that `register` caches for a new task. -/
def newChain (t : LineageTracker) : Option String → List String
  | some parent => if parent ∈ t then parent :: t.ancestors parent else []
  | none => []

theorem newChain_some (t : LineageTracker) (parent : String) :
    t.newChain (some parent) = if parent ∈ t then parent :: t.ancestors parent else [] := rfl

/-- `t'` is `t` with the new task linked under `parentTaskId`. -/
structure Links (t : LineageTracker) (taskId : String) (parentTaskId : Option String)
    (t' : LineageTracker) : Prop where
  maxDepth_eq : t'.maxDepth = t.maxDepth
  parentOf_eq : t'.parentOf = t.parentOf.set taskId parentTaskId
  children_eq : ∀ q, t'.children q =
    if parentTaskId = some q then insert taskId (t.children q) else t.children q
  ancestors_eq : ∀ id, t'.ancestors id =
    if id = taskId then t.newChain parentTaskId else t.ancestors id

/-- The three outcomes of `register`. -/
inductive Registers (t : LineageTracker) (taskId : String) (parentTaskId : Option String) :
    Except LineageError TaskLineage × LineageTracker → Prop where
  | known (hmem : taskId ∈ t) : Registers t taskId parentTaskId (.ok (t.lineageLocked taskId), t)
  | refused {parent : String} (hnew : taskId ∉ t) (hparent : parentTaskId = some parent)
      (hcycle : detectCycle parent taskId t.parentOf t.maxDepth = true) :
      Registers t taskId parentTaskId (.error (.cyclicAncestry taskId parent),
        { t with cyclicRejections := t.cyclicRejections + 1 })
  | linked {t' : LineageTracker} (hnew : taskId ∉ t)
      (hclear : ∀ parent, parentTaskId = some parent →
        detectCycle parent taskId t.parentOf t.maxDepth = false)
      (hlinks : Links t taskId parentTaskId t') :
      Registers t taskId parentTaskId (.ok (t'.lineageLocked taskId), t')

theorem children_addChild (t : LineageTracker) (parent taskId q : String) :
    (t.addChild parent taskId).children q =
      if parent = q then insert taskId (t.children q) else t.children q := by
  unfold addChild children
  dsimp only
  rw [Dict.get?_set]
  by_cases h : q = parent
  · rw [if_pos h, if_pos h.symm, h]
    rfl
  · rw [if_neg h, if_neg (Ne.symm h)]

theorem register_registers (t : LineageTracker) (taskId : String) (parentTaskId : Option String) :
    Registers t taskId parentTaskId (t.register taskId parentTaskId) := by
  unfold register
  by_cases hmem : taskId ∈ t.parentOf
  · rw [if_pos hmem]
    exact .known hmem
  · rw [if_neg hmem]
    cases parentTaskId with
    | none =>
      refine .linked hmem (fun parent h => by cases h) ⟨rfl, rfl, fun q => ?_, fun id => ?_⟩
      · rw [if_neg (by simp)]
        rfl
      · show ((t.ancestorsOf.set taskId []).get? id).getD [] = _
        rw [Dict.get?_set]
        split <;> rfl
    | some parent =>
      dsimp only
      by_cases hcycle : detectCycle parent taskId t.parentOf t.maxDepth = true
      · rw [if_pos hcycle]
        exact .refused hmem rfl hcycle
      · rw [if_neg hcycle]
        refine .linked hmem ?_ ⟨rfl, rfl, fun q => ?_, fun id => ?_⟩
        · intro p hp
          rw [← Option.some.inj hp]
          exact Bool.eq_false_iff.mpr hcycle
        · simp only [Option.some.injEq]
          exact children_addChild _ parent taskId q
        · show ((t.ancestorsOf.set taskId _).get? id).getD [] = _
          rw [Dict.get?_set]
          split <;> rfl

/-- `t'` is `t` without the task, whose children have lost their chains. -/
structure Unlinks (t : LineageTracker) (taskId : String) (t' : LineageTracker) : Prop where
  maxDepth_eq : t'.maxDepth = t.maxDepth
  parentOf_eq : t'.parentOf = t.parentOf.pop taskId
  mem_children : ∀ c q, c ∈ t'.children q ↔
    c ∈ t.children q ∧ q ≠ taskId ∧ (c = taskId → t.parent taskId ≠ some q)
  ancestors_eq : ∀ c, t'.ancestors c =
    if c = taskId ∨ c ∈ t.children taskId then [] else t.ancestors c

theorem mem_children_discardChild (t : LineageTracker) (parent taskId c q : String) :
    c ∈ (t.discardChild parent taskId).children q ↔
      c ∈ t.children q ∧ (c = taskId → parent ≠ q) := by
  rw [discardChild]
  cases hbucket : t.childrenOf.get? parent with
  | none =>
    refine ⟨fun h => ⟨h, ?_⟩, fun h => h.1⟩
    rintro - rfl
    simp [children, hbucket] at h
  | some bucket =>
    dsimp only
    by_cases hq : q = parent
    · have hold : t.children q = bucket := by
        rw [children]
        rw [hq, hbucket]
        rfl
      -- an empty bucket is dropped, which reads the same
      have hnew : (if bucket.erase taskId = ∅ then
          { t with childrenOf := t.childrenOf.pop parent }
        else { t with childrenOf := t.childrenOf.set parent (bucket.erase taskId) }).children q =
          bucket.erase taskId := by
        rw [hq]
        split
        · next hempty => simp [children, hempty]
        · simp [children]
      rw [hnew, hold, Finset.mem_erase]
      constructor
      · rintro ⟨hne, hc⟩
        exact ⟨hc, fun h => absurd h hne⟩
      · rintro ⟨hc, hne⟩
        exact ⟨fun h => hne h hq.symm, hc⟩
    · have hsame : (if bucket.erase taskId = ∅ then
          { t with childrenOf := t.childrenOf.pop parent }
        else { t with childrenOf := t.childrenOf.set parent (bucket.erase taskId) }).children q =
          t.children q := by
        split
        · simp [children, Dict.get?_pop_of_ne _ hq]
        · simp [children, Dict.get?_set_of_ne _ _ hq]
      rw [hsame]
      exact ⟨fun h => ⟨h, fun _ heq => hq heq.symm⟩, fun h => h.1⟩

/-- Assigning the empty chain to every task of a list. -/
theorem get?_foldl_set_nil (orphans : List String) (d : Dict String (List String)) (c : String) :
    ((orphans.foldl (fun d child => d.set child []) d).get? c).getD [] =
      if c ∈ orphans then [] else (d.get? c).getD [] := by
  induction orphans generalizing d with
  | nil => rfl
  | cons child orphans ih =>
    rw [List.foldl_cons, ih, Dict.get?_set]
    by_cases h : c = child
    · simp [h]
    · simp [h]

theorem unregister_unlinks (t : LineageTracker) (taskId : String) :
    Unlinks t taskId (t.unregister taskId) := by
  rw [unregister]
  generalize hparent : t.parentOf.parent taskId = parent
  -- the tracker after the task left its parent's bucket
  generalize hmid : (match parent with
    | none => { t with
        parentOf := t.parentOf.pop taskId
        ancestorsOf := t.ancestorsOf.pop taskId }
    | some parent => LineageTracker.discardChild { t with
        parentOf := t.parentOf.pop taskId
        ancestorsOf := t.ancestorsOf.pop taskId } parent taskId) = mid
  -- leaving the bucket touches the buckets only
  have hkeep : mid.maxDepth = t.maxDepth ∧ mid.parentOf = t.parentOf.pop taskId ∧
      mid.ancestorsOf = t.ancestorsOf.pop taskId := by
    rw [← hmid]
    cases parent with
    | none => exact ⟨rfl, rfl, rfl⟩
    | some p =>
      dsimp only [discardChild]
      split
      · exact ⟨rfl, rfl, rfl⟩
      · split <;> exact ⟨rfl, rfl, rfl⟩
  have hchildren : ∀ c q, c ∈ mid.children q ↔
      c ∈ t.children q ∧ (c = taskId → parent ≠ some q) := by
    intro c q
    rw [← hmid]
    cases parent with
    | none => exact ⟨fun h => ⟨h, fun _ => by simp⟩, fun h => h.1⟩
    | some p =>
      dsimp only
      rw [mem_children_discardChild, ne_eq, ne_eq, Option.some.injEq]
      rfl
  obtain ⟨hdepth, hmap, hanc⟩ := hkeep
  refine ⟨hdepth, hmap, fun c q => ?_, fun c => ?_⟩
  · have hpop :
        c ∈ ((mid.childrenOf.pop taskId).get? q).getD ∅ ↔ q ≠ taskId ∧ c ∈ mid.children q := by
      rw [Dict.get?_pop]
      by_cases hq : q = taskId
      · simp [hq]
      · rw [if_neg hq]
        exact ⟨fun h => ⟨hq, h⟩, fun h => h.2⟩
    show c ∈ ((mid.childrenOf.pop taskId).get? q).getD ∅ ↔ _
    rw [hpop, hchildren]
    rw [LineageTracker.parent]
    rw [hparent]
    tauto
  · show ((((mid.children taskId).sort (· ≤ ·)).foldl (fun d child => d.set child [])
      mid.ancestorsOf).get? c).getD [] = _
    rw [get?_foldl_set_nil, hanc, Dict.get?_pop]
    simp only [Finset.mem_sort, hchildren]
    by_cases hc : c = taskId
    · simp [hc]
    · simp [hc, ancestors]

section Effects

variable {t t' : LineageTracker} {taskId id : String} {parentTaskId : Option String}

theorem mem_of_parent_eq_some {p : String} (h : t.parent id = some p) : id ∈ t :=
  ParentMap.mem_of_parent_eq_some h

theorem Links.mem_iff (h : Links t taskId parentTaskId t') : id ∈ t' ↔ id = taskId ∨ id ∈ t := by
  show id ∈ t'.parentOf ↔ _
  rw [h.parentOf_eq]
  exact Dict.mem_set_iff t.parentOf taskId id parentTaskId

theorem Links.parent_eq (h : Links t taskId parentTaskId t') :
    t'.parent id = if id = taskId then parentTaskId else t.parent id := by
  rw [parent]
  rw [h.parentOf_eq]
  exact ParentMap.parent_set t.parentOf taskId id parentTaskId

theorem Unlinks.mem_iff (h : Unlinks t taskId t') : id ∈ t' ↔ id ≠ taskId ∧ id ∈ t := by
  show id ∈ t'.parentOf ↔ _
  rw [h.parentOf_eq]
  exact Dict.mem_pop_iff t.parentOf taskId id

theorem Unlinks.parent_eq (h : Unlinks t taskId t') :
    t'.parent id = if id = taskId then none else t.parent id := by
  rw [parent]
  rw [h.parentOf_eq]
  exact ParentMap.parent_pop t.parentOf taskId id

end Effects

end LineageTracker

end AsyncViz.Runtime.Lineage
