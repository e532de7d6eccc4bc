/-
  AsyncViz.Frontend.DependencyLayout

  The layered layout of the await dependency graph
  (`frontend/src/dashboard/dependencies/layout/AwaitDependencyLayout.ts`).

  The loop of `assignLayers` takes one node of the frontier a round, so it is
  given a number of rounds; what it computes is in `DependencyLayers`.  Here is
  what stands before it and behind it: `Tallies` for the two maps, and
  `perm_laidNodes` for the frame, which places every node once whatever the layers
  are.
-/

import AsyncViz.Lib.Bisect
import AsyncViz.Lib.Dict
import AsyncViz.Lib.Layering
import AsyncViz.Lib.Regroup
import Mathlib.Algebra.Order.Ring.Rat

namespace AsyncViz.Frontend.Dependencies

open AsyncViz.Lib AsyncViz.Lib.Layering Relation

/-- `AwaitNodeView`, as far as the layout reads it. -/
structure AwaitNodeView where
  id : String
deriving DecidableEq

/-- `AwaitEdgeView`, as far as the layout reads it. -/
structure AwaitEdgeView where
  fromId : String
  toId : String
deriving DecidableEq

/-- `LayoutInputs` with the `DEFAULTS`. -/
structure LayoutInputs where
  nodes : List AwaitNodeView
  edges : List AwaitEdgeView
  ordering : Option (List String) := none
  layerSpacing : ℚ := 220
  nodeSpacing : ℚ := 72
  nodeWidth : ℚ := 180
  nodeHeight : ℚ := 56
  padding : ℚ := 24

/-- `LaidNode`. -/
structure LaidNode where
  node : AwaitNodeView
  layer : Nat
  rank : Nat
  x : ℚ
  y : ℚ
  width : ℚ
  height : ℚ

/-- `LaidEdge`. -/
structure LaidEdge where
  edge : AwaitEdgeView
  fromX : ℚ
  fromY : ℚ
  toX : ℚ
  toY : ℚ
  dangling : Bool

/-- `LayoutFrame`. -/
structure LayoutFrame where
  laidNodes : List LaidNode
  laidEdges : List LaidEdge
  width : ℚ
  height : ℚ
  layerCount : Nat
  cycleDetected : Bool

/-! ## Adjacency and layers -/

/-- The maps of `buildAdjacency`. -/
structure Adjacency where
  outgoing : Dict String (List String) := .empty
  inDegree : Dict String Int := .empty

/-- Every node starts without edges. -/
def Adjacency.addNode (adj : Adjacency) (node : AwaitNodeView) : Adjacency where
  outgoing := adj.outgoing.set node.id []
  inDegree := adj.inDegree.set node.id 0

/-- An edge counts where both its ends are known. -/
def Adjacency.addEdge (adj : Adjacency) (edge : AwaitEdgeView) : Adjacency :=
  match adj.outgoing.get? edge.fromId, adj.inDegree.get? edge.toId with
  | some children, some degree =>
    { outgoing := adj.outgoing.set edge.fromId (children ++ [edge.toId])
      inDegree := adj.inDegree.set edge.toId (degree + 1) }
  | _, _ => adj

/-- `buildAdjacency(nodes, edges)`. -/
def buildAdjacency (nodes : List AwaitNodeView) (edges : List AwaitEdgeView) : Adjacency :=
  edges.foldl Adjacency.addEdge (nodes.foldl Adjacency.addNode {})

/-- The variables of `assignLayers`. -/
structure Layering where
  layers : Dict String Nat := .empty
  remainingInDegree : Dict String Int
  frontier : List String := []

namespace Layering

/-- A node without in-edges is a root: layer 0, and on the frontier. -/
def seed (s : Layering) (node : AwaitNodeView) : Layering :=
  if (s.remainingInDegree.get? node.id).getD 0 = 0 then
    { s with layers := s.layers.set node.id 0, frontier := s.frontier ++ [node.id] }
  else s

/-- One outgoing edge of a node at `fromLayer`. -/
def visitChild (fromLayer : Nat) (s : Layering) (childId : String) : Layering :=
  let newLayer := max (fromLayer + 1) ((s.layers.get? childId).getD 0)
  let pending := (s.remainingInDegree.get? childId).getD 1 - 1
  { layers := s.layers.set childId newLayer
    remainingInDegree := s.remainingInDegree.set childId pending
    frontier := if pending = 0 then s.frontier ++ [childId] else s.frontier }

/-- The `while` loop, for at most `rounds` rounds; `none` where it is not over by then. -/
def drain (outgoing : Dict String (List String)) : Nat → Layering → Option Layering
  | rounds, s =>
    match s.frontier with
    | [] => some s
    | next :: rest =>
      match rounds with
      | 0 => none
      | rounds + 1 =>
        let fromLayer := (s.layers.get? next).getD 0
        drain outgoing rounds <|
          ((outgoing.get? next).getD []).foldl (visitChild fromLayer) { s with frontier := rest }

/-- A node that the loop has left without a layer goes to layer 0 with the flag. -/
def pin (acc : Dict String Nat × Bool) (node : AwaitNodeView) : Dict String Nat × Bool :=
  if node.id ∈ acc.1 then acc else (acc.1.set node.id 0, true)

end Layering

/-- `assignLayers(nodes, outgoing, inDegree)`: the layers, and `cycleDetected`. -/
def assignLayers (rounds : Nat) (nodes : List AwaitNodeView) (adj : Adjacency) :
    Option (Dict String Nat × Bool) :=
  (Layering.drain adj.outgoing rounds
      (nodes.foldl Layering.seed { remainingInDegree := adj.inDegree })).map fun s =>
    nodes.foldl Layering.pin (s.layers, false)

/-! ## The frame -/

/-- The UTF-16 code units of a string, by which JavaScript compares strings. -/
def utf16 (s : String) : List Nat :=
  s.toList.flatMap fun c =>
    if c.toNat < 0x10000 then [c.toNat]
    else [0xD800 + (c.toNat - 0x10000) / 0x400, 0xDC00 + (c.toNat - 0x10000) % 0x400]

/-- The comparison of `sortLayer` for an ordering hint: `a` does not come after `b`. -/
def hintLe (rank : Dict String Nat) (a b : String) : Prop :=
  match rank.get? a, rank.get? b with
  | some ra, some rb => ra ≤ rb
  | some _, none => True
  | none, some _ => False
  | none, none => utf16 a ≤ utf16 b

instance (rank : Dict String Nat) : DecidableRel (hintLe rank) := fun a b => by
  unfold hintLe
  split <;> infer_instance

/-- The ranks of an ordering hint; the last place of an id counts. -/
def hintRanks (ordering : List String) : Dict String Nat :=
  ordering.zipIdx.foldl (fun rank p => rank.set p.1 p.2) .empty

/-- `sortLayer(ids, ordering)`. -/
def sortLayer (ids : List String) : Option (List String) → List String
  | none => ids.insertionSort fun a b => utf16 a ≤ utf16 b
  | some ordering => ids.insertionSort (hintLe (hintRanks ordering))

/-- A node goes to the bucket of its layer. -/
def bucketNode (layers : Dict String Nat) (buckets : Dict Nat (List String))
    (node : AwaitNodeView) : Dict Nat (List String) :=
  let layer := (layers.get? node.id).getD 0
  buckets.set layer ((buckets.get? layer).getD [] ++ [node.id])

/-- The node `id` at its place; `none` where there is no such node. -/
def placeNode (inputs : LayoutInputs) (layer : Nat) (p : String × Nat) : Option LaidNode :=
  (inputs.nodes.find? (·.id = p.1)).map fun node =>
    { node
      layer
      rank := p.2
      x := inputs.padding + layer * inputs.layerSpacing
      y := inputs.padding + p.2 * (inputs.nodeHeight + inputs.nodeSpacing)
      width := inputs.nodeWidth
      height := inputs.nodeHeight }

/-- The nodes of one layer, in order. -/
def placeLayer (inputs : LayoutInputs) (buckets : Dict Nat (List String)) (layer : Nat) :
    List LaidNode :=
  (sortLayer ((buckets.get? layer).getD []) inputs.ordering).zipIdx.filterMap
    (placeNode inputs layer)

/-- The geometry of an edge. -/
def placeEdge (positionsById : Dict String LaidNode) (edge : AwaitEdgeView) : LaidEdge :=
  match positionsById.get? edge.fromId, positionsById.get? edge.toId with
  | some source, some sink =>
    { edge
      fromX := source.x + source.width
      fromY := source.y + source.height / 2
      toX := sink.x
      toY := sink.y + sink.height / 2
      dangling := false }
  | _, _ => { edge, fromX := 0, fromY := 0, toX := 0, toY := 0, dangling := true }

/-- The frame for given layers. -/
def frameOf (inputs : LayoutInputs) (layers : Dict String Nat) (cycleDetected : Bool) :
    LayoutFrame :=
  let buckets := inputs.nodes.foldl (bucketNode layers) .empty
  let layerCount := buckets.keys.foldl max 0 + 1
  let laidNodes := (List.range layerCount).flatMap (placeLayer inputs buckets)
  let positionsById := laidNodes.foldl (fun d laid => d.set laid.node.id laid) .empty
  let maxBucketSize := (buckets.values.map List.length).foldl max 1
  { laidNodes
    laidEdges := inputs.edges.map (placeEdge positionsById)
    width := inputs.padding * 2 + (layerCount - 1) * inputs.layerSpacing + inputs.nodeWidth
    height := inputs.padding * 2 + maxBucketSize * inputs.nodeHeight +
      (maxBucketSize - 1) * inputs.nodeSpacing
    layerCount
    cycleDetected }

/-- `layoutDependencies(inputs)`. -/
def layoutDependencies (rounds : Nat) (inputs : LayoutInputs) : Option LayoutFrame :=
  if inputs.nodes.length = 0 then
    some
      { laidNodes := []
        laidEdges := []
        width := inputs.padding * 2
        height := inputs.padding * 2
        layerCount := 0
        cycleDetected := false }
  else
    (assignLayers rounds inputs.nodes (buildAdjacency inputs.nodes inputs.edges)).map fun p =>
      frameOf inputs p.1 p.2

/-! ## What the maps hold -/

/-- The edges whose two ends are known, in order. -/
def knownEdges (ids : List String) (edges : List AwaitEdgeView) : List (String × String) :=
  (edges.map fun e => (e.fromId, e.toId)).filter fun p => p.1 ∈ ids ∧ p.2 ∈ ids

/-- The maps hold the edges `E` between the nodes `ids`. -/
structure Tallies (ids : List String) (E : List (String × String)) (adj : Adjacency) : Prop where
  outgoing : ∀ a, adj.outgoing.get? a =
    if a ∈ ids then some ((E.filter (·.1 = a)).map Prod.snd) else none
  inDegree : ∀ b, adj.inDegree.get? b =
    if b ∈ ids then some ((E.countP (·.2 = b) : Nat) : Int) else none

namespace Tallies

variable {ids : List String} {E : List (String × String)} {adj : Adjacency}

theorem addNode (h : Tallies ids [] adj) (node : AwaitNodeView) :
    Tallies (ids ++ [node.id]) [] (adj.addNode node) := by
  constructor
  · intro a
    rw [Adjacency.addNode, Dict.get?_set, h.outgoing]
    by_cases ha : a = node.id <;> simp [ha]
  · intro b
    rw [Adjacency.addNode, Dict.get?_set, h.inDegree]
    by_cases hb : b = node.id <;> simp [hb]

theorem foldl_addNode (h : Tallies ids [] adj) (nodes : List AwaitNodeView) :
    Tallies (ids ++ nodes.map (·.id)) [] (nodes.foldl Adjacency.addNode adj) := by
  induction nodes generalizing ids adj with
  | nil => simpa using h
  | cons node nodes ih => simpa using ih (h.addNode node)

theorem addEdge (h : Tallies ids E adj) (edge : AwaitEdgeView) :
    Tallies ids (E ++ knownEdges ids [edge]) (adj.addEdge edge) := by
  -- an edge counts only if both of its ends have an entry
  unfold Adjacency.addEdge
  rw [h.outgoing, h.inDegree]
  by_cases hfrom : edge.fromId ∈ ids
  · by_cases hto : edge.toId ∈ ids
    · rw [if_pos hfrom, if_pos hto]
      have hknown : knownEdges ids [edge] = [(edge.fromId, edge.toId)] := by
        simp [knownEdges, hfrom, hto]
      constructor
      · intro a
        dsimp only
        rw [Dict.get?_set, h.outgoing, hknown, List.filter_append, List.map_append]
        by_cases ha : a = edge.fromId
        · subst ha
          simp [hfrom]
        · have hne : ¬ edge.fromId = a := fun heq => ha heq.symm
          simp [ha, hne]
      · intro b
        dsimp only
        rw [Dict.get?_set, h.inDegree, hknown, List.countP_append]
        by_cases hb : b = edge.toId
        · subst hb
          simp [hto]
        · have hne : ¬ edge.toId = b := fun heq => hb heq.symm
          simp [hb, hne]
    · rw [if_pos hfrom, if_neg hto]
      simpa [knownEdges, hto] using h
  · rw [if_neg hfrom]
    simpa [knownEdges, hfrom] using h

theorem foldl_addEdge (h : Tallies ids E adj) (edges : List AwaitEdgeView) :
    Tallies ids (E ++ knownEdges ids edges) (edges.foldl Adjacency.addEdge adj) := by
  induction edges generalizing E adj with
  | nil => simpa [knownEdges] using h
  | cons edge edges ih =>
    have hsplit : knownEdges ids (edge :: edges)
        = knownEdges ids [edge] ++ knownEdges ids edges := by
      rw [knownEdges, List.map_cons, ← List.singleton_append, List.filter_append]
      rfl
    rw [List.foldl_cons, hsplit, ← List.append_assoc]
    exact ih (h.addEdge edge)

end Tallies

theorem tallies_buildAdjacency (nodes : List AwaitNodeView) (edges : List AwaitEdgeView) :
    Tallies (nodes.map (·.id)) (knownEdges (nodes.map (·.id)) edges)
      (buildAdjacency nodes edges) := by
  have hempty : Tallies [] [] {} := ⟨fun _ => rfl, fun _ => rfl⟩
  exact (hempty.foldl_addNode nodes).foldl_addEdge edges

/-! ## What the frame places -/

/-- The layer that the frame takes for an id. -/
def layerOf (layers : Dict String Nat) (id : String) : Nat := (layers.get? id).getD 0

theorem getD_foldl_bucketNode (layers : Dict String Nat) (nodes : List AwaitNodeView)
    (buckets : Dict Nat (List String)) (layer : Nat) :
    ((nodes.foldl (bucketNode layers) buckets).get? layer).getD []
      = (buckets.get? layer).getD [] ++
          (nodes.filter (layerOf layers ·.id = layer)).map (·.id) := by
  induction nodes generalizing buckets with
  | nil => simp
  | cons node nodes ih =>
    -- the node is added to its own bucket, behind what is in it
    rw [List.foldl_cons, ih, bucketNode, Dict.get?_set]
    by_cases hlayer : layer = (layers.get? node.id).getD 0
    · subst hlayer
      simp [layerOf]
    · have hne : ¬ (layers.get? node.id).getD 0 = layer := fun heq => hlayer heq.symm
      simp [layerOf, hlayer, hne]

theorem mem_keys_foldl_bucketNode {layers : Dict String Nat} {nodes : List AwaitNodeView}
    {node : AwaitNodeView} (h : node ∈ nodes) (buckets : Dict Nat (List String)) :
    layerOf layers node.id ∈ (nodes.foldl (bucketNode layers) buckets).keys := by
  -- without the key the bucket is empty, and the node is in it
  by_contra hnot
  have hnone := Dict.get?_eq_none_iff.mpr hnot
  have hget := getD_foldl_bucketNode layers nodes buckets (layerOf layers node.id)
  rw [hnone, Option.getD_none] at hget
  have hmem : node.id ∈ (nodes.filter (layerOf layers ·.id = layerOf layers node.id)).map (·.id) :=
    List.mem_map_of_mem (List.mem_filter.mpr ⟨h, decide_eq_true rfl⟩)
  exact List.ne_nil_of_mem (List.mem_append_right _ hmem) hget.symm

theorem le_foldl_max {l : List Nat} {n : Nat} (h : n ∈ l) (start : Nat) :
    n ≤ l.foldl max start :=
  (List.max?_eq_some_iff.mp (List.max?_cons' (x := start))).2 n (List.mem_cons_of_mem start h)

theorem perm_sortLayer (ids : List String) (ordering : Option (List String)) :
    (sortLayer ids ordering).Perm ids := by
  cases ordering with
  | none => exact List.perm_insertionSort _ _
  | some ordering => exact List.perm_insertionSort _ _

/-- Where ids are distinct, looking up the id of a node gives the node. -/
theorem find?_id {nodes : List AwaitNodeView} (hnodup : (nodes.map (·.id)).Nodup)
    {node : AwaitNodeView} (h : node ∈ nodes) : nodes.find? (·.id = node.id) = some node := by
  induction nodes with
  | nil => cases h
  | cons first nodes ih =>
    obtain ⟨hfirst, hrest⟩ := List.nodup_cons.mp hnodup
    rcases List.mem_cons.mp h with rfl | hmem
    · exact List.find?_cons_of_pos (decide_eq_true rfl)
    · have hid : node.id ∈ nodes.map (·.id) := List.mem_map_of_mem hmem
      -- ids are distinct, so that the search passes over the nodes in front
      have hne : ¬ first.id = node.id := fun heq => hfirst (by simpa only [heq] using hid)
      rw [List.find?_cons_of_neg (by simpa using hne), ih hrest hmem]

theorem mem_placeLayer {inputs : LayoutInputs} {buckets : Dict Nat (List String)} {layer : Nat}
    {laid : LaidNode} (h : laid ∈ placeLayer inputs buckets layer) :
    laid.layer = layer ∧ laid.node ∈ inputs.nodes ∧
      laid.node.id ∈ (buckets.get? layer).getD [] := by
  obtain ⟨p, hp, hplace⟩ := List.mem_filterMap.mp h
  obtain ⟨node, hnode, rfl⟩ := Option.map_eq_some_iff.mp hplace
  -- the place keeps the id under which the node was found
  have hid : node.id = p.1 := of_decide_eq_true (List.find?_some hnode :)
  refine ⟨rfl, List.mem_of_find?_eq_some hnode, ?_⟩
  rw [hid]
  exact (perm_sortLayer _ _).mem_iff.mp (List.fst_mem_of_mem_zipIdx hp)

/-- A layer shows the nodes of its bucket. -/
theorem perm_placeLayer {inputs : LayoutInputs} (hnodup : (inputs.nodes.map (·.id)).Nodup)
    (layers : Dict String Nat) (layer : Nat) :
    ((placeLayer inputs (inputs.nodes.foldl (bucketNode layers) .empty) layer).map (·.node)).Perm
      (inputs.nodes.filter (layerOf layers ·.id = layer)) := by
  -- the bucket of a layer holds the ids of its nodes, in the order of the nodes
  have hbucket := getD_foldl_bucketNode layers inputs.nodes .empty layer
  rw [Dict.get?_empty, Option.getD_none, List.nil_append] at hbucket
  have hplace : ∀ p : String × Nat, (placeNode inputs layer p).map (·.node)
      = inputs.nodes.find? (·.id = p.1) := by
    -- of a placed node only the lookup by id matters here
    intro p
    rw [placeNode, Option.map_map]
    exact Option.map_id'
  have hfind : ∀ l : List AwaitNodeView, (∀ node ∈ l, node ∈ inputs.nodes) →
      (l.map (·.id)).filterMap (fun id => inputs.nodes.find? (·.id = id)) = l := by
    intro l hl
    rw [List.filterMap_map]
    refine (List.filterMap_congr fun node hnode => ?_).trans List.filterMap_some
    exact find?_id hnodup (hl node hnode)
  rw [placeLayer, hbucket, List.map_filterMap]
  simp only [hplace]
  have hzip : ∀ ids : List String,
      ids.zipIdx.filterMap (fun p => inputs.nodes.find? (·.id = p.1))
        = ids.filterMap (fun id => inputs.nodes.find? (·.id = id)) := by
    intro ids
    conv_rhs => rw [← List.zipIdx_map_fst 0 ids, List.filterMap_map]
    rfl
  rw [hzip]
  refine ((perm_sortLayer _ _).filterMap _).trans (List.Perm.of_eq (hfind _ ?_))
  exact fun node hnode => (List.mem_filter.mp hnode).1

/-- Every node is placed, and only once. -/
theorem perm_laidNodes {inputs : LayoutInputs} (hnodup : (inputs.nodes.map (·.id)).Nodup)
    (layers : Dict String Nat) (cycleDetected : Bool) :
    ((frameOf inputs layers cycleDetected).laidNodes.map (·.node)).Perm inputs.nodes := by
  dsimp only [frameOf]
  rw [List.map_flatMap]
  -- the layers run up to the greatest key, so that each node's layer is among them
  have hcover : ∀ node ∈ inputs.nodes, layerOf layers node.id ∈
      List.range ((inputs.nodes.foldl (bucketNode layers) .empty).keys.foldl max 0 + 1) := by
    intro node hnode
    exact List.mem_range.mpr
      (Nat.lt_succ_of_le (le_foldl_max (mem_keys_foldl_bucketNode hnode .empty) 0))
  exact (List.Perm.flatMap_left _ fun layer _ => perm_placeLayer hnodup layers layer).trans
    (Regroup.perm_flatMap_filter_key List.nodup_range (fun node : AwaitNodeView => layerOf layers node.id)
      hcover)

/-- The layer of a placed node is the one of its id. -/
theorem layer_laidNodes {inputs : LayoutInputs} {layers : Dict String Nat} {cycleDetected : Bool}
    {laid : LaidNode} (h : laid ∈ (frameOf inputs layers cycleDetected).laidNodes) :
    laid.layer = layerOf layers laid.node.id ∧
      laid.layer < (frameOf inputs layers cycleDetected).layerCount := by
  obtain ⟨layer, hlayer, hplaced⟩ := List.mem_flatMap.mp h
  obtain ⟨rfl, -, hbucket⟩ := mem_placeLayer hplaced
  -- the bucket that the id was found in is the one of its layer
  rw [getD_foldl_bucketNode, Dict.get?_empty, Option.getD_none, List.nil_append] at hbucket
  obtain ⟨node, hnode, hid⟩ := List.mem_map.mp hbucket
  refine ⟨?_, List.mem_range.mp hlayer⟩
  rw [← hid]
  exact (of_decide_eq_true (List.mem_filter.mp hnode).2).symm

end AsyncViz.Frontend.Dependencies
