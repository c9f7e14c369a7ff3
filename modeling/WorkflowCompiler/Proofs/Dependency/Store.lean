import WorkflowCompiler.Proofs.Dependency.Represented

/-!
The graph in two parts: a map from a node to what its edges lead to, in which a node without edges
need not be, and beside it the list of all nodes as they were first named. `Graph` keeps both in
one list. Main result: whatever edges are added, nodes, targets and the number of edges are the
same.
-/
namespace WorkflowCompiler.Workflow.Dependency

structure Store where
  targets : Std.HashMap String (List String)
  order : List String

namespace Store

def empty : Store := ⟨∅, []⟩

def addNode (s : Store) (id : String) : Store :=
  if id ∈ s.order then s else { s with order := s.order ++ [id] }

def addEdge (s : Store) (edge : Edge) : Store :=
  let s := (s.addNode edge.1).addNode edge.2
  let known := s.targets.getD edge.1 []
  { s with targets := s.targets.insert edge.1 (if edge.2 ∈ known then known else known ++ [edge.2]) }

def ofEdges (edges : List Edge) : Store := edges.foldl addEdge empty

def edgeCount (s : Store) : Nat :=
  s.targets.toList.foldr (fun entry n => entry.2.length + n) 0

/-- What the two parts say is what the one list says. -/
structure Holds (s : Store) (g : Graph) : Prop where
  order : s.order = g.ids
  targets : ∀ id, s.targets.getD id [] = g.targets id

variable {s : Store} {g : Graph} {id : String} {edge : Edge}

theorem targets_addNode : (g.addNode id).targets = g.targets := by
  funext other
  unfold Graph.addNode
  split
  · rfl
  · rw [Graph.targets, Graph.targets, List.find?_append]
    cases g.nodes.find? (·.1 == other) with
    | some node => rfl
    | none => by_cases same : id = other <;> simp [same]

theorem targets_addEdge :
    (g.addEdge edge).targets id =
      if edge.1 = id ∧ edge.2 ∉ g.targets id then g.targets id ++ [edge.2] else g.targets id := by
  have whole := congrFun (targets_addNode.trans targets_addNode :
    ((g.addNode edge.1).addNode edge.2).targets = g.targets) id
  have keys : ((·.1 == id) ∘ Graph.linked edge) = fun node => node.1 == id := by
    funext node
    simp [Graph.linked_fst]
  rw [← whole, Graph.addEdge_eq, Graph.targets, Graph.targets, List.find?_map, keys]
  cases found : ((g.addNode edge.1).addNode edge.2).nodes.find? (·.1 == id) with
  | some node =>
    have same : node.1 = id := by simpa using List.find?_some found
    simp only [Option.map_some, Option.getD_some, Graph.linked, same, @eq_comm _ id]
    split <;> rfl
  | none =>
    -- The node that the edge leaves is there, so it is another one.
    have other : edge.1 ≠ id := by
      rintro rfl
      have present : edge.1 ∈ ((g.addNode edge.1).addNode edge.2).ids := by
        simp [Graph.mem_ids_addNode]
      obtain ⟨node, known, same⟩ := List.mem_map.mp present
      exact (List.find?_eq_none.mp found) node known (by simp [same])
    simp [other]

theorem Holds.addNode (h : s.Holds g) (id : String) : (s.addNode id).Holds (g.addNode id) where
  order := by
    unfold Store.addNode Graph.addNode
    rw [h.order]
    split
    · exact h.order
    · simp [Graph.ids]
  targets := by
    intro other
    rw [targets_addNode, ← h.targets]
    unfold Store.addNode
    split <;> rfl

theorem Holds.addEdge (h : s.Holds g) (edge : Edge) : (s.addEdge edge).Holds (g.addEdge edge) where
  order := by
    rw [Graph.ids_addEdge]
    exact ((h.addNode edge.1).addNode edge.2).order
  targets := by
    intro id
    have known : ∀ id, ((s.addNode edge.1).addNode edge.2).targets.getD id [] = g.targets id := by
      intro id
      rw [((h.addNode edge.1).addNode edge.2).targets, targets_addNode, targets_addNode]
    rw [targets_addEdge, Store.addEdge, Std.HashMap.getD_insert, known, known]
    by_cases same : edge.1 = id
    · subst same
      simp
    · simp [same]

theorem holds_ofEdges (edges : List Edge) : (ofEdges edges).Holds (Graph.ofEdges edges) := by
  induction edges using List.reverseRecOn with
  | nil => exact ⟨rfl, fun id => Std.HashMap.getD_empty⟩
  | append_singleton edges edge ih =>
    rw [ofEdges, Graph.ofEdges, List.foldl_append, List.foldl_append]
    exact ih.addEdge edge

/-- The entries of the map have the edges of the graph: a node that it leaves out has none. -/
theorem Holds.mem_entries (h : s.Holds g) (wellFormed : g.WellFormed) (e : Edge) :
    e ∈ (Graph.mk s.targets.toList).edges ↔ e ∈ g.edges := by
  rw [← wellFormed.mem_targets (a := e.1) (b := e.2), ← h.targets, ← Prod.mk.eta (p := e),
    Graph.mem_edges, Std.HashMap.getD_eq_getD_getElem?]
  constructor
  · rintro ⟨⟨_, targets⟩, entry, rfl, leads⟩
    rw [Std.HashMap.mem_toList_iff_getElem?_eq_some.mp entry]
    exact leads
  · intro leads
    cases found : s.targets[e.1]? with
    | none => simp [found] at leads
    | some targets =>
      rw [found] at leads
      exact ⟨_, Std.HashMap.mem_toList_iff_getElem?_eq_some.mpr found, rfl, leads⟩

theorem Holds.nodup_entries (h : s.Holds g) (wellFormed : g.WellFormed) :
    (Graph.mk s.targets.toList).edges.Nodup := by
  refine Graph.nodup_edges ?_ ?_
  · refine List.pairwise_map.mpr (Std.HashMap.distinct_keys_toList.imp ?_)
    intro entry other differ
    simpa using differ
  · rintro ⟨id, targets⟩ entry
    have found := Std.HashMap.mem_toList_iff_getElem?_eq_some.mp entry
    have once := wellFormed.nodup_targets id
    rwa [← h.targets, Std.HashMap.getD_eq_getD_getElem?, found] at once

theorem Holds.edgeCount_eq (h : s.Holds g) (wellFormed : g.WellFormed) :
    s.edgeCount = g.edgeCount :=
  Graph.edgeCount_congr wellFormed.nodup_edges (h.nodup_entries wellFormed)
    (h.mem_entries wellFormed)

/-- The two parts give the search of the graph its nodes in the same order and the same targets,
and the count of their edges is that of the graph. -/
theorem ofEdges_agrees (edges : List Edge) :
    (ofEdges edges).order = (Graph.ofEdges edges).ids ∧
      (∀ id, (ofEdges edges).targets.getD id [] = (Graph.ofEdges edges).targets id) ∧
      (ofEdges edges).edgeCount = (Graph.ofEdges edges).edgeCount := by
  have holds := holds_ofEdges edges
  exact ⟨holds.order, holds.targets, holds.edgeCount_eq (Graph.wellFormed_ofEdges edges)⟩

end Store

end WorkflowCompiler.Workflow.Dependency
