import Mathlib.Data.List.Nodup
import WorkflowCompiler.Proofs.Dependency.Grammar
import WorkflowCompiler.Workflow.Dependency.Graph

/-!
What the graph of a list of expressions holds. Adding an edge keeps the nodes distinct, and the
graph has exactly the edges that were added: those that the expressions mean.
-/
namespace WorkflowCompiler.Workflow.Dependency

/-- Where keys are distinct, looking for the key of an entry finds the entry. -/
theorem find?_key {α : Type} {entries : List (String × α)} {entry : String × α}
    (distinct : (entries.map (·.1)).Nodup) (h : entry ∈ entries) :
    entries.find? (·.1 == entry.1) = some entry := by
  obtain ⟨front, back, rfl⟩ := List.append_of_mem h
  rw [List.find?_eq_some_iff_append]
  refine ⟨by simp, front, back, rfl, fun other hother => ?_⟩
  rw [List.map_append, List.map_cons, List.nodup_append] at distinct
  have := distinct.2.2 other.1 (List.mem_map_of_mem hother) entry.1 List.mem_cons_self
  simpa using this

/-- An edge of one of the expressions leads from one id to the other. -/
def DependsOn (expressions : List String) (a b : String) : Prop :=
  ∃ expression ∈ expressions, ∃ es, Denotes expression es ∧ (a, b) ∈ es

namespace Graph

structure WellFormed (g : Graph) : Prop where
  distinct : g.ids.Nodup
  targetsDistinct : ∀ node ∈ g.nodes, node.2.Nodup
  closed : ∀ node ∈ g.nodes, ∀ target ∈ node.2, target ∈ g.ids

theorem mem_edges {g : Graph} {a b : String} :
    (a, b) ∈ g.edges ↔ ∃ node ∈ g.nodes, node.1 = a ∧ b ∈ node.2 := by
  simp only [edges, List.mem_flatMap, List.mem_map, Prod.mk.injEq]
  constructor
  · rintro ⟨node, hnode, target, htarget, rfl, rfl⟩
    exact ⟨node, hnode, rfl, htarget⟩
  · rintro ⟨node, hnode, rfl, htarget⟩
    exact ⟨node, hnode, b, htarget, rfl, rfl⟩

theorem mem_ids_addNode {g : Graph} {id x : String} :
    x ∈ (g.addNode id).ids ↔ x ∈ g.ids ∨ x = id := by
  unfold addNode
  split
  · next present =>
    exact ⟨Or.inl, fun h => h.elim (fun h => h) fun h => h ▸ present⟩
  · simp [ids]

theorem edges_addNode {g : Graph} {id : String} : (g.addNode id).edges = g.edges := by
  unfold addNode
  split
  · rfl
  · simp [edges]

theorem WellFormed.addNode {g : Graph} (h : g.WellFormed) (id : String) :
    (g.addNode id).WellFormed := by
  have grown : ∀ x ∈ g.ids, x ∈ (g.addNode id).ids := fun x hx => mem_ids_addNode.mpr (Or.inl hx)
  unfold Graph.addNode at grown ⊢
  split
  · exact h
  · next absent =>
    rw [if_neg absent] at grown
    refine ⟨?_, ?_, ?_⟩
    · simpa [ids] using h.distinct.concat absent
    · intro node hnode
      rcases List.mem_append.mp hnode with hnode | hnode
      · exact h.targetsDistinct node hnode
      · rw [List.mem_singleton.mp hnode]
        exact List.nodup_nil
    · intro node hnode target htarget
      rcases List.mem_append.mp hnode with hnode | hnode
      · exact grown target (h.closed node hnode target htarget)
      · rw [List.mem_singleton.mp hnode] at htarget
        cases htarget

/-- A node after a target was added to the node of the same id. -/
def linked (edge : Edge) (node : String × List String) : String × List String :=
  if node.1 = edge.1 ∧ edge.2 ∉ node.2 then (node.1, node.2 ++ [edge.2]) else node

theorem addEdge_eq (g : Graph) (edge : Edge) :
    g.addEdge edge = ⟨((g.addNode edge.1).addNode edge.2).nodes.map (linked edge)⟩ := rfl

theorem linked_fst {edge : Edge} {node : String × List String} :
    (linked edge node).1 = node.1 := by
  unfold linked
  split <;> rfl

theorem mem_linked {edge : Edge} {node : String × List String} {x : String} :
    x ∈ (linked edge node).2 ↔ x ∈ node.2 ∨ node.1 = edge.1 ∧ x = edge.2 := by
  unfold linked
  split
  · next h => simp [h.1]
  · next h =>
    constructor
    · exact Or.inl
    · rintro (old | ⟨same, rfl⟩)
      · exact old
      · by_contra new
        exact h ⟨same, new⟩

theorem ids_addEdge {g : Graph} {edge : Edge} :
    (g.addEdge edge).ids = ((g.addNode edge.1).addNode edge.2).ids := by
  simp [addEdge_eq, ids, linked_fst]

theorem mem_ids_addEdge {g : Graph} {edge : Edge} {x : String} :
    x ∈ (g.addEdge edge).ids ↔ x ∈ g.ids ∨ x = edge.1 ∨ x = edge.2 := by
  rw [ids_addEdge, mem_ids_addNode, mem_ids_addNode, or_assoc]

theorem WellFormed.addEdge {g : Graph} (h : g.WellFormed) (edge : Edge) :
    (g.addEdge edge).WellFormed := by
  have base := (h.addNode edge.1).addNode edge.2
  refine ⟨?_, ?_, ?_⟩
  · rw [ids_addEdge]
    exact base.distinct
  · intro node hnode
    obtain ⟨old, hold, rfl⟩ := List.mem_map.mp hnode
    have distinct := base.targetsDistinct old hold
    change (linked edge old).2.Nodup
    unfold linked
    split
    · next new => simpa using distinct.concat new.2
    · exact distinct
  · intro node hnode target htarget
    obtain ⟨old, hold, rfl⟩ := List.mem_map.mp hnode
    rw [mem_ids_addEdge]
    rcases mem_linked.mp htarget with htarget | ⟨_, rfl⟩
    · have := base.closed old hold target htarget
      rwa [mem_ids_addNode, mem_ids_addNode, or_assoc] at this
    · exact Or.inr (Or.inr rfl)

/-- An edge adds itself and nothing else. -/
theorem mem_edges_addEdge {g : Graph} {edge e : Edge} :
    e ∈ (g.addEdge edge).edges ↔ e ∈ g.edges ∨ e = edge := by
  obtain ⟨a, b⟩ := e
  have same : ((g.addNode edge.1).addNode edge.2).edges = g.edges := by
    rw [edges_addNode, edges_addNode]
  rw [← same, mem_edges, mem_edges, addEdge_eq]
  constructor
  · rintro ⟨node, hnode, rfl, hb⟩
    obtain ⟨old, hold, rfl⟩ := List.mem_map.mp hnode
    rcases mem_linked.mp hb with hb | ⟨ha, rfl⟩
    · exact Or.inl ⟨old, hold, linked_fst.symm, hb⟩
    · exact Or.inr (by rw [linked_fst, ha])
  · rintro (⟨node, hnode, rfl, hb⟩ | rfl)
    · exact ⟨linked edge node, List.mem_map_of_mem hnode, linked_fst,
        mem_linked.mpr (Or.inl hb)⟩
    · have : a ∈ ((g.addNode a).addNode b).ids := by simp [mem_ids_addNode]
      obtain ⟨node, hnode, hid⟩ := List.mem_map.mp this
      exact ⟨linked (a, b) node, List.mem_map_of_mem hnode, linked_fst.trans hid,
        mem_linked.mpr (Or.inr ⟨hid, rfl⟩)⟩

theorem wellFormed_empty : empty.WellFormed :=
  ⟨List.nodup_nil, fun _ h => (List.not_mem_nil h).elim, fun _ h => (List.not_mem_nil h).elim⟩

/-- What adding edges to a graph, one after another, preserves and adds. -/
theorem foldl_addEdge {g : Graph} (h : g.WellFormed) (es : List Edge) :
    (es.foldl addEdge g).WellFormed ∧
      ∀ e, e ∈ (es.foldl addEdge g).edges ↔ e ∈ g.edges ∨ e ∈ es := by
  induction es generalizing g with
  | nil => exact ⟨h, fun e => by simp⟩
  | cons edge es ih =>
    obtain ⟨wellFormed, hedges⟩ := ih (h.addEdge edge)
    refine ⟨wellFormed, fun e => ?_⟩
    rw [List.foldl_cons, hedges, mem_edges_addEdge, or_assoc, List.mem_cons]

theorem wellFormed_ofEdges (es : List Edge) : (ofEdges es).WellFormed :=
  (foldl_addEdge wellFormed_empty es).1

theorem mem_edges_ofEdges {es : List Edge} {e : Edge} : e ∈ (ofEdges es).edges ↔ e ∈ es := by
  rw [ofEdges, (foldl_addEdge wellFormed_empty es).2]
  simp [empty, edges]

theorem WellFormed.mem_targets {g : Graph} (h : g.WellFormed) {a b : String} :
    b ∈ g.targets a ↔ (a, b) ∈ g.edges := by
  rw [mem_edges, targets]
  constructor
  · intro hb
    cases found : g.nodes.find? (·.1 == a) with
    | none => simp [found] at hb
    | some node =>
      have hid : node.1 = a := by simpa using List.find?_some found
      exact ⟨node, List.mem_of_find?_eq_some found, hid, by simpa [found] using hb⟩
  · rintro ⟨node, hnode, rfl, hb⟩
    rw [find?_key h.distinct hnode]
    exact hb

theorem mem_ids_of_mem_edges {g : Graph} (h : g.WellFormed) {a b : String}
    (edge : (a, b) ∈ g.edges) : a ∈ g.ids ∧ b ∈ g.ids := by
  obtain ⟨node, hnode, rfl, hb⟩ := mem_edges.mp edge
  exact ⟨List.mem_map_of_mem hnode, h.closed node hnode b hb⟩

theorem ofExpressions_eq_ok_iff {expressions : List String} {g : Graph} :
    ofExpressions expressions = .ok g ↔ ∃ ess,
      List.Forall₂ Denotes expressions ess ∧ g = ofEdges ess.flatten := by
  rw [ofExpressions, bind_eq_ok_iff]
  simp only [mapM_eq_ok_iff, edges_eq_ok_iff, Except.ok.injEq, @eq_comm _ _ g]

/-- The edges of the parts together are those of the expressions. -/
theorem mem_flatten_iff_dependsOn {expressions : List String} {ess : List (List Edge)}
    (h : List.Forall₂ Denotes expressions ess) {a b : String} :
    (a, b) ∈ ess.flatten ↔ DependsOn expressions a b := by
  induction h with
  | nil => simp [DependsOn]
  | cons first _ ih =>
    rename_i expression es expressions ess _
    rw [List.flatten_cons, List.mem_append, ih]
    constructor
    · rintro (h | ⟨other, hother, es', hes', h⟩)
      · exact ⟨expression, List.mem_cons_self, es, first, h⟩
      · exact ⟨other, List.mem_cons_of_mem _ hother, es', hes', h⟩
    · rintro ⟨other, hother, es', hes', h⟩
      rcases List.mem_cons.mp hother with rfl | hother
      · exact Or.inl (first.unique hes' ▸ h)
      · exact Or.inr ⟨other, hother, es', hes', h⟩

/-- The graph of expressions is well formed and has exactly their edges. -/
theorem ofExpressions_spec {expressions : List String} {g : Graph}
    (h : ofExpressions expressions = .ok g) :
    g.WellFormed ∧ ∀ a b, (a, b) ∈ g.edges ↔ DependsOn expressions a b := by
  obtain ⟨ess, hess, rfl⟩ := ofExpressions_eq_ok_iff.mp h
  exact ⟨wellFormed_ofEdges _, fun a b =>
    mem_edges_ofEdges.trans (mem_flatten_iff_dependsOn hess)⟩

/-- There is a graph exactly if every expression means something. -/
theorem exists_ofExpressions_iff {expressions : List String} :
    (∃ g, ofExpressions expressions = .ok g) ↔
      ∀ expression ∈ expressions, ∃ es, Denotes expression es := by
  rw [← exists_forall₂_iff]
  constructor
  · rintro ⟨g, hg⟩
    obtain ⟨ess, hess, _⟩ := ofExpressions_eq_ok_iff.mp hg
    exact ⟨ess, hess⟩
  · rintro ⟨ess, hess⟩
    exact ⟨_, ofExpressions_eq_ok_iff.mpr ⟨ess, hess, rfl⟩⟩

end Graph

end WorkflowCompiler.Workflow.Dependency
