import Mathlib.Data.Finset.Dedup
import Mathlib.Data.Finset.Card
import WorkflowCompiler.Proofs.Dependency.Ends
import WorkflowCompiler.Proofs.Dependency.Regrouping
import WorkflowCompiler.Proofs.Workflow.Occurrences

/-!
How the graph represents the edges that were added to it. `Represents` says what nodes and targets
are after a list of edges; it holds of no edges and adding an edge keeps it, so it holds at every
point of building the graph of some expressions. Main result: besides, the graph counts each edge
once, and neither the count nor the edges change with the expressions that the edges are dealt out
to.
-/
namespace WorkflowCompiler.Workflow.Dependency

variable {e : Edge} {added : List Edge}

namespace Graph

/-- After some edges a graph leads from each id exactly where they lead, nowhere twice, and has
their ends as nodes, each once, in the order in which they came first. -/
structure Represents (g : Graph) (added : List Edge) : Prop where
  adjacent : ∀ a b, b ∈ g.targets a ↔ (a, b) ∈ added
  targetsOnce : ∀ a, (g.targets a).Nodup
  nodesOnce : g.ids.Nodup
  nodesListed : Lists 0 (ends added) g.ids

variable {g : Graph} {id : String} {ids : List String}

theorem targets_of_mem (distinct : g.ids.Nodup) {node : String × List String}
    (h : node ∈ g.nodes) : g.targets node.1 = node.2 := by
  rw [targets, find?_key distinct h]
  rfl

theorem WellFormed.nodup_targets (h : g.WellFormed) (id : String) : (g.targets id).Nodup := by
  unfold targets
  cases found : g.nodes.find? (·.1 == id) with
  | none => exact List.nodup_nil
  | some node => exact h.targetsDistinct node (List.mem_of_find?_eq_some found)

theorem Represents.wellFormed (h : g.Represents added) : g.WellFormed where
  distinct := h.nodesOnce
  targetsDistinct := by
    intro node hnode
    have once := h.targetsOnce node.1
    rwa [targets_of_mem h.nodesOnce hnode] at once
  closed := by
    intro node hnode target htarget
    rw [← targets_of_mem h.nodesOnce hnode, h.adjacent] at htarget
    have isEnd : target ∈ ends added := mem_ends.mpr ⟨_, htarget, .inr rfl⟩
    exact (h.nodesListed.exactly target).mpr (List.count_pos_iff.mpr isEnd)

/-- A node that is there is not listed again, and a new one is listed last. -/
theorem lists_addNode (h : Lists 0 ids g.ids) (id : String) :
    Lists 0 (ids ++ [id]) (g.addNode id).ids := by
  have known : id ∈ g.ids ↔ 0 < ids.count id := h.exactly id
  unfold addNode
  split
  · next present => exact h.concat_kept (Nat.ne_of_gt (known.mp present))
  · next absent =>
    have last := h.concat_due (Nat.eq_zero_of_not_pos (mt known.mpr absent))
    simpa [Graph.ids] using last

theorem represents_empty : empty.Represents [] where
  adjacent := by simp [empty, targets]
  targetsOnce := wellFormed_empty.nodup_targets
  nodesOnce := List.nodup_nil
  nodesListed := lists_nil 0

/-- Adding an edge keeps a graph the representation of what was added. -/
theorem Represents.addEdge (h : g.Represents added) (e : Edge) :
    (g.addEdge e).Represents (added ++ [e]) where
  adjacent := by
    intro a b
    have grown := h.wellFormed.addEdge e
    rw [grown.mem_targets, mem_edges_addEdge, ← h.wellFormed.mem_targets, h.adjacent,
      List.mem_append, List.mem_singleton]
  targetsOnce := (h.wellFormed.addEdge e).nodup_targets
  nodesOnce := (h.wellFormed.addEdge e).distinct
  nodesListed := by
    have start := lists_addNode h.nodesListed e.1
    have both := lists_addNode start e.2
    rw [ids_addEdge, ends_append]
    simpa [ends] using both

theorem represents_ofEdges (added : List Edge) : (ofEdges added).Represents added := by
  induction added using List.reverseRecOn with
  | nil => exact represents_empty
  | append_singleton added e ih =>
    rw [ofEdges, List.foldl_append]
    exact ih.addEdge e

/-- The count goes through the targets of all nodes. -/
theorem edgeCount_eq_length (g : Graph) : g.edgeCount = g.edges.length := by
  obtain ⟨nodes⟩ := g
  induction nodes with
  | nil => rfl
  | cons node nodes ih => simpa [edgeCount, edges] using ih

theorem nodup_edges (distinct : g.ids.Nodup) (once : ∀ node ∈ g.nodes, node.2.Nodup) :
    g.edges.Nodup := by
  refine List.nodup_flatMap.mpr ⟨?_, ?_⟩
  · intro node hnode
    refine (once node hnode).map ?_
    exact fun _ _ same => congrArg Prod.snd same
  · have apart : g.nodes.Pairwise fun node other => node.1 ≠ other.1 :=
      List.pairwise_map.mp distinct
    refine apart.imp fun {node other} differ => List.disjoint_left.mpr ?_
    intro edge hnode hother
    obtain ⟨_, _, rfl⟩ := List.mem_map.mp hnode
    obtain ⟨_, _, same⟩ := List.mem_map.mp hother
    exact differ (congrArg Prod.fst same).symm

theorem WellFormed.nodup_edges (h : g.WellFormed) : g.edges.Nodup :=
  Graph.nodup_edges h.distinct h.targetsDistinct

theorem Represents.mem_edges (h : g.Represents added) : e ∈ g.edges ↔ e ∈ added := by
  rw [← h.adjacent e.1 e.2, h.wellFormed.mem_targets]

theorem Represents.edgeCount_eq (h : g.Represents added) :
    g.edgeCount = added.toFinset.card := by
  have same : g.edges.toFinset = added.toFinset := by
    ext e
    rw [List.mem_toFinset, List.mem_toFinset, h.mem_edges]
  rw [edgeCount_eq_length, ← List.toFinset_card_of_nodup h.wellFormed.nodup_edges, same]

theorem edgeCount_congr {g' : Graph} (once : g.edges.Nodup) (once' : g'.edges.Nodup)
    (same : ∀ e, e ∈ g'.edges ↔ e ∈ g.edges) : g'.edgeCount = g.edgeCount := by
  have permuted : g'.edges.Perm g.edges := (List.perm_ext_iff_of_nodup once' once).mpr same
  rw [edgeCount_eq_length, edgeCount_eq_length, permuted.length_eq]

/-- Expressions that say the same have graphs with the same edges and the same count of them. -/
theorem exists_ofExpressions_of_saysTheSame {expressions others : List String}
    (built : ofExpressions expressions = .ok g) (accepted : Accepted expressions)
    (same : SaysTheSame expressions others) :
    ∃ g', ofExpressions others = .ok g' ∧ g'.edgeCount = g.edgeCount ∧
      ∀ a b, b ∈ g'.targets a ↔ b ∈ g.targets a := by
  obtain ⟨g', built'⟩ := exists_ofExpressions_iff.mpr fun other known =>
    (same.accepted.mp accepted other known).imp fun _ => edges_eq_ok_iff.mp
  obtain ⟨wellFormed, hedges⟩ := ofExpressions_spec built
  obtain ⟨wellFormed', hedges'⟩ := ofExpressions_spec built'
  have shared : ∀ a b, (a, b) ∈ g'.edges ↔ (a, b) ∈ g.edges := by
    intro a b
    rw [hedges', hedges, same.dependsOn]
  refine ⟨g', built', ?_, ?_⟩
  · exact edgeCount_congr wellFormed.nodup_edges wellFormed'.nodup_edges fun e => shared e.1 e.2
  · intro a b
    rw [wellFormed'.mem_targets, wellFormed.mem_targets, shared]

/-- The graph of expressions that all stand for edges represents, whenever an edge has been added,
exactly the edges up to this one, and it counts as many as there are different ones. Its edges and
their number are the same for all other expressions that say the same, such as these in another
order, repeated or taken in parts. -/
theorem graph_holds_each_edge_once (expressions : List String) (accepted : Accepted expressions) :
    ∃ ess g, expressions.mapM Dependency.edges = .ok ess ∧ ofExpressions expressions = .ok g ∧
      (∀ added left, added ++ left = ess.flatten →
        (ofEdges added).Represents added ∧ left.foldl Graph.addEdge (ofEdges added) = g) ∧
      g.edgeCount = ess.flatten.toFinset.card ∧
      ∀ others, Relation.EqvGen Regroups expressions others ∨ SaysTheSame expressions others →
        ∃ g', ofExpressions others = .ok g' ∧ g'.edgeCount = g.edgeCount ∧
          ∀ a b, b ∈ g'.targets a ↔ b ∈ g.targets a := by
  obtain ⟨g, built⟩ := exists_ofExpressions_iff.mpr fun expression known =>
    (accepted expression known).imp fun _ => edges_eq_ok_iff.mp
  obtain ⟨ess, means, rfl⟩ := ofExpressions_eq_ok_iff.mp built
  have read : expressions.mapM Dependency.edges = .ok ess :=
    mapM_eq_ok_iff.mpr (means.imp fun _ _ => edges_eq_ok_iff.mpr)
  refine ⟨ess, _, read, built, ?_, (represents_ofEdges _).edgeCount_eq, ?_⟩
  · intro added left all
    refine ⟨represents_ofEdges added, ?_⟩
    rw [ofEdges, ofEdges, ← List.foldl_append, all]
  · rintro others (regrouped | same)
    · exact exists_ofExpressions_of_saysTheSame built accepted (saysTheSame_of_regrouped regrouped)
    · exact exists_ofExpressions_of_saysTheSame built accepted same

/-- Two ways from one task to another, with one edge said twice. The others cut the longer
expression in the middle, come in another order and say the shorter one again. -/
theorem graph_holds_each_edge_once_diamond :
    let expressions := ["a >> [b, c] >> d", "b << a"]
    let others := ["b << a", "b << a", "[b, c] >> d", "a >> [b, c]"]
    Accepted expressions ∧ ∃ g g', ofExpressions expressions = .ok g ∧
      ofExpressions others = .ok g' ∧ g.edgeCount = 4 ∧ g'.edgeCount = 4 ∧
      ∀ a b, b ∈ g'.targets a ↔ b ∈ g.targets a := by
  intro expressions others
  have whole : parse "a >> [b, c] >> d" =
      .ok (some ⟨["a"], [(.before, ["b", "c"]), (.before, ["d"])]⟩) := by cbv
  have start : parse "a >> [b, c]" = .ok (some ⟨["a"], [(.before, ["b", "c"])]⟩) := by cbv
  have finish : parse "[b, c] >> d" = .ok (some ⟨["b", "c"], [(.before, ["d"])]⟩) := by cbv
  have first : Dependency.edges "a >> [b, c] >> d" =
      .ok [("a", "b"), ("a", "c"), ("b", "d"), ("c", "d")] := by cbv
  have second : Dependency.edges "b << a" = .ok [("a", "b")] := by cbv
  have accepted : Accepted expressions :=
    List.forall_mem_cons.mpr ⟨⟨_, first⟩, List.forall_mem_singleton.mpr ⟨_, second⟩⟩
  have cut : Regroups expressions ["a >> [b, c]", "[b, c] >> d", "b << a"] :=
    .parted whole start finish (.cut ["a"] ["b", "c"] .before [] [(.before, ["d"])])
  have moved : Regroups ["a >> [b, c]", "[b, c] >> d", "b << a"]
      ["b << a", "[b, c] >> d", "a >> [b, c]"] := .permuted (by decide)
  have again : Regroups ["b << a", "[b, c] >> d", "a >> [b, c]"] others :=
    .repeated List.mem_cons_self
  have regrouped : Relation.EqvGen Regroups expressions others :=
    ((Relation.EqvGen.rel _ _ cut).trans _ _ _ (.rel _ _ moved)).trans _ _ _ (.rel _ _ again)
  obtain ⟨ess, g, read, built, _, count, unchanged⟩ :=
    graph_holds_each_edge_once expressions accepted
  obtain ⟨g', built', count', shared⟩ := unchanged others (.inl regrouped)
  have four : g.edgeCount = 4 := by
    have said : expressions.mapM Dependency.edges =
        .ok [[("a", "b"), ("a", "c"), ("b", "d"), ("c", "d")], [("a", "b")]] :=
      mapM_eq_ok_iff.mpr (.cons first (.cons second .nil))
    cases said.symm.trans read
    rw [count]
    decide
  exact ⟨accepted, g, g', built, built', four, count'.trans four, shared⟩

end Graph

end WorkflowCompiler.Workflow.Dependency
