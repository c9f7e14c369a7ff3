import WorkflowCompiler.Proofs.Script.Spliced

/-!
The graph that the wiring makes. Its edges are the fixed ones between status nodes, those of the
dependencies and three for each task. The tasks lie between the status nodes that come before all
of them and those that come after, so the graph has a cycle exactly if a task bears the id of one
of these status nodes; the dependencies themselves have none.
-/
namespace WorkflowCompiler.Script

open Workflow (Spec Settled TaskId)
open Workflow.Dependency (Edge Operator Lexes Written Denotes DependsOn tokens)

def startEdges : List Edge :=
  [("notify_start", "initialize"), ("initialize", "notify_after_config"),
    ("initialize", "notify_deactivated")]

def taskEdges (id : String) : List Edge :=
  [("notify_after_config", id), (id, "notify_success"), (id, "notify_failed")]

def commentLines : List String := ["    # Task dependencies", "    #"]

/-- The status nodes that come before all tasks or after all of them. -/
def outerNodes : List String :=
  ["notify_start", "initialize", "notify_after_config", "notify_success", "notify_failed"]

/-- How far from the start a node is; all tasks that bear no outer id are equally far. -/
def layer (id : String) : Nat :=
  if id = "notify_start" then 0
  else if id = "initialize" then 1
  else if id = "notify_after_config" then 2
  else if id = "notify_success" ∨ id = "notify_failed" then 4
  else 3

/-- A relation has no closed walk if it never leads down a layer and what stays within a layer has
none. -/
theorem acyclic_of_layers {α : Type} {linked within : α → α → Prop} (layer : α → Nat)
    (climbs : ∀ a b, linked a b → layer a < layer b ∨ layer a = layer b ∧ within a b)
    (acyclic : ∀ a, ¬ Relation.TransGen within a a) : ∀ a, ¬ Relation.TransGen linked a a := by
  have walks : ∀ a b, Relation.TransGen linked a b →
      layer a < layer b ∨ layer a = layer b ∧ Relation.TransGen within a b := by
    intro a b walk
    induction walk with
    | single edge => exact (climbs _ _ edge).imp_right fun h => ⟨h.1, .single h.2⟩
    | tail _ edge ih =>
      rcases ih with up | ⟨same, walk⟩
      · have := climbs _ _ edge
        exact .inl (by omega)
      · rcases climbs _ _ edge with up | ⟨same', edge⟩
        · exact .inl (by omega)
        · exact .inr ⟨same.trans same', walk.tail edge⟩
  intro a loop
  rcases walks a a loop with up | ⟨_, loop⟩
  · exact Nat.lt_irrefl _ up
  · exact acyclic a loop

section Lines

variable {expression id rest : String} {es : List Edge} {a b : String}

theorem dependsOn_append {lines others : List String} :
    DependsOn (lines ++ others) a b ↔ DependsOn lines a b ∨ DependsOn others a b := by
  simp only [Workflow.Dependency.DependsOn, List.mem_append, or_and_right, exists_or]

/-- Indentation does not change what an expression means. -/
theorem denotes_indented (h : Denotes expression es) : Denotes ("    " ++ expression) es := by
  obtain ⟨ts, lexes, meaning⟩ := h
  exact ⟨ts, lexes_indented lexes, meaning⟩

/-- A line that links a task with a status node. -/
theorem denotes_edge (wellNamed : TaskId id) {o : Operator} {node : String}
    (read : tokens rest.toList = .ok [.operator o, .id node])
    (spaced : rest.toList.head? = some ' ') :
    Denotes ("    " ++ id ++ rest) (o.edges [id] [node]) := by
  obtain ⟨nonempty, all⟩ := isIdCharacter_of_taskId wellNamed
  have lexes : Lexes (id ++ rest).toList [.id id, .operator o, .id node] := by
    have := Lexes.id nonempty all (not_isIdCharacter_of_spaced spaced)
      (Workflow.Dependency.lexes_of_tokens read)
    rwa [String.ofList_toList, ← String.toList_append] at this
  have written : Written ⟨[id], [(o, [node])]⟩ [.id id, .operator o, .id node] :=
    .mk (.single id) (.cons (.single node) .nil)
  rw [String.append_assoc]
  refine denotes_indented ⟨_, lexes, .inr ⟨_, written, ?_⟩⟩
  rw [← Workflow.Dependency.edgesFrom_eq]
  simp [Workflow.Dependency.edgesFrom]

theorem denotes_statusEdges (wellNamed : TaskId id) :
    List.Forall₂ Denotes (statusEdges id)
      [[("notify_after_config", id)], [(id, "notify_success")], [(id, "notify_failed")]] := by
  refine .cons ?_ (.cons ?_ (.cons ?_ .nil))
  · exact denotes_edge (o := .after) wellNamed (by cbv) rfl
  · exact denotes_edge (o := .before) wellNamed (by cbv) rfl
  · exact denotes_edge (o := .before) wellNamed (by cbv) rfl

theorem dependsOn_heading : DependsOn wiringHeading a b ↔ (a, b) ∈ startEdges := by
  have read : ∀ line es, Workflow.Dependency.edges line = .ok es → Denotes line es :=
    fun _ _ => Workflow.Dependency.edges_eq_ok_iff.mp
  have code : List.Forall₂ Denotes ["    notify_start >> initialize >> notify_after_config",
      "    initialize >> notify_deactivated"] [[("notify_start", "initialize"),
        ("initialize", "notify_after_config")], [("initialize", "notify_deactivated")]] :=
    .cons (read _ _ (by cbv)) (.cons (read _ _ (by cbv)) .nil)
  have blank : List.Forall₂ Denotes [""] [[]] := .cons (read _ _ (by cbv)) .nil
  have comments : ¬ DependsOn commentLines a b := by
    rintro ⟨line, hline, es, ⟨ts, lexes, _⟩, _⟩
    have hash : ∀ line ∈ commentLines, '#' ∈ line.toList := by decide
    exact lexes.not_mem_hash (hash line hline)
  have heading : wiringHeading = [""] ++ (commentLines ++
      ["    notify_start >> initialize >> notify_after_config",
        "    initialize >> notify_deactivated"]) := rfl
  rw [heading, dependsOn_append, dependsOn_append, or_iff_right comments,
    ← Workflow.Dependency.Graph.mem_flatten_iff_dependsOn blank,
    ← Workflow.Dependency.Graph.mem_flatten_iff_dependsOn code]
  simp [startEdges]

theorem dependsOn_statusEdges (wellNamed : TaskId id) :
    DependsOn (statusEdges id) a b ↔ (a, b) ∈ taskEdges id :=
  (Workflow.Dependency.Graph.mem_flatten_iff_dependsOn (denotes_statusEdges wellNamed)).symm

theorem dependsOn_flatMap {α : Type} {items : List α} {f : α → List String} :
    DependsOn (items.flatMap f) a b ↔ ∃ item ∈ items, DependsOn (f item) a b := by
  simp only [Workflow.Dependency.DependsOn, List.mem_flatMap]
  constructor
  · rintro ⟨line, ⟨item, hitem, hline⟩, means⟩
    exact ⟨item, hitem, line, hline, means⟩
  · rintro ⟨item, hitem, line, hline, means⟩
    exact ⟨line, ⟨item, hitem, hline⟩, means⟩

end Lines

section Graph

variable {spec : Spec} {graph : Workflow.Dependency.Graph} {a b : String}

theorem dependsOn_indented (settled : Settled spec graph) :
    DependsOn (spec.dependencies.map ("    " ++ ·)) a b ↔ DependsOn spec.dependencies a b := by
  constructor
  · rintro ⟨line, hline, es, means, edge⟩
    obtain ⟨expression, he, rfl⟩ := List.mem_map.mp hline
    obtain ⟨⟨es', means'⟩, _⟩ := Workflow.names_iff.mp (settled.sound.declared expression he)
    obtain rfl := means.unique (denotes_indented means')
    exact ⟨expression, he, es, means', edge⟩
  · rintro ⟨expression, he, es, means, edge⟩
    exact ⟨_, List.mem_map_of_mem he, es, denotes_indented means, edge⟩

/-- The edges of the wiring. -/
theorem dependsOn_wiringLines (settled : Settled spec graph) :
    DependsOn (wiringLines spec) a b ↔ (a, b) ∈ startEdges ∨ DependsOn spec.dependencies a b ∨
      ∃ task ∈ spec.tasks, (a, b) ∈ taskEdges task.id := by
  rw [wiringLines, dependsOn_append, dependsOn_append, dependsOn_heading,
    dependsOn_indented settled, dependsOn_flatMap, or_assoc]
  refine or_congr_right (or_congr_right ?_)
  exact exists_congr fun task => and_congr_right fun htask =>
    dependsOn_statusEdges (settled.taskId task htask)

/-- Every line of the wiring that is no comment means something. -/
theorem exists_edges_of_mem_wiringLines (settled : Settled spec graph) :
    ∀ line ∈ wiringLines spec, line ∉ commentLines →
      ∃ es, Workflow.Dependency.edges line = .ok es := by
  intro line hline code
  rcases List.mem_append.mp hline with hline | hline
  · rcases List.mem_append.mp hline with hline | hline
    · have heading : ∀ line ∈ wiringHeading, line ∈ commentLines ∨
          ∃ es, Workflow.Dependency.edges line = .ok es := by
        simp only [wiringHeading, List.forall_mem_cons, List.not_mem_nil, false_imp_iff,
          implies_true, and_true]
        exact ⟨.inr ⟨_, by cbv⟩, .inl (by decide), .inl (by decide), .inr ⟨_, by cbv⟩,
          .inr ⟨_, by cbv⟩⟩
      exact (heading line hline).resolve_left code
    · obtain ⟨expression, he, rfl⟩ := List.mem_map.mp hline
      obtain ⟨⟨es, means⟩, _⟩ := Workflow.names_iff.mp (settled.sound.declared expression he)
      exact ⟨es, Workflow.Dependency.edges_eq_ok_iff.mpr (denotes_indented means)⟩
  · obtain ⟨task, htask, hline⟩ := List.mem_flatMap.mp hline
    have meant := denotes_statusEdges (settled.taskId task htask)
    obtain ⟨es, _, means⟩ := exists_mem_of_forall₂ meant.flip line hline
    exact ⟨es, Workflow.Dependency.edges_eq_ok_iff.mpr means⟩

/-- The dependencies link tasks. -/
theorem mem_ids_of_dependsOn (settled : Settled spec graph) (h : DependsOn spec.dependencies a b) :
    a ∈ spec.tasks.map (·.id) ∧ b ∈ spec.tasks.map (·.id) := by
  obtain ⟨expression, he, es, means, edge⟩ := h
  obtain ⟨_, declared⟩ := Workflow.names_iff.mp (settled.sound.declared expression he)
  obtain ⟨ha, hb⟩ := means.mem_mentioned edge
  exact ⟨declared a ha, declared b hb⟩

theorem layer_of_not_mem_outerNodes {id : String} (h : id ∉ outerNodes) : layer id = 3 := by
  simp only [outerNodes, List.mem_cons, List.not_mem_nil, or_false, not_or] at h
  simp [layer, h]

/-- Each edge of the wiring leads to a later layer, or is a dependency. -/
theorem layer_of_dependsOn_wiringLines (settled : Settled spec graph)
    (apart : ∀ task ∈ spec.tasks, task.id ∉ outerNodes) (h : DependsOn (wiringLines spec) a b) :
    layer a < layer b ∨ layer a = layer b ∧ DependsOn spec.dependencies a b := by
  have middle : ∀ id ∈ spec.tasks.map (·.id), layer id = 3 := by
    intro id hid
    obtain ⟨task, htask, rfl⟩ := List.mem_map.mp hid
    exact layer_of_not_mem_outerNodes (apart task htask)
  rcases (dependsOn_wiringLines settled).mp h with start | dependency | ⟨task, htask, edge⟩
  · have climbs : ∀ edge ∈ startEdges, layer edge.1 < layer edge.2 := by decide
    exact .inl (climbs _ start)
  · obtain ⟨ha, hb⟩ := mem_ids_of_dependsOn settled dependency
    exact .inr ⟨(middle a ha).trans (middle b hb).symm, dependency⟩
  · have same := middle task.id (List.mem_map_of_mem htask)
    simp only [taskEdges, List.mem_cons, List.not_mem_nil, or_false, Prod.mk.injEq] at edge
    left
    rcases edge with ⟨rfl, rfl⟩ | ⟨rfl, rfl⟩ | ⟨rfl, rfl⟩
    · rw [same]; decide
    · rw [same]; decide
    · rw [same]; decide

/-- A task that bears the id of an outer node lies on a cycle. -/
theorem cycle_of_mem_outerNodes (settled : Settled spec graph) {task : Workflow.Task}
    (htask : task ∈ spec.tasks) (outer : task.id ∈ outerNodes) :
    ∃ id, Relation.TransGen (DependsOn (wiringLines spec)) id id := by
  have start : ∀ a b, (a, b) ∈ startEdges → DependsOn (wiringLines spec) a b :=
    fun a b edge => (dependsOn_wiringLines settled).mpr (.inl edge)
  have own : ∀ a b, (a, b) ∈ taskEdges task.id → DependsOn (wiringLines spec) a b :=
    fun a b edge => (dependsOn_wiringLines settled).mpr (.inr (.inr ⟨task, htask, edge⟩))
  have back : DependsOn (wiringLines spec) "notify_after_config" task.id :=
    own _ _ List.mem_cons_self
  have onward : DependsOn (wiringLines spec) "initialize" "notify_after_config" :=
    start _ _ (by decide)
  refine ⟨task.id, ?_⟩
  simp only [outerNodes, List.mem_cons, List.not_mem_nil, or_false] at outer
  rcases outer with same | same | same | same | same
  · have first : DependsOn (wiringLines spec) task.id "initialize" := by
      rw [same]
      exact start _ _ (by decide)
    exact .tail (.tail (.single first) onward) back
  · rw [← same] at onward
    exact .tail (.single onward) back
  · rw [← same] at back
    exact .single back
  · have loop : DependsOn (wiringLines spec) task.id "notify_success" :=
      own _ _ (by simp [taskEdges])
    rw [← same] at loop
    exact .single loop
  · have loop : DependsOn (wiringLines spec) task.id "notify_failed" :=
      own _ _ (by simp [taskEdges])
    rw [← same] at loop
    exact .single loop

/-- A deployable script ends with the lines of its wiring, and each of them is a comment or has
edges. These form a graph without cycles exactly if no task bears the id of a status node that
comes before all tasks or after all of them. -/
theorem wiring_acyclic_iff {files : Files.Tree} {path : String} {loaded : Workflow.Loaded}
    (accepted : Workflow.load files path = .ok loaded) :
    (∀ files subset a, assemble files loaded.spec .deployable subset = .ok a →
      ∃ above, linesOf a.source =
        above ++ (wiringLines loaded.spec).map String.toList ++ [[]]) ∧
    (∀ line ∈ wiringLines loaded.spec, line ∉ commentLines →
      ∃ es, Workflow.Dependency.edges line = .ok es) ∧
    ((∀ id, ¬ Relation.TransGen (DependsOn (wiringLines loaded.spec)) id id) ↔
      ∀ task ∈ loaded.spec.tasks, task.id ∉ outerNodes) := by
  have settled := Workflow.settled_of_load accepted
  refine ⟨fun files subset a => exists_linesOf_deployable settled,
    exists_edges_of_mem_wiringLines settled, ?_⟩
  constructor
  · intro acyclic task htask outer
    obtain ⟨id, loop⟩ := cycle_of_mem_outerNodes settled htask outer
    exact acyclic id loop
  · intro apart
    exact acyclic_of_layers layer (fun _ _ => layer_of_dependsOn_wiringLines settled apart)
      settled.sound.acyclic

/-- A task with the id of the status node that is a branch of its own. -/
theorem wiring_acyclic_iff_deactivated :
    let files := Workflow.besideQueries ["ab", "notify_deactivated"] ["ab >> notify_deactivated"]
    ∃ loaded, Workflow.load files "/w" = .ok loaded ∧
      loaded.spec.tasks.map (·.id) = ["ab", "notify_deactivated"] ∧
      ∀ id, ¬ Relation.TransGen (DependsOn (wiringLines loaded.spec)) id id := by
  intro files
  have ran : (Workflow.loadDocument files "/w" "/" (Workflow.queries ["ab", "notify_deactivated"]
      ["ab >> notify_deactivated"])).toOption.map (·.spec.tasks.map (·.id)) =
      some ["ab", "notify_deactivated"] := by decide +kernel
  obtain ⟨loaded, accepted, ids⟩ := Option.map_eq_some_iff.mp ran
  rw [toOption_eq_some_iff, ← Workflow.load_besideQueries] at accepted
  obtain ⟨_, _, acyclic⟩ := wiring_acyclic_iff accepted
  refine ⟨loaded, accepted, ids, acyclic.mpr fun task htask => ?_⟩
  have apart : ∀ id ∈ loaded.spec.tasks.map (·.id), id ∉ outerNodes := by
    rw [ids]
    decide
  exact apart task.id (List.mem_map_of_mem htask)

/-- A task named like the status node of success is accepted, and it waits for itself. -/
theorem success_waits_for_itself :
    let files := Workflow.besideQueries ["notify_success"] []
    ∃ loaded a, Workflow.load files "/w" = .ok loaded ∧
      assemble files loaded.spec .deployable [] = .ok a ∧
      "    notify_success >> notify_success" ∈ wiringLines loaded.spec ∧
      "    notify_success >> notify_success".toList ∈ linesOf a.source ∧
      DependsOn (wiringLines loaded.spec) "notify_success" "notify_success" := by
  intro files
  have ran : (do
      let loaded ← (Workflow.loadDocument files "/w" "/"
        (Workflow.queries ["notify_success"] [])).toOption
      let _ ← (assemble files loaded.spec .deployable []).toOption
      some (loaded.spec.tasks.map (·.id))) = some ["notify_success"] := by decide +kernel
  simp only [Option.bind_eq_bind, Option.bind_eq_some_iff, toOption_eq_some_iff,
    Option.some.injEq] at ran
  obtain ⟨loaded, accepted, a, assembled, ids⟩ := ran
  rw [← Workflow.load_besideQueries] at accepted
  have settled := Workflow.settled_of_load accepted
  have present : "    notify_success >> notify_success" ∈ wiringLines loaded.spec := by
    refine List.mem_append_right _ ?_
    rw [← List.flatMap_map (fun task : Workflow.Task => task.id) statusEdges, ids]
    decide +kernel
  refine ⟨loaded, a, accepted, assembled, present, ?_, ?_⟩
  · obtain ⟨above, lines⟩ := exists_linesOf_deployable settled assembled
    rw [lines]
    exact List.mem_append_left _ (List.mem_append_right _ (List.mem_map_of_mem present))
  · have read : Workflow.Dependency.edges "    notify_success >> notify_success" =
        .ok [("notify_success", "notify_success")] := by cbv
    exact ⟨_, present, _, Workflow.Dependency.edges_eq_ok_iff.mp read, List.mem_cons_self⟩

end Graph

end WorkflowCompiler.Script
