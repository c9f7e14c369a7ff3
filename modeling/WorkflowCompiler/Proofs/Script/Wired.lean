import WorkflowCompiler.Proofs.Script.Modes
import WorkflowCompiler.Proofs.Workflow.Written

/-!
The wiring of deployable scripts. A deployable script consists of its fixed parts, its header, the
code of every task and the wiring, which has each dependency as it is in the specification and
three edges for each task. Whatever the wiring names has been assigned above it: the tasks by their
own code, and everything else by the status nodes.
-/
namespace WorkflowCompiler.Script

open Workflow (Spec Task Kind Settled TaskId)
open Workflow.Dependency (Token Lexes isIdCharacter names)

/-- The identifiers in a line of code without literals: the longest runs of id characters before
a comment. -/
def identifiers (line : String) : List String :=
  (Text.runsOf (!isIdCharacter ·) (line.toList.takeWhile (· ≠ '#'))).map String.ofList

/-- A line of the text assigns a variable in the block of the workflow. -/
def Assigns (text id : String) : Prop :=
  ∃ line ∈ linesOf text, ("    " ++ id ++ " = ").toList <+: line

def statusNodes : List String :=
  ["notify_start", "initialize", "notify_after_config", "notify_deactivated", "notify_success",
    "notify_failed"]

section Identifiers

variable {line : String} {ts : List Token} {id : String}

theorem identifiers_of_not_mem_hash (noComment : '#' ∉ line.toList) :
    identifiers line = (Text.runsOf (!isIdCharacter ·) line.toList).map String.ofList := by
  have whole : line.toList.takeWhile (· ≠ '#') = line.toList := by
    rw [List.takeWhile_eq_self_iff]
    intro c hc
    rw [decide_eq_true_eq]
    rintro rfl
    exact noComment hc
  rw [identifiers, whole]

theorem identifiers_of_lexes (h : Lexes line.toList ts) : identifiers line = names ts := by
  rw [identifiers_of_not_mem_hash h.not_mem_hash, h.runsOf_eq_names]

/-- Indentation does not count. -/
theorem lexes_indented (h : Lexes line.toList ts) : Lexes ("    " ++ line).toList ts := by
  have space : Workflow.Dependency.IsInlineBlank ' ' := ⟨by decide, by decide, by decide⟩
  rw [String.toList_append]
  exact .blank space (.blank space (.blank space (.blank space h)))

theorem isIdCharacter_of_taskId (h : TaskId id) :
    id.toList ≠ [] ∧ ∀ c ∈ id.toList, isIdCharacter c = true :=
  ⟨h.ne_nil, fun c hc => (h.isWordCharacter c hc).isIdCharacter⟩

/-- A space ends an id. -/
theorem not_isIdCharacter_of_spaced {rest : List Char} (spaced : rest.head? = some ' ') :
    ∀ c ∈ rest.head?, isIdCharacter c = false := by
  intro c hc
  obtain rfl : ' ' = c := Option.some.inj (spaced.symm.trans hc)
  rfl

/-- The first identifier of an edge is the task that it is for. -/
theorem identifiers_edge (wellNamed : TaskId id) {rest : String} (noComment : '#' ∉ rest.toList)
    (stop : ∀ c ∈ rest.toList.head?, isIdCharacter c = false) :
    identifiers ("    " ++ id ++ rest) = id :: identifiers rest := by
  obtain ⟨nonempty, all⟩ := isIdCharacter_of_taskId wellNamed
  have edge : ("    " ++ id ++ rest).toList =
      ' ' :: ' ' :: ' ' :: ' ' :: (id.toList ++ rest.toList) := by
    simp
  have unhashed : '#' ∉ id.toList := fun hc => absurd (all _ hc) (by decide)
  have uncommented : '#' ∉ ("    " ++ id ++ rest).toList := by
    rw [edge]
    simp [unhashed, noComment]
  rw [identifiers_of_not_mem_hash uncommented, identifiers_of_not_mem_hash noComment, edge]
  iterate 4 rw [Text.runsOf_cons_of_pos (by decide)]
  rw [Text.runsOf_append nonempty (fun c hc => by simp [all c hc]) (fun c hc => by simp [stop c hc]),
    List.map_cons, String.ofList_toList]

/-- The edges of a task name the task and status nodes. -/
theorem identifiers_statusEdges (wellNamed : TaskId id) :
    ∀ line ∈ statusEdges id, ∀ name ∈ identifiers line, name = id ∨ name ∈ statusNodes := by
  have edge : ∀ rest : String, '#' ∉ rest.toList → rest.toList.head? = some ' ' →
      (∀ name ∈ identifiers rest, name ∈ statusNodes) →
      ∀ name ∈ identifiers ("    " ++ id ++ rest), name = id ∨ name ∈ statusNodes := by
    intro rest noComment spaced nodes name hname
    rw [identifiers_edge wellNamed noComment (not_isIdCharacter_of_spaced spaced)] at hname
    exact (List.mem_cons.mp hname).imp_right (nodes name)
  simp only [statusEdges, List.forall_mem_cons, List.not_mem_nil, false_imp_iff, implies_true,
    and_true]
  refine ⟨edge _ ?_ ?_ ?_, edge _ ?_ ?_ ?_, edge _ ?_ ?_ ?_⟩
  all_goals
    decide +kernel

theorem identifiers_heading :
    ∀ line ∈ wiringHeading, ∀ name ∈ identifiers line, name ∈ statusNodes := by
  decide +kernel

theorem identifiers_wiringLines {spec : Spec} {graph : Workflow.Dependency.Graph}
    (settled : Settled spec graph) :
    ∀ line ∈ wiringLines spec, ∀ name ∈ identifiers line,
      name ∈ spec.tasks.map (·.id) ∨ name ∈ statusNodes := by
  intro line hline name hname
  rcases List.mem_append.mp hline with hline | hline
  · rcases List.mem_append.mp hline with hline | hline
    · exact .inr (identifiers_heading line hline name hname)
    · obtain ⟨expression, he, rfl⟩ := List.mem_map.mp hline
      obtain ⟨ts, hts, _, declared⟩ := settled.sound.declared expression he
      rw [identifiers_of_lexes (lexes_indented hts), Workflow.Dependency.mem_names] at hname
      exact .inl (declared name hname)
  · obtain ⟨task, htask, hline⟩ := List.mem_flatMap.mp hline
    refine (identifiers_statusEdges (settled.taskId task htask) line hline name hname).imp_left ?_
    rintro rfl
    exact List.mem_map_of_mem htask

end Identifiers

section Assigned

variable {files : Files.Tree} {ctx : Context} {task : Task} {f : Fragment} {t : Template}
  {id : String}

theorem prefix_openingLine (kind : Kind) (id : String) :
    ("    " ++ id ++ " = ").toList <+: (openingLine .deployable kind id).toList := by
  obtain ⟨operator, same⟩ := exists_openingLine_deployable kind id
  rw [same, String.toList_append (t := operator)]
  exact List.prefix_append _ _

theorem Compiled.assigns (h : Compiled files ctx .deployable task t f)
    (ht : templateFor .deployable task.kind = some t) (whole : Unbroken task.id.toList) :
    Assigns f.code task.id :=
  ⟨_, h.openingLine_mem ht whole, prefix_openingLine task.kind task.id⟩

theorem assigns_telemetry : ∀ id ∈ statusNodes, Assigns telemetry id := by
  have assigned : ∀ id operator : String, "    " ++ id ++ " = " ++ operator ∈ telemetryLines →
      Assigns telemetry id := by
    intro id operator hline
    refine ⟨("    " ++ id ++ " = " ++ operator).toList, ?_, ?_⟩
    · rw [linesOf, lined_telemetry.splitAtEach]
      exact List.mem_append_left _ (List.mem_map_of_mem hline)
    · rw [String.toList_append (t := operator)]
      exact List.prefix_append _ _
  simp only [statusNodes, List.forall_mem_cons, List.not_mem_nil, false_imp_iff, implies_true,
    and_true]
  refine ⟨assigned _ "StatusPublisherOperator(" ?_, assigned _ "BranchPythonOperator(" ?_,
    assigned _ "StatusPublisherOperator(" ?_, assigned _ "StatusPublisherOperator(" ?_,
    assigned _ "StatusPublisherOperator(" ?_, assigned _ "StatusPublisherOperator(" ?_⟩
  all_goals
    simp [telemetryLines]

theorem Assigns.join {texts : List String} {text : String} (h : Assigns text id)
    (lined : ∀ text ∈ texts, ∃ lines, Lined text.toList lines) (htext : text ∈ texts) :
    Assigns (String.join texts) id := by
  obtain ⟨line, hline, begins⟩ := h
  exact ⟨line, mem_linesOf_join lined htext hline, begins⟩

end Assigned

section Scripts

variable {files : Files.Tree} {spec : Spec} {graph : Workflow.Dependency.Graph}
  {subset : List String} {a : Artifact}

/-- There is code for every task of a deployable script. -/
theorem exists_fragments {ctx : Context} {tasks : List Task} {compiled : List (Option Fragment)}
    (h : List.Forall₂ (fun task f? => compileTask ctx files .deployable task = .ok f?)
      tasks compiled) :
    ∃ fragments, compiled.filterMap id = fragments ∧
      List.Forall₂ (fun task f => compileTask ctx files .deployable task = .ok (some f))
        tasks fragments := by
  induction h with
  | nil => exact ⟨[], rfl, .nil⟩
  | @cons task f? tasks compiled first _ ih =>
    obtain ⟨fragments, same, rest⟩ := ih
    rcases compiled_of_compileTask first with ⟨without, _⟩ | ⟨_, f, _, rfl, _⟩
    · cases (templateFor_eq_none_iff.mp without).1
    · exact ⟨f :: fragments, by simpa using same, .cons first rest⟩

/-- A deployable script contains all tasks, whichever are asked for. -/
theorem assemble_deployable (files : Files.Tree) (spec : Spec) (subset other : List String) :
    assemble files spec .deployable subset = assemble files spec .deployable other := by
  simp [assemble, selectTasks]

theorem join_wiring (pieces : List String) (wiring : String) :
    String.join (pieces ++ [telemetry ++ wiring]) = String.join (pieces ++ [telemetry, wiring]) := by
  apply String.toList_inj.mp
  simp only [String.toList_join, List.flatMap_append, List.flatMap_cons, List.flatMap_nil,
    String.toList_append, List.append_nil]

theorem unbroken_wiringLines (settled : Settled spec graph) :
    ∀ line ∈ wiringLines spec, Unbroken line.toList := by
  have fixed : ∀ line ∈ wiringHeading, Unbroken line.toList := by decide +kernel
  have indented : ∀ text : String, Unbroken text.toList → Unbroken ("    " ++ text).toList := by
    intro text whole
    rw [String.toList_append]
    exact unbroken_append.mpr ⟨by decide, whole⟩
  have edge : ∀ id rest : String, Unbroken id.toList → Unbroken rest.toList →
      Unbroken ("    " ++ id ++ rest).toList := by
    intro id rest hid hrest
    rw [String.toList_append]
    exact unbroken_append.mpr ⟨indented id hid, hrest⟩
  intro line hline
  rcases List.mem_append.mp hline with hline | hline
  · rcases List.mem_append.mp hline with hline | hline
    · exact fixed line hline
    · obtain ⟨expression, he, rfl⟩ := List.mem_map.mp hline
      exact indented expression (settled.unbroken_dependency expression he)
  · obtain ⟨task, htask, hline⟩ := List.mem_flatMap.mp hline
    have whole := settled.unbroken_id task htask
    simp only [statusEdges, List.mem_cons, List.not_mem_nil, or_false] at hline
    rcases hline with rfl | rfl | rfl
    · exact edge _ _ whole (by decide)
    · exact edge _ _ whole (by decide)
    · exact edge _ _ whole (by decide)

/-- What the wiring names is assigned by the code of a task or by the status nodes. -/
theorem exists_assigns (settled : Settled spec graph) {fragments : List Fragment}
    (compiles : List.Forall₂
      (fun task f => compileTask (.ofSpec spec) files .deployable task = .ok (some f))
      spec.tasks fragments) :
    ∀ line ∈ wiringLines spec, ∀ id ∈ identifiers line,
      ∃ block ∈ fragments.map (·.code) ++ [telemetry], Assigns block id := by
  intro line hline id hid
  rcases identifiers_wiringLines settled line hline id hid with declared | status
  · obtain ⟨task, htask, rfl⟩ := List.mem_map.mp declared
    obtain ⟨f, hf, made⟩ := exists_mem_of_forall₂ compiles.flip task htask
    rcases compiled_of_compileTask made with ⟨_, absent⟩ | ⟨t, _, ht, same, compiled⟩
    · cases absent
    · cases same
      exact ⟨f.code, List.mem_append_left _ (List.mem_map_of_mem hf),
        compiled.assigns ht (settled.unbroken_id task htask)⟩
  · exact ⟨telemetry, List.mem_append_right _ List.mem_cons_self, assigns_telemetry id status⟩

/-- What stands above the wiring ends with its lines. -/
theorem exists_lined (settled : Settled spec graph) {head : String} {fragments : List Fragment}
    (heading : header spec = .ok head) (compiles : List.Forall₂
      (fun task f => compileTask (.ofSpec spec) files .deployable task = .ok (some f))
      spec.tasks fragments) :
    ∀ text ∈ [prelude, helpers, head] ++ fragments.map (·.code) ++ [telemetry],
      ∃ lines, Lined text.toList lines := by
  have fixed : ∀ text ∈ [prelude, helpers, head], ∃ lines, Lined text.toList lines := by
    obtain ⟨_, _, _, _, linedHead⟩ := exists_lines_header settled heading
    simp only [List.forall_mem_cons, List.not_mem_nil, false_imp_iff, implies_true, and_true]
    exact ⟨⟨_, lined_prelude⟩, ⟨_, lined_helpers⟩, ⟨_, linedHead⟩⟩
  have codes : ∀ text ∈ fragments.map (·.code), ∃ lines, Lined text.toList lines := by
    intro text htext
    obtain ⟨f, hf, rfl⟩ := List.mem_map.mp htext
    obtain ⟨task, htask, made⟩ := exists_mem_of_forall₂ compiles f hf
    exact exists_lined_code (settled.unbroken_id task htask) made
  refine List.forall_mem_append.mpr ⟨List.forall_mem_append.mpr ⟨fixed, codes⟩, ?_⟩
  exact List.forall_mem_singleton.mpr ⟨_, lined_telemetry⟩

/-- A deployable script is complete: it is the fixed parts, the header, the code of every task in
their order, the status nodes and the wiring. Each wiring line stays on a line of its own and names
only what the code of a task or the status nodes assign on a line above. -/
structure Complete (files : Files.Tree) (spec : Spec) (a : Artifact) (head : String)
    (fragments : List Fragment) : Prop where
  heading : header spec = .ok head
  compiles : List.Forall₂
    (fun task f => compileTask (.ofSpec spec) files .deployable task = .ok (some f))
    spec.tasks fragments
  source : a.source = String.join ([prelude, helpers, head] ++ fragments.map (·.code) ++
    [telemetry, ofLines (wiringLines spec)])
  unbroken : ∀ line ∈ wiringLines spec, Unbroken line.toList
  assigned : ∀ line ∈ wiringLines spec, ∀ id ∈ identifiers line,
    ∃ block ∈ fragments.map (·.code) ++ [telemetry], Assigns block id
  above : ∀ line ∈ wiringLines spec, ∀ id ∈ identifiers line,
    Assigns (String.join ([prelude, helpers, head] ++ fragments.map (·.code) ++ [telemetry])) id

/-- Whenever a deployable script can be made it is complete, and what has been asked for makes no
difference. -/
theorem deployable_complete {sources files : Files.Tree} {path : String} {loaded : Workflow.Loaded}
    {subset : List String} {a : Artifact} (accepted : Workflow.load sources path = .ok loaded)
    (assembled : assemble files loaded.spec .deployable subset = .ok a) :
    (∃ head fragments, Complete files loaded.spec a head fragments) ∧
    ∀ other, assemble files loaded.spec .deployable other = .ok a := by
  have settled := Workflow.settled_of_load accepted
  obtain ⟨tasks, compiled, head, last, made⟩ := assembled_of_assemble assembled
  obtain rfl : loaded.spec.tasks = tasks := Except.ok.inj made.selects
  obtain ⟨fragments, rfl, compiles⟩ := exists_fragments made.compiles
  have wired : ending loaded.spec .deployable (compiled.filterMap id) =
      .ok (telemetry ++ ofLines (wiringLines loaded.spec)) :=
    bind_eq_ok_iff.mpr ⟨_, wiring_eq loaded.spec, rfl⟩
  obtain rfl := Except.ok.inj (made.ending.symm.trans wired)
  have assigned := exists_assigns settled compiles
  refine ⟨⟨head, compiled.filterMap id, made.heading, compiles, ?_, unbroken_wiringLines settled,
    assigned, fun line hline id hid => ?_⟩,
    fun other => (assemble_deployable files loaded.spec other subset).trans assembled⟩
  · rw [made.source]
    exact join_wiring _ _
  · obtain ⟨block, hblock, assigns⟩ := assigned line hline id hid
    refine assigns.join (exists_lined settled made.heading compiles) ?_
    rw [List.append_assoc]
    exact List.mem_append_right _ hblock

/-- A query that waits for a machine launch; only the query is asked for. -/
theorem deployable_complete_launch :
    let files := Workflow.besideLaunch
    ∃ loaded a head first second, Workflow.load files "/w" = .ok loaded ∧
      loaded.spec.tasks.map (·.id) = ["ab", "vm"] ∧ loaded.spec.dependencies = ["vm >> ab"] ∧
      assemble files loaded.spec .deployable ["ab"] = .ok a ∧
      Complete files loaded.spec a head [first, second] := by
  intro files
  have ran : (do
      let loaded ← (Workflow.loadDocument files "/w" "/" Workflow.launchThenQuery).toOption
      let _ ← (assemble files loaded.spec .deployable ["ab"]).toOption
      some (loaded.spec.tasks.map (·.id), loaded.spec.dependencies)) =
      some (["ab", "vm"], ["vm >> ab"]) := by decide +kernel
  simp only [Option.bind_eq_bind, Option.bind_eq_some_iff, toOption_eq_some_iff, Option.some.injEq,
    Prod.mk.injEq] at ran
  obtain ⟨loaded, accepted, a, assembled, ids, dependencies⟩ := ran
  rw [← Workflow.load_besideLaunch] at accepted
  obtain ⟨⟨head, fragments, complete⟩, _⟩ := deployable_complete accepted assembled
  have two : fragments.length = 2 := by
    rw [← complete.compiles.length_eq, ← List.length_map (·.id), ids]
    rfl
  obtain ⟨first, second, rfl⟩ := List.length_eq_two.mp two
  exact ⟨loaded, a, head, first, second, accepted, ids, dependencies, assembled, complete⟩

end Scripts

end WorkflowCompiler.Script
