import WorkflowCompiler.Proofs.Script.Structure
import WorkflowCompiler.Proofs.Workflow.Written

/-!
How many lines a script has. The number depends on the mode, on the kinds of the tasks the script
is made of and on which of them are documented, and on how many dependencies and tasks there are;
no text that comes from a specification or a file counts, because none can break a line.
-/
namespace WorkflowCompiler.Script

open Workflow (Spec Task Kind Settled)

def taskHeight (mode : Mode) (kind : Kind) (documented : Bool) : Nat :=
  (templateFor mode kind).elim 0 (·.heightWith documented)

/-- What the number of lines depends on in a task. -/
def taskShape (files : Files.Tree) (spec : Spec) (task : Task) : Kind × Bool :=
  (task.kind, documented files (.ofSpec spec) task)

theorem map_taskShape (files : Files.Tree) (spec : Spec) : spec.tasks.map (taskShape files spec) =
    (spec.tasks.map (·.kind)).zip (spec.tasks.map (documented files (.ofSpec spec))) :=
  List.zip_map'.symm

def scriptHeight (mode : Mode) (shapes : List (Kind × Bool)) (dependencies nodes : Nat) : Nat :=
  preludeLines.length + (helpersLines.length + (headingHeight mode +
    ((shapes.map fun shape => taskHeight mode shape.1 shape.2).sum +
      endingHeight mode
        (shapes.filter fun shape => (templateFor .standalone shape.1).isSome).length
        dependencies nodes)))

variable {files : Files.Tree} {spec : Spec} {graph : Workflow.Dependency.Graph} {mode : Mode}
  {subset : List String}

theorem Contributes.length_eq {task : Task} {f? : Option Fragment} {lines : List (List Char)}
    (h : Contributes files (.ofSpec spec) mode task f? lines) :
    lines.length =
      taskHeight mode (taskShape files spec task).1 (taskShape files spec task).2 := by
  cases h with
  | nothing without => rw [taskShape, taskHeight, without]; rfl
  | code ht _ height _ => rw [taskShape, taskHeight, ht]; exact height

/-- The shapes of the tasks of a script are those at the positions picked. -/
theorem shapes_eq {tasks : List Task} (h : selectTasks spec mode subset = .ok tasks) :
    tasks.map (taskShape files spec) =
      (picked spec mode subset).filterMap ((spec.tasks.map (taskShape files spec))[·]?) := by
  calc tasks.map (taskShape files spec)
      = (tasks.map some).filterMap (Option.map (taskShape files spec)) := by simp
    _ = ((picked spec mode subset).map (spec.tasks[·]?)).filterMap
          (Option.map (taskShape files spec)) := by rw [map_some_of_selectTasks h]
    _ = (picked spec mode subset).filterMap ((spec.tasks.map (taskShape files spec))[·]?) := by
        rw [List.filterMap_map]
        simp only [Function.comp_def, List.getElem?_map]

/-- The number of lines of a script. -/
theorem breaks_of_assemble {a : Artifact} (settled : Settled spec graph)
    (h : assemble files spec mode subset = .ok a) :
    a.source.toList.count '\n' = scriptHeight mode
      ((picked spec mode subset).filterMap ((spec.tasks.map (taskShape files spec))[·]?))
      spec.dependencies.length spec.tasks.length ∧
    '\r' ∉ a.source.toList := by
  obtain ⟨tasks, compiled, head, last, assembled⟩ := assembled_of_assemble h
  obtain ⟨headLines, pieces, lastLines, lined, _, headHeight, contributed, lastHeight⟩ :=
    assembled.exists_lines settled
  refine ⟨?_, lined.not_mem_carriageReturn⟩
  have codes : pieces.flatten.length =
      ((tasks.map (taskShape files spec)).map fun shape => taskHeight mode shape.1 shape.2).sum := by
    clear assembled lined h lastHeight
    induction contributed with
    | nil => rfl
    | cons first _ ih =>
      obtain ⟨f?, _, contributes⟩ := first
      rw [List.flatten_cons, List.length_append, ih, contributes.length_eq]
      rfl
  rw [lined.count_lineFeeds, ← shapes_eq assembled.selects]
  simp only [List.length_append, List.length_map, codes, headHeight, lastHeight, scriptHeight,
    List.filter_map, taskShape, Function.comp_def]

/-- What is said in a specification or in the files it names cannot change the line structure of
a script. Two accepted specifications with tasks of the same kinds, equally many dependencies and
the same tasks documented give scripts with equally many line feeds, whenever tasks at the same
positions are asked for in the same mode; and no script has a carriage return. -/
theorem same_lines_of_same_shape {sources₁ sources₂ files₁ files₂ : Files.Tree}
    {path₁ path₂ : String} {loaded₁ loaded₂ : Workflow.Loaded} {mode : Mode}
    {subset₁ subset₂ : List String} {a₁ a₂ : Artifact}
    (accepted₁ : Workflow.load sources₁ path₁ = .ok loaded₁)
    (accepted₂ : Workflow.load sources₂ path₂ = .ok loaded₂)
    (assembled₁ : assemble files₁ loaded₁.spec mode subset₁ = .ok a₁)
    (assembled₂ : assemble files₂ loaded₂.spec mode subset₂ = .ok a₂)
    (picks : picked loaded₁.spec mode subset₁ = picked loaded₂.spec mode subset₂)
    (kinds : loaded₁.spec.tasks.map (·.kind) = loaded₂.spec.tasks.map (·.kind))
    (dependencies : loaded₁.spec.dependencies.length = loaded₂.spec.dependencies.length)
    (documentation : loaded₁.spec.tasks.map (documented files₁ (.ofSpec loaded₁.spec)) =
      loaded₂.spec.tasks.map (documented files₂ (.ofSpec loaded₂.spec))) :
    a₁.source.toList.count '\n' = a₂.source.toList.count '\n' ∧
      '\r' ∉ a₁.source.toList ∧ '\r' ∉ a₂.source.toList := by
  obtain ⟨feeds₁, returns₁⟩ :=
    breaks_of_assemble (Workflow.settled_of_load accepted₁) assembled₁
  obtain ⟨feeds₂, returns₂⟩ :=
    breaks_of_assemble (Workflow.settled_of_load accepted₂) assembled₂
  have shapes : loaded₁.spec.tasks.map (taskShape files₁ loaded₁.spec) =
      loaded₂.spec.tasks.map (taskShape files₂ loaded₂.spec) := by
    rw [map_taskShape, map_taskShape, kinds, documentation]
  have nodes : loaded₁.spec.tasks.length = loaded₂.spec.tasks.length := by
    simpa using congrArg List.length kinds
  exact ⟨by rw [feeds₁, feeds₂, picks, shapes, dependencies, nodes], returns₁, returns₂⟩

/-- Two workflows of one query: line breaks in the description and in the query make no
difference. -/
theorem same_lines_of_same_shape_breaks :
    let plain := Workflow.besideQuery "ab" "one line" "SELECT 1"
    let broken := Workflow.besideQuery "cd" "one\n\rmore" "SELECT\r\n  2\n"
    ∃ loaded₁ loaded₂ a₁ a₂, Workflow.load plain "/w" = .ok loaded₁ ∧
      Workflow.load broken "/w" = .ok loaded₂ ∧
      assemble plain loaded₁.spec .deployable [] = .ok a₁ ∧
      assemble broken loaded₂.spec .deployable [] = .ok a₂ ∧
      a₁.source.toList.count '\n' = a₂.source.toList.count '\n' ∧
      '\r' ∉ a₁.source.toList ∧ '\r' ∉ a₂.source.toList := by
  intro plain broken
  have each : ∀ files ∈ [plain, broken], ∃ loaded, Workflow.load files "/w" = .ok loaded ∧
      loaded.spec.tasks.length = 1 ∧ loaded.spec.tasks.map (·.kind) = [.query] ∧
      loaded.spec.dependencies = [] ∧
      loaded.spec.tasks.map (documented files (.ofSpec loaded.spec)) = [false] ∧
      ∃ a, assemble files loaded.spec .deployable [] = .ok a := by
    simp only [List.forall_mem_cons, List.not_mem_nil, false_imp_iff, implies_true, and_true,
      plain, broken, Workflow.load_besideQuery]
    exact ⟨⟨_, rfl, rfl, rfl, rfl, rfl, _, rfl⟩, ⟨_, rfl, rfl, rfl, rfl, rfl, _, rfl⟩⟩
  obtain ⟨loaded₁, accepted₁, tasks₁, kinds₁, dependencies₁, documented₁, a₁, assembled₁⟩ :=
    each plain (by simp)
  obtain ⟨loaded₂, accepted₂, tasks₂, kinds₂, dependencies₂, documented₂, a₂, assembled₂⟩ :=
    each broken (by simp)
  have picks : picked loaded₁.spec .deployable [] = picked loaded₂.spec .deployable [] := by
    rw [picked, picked, tasks₁, tasks₂]
    rfl
  exact ⟨loaded₁, loaded₂, a₁, a₂, accepted₁, accepted₂, assembled₁, assembled₂,
    same_lines_of_same_shape accepted₁ accepted₂ assembled₁ assembled₂ picks
      (kinds₁.trans kinds₂.symm) (by rw [dependencies₁, dependencies₂])
      (documented₁.trans documented₂.symm)⟩

end WorkflowCompiler.Script
