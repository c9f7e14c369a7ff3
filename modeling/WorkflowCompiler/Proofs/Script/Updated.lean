import WorkflowCompiler.Proofs.Script.Structure

/-!
What compilation does to a specification. Parameters that the compiler learns are put into tasks,
and nothing else changes; queries have none to learn, so they stay as they were.
-/
namespace WorkflowCompiler.Script

open Json (Members)
open Workflow (Spec Task Settled)

/-- The task as it was but for its parameters, and a query with these too. -/
structure Kept (task updated : Task) : Prop where
  fields : updated = { task with parameters := updated.parameters }
  query : task.kind = .query → updated = task

namespace Kept

variable {task updated : Task}

theorem refl (task : Task) : Kept task task := ⟨rfl, fun _ => rfl⟩

theorem id_eq (h : Kept task updated) : updated.id = task.id := by
  rw [h.fields]

theorem kind_eq (h : Kept task updated) : updated.kind = task.kind := by
  rw [h.fields]
  rfl

theorem extend (h : Kept task updated) {updates : Members}
    (harmless : task.kind = .query → updates = []) :
    Kept task { updated with parameters := updated.parameters.extend updates } where
  fields := by rw [h.fields]
  query := by
    intro query
    rw [harmless query, h.query query]
    rfl

end Kept

section Updates

variable {tasks current : List Task}

theorem updateTask_kept (h : List.Forall₂ Kept tasks current) {id : String} {updates : Members}
    (harmless : ∀ task ∈ tasks, task.id = id → task.kind = .query → updates = []) :
    List.Forall₂ Kept tasks (updateTask id updates current) := by
  induction h with
  | nil => exact .nil
  | @cons task updated tasks current first rest ih =>
    obtain ⟨here, later⟩ := List.forall_mem_cons.mp harmless
    rw [updateTask]
    split
    · next same => exact .cons (first.extend (here (first.id_eq ▸ same))) rest
    · exact .cons first (ih later)

/-- By induction along the fragments: each of them leaves the queries alone. -/
theorem updates_kept {fragments : List Fragment} (h : List.Forall₂ Kept tasks current)
    (harmless : ∀ f ∈ fragments, ∀ task ∈ tasks, task.id = f.taskId → task.kind = .query →
      f.updates = []) : List.Forall₂ Kept tasks
      (fragments.foldl (fun tasks f => updateTask f.taskId f.updates tasks) current) := by
  induction fragments generalizing current with
  | nil => exact h
  | cons f fragments ih =>
    obtain ⟨here, later⟩ := List.forall_mem_cons.mp harmless
    exact ih (updateTask_kept h here) later

end Updates

variable {files : Files.Tree} {spec : Spec} {graph : Workflow.Dependency.Graph} {mode : Mode}
  {subset : List String} {a : Artifact}

/-- A query that a fragment is for has been compiled to the fragment, so there is nothing to put
into it. -/
theorem Assembled.harmless (settled : Settled spec graph) {tasks : List Task}
    {compiled : List (Option Fragment)} {head last : String}
    (h : Assembled files spec mode subset a tasks compiled head last) :
    ∀ f ∈ compiled.filterMap id, ∀ task ∈ spec.tasks, task.id = f.taskId → task.kind = .query →
      f.updates = [] := by
  intro f hf task htask same query
  obtain ⟨f?, hf?, rfl⟩ := List.mem_filterMap.mp hf
  obtain ⟨owner, howner, made⟩ := exists_mem_of_forall₂ h.compiles (some f) hf?
  have owned : f.taskId = owner.id := by
    rcases compiled_of_compileTask made with ⟨_, none⟩ | ⟨_, _, _, same, compiled⟩
    · cases none
    · cases same
      exact compiled.taskId
  obtain rfl : task = owner := List.inj_on_of_nodup_map settled.sound.distinct htask
    (mem_of_selectTasks h.selects owner howner) (same.trans owned)
  obtain ⟨_, _, _, _, rest, code⟩ := queryCode_of_compileTask query made
  cases rest
  exact code.updates

theorem kept_of_assemble (settled : Settled spec graph)
    (h : assemble files spec mode subset = .ok a) :
    a.spec = { spec with tasks := a.spec.tasks } ∧ List.Forall₂ Kept spec.tasks a.spec.tasks := by
  obtain ⟨tasks, compiled, head, last, assembled⟩ := assembled_of_assemble h
  have whole : List.Forall₂ Kept spec.tasks spec.tasks :=
    List.forall₂_same.mpr fun task _ => .refl task
  rw [assembled.updates]
  exact ⟨rfl, updates_kept whole (assembled.harmless settled)⟩

end WorkflowCompiler.Script
