import WorkflowCompiler.Proofs.Script.Rendered

/-!
Both modes accept the same specifications. Whether a task can be compiled depends on its parameters
and on the files that they name, and so does what the compiler learns about it: the templates, in
which the modes differ, can always be rendered.
-/
namespace WorkflowCompiler.Script

open Json (Members)
open Workflow (Spec Task Kind)

/-- The names that the templates for a kind of task find values under. -/
def valueNames : Kind → List String
  | .query => ["task_id", "environment", "dag_name", "gcp_project_id", "bq_dataset", "table_name",
    "write_disposition", "sql_query_template", "sql", "doc_md"]
  | .copyTable => ["task_id", "source_gcp_project_id", "source_bq_dataset", "source_bq_table",
    "destination_gcp_project_id", "destination_bq_dataset", "destination_bq_table", "date_suffix",
    "date_suffix_format", "doc_md"]
  | .createTable => ["task_id", "gcp_project_id", "bq_dataset", "bq_table", "force_delete",
    "description", "schema", "clustering_fields", "time_partitioning", "doc_md"]
  | .launchMachine => ["task_id", "gcp_project_id", "script_to_execute", "vm_delete",
    "vm_working_directory", "vm_compute_zone", "vm_core_number", "vm_memory_amount",
    "vm_disk_size", "doc_md"]

/-- What the compiler learns about a task besides its code: parameters that the task has from then
on, or why it cannot be compiled. -/
def learn (ctx : Context) (files : Files.Tree) (task : Task) : Except BuildError Members := do
  match ← task.decodeParameters.mapError fun m => .taskFailed task.id m.message with
  | .query p => do
    let _ ← ctx.required files task "SQL file" p.sqlFile
    .ok []
  | .copyTable _ => .ok []
  | .createTable p => do
    let (_, document) ← loadLayout ctx files task p.layoutFile
    .ok (layoutUpdates document)
  | .launchMachine _ => .ok []

def learned (f? : Option Fragment) : Members :=
  (f?.map (·.updates)).getD []

section Tasks

variable {ctx : Context} {files : Files.Tree} {mode : Mode} {task : Task} {t : Template}

theorem names_of_templateFor {kind : Kind} (ht : templateFor mode kind = some t) :
    ∀ name ∈ t.names, name ∈ valueNames kind := by
  cases mode
  all_goals
    cases kind <;> cases ht
  all_goals
    decide +kernel

theorem exists_render_of_templateFor {kind : Kind} (ht : templateFor mode kind = some t)
    {values : Members} (same : values.map (·.1) = valueNames kind) :
    ∃ s, t.render values = .ok s :=
  Template.exists_render same (names_of_templateFor ht) (once_of_templateFor ht)

theorem updates_compileQuery (p : Workflow.QueryParameters) :
    (·.updates) <$> compileQuery ctx files mode task p =
      (do let _ ← ctx.required files task "SQL file" p.sqlFile; .ok []) := by
  unfold compileQuery
  rw [map_bind]
  refine bind_congr fun sql => map_of_exists_ok ?_ fun _ => rfl
  have ht : templateFor mode .query = some (queryTemplate mode) := by cases mode <;> rfl
  cases mode
  all_goals
    exact exists_render_of_templateFor ht rfl

theorem updates_compileCopy (p : Workflow.CopyParameters) :
    (·.updates) <$> compileCopy ctx files mode task p = .ok [] := by
  refine map_of_exists_ok ?_ fun _ => rfl
  cases mode with
  | standalone =>
    have ht : templateFor .standalone .copyTable = some Templates.copyLocal := rfl
    exact exists_render_of_templateFor ht rfl
  | deployable =>
    have ht : templateFor .deployable .copyTable = some Templates.copyDeployable := rfl
    exact exists_render_of_templateFor ht rfl

theorem updates_compileCreate (p : Workflow.CreateParameters) :
    (·.updates) <$> compileCreate ctx files mode task p =
      (do let (_, document) ← loadLayout ctx files task p.layoutFile; .ok (layoutUpdates document)) := by
  unfold compileCreate
  rw [map_bind]
  refine bind_congr fun loaded => map_of_exists_ok ?_ fun _ => rfl
  cases mode with
  | standalone =>
    have ht : templateFor .standalone .createTable = some Templates.createLocal := rfl
    exact exists_render_of_templateFor ht rfl
  | deployable =>
    have ht : templateFor .deployable .createTable = some Templates.createDeployable := rfl
    exact exists_render_of_templateFor ht rfl

theorem learned_compileMachine (p : Workflow.MachineParameters) :
    learned <$> compileMachine ctx files mode task p = .ok [] := by
  cases mode with
  | standalone => rfl
  | deployable =>
    have ht : templateFor .deployable .launchMachine = some Templates.machineDeployable := rfl
    refine map_of_exists_ok ?_ fun _ => rfl
    exact exists_render_of_templateFor ht rfl

/-- What is learned about a task does not depend on the mode. -/
theorem learned_compileTask : learned <$> compileTask ctx files mode task = learn ctx files task := by
  unfold compileTask learn
  rw [map_bind]
  refine bind_congr fun parameters => ?_
  cases parameters with
  | query p => exact (Functor.map_map ..).trans (updates_compileQuery p)
  | copyTable p => exact (Functor.map_map ..).trans (updates_compileCopy p)
  | createTable p => exact (Functor.map_map ..).trans (updates_compileCreate p)
  | launchMachine p => exact learned_compileMachine p

theorem required_eq_error {what path : String} {e : BuildError}
    (h : ctx.required files task what path = .error e) : ∃ cause, e = .taskFailed task.id cause := by
  rw [Context.required, mapError_eq_error_iff] at h
  obtain ⟨fault, _, rfl⟩ := h
  exact ⟨_, rfl⟩

theorem loadLayout_eq_error {path : String} {e : BuildError}
    (h : loadLayout ctx files task path = .error e) :
    (∃ cause, e = .taskFailed task.id cause) ∨
    ∃ detail, e = .malformedLayout (ctx.resolve path) detail := by
  rcases bind_eq_error_iff.mp h with h | ⟨text, _, h⟩
  · exact .inl (required_eq_error h)
  refine .inr ?_
  rcases bind_eq_error_iff.mp h with h | ⟨document, _, h⟩
  · obtain ⟨_, _, rfl⟩ := mapError_eq_error_iff.mp h
    exact ⟨_, rfl⟩
  split at h
  · rcases bind_eq_error_iff.mp h with h | ⟨_, _, h⟩
    · obtain ⟨_, _, rfl⟩ := mapError_eq_error_iff.mp h
      exact ⟨_, rfl⟩
    · cases h
  · cases h
    exact ⟨_, rfl⟩

theorem learn_eq_error {e : BuildError} (h : learn ctx files task = .error e) :
    (∃ cause, e = .taskFailed task.id cause) ∨
    ∃ p detail, task.decodeParameters = .ok (.createTable p) ∧
      e = .malformedLayout (ctx.resolve p.layoutFile) detail := by
  rcases bind_eq_error_iff.mp h with wrong | ⟨parameters, decoded, h⟩
  · rw [mapError_eq_error_iff] at wrong
    obtain ⟨mismatch, _, rfl⟩ := wrong
    exact .inl ⟨_, rfl⟩
  cases parameters with
  | query p =>
    rcases bind_eq_error_iff.mp h with h | ⟨_, _, h⟩
    · exact .inl (required_eq_error h)
    · cases h
  | copyTable p => cases h
  | createTable p =>
    rw [mapError_eq_ok_iff] at decoded
    rcases bind_eq_error_iff.mp h with h | ⟨_, _, h⟩
    · exact (loadLayout_eq_error h).imp_right fun ⟨detail, same⟩ => ⟨p, detail, decoded, same⟩
    · cases h
  | launchMachine p => cases h

end Tasks

/-- The specification after compilation: each task gets what has been learned about it. -/
def enrich (spec : Spec) (all : List Members) : Spec :=
  { spec with
    tasks := (spec.tasks.zip all).foldl (fun tasks known => updateTask known.1.id known.2 tasks)
      spec.tasks }

section Specs

variable {files : Files.Tree} {spec : Spec} {mode : Mode} {subset : List String}

theorem updateTask_nil (id : String) (tasks : List Task) : updateTask id [] tasks = tasks := by
  induction tasks with
  | nil => rfl
  | cons task tasks ih =>
    rw [updateTask, ih]
    split <;> rfl

/-- By induction along the tasks: those without code have nothing to learn. -/
theorem foldl_updates {ctx : Context} {tasks : List Task} {compiled : List (Option Fragment)}
    (h : List.Forall₂ (fun task f? => compileTask ctx files mode task = .ok f?) tasks compiled)
    (current : List Task) :
    (compiled.filterMap id).foldl (fun tasks f => updateTask f.taskId f.updates tasks) current =
      (tasks.zip (compiled.map learned)).foldl
        (fun tasks known => updateTask known.1.id known.2 tasks) current := by
  induction h generalizing current with
  | nil => rfl
  | @cons task f? tasks compiled first _ ih =>
    rcases compiled_of_compileTask first with ⟨_, rfl⟩ | ⟨t, f, _, rfl, made⟩
    · rw [List.map_cons, List.zip_cons_cons, List.foldl_cons, ← ih]
      simp only [learned, Option.map_none, Option.getD_none, updateTask_nil, id_eq,
        List.filterMap_cons_none]
    · rw [List.map_cons, List.zip_cons_cons, List.foldl_cons, ← ih, ← made.taskId]
      rfl

theorem exists_header (spec : Spec) : ∃ head, header spec = .ok head := by
  have known : ∀ name ∈ Templates.deployHeader.names, name ∈ ["owner", "retries",
      "retry_delay_minutes", "start_date", "dag_name", "dag_type", "generator_version",
      "task_concurrency", "max_active_runs", "schedule", "catchup", "description", "doc_md"] := by
    decide +kernel
  exact Template.exists_render rfl known (by simp [Templates.deployHeader])

theorem exists_heading (spec : Spec) (mode : Mode) : ∃ head, heading spec mode = .ok head := by
  cases mode with
  | standalone => exact ⟨"", rfl⟩
  | deployable => exact exists_header spec

theorem exists_ending (spec : Spec) (mode : Mode) (fragments : List Fragment) :
    ∃ last, ending spec mode fragments = .ok last := by
  cases mode with
  | standalone => exact ⟨_, entryPoint_eq _⟩
  | deployable => exact ⟨_, bind_eq_ok_iff.mpr ⟨_, wiring_eq spec, rfl⟩⟩

/-- A script of all tasks can be made if their code can, and of their code its specification takes
what has been learned. -/
theorem spec_assemble (whole : mode = .deployable ∨ subset = []) :
    (·.spec) <$> assemble files spec mode subset =
      enrich spec <$> spec.tasks.mapM (learn (.ofSpec spec) files) := by
  obtain ⟨head, hhead⟩ := exists_heading spec mode
  have selects : selectTasks spec mode subset = .ok spec.tasks := if_pos whole
  have same : spec.tasks.mapM (learn (.ofSpec spec) files) =
      List.map learned <$> spec.tasks.mapM (compileTask (.ofSpec spec) files mode) := by
    rw [← mapM_map_eq]
    exact congrArg spec.tasks.mapM (funext fun task => learned_compileTask.symm)
  have steps : assemble files spec mode subset = (do
      let compiled ← spec.tasks.mapM (compileTask (.ofSpec spec) files mode)
      let last ← ending spec mode (compiled.filterMap id)
      .ok ⟨mode, spec.deploymentName, String.join ([prelude, helpers, head] ++
        (compiled.filterMap id).map (·.code) ++ [last]),
        updateSpec spec (compiled.filterMap id)⟩) := by
    cases mode
    all_goals
      simp only [heading] at hhead
      simp only [assemble, hhead, selects]
      rfl
  rw [steps, same]
  cases compiles : spec.tasks.mapM (compileTask (.ofSpec spec) files mode) with
  | error e => rfl
  | ok compiled =>
    obtain ⟨last, hlast⟩ := exists_ending spec mode (compiled.filterMap id)
    have updated : updateSpec spec (compiled.filterMap id) = enrich spec (compiled.map learned) := by
      rw [updateSpec, foldl_updates (mapM_eq_ok_iff.mp compiles), enrich]
    simp only [bind, Except.bind, hlast]
    exact congrArg Except.ok updated

/-- The two modes accept the same specifications, and for the same reason they refuse the others:
the parameters of a task are wrong, a file that a task cannot do without is not readable, or a
layout document is malformed. What compilation makes of a specification is the same as well. -/
theorem modes_agree (files : Files.Tree) (spec : Spec) (subset : List String) :
    ((∃ a, assemble files spec .standalone [] = .ok a) ↔
      ∃ a, assemble files spec .deployable subset = .ok a) ∧
    (∀ e, assemble files spec .standalone [] = .error e ↔
      assemble files spec .deployable subset = .error e) ∧
    (∀ e, assemble files spec .standalone [] = .error e → ∃ task ∈ spec.tasks,
      (∃ cause, e = .taskFailed task.id cause) ∨
      ∃ p detail, task.decodeParameters = .ok (.createTable p) ∧
        e = .malformedLayout (spec.resolve p.layoutFile) detail) ∧
    ∀ a b, assemble files spec .standalone [] = .ok a →
      assemble files spec .deployable subset = .ok b →
      a.deploymentName = b.deploymentName ∧ a.spec = b.spec := by
  have whole : (·.spec) <$> assemble files spec .standalone [] =
      enrich spec <$> spec.tasks.mapM (learn (.ofSpec spec) files) := spec_assemble (.inr rfl)
  have same : (·.spec) <$> assemble files spec .standalone [] =
      (·.spec) <$> assemble files spec .deployable subset :=
    whole.trans (spec_assemble (.inl rfl)).symm
  obtain ⟨succeed, fail, updated⟩ := alike_of_map_eq same
  refine ⟨succeed, fail, fun e h => ?_, fun a b ha hb => ⟨?_, updated a b ha hb⟩⟩
  · have unlearned : spec.tasks.mapM (learn (.ofSpec spec) files) = .error e :=
      map_eq_error_iff.mp (whole ▸ map_eq_error_iff.mpr h)
    obtain ⟨task, htask, failed⟩ := mapM_eq_error unlearned
    exact ⟨task, htask, learn_eq_error failed⟩
  · obtain ⟨_, _, _, _, made⟩ := assembled_of_assemble ha
    obtain ⟨_, _, _, _, made'⟩ := assembled_of_assemble hb
    exact made.named.trans made'.named.symm

end Specs

end WorkflowCompiler.Script
