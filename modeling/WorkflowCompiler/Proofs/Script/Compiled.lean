import WorkflowCompiler.Proofs.Script.Lines
import WorkflowCompiler.Script.Artifact

/-!
What the code of a task is made from. Each kind of task has one template in each mode, except that
a machine launch has none in a local script; the code is this template, filled with values under
which the task goes by its id. The task's documentation decides what is left out of it.
-/
namespace WorkflowCompiler.Script

open Json (Value Members)
open Workflow (Spec Task Kind QueryParameters)

def templateFor : Mode → Kind → Option Template
  | .standalone, .query => some Templates.queryLocal
  | .standalone, .copyTable => some Templates.copyLocal
  | .standalone, .createTable => some Templates.createLocal
  | .standalone, .launchMachine => none
  | .deployable, .query => some Templates.queryDeployable
  | .deployable, .copyTable => some Templates.copyDeployable
  | .deployable, .createTable => some Templates.createDeployable
  | .deployable, .launchMachine => some Templates.machineDeployable

/-- The documentation file of the task can be read and is not empty. -/
def documented (files : Files.Tree) (ctx : Context) (task : Task) : Bool :=
  (ctx.documentation? files task).any (· ≠ "")

/-- A part of a task's template: the raw holes stand for the id of the task, and only the
documentation can be left out. -/
def Part.ForTask : Part → Prop
  | .holes body => ∀ name, .raw name ∈ body → name = "task_id"
  | .whenSet name body => name = "doc_md" ∧ ∀ name, .raw name ∈ body → name = "task_id"
  | .each _ _ _ => False

/-- How many lines a task's template has, with or without the documentation of the task. -/
def Template.heightWith (t : Template) (documented : Bool) : Nat :=
  (t.parts.map fun part => match part with
    | .whenSet _ body => if documented then (cutLines body).length else 0
    | part => (cutLines part.body).length).sum

theorem templateFor_eq_none_iff {mode : Mode} {kind : Kind} :
    templateFor mode kind = none ↔ mode = .standalone ∧ kind = .launchMachine := by
  cases mode <;> cases kind <;> simp [templateFor]

theorem forTask_of_templateFor {mode : Mode} {kind : Kind} {t : Template}
    (h : templateFor mode kind = some t) : ∀ part ∈ t.parts, part.ForTask := by
  cases mode
  all_goals
    cases kind <;> cases h
  all_goals
    simp [Templates.queryLocal, Templates.copyLocal, Templates.createLocal,
      Templates.queryDeployable, Templates.copyDeployable, Templates.createDeployable,
      Templates.machineDeployable, Part.ForTask]

theorem mem_all_of_templateFor {mode : Mode} {kind : Kind} {t : Template}
    (h : templateFor mode kind = some t) : t ∈ Templates.all := by
  cases mode
  all_goals
    cases kind <;> cases h
  all_goals
    simp [Templates.all]

section Templates

variable {t : Template} {values : Members} {id : String} {set : Bool}

theorem rawsUnbroken_of_forTask (named : values.get? "task_id" = some (.text id))
    (whole : Unbroken id.toList) {part : Part} (h : part.ForTask) : part.RawsUnbroken values := by
  have ofBody : ∀ body, (∀ name, .raw name ∈ body → name = "task_id") →
      RawsUnbroken values body := by
    intro body only name v hname found
    rw [only name hname, named] at found
    cases found
    exact whole
  cases part with
  | holes body => exact ofBody body h
  | whenSet name body => exact ofBody body h.2
  | each item list body => exact h.elim

theorem height_eq_heightWith (parts : ∀ part ∈ t.parts, part.ForTask)
    (optional : ∀ name body, .whenSet name body ∈ t.parts → (values.get? name).any isSet = set) :
    t.height values = t.heightWith set := by
  rw [Template.height, Template.heightWith]
  congr 1
  refine List.map_congr_left fun part hpart => ?_
  cases part with
  | holes body => rfl
  | whenSet name body => simp only [Part.height, optional name body hpart]
  | each item list body => exact (parts _ hpart).elim

end Templates

/-- The fragment is the template of the task, rendered. -/
structure Compiled (files : Files.Tree) (ctx : Context) (mode : Mode) (task : Task)
    (t : Template) (f : Fragment) : Prop where
  taskId : f.taskId = task.id
  entryPoint : f.entryPoint = if mode = .standalone then some task.id else none
  code : ∃ values, t.render values = .ok f.code ∧
    values.get? "task_id" = some (.text task.id) ∧
    t.height values = t.heightWith (documented files ctx task)

section Compile

variable {files : Files.Tree} {ctx : Context} {mode : Mode} {task : Task} {f : Fragment}
  {t : Template}

theorem isSet_ofText? (text : Option String) : isSet (.ofText? text) = text.any (· ≠ "") := by
  cases text with
  | none => rfl
  | some s =>
    rw [Bool.eq_iff_iff]
    simp [Value.ofText?, isSet]

theorem compiled_of_render (kind : Kind) {values updates : Members} {code : String}
    (ht : templateFor mode kind = some t) (rendered : t.render values = .ok code)
    (named : values.get? "task_id" = some (.text task.id))
    (optional : ∀ name body, .whenSet name body ∈ t.parts →
      (values.get? name).any isSet = documented files ctx task) :
    Compiled files ctx mode task t { Fragment.ofCode task mode code with updates } where
  taskId := rfl
  entryPoint := rfl
  code := ⟨values, rendered, named, height_eq_heightWith (forTask_of_templateFor ht) optional⟩

theorem compiled_query {p : Workflow.QueryParameters}
    (h : compileQuery ctx files mode task p = .ok f) :
    ∃ t, templateFor mode .query = some t ∧ Compiled files ctx mode task t f := by
  obtain ⟨sql, _, h⟩ := bind_eq_ok_iff.mp h
  obtain ⟨code, rendered, h⟩ := bind_eq_ok_iff.mp h
  cases h
  cases mode with
  | standalone =>
    refine ⟨_, rfl, compiled_of_render .query rfl rendered rfl fun name body hmem => ?_⟩
    simp [Templates.queryLocal] at hmem
  | deployable =>
    refine ⟨_, rfl, compiled_of_render .query rfl rendered rfl fun name body hmem => ?_⟩
    simp [Templates.queryDeployable] at hmem

theorem compiled_copy {p : Workflow.CopyParameters}
    (h : compileCopy ctx files mode task p = .ok f) :
    ∃ t, templateFor mode .copyTable = some t ∧ Compiled files ctx mode task t f := by
  obtain ⟨code, rendered, h⟩ := bind_eq_ok_iff.mp h
  cases h
  cases mode with
  | standalone =>
    refine ⟨_, rfl, compiled_of_render .copyTable rfl rendered rfl fun name body hmem => ?_⟩
    simp [Templates.copyLocal] at hmem
  | deployable =>
    refine ⟨_, rfl, compiled_of_render .copyTable rfl rendered rfl fun name body hmem => ?_⟩
    simp only [Templates.copyDeployable, List.mem_cons, Part.whenSet.injEq, reduceCtorEq,
      List.not_mem_nil, or_false, false_or] at hmem
    rw [hmem.1]
    exact isSet_ofText? _

theorem compiled_create {p : Workflow.CreateParameters}
    (h : compileCreate ctx files mode task p = .ok f) :
    ∃ t, templateFor mode .createTable = some t ∧ Compiled files ctx mode task t f := by
  obtain ⟨⟨layout, document⟩, _, h⟩ := bind_eq_ok_iff.mp h
  obtain ⟨code, rendered, h⟩ := bind_eq_ok_iff.mp h
  cases h
  cases mode with
  | standalone =>
    refine ⟨_, rfl, compiled_of_render .createTable rfl rendered rfl fun name body hmem => ?_⟩
    simp [Templates.createLocal] at hmem
  | deployable =>
    refine ⟨_, rfl, compiled_of_render .createTable rfl rendered rfl fun name body hmem => ?_⟩
    simp only [Templates.createDeployable, List.mem_cons, Part.whenSet.injEq, reduceCtorEq,
      List.not_mem_nil, or_false, false_or] at hmem
    rw [hmem.1]
    exact isSet_ofText? _

theorem compiled_machine {p : Workflow.MachineParameters}
    (h : compileMachine ctx files .deployable task p = .ok (some f)) :
    Compiled files ctx .deployable task Templates.machineDeployable f := by
  obtain ⟨code, rendered, h⟩ := bind_eq_ok_iff.mp h
  cases h
  refine compiled_of_render .launchMachine rfl rendered rfl fun name body hmem => ?_
  simp only [Templates.machineDeployable, List.mem_cons, Part.whenSet.injEq, reduceCtorEq,
    List.not_mem_nil, or_false, false_or] at hmem
  rw [hmem.1]
  exact isSet_ofText? _

/-- There is code for a task exactly if there is a template for its kind, and it is this template
that the code is rendered from. -/
theorem compiled_of_compileTask {f? : Option Fragment}
    (h : compileTask ctx files mode task = .ok f?) :
    (templateFor mode task.kind = none ∧ f? = none) ∨
    ∃ t f, templateFor mode task.kind = some t ∧ f? = some f ∧
      Compiled files ctx mode task t f := by
  rw [compileTask, bind_eq_ok_iff] at h
  obtain ⟨p, decoded, h⟩ := h
  rw [mapError_eq_ok_iff, Task.decodeParameters] at decoded
  cases kind : task.kind with
  | query =>
    simp only [kind, bind_eq_ok_iff, Except.ok.injEq] at decoded
    obtain ⟨p, _, rfl⟩ := decoded
    obtain ⟨f, hf, rfl⟩ := map_eq_ok_iff.mp h
    obtain ⟨t, ht, compiled⟩ := compiled_query hf
    exact Or.inr ⟨t, f, ht, rfl, compiled⟩
  | copyTable =>
    simp only [kind, bind_eq_ok_iff, Except.ok.injEq] at decoded
    obtain ⟨_, _, rfl⟩ := decoded
    obtain ⟨f, hf, rfl⟩ := map_eq_ok_iff.mp h
    obtain ⟨t, ht, compiled⟩ := compiled_copy hf
    exact Or.inr ⟨t, f, ht, rfl, compiled⟩
  | createTable =>
    simp only [kind, bind_eq_ok_iff, Except.ok.injEq] at decoded
    obtain ⟨_, _, rfl⟩ := decoded
    obtain ⟨f, hf, rfl⟩ := map_eq_ok_iff.mp h
    obtain ⟨t, ht, compiled⟩ := compiled_create hf
    exact Or.inr ⟨t, f, ht, rfl, compiled⟩
  | launchMachine =>
    simp only [kind, bind_eq_ok_iff, Except.ok.injEq] at decoded
    obtain ⟨_, _, rfl⟩ := decoded
    cases mode with
    | standalone =>
      cases h
      exact Or.inl ⟨rfl, rfl⟩
    | deployable =>
      obtain ⟨code, rendered, same⟩ := bind_eq_ok_iff.mp h
      cases same
      exact Or.inr ⟨_, _, rfl, rfl, compiled_machine h⟩

def queryTemplate : Mode → Template
  | .standalone => Templates.queryLocal
  | .deployable => Templates.queryDeployable

/-- What the code of a query is made from: the parameters of the task, the text of its file and
the values of the template. -/
structure QueryCode (files : Files.Tree) (ctx : Context) (mode : Mode) (task : Task)
    (p : QueryParameters) (sql : String) (values : Members) (f : Fragment) : Prop where
  parameters : task.queryParameters = .ok p
  read : files.readText (ctx.resolve p.sqlFile) = .ok sql
  updates : f.updates = []
  rendered : (queryTemplate mode).render values = .ok f.code
  taskId : values.get? "task_id" = some (.text task.id)
  dagName : values.get? "dag_name" = some (.text ctx.deploymentName)
  sql : values.get? "sql" = some (.text sql)

theorem required_eq_ok_iff {what path text : String} :
    ctx.required files task what path = .ok text ↔
      files.readText (ctx.resolve path) = .ok text := by
  rw [Context.required, mapError_eq_ok_iff]

theorem queryCode_of_compileTask {f? : Option Fragment} (query : task.kind = .query)
    (h : compileTask ctx files mode task = .ok f?) :
    ∃ f p sql values, f? = some f ∧ QueryCode files ctx mode task p sql values f := by
  rw [compileTask, bind_eq_ok_iff] at h
  obtain ⟨parameters, decoded, h⟩ := h
  simp only [mapError_eq_ok_iff, Task.decodeParameters, query, bind_eq_ok_iff,
    Except.ok.injEq] at decoded
  obtain ⟨p, hp, rfl⟩ := decoded
  obtain ⟨f, hf, rfl⟩ := map_eq_ok_iff.mp h
  obtain ⟨sql, read, hf⟩ := bind_eq_ok_iff.mp hf
  obtain ⟨code, rendered, hf⟩ := bind_eq_ok_iff.mp hf
  cases hf
  replace read := required_eq_ok_iff.mp read
  cases mode
  · exact ⟨_, p, sql, _, rfl, hp, read, rfl, rendered, rfl, rfl, rfl⟩
  · exact ⟨_, p, sql, _, rfl, hp, read, rfl, rendered, rfl, rfl, rfl⟩

end Compile

end WorkflowCompiler.Script
