import WorkflowCompiler.Proofs.Script.Modes
import WorkflowCompiler.Proofs.Workflow.Preserved
import WorkflowCompiler.Proofs.Workflow.Written

/-!
Compiling once more. A specification is changed by compilation only where the layout document of a
table that is created goes into the parameters of its task, and these parameters are none that the
compiler reads. So a compiled specification is compiled to the same script, and stays as it is.
-/
namespace WorkflowCompiler.Script

open Json (Value Members Field Form)
open Workflow (Spec Task Kind Parameters TableLayout CreateParameters)

/-- The members of the document that lays out the table which a task creates. -/
def LaidOut (files : Files.Tree) (spec : Spec) (task : Task) (document : Members) : Prop :=
  ∃ p text, task.decodeParameters = .ok (.createTable p) ∧
    files.readText (spec.resolve p.layoutFile) = .ok text ∧
    Value.parse text = .ok (.object document)

/-- What a task is after a script of some tasks has been made: a task of the script that creates a
table has what its document says about the layout, also where this is null; no other task changes
and no other field. -/
structure Merged (files : Files.Tree) (spec : Spec) (rendered : List Task) (task updated : Task) :
    Prop where
  fields : updated = { task with parameters := updated.parameters }
  unchanged : (task ∈ rendered → task.kind ≠ .createTable) → updated = task
  merged : task ∈ rendered → task.kind = .createTable → ∃ document,
    LaidOut files spec task document ∧ updated.parameters.Sorted ∧
    ∀ key, updated.parameters.get? key =
      if key ∈ TableLayout.fieldNames then (document.get? key).or (task.parameters.get? key)
      else task.parameters.get? key

def kindOf : Parameters → Kind
  | .query _ => .query
  | .copyTable _ => .copyTable
  | .createTable _ => .createTable
  | .launchMachine _ => .launchMachine

section Learning

variable {ctx : Context} {files : Files.Tree} {task : Task} {known : Members}

theorem kind_of_decodeParameters {parameters : Parameters}
    (h : task.decodeParameters = .ok parameters) : task.kind = kindOf parameters := by
  rw [Task.decodeParameters] at h
  split at h
  all_goals
    next kind =>
    obtain ⟨_, _, h⟩ := bind_eq_ok_iff.mp h
    cases h
    exact kind

theorem loadLayout_eq_ok_iff {path : String} {layout : TableLayout} {document : Members} :
    loadLayout ctx files task path = .ok (layout, document) ↔ ∃ text,
      files.readText (ctx.resolve path) = .ok text ∧ Value.parse text = .ok (.object document) ∧
      TableLayout.decode (.object document) = .ok layout := by
  constructor
  · intro h
    obtain ⟨text, read, h⟩ := bind_eq_ok_iff.mp h
    obtain ⟨parsed, hparsed, h⟩ := bind_eq_ok_iff.mp h
    rw [mapError_eq_ok_iff] at hparsed
    split at h
    · obtain ⟨_, decoded, h⟩ := bind_eq_ok_iff.mp h
      cases h
      exact ⟨text, required_eq_ok_iff.mp read, hparsed, mapError_eq_ok_iff.mp decoded⟩
    · cases h
  · rintro ⟨text, read, parsed, decoded⟩
    refine bind_eq_ok_iff.mpr ⟨text, required_eq_ok_iff.mpr read, ?_⟩
    refine bind_eq_ok_iff.mpr ⟨_, mapError_eq_ok_iff.mpr parsed, ?_⟩
    exact bind_eq_ok_iff.mpr ⟨layout, mapError_eq_ok_iff.mpr decoded, rfl⟩

/-- Only about tables that are created there is something to learn. -/
theorem learn_eq_ok (h : learn ctx files task = .ok known) :
    task.kind ≠ .createTable ∧ known = [] ∨
    ∃ p text document, task.decodeParameters = .ok (.createTable p) ∧
      files.readText (ctx.resolve p.layoutFile) = .ok text ∧
      Value.parse text = .ok (.object document) ∧ known = layoutUpdates document := by
  obtain ⟨parameters, decoded, h⟩ := bind_eq_ok_iff.mp h
  rw [mapError_eq_ok_iff] at decoded
  have kind := kind_of_decodeParameters decoded
  cases parameters with
  | query p =>
    obtain ⟨_, _, h⟩ := bind_eq_ok_iff.mp h
    exact .inl ⟨by simp [kind, kindOf], (Except.ok.inj h).symm⟩
  | copyTable p => exact .inl ⟨by simp [kind, kindOf], (Except.ok.inj h).symm⟩
  | launchMachine p => exact .inl ⟨by simp [kind, kindOf], (Except.ok.inj h).symm⟩
  | createTable p =>
    obtain ⟨⟨layout, document⟩, loaded, h⟩ := bind_eq_ok_iff.mp h
    obtain ⟨text, read, parsed, _⟩ := loadLayout_eq_ok_iff.mp loaded
    exact .inr ⟨p, text, document, decoded, read, parsed, (Except.ok.inj h).symm⟩

theorem nodup_layoutUpdates {document : Members} (sorted : document.Sorted) :
    ((layoutUpdates document).map (·.1)).Nodup :=
  (sorted.filter _).nodup

theorem get?_layoutUpdates {document : Members} (sorted : document.Sorted) (key : String) :
    (layoutUpdates document).get? key =
      if key ∈ TableLayout.fieldNames then document.get? key else none := by
  rw [layoutUpdates, Members.get?_filter sorted.nodup]
  split
  · next layout => cases document.get? key <;> simp [layout, Option.filter_some]
  · next other => cases document.get? key <;> simp [other, Option.filter_some]

theorem nodup_of_learn (h : learn ctx files task = .ok known) : (known.map (·.1)).Nodup := by
  rcases learn_eq_ok h with ⟨_, rfl⟩ | ⟨_, _, document, _, _, parsed, rfl⟩
  · exact List.nodup_nil
  · exact nodup_layoutUpdates (Json.ordered_of_parse parsed).of_object.1

end Learning

section Unread

variable {ctx : Context} {files : Files.Tree} {mode : Mode} {task : Task}

theorem keeps_createRecord : ∀ f ∈ CreateParameters.record.fields, f.form.Keeps := by
  simp only [CreateParameters.record, Field.needed, Field.spare, List.forall_mem_cons,
    List.not_mem_nil, false_imp_iff, implies_true, and_true]
  exact ⟨Form.keeps_text, Form.keeps_text, Form.keeps_flag⟩

theorem decodeParameters_createTable_iff {p : CreateParameters} :
    task.decodeParameters = .ok (.createTable p) ↔ task.kind = .createTable ∧
      CreateParameters.record.Fits task.parameters ∧ p = .ofMembers task.parameters := by
  have accepts : ∀ w, CreateParameters.record.form.accept (.object task.parameters) = .ok w ↔
      w = .object task.parameters ∧ CreateParameters.record.Fits task.parameters :=
    fun w => Json.Record.acceptMembers_eq_ok_iff keeps_createRecord
  constructor
  · intro h
    have kind : task.kind = .createTable := kind_of_decodeParameters h
    simp only [Task.decodeParameters, kind, Task.membersAs, bind_eq_ok_iff, accepts] at h
    obtain ⟨_, ⟨_, ⟨rfl, fits⟩, own⟩, made⟩ := h
    cases own
    cases made
    exact ⟨kind, fits, rfl⟩
  · rintro ⟨kind, fits, rfl⟩
    simp only [Task.decodeParameters, kind, Task.membersAs, (accepts _).mpr ⟨rfl, fits⟩]
    rfl

/-- What a layout says is no parameter of the task that creates the table. -/
theorem not_mem_fieldNames :
    ∀ name ∈ CreateParameters.record.fields.map (·.name), name ∉ TableLayout.fieldNames := by
  decide

/-- So the task has the same parameters once the layout has been merged into them. -/
theorem decodeParameters_merge {p : CreateParameters} {document : Members}
    (sorted : task.parameters.Sorted) (ordered : document.Sorted)
    (h : task.decodeParameters = .ok (.createTable p)) :
    ({ task with parameters := task.parameters.extend (layoutUpdates document) } :
      Task).decodeParameters = .ok (.createTable p) := by
  have unread : ∀ name ∈ CreateParameters.record.fields.map (·.name),
      (task.parameters.extend (layoutUpdates document)).get? name = task.parameters.get? name := by
    intro name hname
    rw [Members.get?_extend (nodup_layoutUpdates ordered), get?_layoutUpdates ordered,
      if_neg (not_mem_fieldNames name hname), Option.none_or]
  obtain ⟨kind, fits, rfl⟩ := decodeParameters_createTable_iff.mp h
  refine decodeParameters_createTable_iff.mpr
    ⟨kind, fits.of_same (sorted.extend _).nodup unread, ?_⟩
  simp only [CreateParameters.ofMembers, Members.text?, Members.flag?,
    unread "ddl_file" (by decide), unread "bq_table" (by decide),
    unread "force_delete" (by decide)]

/-- Compilation does not depend on what it learns. -/
theorem compileTask_extend {known : Members} (sorted : task.parameters.Sorted)
    (h : learn ctx files task = .ok known) :
    compileTask ctx files mode { task with parameters := task.parameters.extend known } =
      compileTask ctx files mode task := by
  rcases learn_eq_ok h with ⟨_, rfl⟩ | ⟨p, _, document, decoded, _, parsed, rfl⟩
  · rfl
  · have ordered := (Json.ordered_of_parse parsed).of_object.1
    rw [compileTask, decodeParameters_merge sorted ordered decoded, compileTask, decoded]
    rfl

end Unread

def knowledge (ctx : Context) (files : Files.Tree) (task : Task) : Members :=
  (learn ctx files task).toOption.getD []

def enriched (known : Task → Members) (ids : List String) (task : Task) : Task :=
  if task.id ∈ ids then { task with parameters := task.parameters.extend (known task) } else task

section Updates

variable {known : Task → Members} {ids : List String} {tasks rendered : List Task}

theorem id_enriched (task : Task) : (enriched known ids task).id = task.id := by
  unfold enriched
  split <;> rfl

theorem map_enriched_nil : tasks.map (enriched known []) = tasks :=
  (List.map_congr_left fun _ _ => if_neg List.not_mem_nil).trans (List.map_id _)

/-- Where ids differ, an update reaches the one task with its id. -/
theorem updateTask_eq_map (distinct : (tasks.map (·.id)).Nodup) (id : String) (updates : Members) :
    updateTask id updates tasks = tasks.map fun task =>
      if task.id = id then { task with parameters := task.parameters.extend updates }
      else task := by
  induction tasks with
  | nil => rfl
  | cons task tasks ih =>
    obtain ⟨fresh, distinct⟩ := List.nodup_cons.mp distinct
    rw [updateTask, List.map_cons]
    split
    · next same =>
      have others : tasks.map (fun task => if task.id = id then
          { task with parameters := task.parameters.extend updates } else task) = tasks := by
        refine (List.map_congr_left fun other hother => if_neg fun again => fresh ?_).trans
          (List.map_id _)
        exact List.mem_map.mpr ⟨other, hother, again.trans same.symm⟩
      rw [others]
    · rw [ih distinct]

variable (distinct : (tasks.map (·.id)).Nodup)
  (sorted : ∀ task ∈ tasks, task.parameters.Sorted)
include distinct sorted

/-- Knowledge that a task has already been given changes nothing more. -/
theorem updateTask_enriched {task : Task} (htask : task ∈ tasks)
    (single : ((known task).map (·.1)).Nodup) :
    updateTask task.id (known task) (tasks.map (enriched known ids)) =
      tasks.map (enriched known (ids ++ [task.id])) := by
  have apart : ((tasks.map (enriched known ids)).map (·.id)).Nodup := by
    rw [List.map_map]
    exact (List.map_congr_left fun task _ => id_enriched task) ▸ distinct
  rw [updateTask_eq_map apart, List.map_map]
  refine List.map_congr_left fun other hother => ?_
  rw [Function.comp_apply, id_enriched]
  split
  · next same =>
    obtain rfl := List.inj_on_of_nodup_map distinct hother htask same
    unfold enriched
    rw [if_pos (List.mem_append_right ids List.mem_cons_self)]
    split
    · rw [Members.extend_extend (sorted other hother) single]
    · rfl
  · next differs =>
    have same : other.id ∈ ids ++ [task.id] ↔ other.id ∈ ids := by simp [differs]
    simp only [enriched, same]

/-- By induction along the tasks that are compiled, of which some may be compiled repeatedly. -/
theorem foldl_updateTask (chosen : ∀ task ∈ rendered, task ∈ tasks)
    (single : ∀ task ∈ rendered, ((known task).map (·.1)).Nodup) :
    rendered.foldl (fun current task => updateTask task.id (known task) current)
      (tasks.map (enriched known ids)) =
      tasks.map (enriched known (ids ++ rendered.map (·.id))) := by
  induction rendered generalizing ids with
  | nil => rw [List.map_nil, List.append_nil, List.foldl_nil]
  | cons task rendered ih =>
    obtain ⟨htask, chosen⟩ := List.forall_mem_cons.mp chosen
    obtain ⟨once, single⟩ := List.forall_mem_cons.mp single
    rw [List.foldl_cons, updateTask_enriched distinct sorted htask once, ih chosen single,
      List.append_assoc, List.map_cons]
    rfl

end Updates

def enrichedSpec (files : Files.Tree) (spec : Spec) (ids : List String) : Spec :=
  { spec with tasks := spec.tasks.map (enriched (knowledge (.ofSpec spec) files) ids) }

section Specs

variable {files : Files.Tree} {spec : Spec} {mode : Mode} {subset : List String}
  {rendered : List Task} {compiled : List (Option Fragment)}

theorem enrichedSpec_nil : enrichedSpec files spec [] = spec := by
  rw [enrichedSpec, map_enriched_nil]

theorem enrichedSpec_append_self (ids : List String) :
    enrichedSpec files spec (ids ++ ids) = enrichedSpec files spec ids := by
  have same : ∀ known, enriched known (ids ++ ids) = enriched known ids := by
    intro known
    funext task
    simp only [enriched, List.mem_append, or_self]
  rw [enrichedSpec, same, enrichedSpec]

theorem knowledge_eq {ctx : Context} {task : Task} {f? : Option Fragment}
    (h : compileTask ctx files mode task = .ok f?) :
    learn ctx files task = .ok (knowledge ctx files task) ∧ learned f? = knowledge ctx files task := by
  have learns : learn ctx files task = .ok (learned f?) :=
    learned_compileTask.symm.trans (map_eq_ok_iff.mpr ⟨f?, h, rfl⟩)
  have same : knowledge ctx files task = learned f? := by
    rw [knowledge, learns]
    rfl
  exact ⟨same ▸ learns, same.symm⟩

/-- Tasks that keep their ids are chosen as before. -/
theorem selectTasks_map {f : Task → Task} (same : ∀ task, (f task).id = task.id) :
    selectTasks { spec with tasks := spec.tasks.map f } mode subset =
      List.map f <$> selectTasks spec mode subset := by
  unfold selectTasks
  split
  · rfl
  · rw [← mapM_map_eq]
    refine congrArg subset.mapM (funext fun entry => ?_)
    have found : Spec.task? { spec with tasks := spec.tasks.map f } (Text.trim entry) =
        (spec.task? (Text.trim entry)).map f := by
      simp only [Spec.task?, List.find?_map, Function.comp_def, same]
    dsimp only
    rw [found]
    cases spec.task? (Text.trim entry) <;> rfl

/-- What compilation makes of a task. -/
theorem merged_enriched (distinct : (spec.tasks.map (·.id)).Nodup)
    (chosen : ∀ task ∈ rendered, task ∈ spec.tasks)
    (learns : ∀ task ∈ rendered, learn (.ofSpec spec) files task =
      .ok (knowledge (.ofSpec spec) files task))
    {task : Task} (htask : task ∈ spec.tasks) (sorted : task.parameters.Sorted) :
    Merged files spec rendered task
      (enriched (knowledge (.ofSpec spec) files) (rendered.map (·.id)) task) := by
  by_cases here : task ∈ rendered
  · rw [enriched, if_pos (List.mem_map_of_mem here)]
    rcases learn_eq_ok (learns task here) with
      ⟨other, none⟩ | ⟨p, text, document, decoded, read, parsed, known⟩
    · rw [none]
      exact ⟨rfl, fun _ => rfl, fun _ create => absurd create other⟩
    · have kind : task.kind = .createTable := kind_of_decodeParameters decoded
      have ordered := (Json.ordered_of_parse parsed).of_object.1
      rw [known]
      refine ⟨rfl, fun apart => absurd kind (apart here), fun _ _ =>
        ⟨document, ⟨p, text, decoded, read, parsed⟩, sorted.extend _, fun key => ?_⟩⟩
      rw [Members.get?_extend (nodup_layoutUpdates ordered), get?_layoutUpdates ordered]
      split
      · rfl
      · exact Option.none_or
  · have apart : task.id ∉ rendered.map (·.id) := by
      intro named
      obtain ⟨other, hother, same⟩ := List.mem_map.mp named
      exact here (List.inj_on_of_nodup_map distinct (chosen other hother) htask same ▸ hother)
    rw [enriched, if_neg apart]
    exact ⟨rfl, fun _ => rfl, fun there => absurd there here⟩

section Again

variable {a : Artifact} {head last : String} (distinct : (spec.tasks.map (·.id)).Nodup)
  (sorted : ∀ task ∈ spec.tasks, task.parameters.Sorted)
  (made : Assembled files spec mode subset a rendered compiled head last)
include made

theorem Assembled.learns : ∀ task ∈ rendered,
    learn (.ofSpec spec) files task = .ok (knowledge (.ofSpec spec) files task) := by
  intro task htask
  obtain ⟨_, _, compiles⟩ := exists_mem_of_forall₂ made.compiles.flip task htask
  exact (knowledge_eq compiles).1

include distinct sorted

/-- The fragments put what is known of the tasks into them. -/
theorem updateSpec_enrichedSpec (ids : List String) :
    updateSpec (enrichedSpec files spec ids) (compiled.filterMap id) =
      enrichedSpec files spec (ids ++ rendered.map (·.id)) := by
  have known : compiled.map learned = rendered.map (knowledge (.ofSpec spec) files) := by
    refine List.forall₂_eq_eq_eq ▸ (List.forall₂_map_left_iff.mpr (List.forall₂_map_right_iff.mpr ?_))
    exact made.compiles.flip.imp fun _ _ compiles => (knowledge_eq compiles).2
  have paired : rendered.zip (rendered.map (knowledge (.ofSpec spec) files)) =
      rendered.map fun task => (task, knowledge (.ofSpec spec) files task) := by
    simpa using List.zip_map' (f := id) (g := knowledge (.ofSpec spec) files) (l := rendered)
  rw [updateSpec, foldl_updates made.compiles, known, paired, List.foldl_map]
  exact congrArg (fun tasks => { spec with tasks }) (foldl_updateTask distinct sorted
    (mem_of_selectTasks made.selects) fun task htask => nodup_of_learn (made.learns task htask))

/-- The script stays the same however much of the knowledge has been merged before. -/
theorem assemble_enrichedSpec (ids : List String) :
    assemble files (enrichedSpec files spec ids) mode subset = .ok {
      mode
      deploymentName := spec.deploymentName
      source := String.join ([prelude, helpers, head] ++ (compiled.filterMap id).map (·.code) ++
        [last])
      spec := enrichedSpec files spec (ids ++ rendered.map (·.id)) } := by
  let f := enriched (knowledge (.ofSpec spec) files) ids
  -- neither the header nor the wiring looks at parameters
  have heading : heading (enrichedSpec files spec ids) mode = .ok head := by
    rw [← made.heading]
    cases mode <;> rfl
  have selects : selectTasks (enrichedSpec files spec ids) mode subset = .ok (rendered.map f) := by
    rw [enrichedSpec, selectTasks_map fun task => id_enriched task, made.selects]
    rfl
  have compiles : List.Forall₂ (fun task f? =>
      compileTask (.ofSpec (enrichedSpec files spec ids)) files mode task = .ok f?)
      (rendered.map f) compiled := by
    have each : ∀ task ∈ rendered, ∀ f?, compileTask (.ofSpec spec) files mode task = .ok f? →
        compileTask (.ofSpec spec) files mode (f task) = .ok f? := by
      intro task htask f? compiles
      have learns := made.learns task htask
      unfold f enriched
      split
      · rwa [compileTask_extend (sorted task (mem_of_selectTasks made.selects task htask)) learns]
      · exact compiles
    refine List.forall₂_map_left_iff.mpr ?_
    exact ((List.forall₂_and_left _ _).mpr ⟨each, made.compiles⟩).imp fun _ f? h => h.1 f? h.2
  have ending : ending (enrichedSpec files spec ids) mode (compiled.filterMap id) = .ok last := by
    have ids : (enrichedSpec files spec ids).tasks.map (·.id) = spec.tasks.map (·.id) := by
      rw [enrichedSpec, List.map_map]
      exact List.map_congr_left fun task _ => id_enriched task
    rw [← made.ending]
    cases mode with
    | standalone => rfl
    | deployable => rw [Script.ending, wiring, ids]; rfl
  rw [assemble_eq_ok heading selects compiles ending,
    updateSpec_enrichedSpec distinct sorted made ids]
  rfl

end Again

/-- What compilation makes of a specification in which ids differ. -/
theorem merged_of_assemble {a : Artifact} (distinct : (spec.tasks.map (·.id)).Nodup)
    (sorted : ∀ task ∈ spec.tasks, task.parameters.Sorted)
    (h : assemble files spec mode subset = .ok a) :
    ∃ rendered, selectTasks spec mode subset = .ok rendered ∧
      a.spec = { spec with tasks := a.spec.tasks } ∧
      List.Forall₂ (Merged files spec rendered) spec.tasks a.spec.tasks ∧
      assemble files a.spec mode subset = .ok a := by
  obtain ⟨rendered, compiled, head, last, made⟩ := assembled_of_assemble h
  have again := assemble_enrichedSpec distinct sorted made
  have first := again []
  rw [enrichedSpec_nil, List.nil_append, h] at first
  have updated : a.spec = enrichedSpec files spec (rendered.map (·.id)) :=
    congrArg (·.spec) (Except.ok.inj first)
  have second := again (rendered.map (·.id))
  rw [enrichedSpec_append_self, ← first] at second
  rw [updated]
  refine ⟨rendered, made.selects, rfl, ?_, second⟩
  have chosen := mem_of_selectTasks made.selects
  exact List.forall₂_map_right_iff.mpr (List.forall₂_same.mpr fun task htask =>
    merged_enriched distinct chosen made.learns htask (sorted task htask))

/-- Compilation changes a specification only where it merges the layouts of the tables that the
tasks of the script create, and a compiled specification is compiled to the same script again. -/
theorem assemble_merges_layouts {sources : Files.Tree} {path : String} {loaded : Workflow.Loaded}
    (accepted : Workflow.load sources path = .ok loaded) {a : Artifact}
    (h : assemble files loaded.spec mode subset = .ok a) :
    ∃ rendered, selectTasks loaded.spec mode subset = .ok rendered ∧
      a.spec = { loaded.spec with tasks := a.spec.tasks } ∧
      List.Forall₂ (Merged files loaded.spec rendered) loaded.spec.tasks a.spec.tasks ∧
      assemble files a.spec mode subset = .ok a := by
  have distinct := (Workflow.settled_of_load accepted).sound.distinct
  have proper := Workflow.proper_of_load accepted
  exact merged_of_assemble distinct (fun task htask => (proper.tasks task htask).sorted) h

/-- Of two tasks that create tables of the same layout one is asked for. -/
theorem assemble_merges_layouts_null :
    let files := Workflow.besideTables ["ab", "cd"]
    ∃ loaded a rendered, Workflow.load files "/w" = .ok loaded ∧
      assemble files loaded.spec .standalone ["ab"] = .ok a ∧
      List.Forall₂ (Merged files loaded.spec rendered) loaded.spec.tasks a.spec.tasks ∧
      a.spec.tasks.map (fun task =>
        (task.id, (task.parameters.get? "bq_table_timepartitioning_field").map Value.isNull)) =
        [("ab", some true), ("cd", none)] ∧
      assemble files a.spec .standalone ["ab"] = .ok a := by
  intro files
  have ran : (do
      let loaded ← (Workflow.loadDocument files "/w" "/" (Workflow.tables ["ab", "cd"])).toOption
      let a ← (assemble files loaded.spec .standalone ["ab"]).toOption
      some (a.spec.tasks.map fun task =>
        (task.id, (task.parameters.get? "bq_table_timepartitioning_field").map Value.isNull))) =
      some [("ab", some true), ("cd", none)] := by
    decide +kernel
  simp only [Option.bind_eq_bind, Option.bind_eq_some_iff, toOption_eq_some_iff,
    Option.some.injEq] at ran
  obtain ⟨loaded, accepted, a, assembled, parameters⟩ := ran
  rw [← Workflow.load_besideTables] at accepted
  obtain ⟨rendered, _, _, merged, again⟩ := assemble_merges_layouts accepted assembled
  exact ⟨loaded, a, rendered, accepted, assembled, merged, parameters, again⟩

end Specs

end WorkflowCompiler.Script
