import WorkflowCompiler.Proofs.Publish.Agreement
import WorkflowCompiler.Proofs.Script.Recompiled

/-!
Envelopes copy the specification. Texts come from the tasks and from the files that they name, and
the configuration is the document of the specification with documentation in place of file names.
Only a query that cannot be shipped keeps an envelope from being made.
-/
namespace WorkflowCompiler.Publish

open Json (Value Members)
open Script
open Workflow (Spec Task)

/-- The specifications that envelopes are made of: one that has been loaded, or what compilation
has made of it. -/
inductive Available : Spec → Prop
  | loaded {sources : Files.Tree} {path : String} {loaded : Workflow.Loaded} :
      Workflow.load sources path = .ok loaded → Available loaded.spec
  | compiled {spec : Spec} {files : Files.Tree} {mode : Mode} {subset : List String}
      {a : Artifact} : Available spec → assemble files spec mode subset = .ok a → Available a.spec

/-- The documentation of a task is the text of the file that it names. -/
def Documented (files : Files.Tree) (spec : Spec) (task : Task) (text : String) : Prop :=
  ∃ file, task.docFile = some file ∧ files.readBytes (spec.resolve file) = .ok text.toUTF8

/-- Why a query cannot be shipped. -/
inductive Unshippable (files : Files.Tree) (spec : Spec) (task : Task) : String → Prop
  | parameters {mismatch : Json.Mismatch} : task.kind = .query →
      task.queryParameters = .error mismatch → Unshippable files spec task mismatch.message
  | unreadable {p : Workflow.QueryParameters} {fault : Files.Fault} : task.kind = .query →
      task.queryParameters = .ok p → files.readBytes (spec.resolve p.sqlFile) = .error fault →
      Unshippable files spec task
        ("cannot read SQL file " ++ spec.resolve p.sqlFile ++ ": " ++ fault.message)

/-- The document of a task, with its documentation if there is any. -/
def restated (docs : Members) (task : Task) : Value :=
  match docs.get? task.id with
  | some text => .object (task.toValue.members.insert "doc_md" text)
  | none => task.toValue

/-- What an envelope has from a specification and from the files that it names. -/
structure Faithful (files : Files.Tree) (spec : Spec) (envelope : Envelope) : Prop where
  sortedDocs : envelope.docs.Sorted
  docs : ∀ id v, (id, v) ∈ envelope.docs ↔
    ∃ task ∈ spec.tasks, task.id = id ∧ ∃ text, Documented files spec task text ∧ v = .text text
  sortedDescriptions : envelope.shortDescriptions.Sorted
  descriptions : ∀ id v, (id, v) ∈ envelope.shortDescriptions ↔
    ∃ task ∈ spec.tasks, task.id = id ∧
      ∃ text, task.shortDescription = some text ∧ v = .text (Text.trim text)
  configuration : envelope.configuration = .object (spec.toValue.members.insert "workflow"
    (.list (spec.tasks.map (restated envelope.docs))))
  account : envelope.account = spec.account.getD .null
  environment : envelope.environment = spec.environment
  named : envelope.configurationId = spec.deploymentName

section Available

/-- What envelopes rely on: ids differ, queries say whether their tables are temporary, and
documents can hold the specification. -/
structure Regular (spec : Spec) : Prop where
  distinct : (spec.tasks.map (·.id)).Nodup
  queries : ∀ task ∈ spec.tasks, task.kind = .query → task.temporaryTable.isSome = true
  proper : spec.Proper

/-- No field of a layout is a field of the task. -/
theorem field?_of_mem_fieldNames :
    ∀ name ∈ Workflow.TableLayout.fieldNames, Workflow.Task.record.field? name = none := by
  decide

theorem proper_of_merged {files : Files.Tree} {spec : Spec} {rendered : List Task}
    {task updated : Task} (merged : Merged files spec rendered task updated)
    (proper : task.Proper) : updated.Proper := by
  by_cases create : task ∈ rendered ∧ task.kind = .createTable
  · obtain ⟨document, _, sorted, lookup⟩ := merged.merged create.1 create.2
    have apart : ∀ m ∈ updated.parameters, Workflow.Task.record.field? m.1 = none := by
      intro m hm
      by_cases known : m.1 ∈ Workflow.TableLayout.fieldNames
      · exact field?_of_mem_fieldNames m.1 known
      · have found : updated.parameters.get? m.1 = some m.2 := Members.get?_of_mem sorted.nodup hm
        rw [lookup, if_neg known] at found
        exact proper.apart _ (Members.mem_of_get? found)
    rw [merged.fields]
    exact ⟨rfl, proper.distinct, sorted, apart⟩
  · rwa [merged.unchanged fun there kind => create ⟨there, kind⟩]

theorem Available.regular {spec : Spec} (available : Available spec) : Regular spec := by
  induction available with
  | loaded accepted =>
    have settled := Workflow.settled_of_load accepted
    exact ⟨settled.sound.distinct, settled.queries, Workflow.proper_of_load accepted⟩
  | @compiled spec files mode subset a _ h ih =>
    have sorted : ∀ task ∈ spec.tasks, task.parameters.Sorted :=
      fun task htask => (ih.proper.tasks task htask).sorted
    obtain ⟨rendered, _, updated, merged, _⟩ := merged_of_assemble ih.distinct sorted h
    have ids : a.spec.tasks.map (·.id) = spec.tasks.map (·.id) := by
      refine List.forall₂_eq_eq_eq ▸
        (List.forall₂_map_left_iff.mpr (List.forall₂_map_right_iff.mpr ?_))
      exact merged.flip.imp fun _ _ same => by rw [same.fields]
    refine ⟨ids ▸ ih.distinct, ?_, ?_⟩
    · intro task htask query
      obtain ⟨original, horiginal, same⟩ := exists_mem_of_forall₂ merged task htask
      rw [same.fields] at query ⊢
      exact ih.queries original horiginal query
    · have tasks : ∀ task ∈ a.spec.tasks, task.Proper := by
        intro task htask
        obtain ⟨original, horiginal, same⟩ := exists_mem_of_forall₂ merged task htask
        exact proper_of_merged same (ih.proper.tasks original horiginal)
      rw [updated]
      exact ⟨⟨rfl, ih.proper.written.distinct, ih.proper.written.sorted, ih.proper.written.apart⟩,
        ih.proper.runs, ih.proper.concurrency, tasks, ih.proper.account⟩

end Available

section Tasks

variable {files : Files.Tree} {spec : Spec} {task : Task}

theorem documentationOf_eq_some_iff {text : String} :
    TaskEntry.documentationOf files spec task = some text ↔ Documented files spec task text := by
  simp only [TaskEntry.documentationOf, Option.bind_eq_some_iff, toOption_eq_some_iff,
    Workflow.readText_eq_ok_iff]
  rfl

theorem sqlOf_eq_error_iff {e : BuildError} : TaskEntry.sqlOf files spec task = .error e ↔
    ∃ cause, Unshippable files spec task cause ∧ e = .taskFailed task.id cause := by
  constructor
  · intro h
    rw [TaskEntry.sqlOf] at h
    split at h
    · next query =>
      rcases bind_eq_error_iff.mp h with wrong | ⟨p, parameters, h⟩
      · obtain ⟨mismatch, parameters, rfl⟩ := mapError_eq_error_iff.mp wrong
        exact ⟨_, .parameters query parameters, rfl⟩
      · rw [mapError_eq_ok_iff] at parameters
        rcases bind_eq_error_iff.mp h with wrong | ⟨_, _, h⟩
        · obtain ⟨fault, read, rfl⟩ := mapError_eq_error_iff.mp wrong
          exact ⟨_, .unreadable query parameters read, rfl⟩
        · cases h
    · cases h
  · rintro ⟨cause, unshippable, rfl⟩
    cases unshippable with
    | parameters query parameters =>
      simp only [TaskEntry.sqlOf, if_pos query, parameters, Except.mapError, bind, Except.bind]
    | unreadable query parameters read =>
      simp only [TaskEntry.sqlOf, if_pos query, parameters, read, Except.mapError, bind,
        Except.bind]

theorem ofTask_eq_error_iff {e : BuildError} : TaskEntry.ofTask files spec task = .error e ↔
    ∃ cause, Unshippable files spec task cause ∧ e = .taskFailed task.id cause := by
  rw [← sqlOf_eq_error_iff, TaskEntry.ofTask, bind_eq_error_iff]
  constructor
  · rintro (failed | ⟨_, _, h⟩)
    · exact failed
    · cases h
  · exact .inl

theorem exists_ofTask_iff : (∃ e, TaskEntry.ofTask files spec task = .ok e) ↔
    ∀ cause, ¬Unshippable files spec task cause := by
  cases made : TaskEntry.ofTask files spec task with
  | error e =>
    obtain ⟨cause, unshippable, _⟩ := ofTask_eq_error_iff.mp made
    simpa using ⟨cause, unshippable⟩
  | ok entry =>
    simp only [Except.ok.injEq, exists_eq', true_iff]
    intro cause unshippable
    cases made.symm.trans (ofTask_eq_error_iff.mpr ⟨cause, unshippable, rfl⟩)

/-- A query that says whether its table is temporary is stated as it is but for documentation. -/
theorem stated_eq (settled : task.kind = .query → task.temporaryTable.isSome = true)
    (documentation : Option String) :
    TaskEntry.stated task documentation = { task with docFile := documentation <|> task.docFile } := by
  have same : (if task.kind = .query then some (task.temporaryTable.getD false)
      else task.temporaryTable) = task.temporaryTable := by
    split
    · next query =>
      obtain ⟨temporary, known⟩ := Option.isSome_iff_exists.mp (settled query)
      rw [known, Option.getD_some]
    · rfl
  rw [TaskEntry.stated, same]

theorem toValue_documented (proper : task.Proper) (text : String) :
    ({ task with docFile := some text } : Task).toValue =
      .object (task.toValue.members.insert "doc_md" (.text text)) := by
  have proper' : ({ task with docFile := some text } : Task).Proper :=
    ⟨rfl, proper.distinct, proper.sorted, proper.apart⟩
  rw [Workflow.Task.toValue_eq, Workflow.Task.members_toValue]
  refine congrArg Value.object (proper.eq_insert proper' ?_ ?_)
  · simp [Workflow.Task.fields]
  · simp [Workflow.Task.fields]

theorem toValue_withTasks (proper : spec.Proper) (tasks : List Task) :
    ({ spec with tasks } : Spec).toValue = .object (spec.toValue.members.insert "workflow"
      (.list (tasks.map Workflow.Task.toValue))) := by
  have written' : Workflow.Spec.record.Writes ({ spec with tasks } : Spec).fields spec.extra :=
    ⟨rfl, proper.written.distinct, proper.written.sorted, proper.written.apart⟩
  rw [Workflow.Spec.toValue_eq, Workflow.Spec.members_toValue]
  refine congrArg Value.object (proper.written.eq_insert written' ?_ ?_)
  · simp [Workflow.Spec.fields]
  · simp [Workflow.Spec.fields]

end Tasks

section Envelopes

variable {files : Files.Tree} {spec : Spec} {entries : List TaskEntry} {envelope : Envelope}

structure Held (files : Files.Tree) (spec : Spec) (task : Task) (e : TaskEntry) : Prop where
  stated : e.task = TaskEntry.stated task (TaskEntry.documentationOf files spec task)
  description : e.shortDescription = task.shortDescription.map Text.trim
  documentation : e.documentation = TaskEntry.documentationOf files spec task

theorem Held.id_eq {task : Task} {e : TaskEntry} (held : Held files spec task e) :
    e.task.id = task.id := by
  rw [held.stated]
  rfl

theorem held_of_ofTask {task : Task} {e : TaskEntry}
    (h : TaskEntry.ofTask files spec task = .ok e) : Held files spec task e := by
  obtain ⟨_, _, h⟩ := bind_eq_ok_iff.mp h
  cases h
  exact ⟨rfl, rfl, rfl⟩

theorem ids_of_held (held : List.Forall₂ (Held files spec) spec.tasks entries) :
    entries.map (·.task.id) = spec.tasks.map (·.id) := by
  refine List.forall₂_eq_eq_eq ▸ (List.forall₂_map_left_iff.mpr (List.forall₂_map_right_iff.mpr ?_))
  exact held.flip.imp fun _ _ held => held.id_eq

/-- What is stored under an id is what the task with the id has. -/
theorem mem_textsOf_iff (held : List.Forall₂ (Held files spec) spec.tasks entries)
    (distinct : (spec.tasks.map (·.id)).Nodup) {part : TaskEntry → Option String}
    {own : Task → Option String} (same : ∀ task e, Held files spec task e → part e = own task)
    (id : String) (v : Value) : (id, v) ∈ Envelope.textsOf part entries ↔
      ∃ task ∈ spec.tasks, task.id = id ∧ ∃ text, own task = some text ∧ v = .text text := by
  have distinct' : (entries.map (·.task.id)).Nodup := ids_of_held held ▸ distinct
  constructor
  · intro h
    obtain ⟨e, he, stored⟩ := List.mem_filterMap.mp ((Members.ofList_spec _).2 _ h)
    obtain ⟨text, there, stored⟩ := Option.map_eq_some_iff.mp stored
    cases stored
    obtain ⟨task, htask, heldHere⟩ := exists_mem_of_forall₂ held e he
    exact ⟨task, htask, heldHere.id_eq.symm, text, same task e heldHere ▸ there, rfl⟩
  · rintro ⟨task, htask, rfl, text, there, rfl⟩
    obtain ⟨e, he, heldHere⟩ := exists_mem_of_forall₂ held.flip task htask
    have found : (Envelope.textsOf part entries).get? e.task.id = some (.text text) :=
      Envelope.get?_textsOf distinct' he ((same task e heldHere).trans there)
    exact heldHere.id_eq ▸ Members.mem_of_get? found

theorem get?_textsOf_held (held : List.Forall₂ (Held files spec) spec.tasks entries)
    (distinct : (spec.tasks.map (·.id)).Nodup) {part : TaskEntry → Option String}
    {own : Task → Option String} (same : ∀ task e, Held files spec task e → part e = own task)
    {task : Task} (htask : task ∈ spec.tasks) :
    (Envelope.textsOf part entries).get? task.id = (own task).map .text := by
  refine Option.ext fun v => ?_
  have sorted := (Members.ofList_spec (entries.filterMap fun e =>
    (part e).map fun s => (e.task.id, Value.text s))).1
  have stored := mem_textsOf_iff held distinct same task.id v
  rw [Option.map_eq_some_iff]
  constructor
  · intro found
    obtain ⟨other, hother, named, text, there, rfl⟩ := stored.mp (Members.mem_of_get? found)
    obtain rfl := List.inj_on_of_nodup_map distinct hother htask named
    exact ⟨text, there, rfl⟩
  · rintro ⟨text, there, rfl⟩
    exact Members.get?_of_mem sorted.nodup (stored.mpr ⟨task, htask, rfl, text, there, rfl⟩)

theorem faithful_of_held (regular : Regular spec)
    (held : List.Forall₂ (Held files spec) spec.tasks entries)
    (docs : envelope.docs = Envelope.textsOf (·.documentation) entries)
    (descriptions : envelope.shortDescriptions = Envelope.textsOf (·.shortDescription) entries)
    (configuration : envelope.configuration =
      ({ spec with tasks := entries.map (·.task) } : Spec).toValue)
    (account : envelope.account = spec.account.getD .null)
    (environment : envelope.environment = spec.environment)
    (named : envelope.configurationId = spec.deploymentName) : Faithful files spec envelope where
  sortedDocs := docs ▸ (Members.ofList_spec _).1
  docs := by
    intro id v
    simp only [docs, ← documentationOf_eq_some_iff]
    exact mem_textsOf_iff held regular.distinct (fun _ _ held => held.documentation) id v
  sortedDescriptions := descriptions ▸ (Members.ofList_spec _).1
  descriptions := by
    intro id v
    rw [descriptions, mem_textsOf_iff held regular.distinct (fun _ _ held => held.description)]
    simp only [Option.map_eq_some_iff]
    constructor
    · rintro ⟨task, htask, same, _, ⟨text, there, rfl⟩, rfl⟩
      exact ⟨task, htask, same, text, there, rfl⟩
    · rintro ⟨task, htask, same, text, there, rfl⟩
      exact ⟨task, htask, same, _, ⟨text, there, rfl⟩, rfl⟩
  configuration := by
    rw [configuration, toValue_withTasks regular.proper, List.map_map]
    refine congrArg (fun tasks => Value.object (spec.toValue.members.insert "workflow"
      (.list tasks))) ?_
    refine List.forall₂_eq_eq_eq ▸
      (List.forall₂_map_left_iff.mpr (List.forall₂_map_right_iff.mpr ?_))
    have each : List.Forall₂ (fun task e => task ∈ spec.tasks ∧ Held files spec task e)
        spec.tasks entries := (List.forall₂_and_left _ _).mpr ⟨fun _ h => h, held⟩
    refine each.flip.imp ?_
    rintro e task ⟨htask, heldHere⟩
    rw [Function.comp_apply, heldHere.stated, stated_eq (regular.queries task htask), restated, docs,
      get?_textsOf_held held regular.distinct (fun _ _ held => held.documentation) htask]
    cases TaskEntry.documentationOf files spec task with
    | none => rfl
    | some text => exact toValue_documented (regular.proper.tasks task htask) text
  account := account
  environment := environment
  named := named

/-- An envelope is a faithful copy. Its texts are those of the tasks and of the files that these
name, its configuration is the document of the specification but for documentation, and only a
query that cannot be shipped keeps it from being made: the first one is named. -/
theorem envelope_copies_specification (available : Available spec) (files : Files.Tree) :
    (∀ envelope, Envelope.ofSpec files spec = .ok envelope → Faithful files spec envelope) ∧
    (∀ e, Envelope.ofSpec files spec = .error e → ∃ before task after cause,
      spec.tasks = before ++ task :: after ∧ Unshippable files spec task cause ∧
      (∀ earlier ∈ before, ∀ cause, ¬Unshippable files spec earlier cause) ∧
      e = .taskFailed task.id cause) ∧
    ((∃ envelope, Envelope.ofSpec files spec = .ok envelope) ↔
      ∀ task ∈ spec.tasks, ∀ cause, ¬Unshippable files spec task cause) := by
  have regular := available.regular
  refine ⟨fun envelope h => ?_, fun e h => ?_, ?_⟩
  · obtain ⟨entries, made, h⟩ := bind_eq_ok_iff.mp h
    have held := (mapM_eq_ok_iff.mp made).imp fun task e h => held_of_ofTask h
    cases h
    exact faithful_of_held regular held rfl rfl rfl rfl rfl rfl
  · rcases bind_eq_error_iff.mp h with failed | ⟨_, _, h⟩
    · obtain ⟨before, task, after, same, succeed, failed⟩ := mapM_eq_error_iff.mp failed
      obtain ⟨cause, unshippable, rfl⟩ := ofTask_eq_error_iff.mp failed
      exact ⟨before, task, after, cause, same, unshippable,
        fun earlier hearlier => exists_ofTask_iff.mp (succeed earlier hearlier), rfl⟩
    · cases h
  · simp only [← exists_ofTask_iff, ← exists_forall₂_iff, ← mapM_eq_ok_iff]
    constructor
    · rintro ⟨envelope, h⟩
      obtain ⟨entries, made, _⟩ := bind_eq_ok_iff.mp h
      exact ⟨entries, made⟩
    · rintro ⟨entries, made⟩
      exact ⟨_, bind_eq_ok_iff.mpr ⟨entries, made, rfl⟩⟩

/-- The documentation of one task is read, that of the other cannot be; without files there is no
envelope. -/
theorem envelope_copies_specification_documented :
    let files := Workflow.besideDocumentation
    ∃ loaded a envelope, Workflow.load files "/w" = .ok loaded ∧
      assemble files loaded.spec .deployable [] = .ok a ∧
      Envelope.ofSpec files a.spec = .ok envelope ∧ Faithful files a.spec envelope ∧
      envelope.docs.map (·.1) = ["ab"] ∧ envelope.shortDescriptions.map (·.1) = ["ab"] ∧
      ∃ task ∈ a.spec.tasks, ∃ cause, Unshippable ⟨[], []⟩ a.spec task cause ∧
        Envelope.ofSpec ⟨[], []⟩ a.spec = .error (.taskFailed task.id cause) := by
  intro files
  have ran : (do
      let loaded ← (Workflow.loadDocument files "/w" "/" Workflow.documented).toOption
      let a ← (assemble files loaded.spec .deployable []).toOption
      let envelope ← (Envelope.ofSpec files a.spec).toOption
      some (envelope.docs.map (·.1), envelope.shortDescriptions.map (·.1),
        (Envelope.ofSpec ⟨[], []⟩ a.spec).toOption.isSome)) =
      some (["ab"], ["ab"], false) := by
    decide +kernel
  simp only [Option.bind_eq_bind, Option.bind_eq_some_iff, toOption_eq_some_iff,
    Option.some.injEq, Prod.mk.injEq] at ran
  obtain ⟨loaded, accepted, a, assembled, envelope, made, docs, descriptions, without⟩ := ran
  rw [← Workflow.load_besideDocumentation] at accepted
  have available : Available a.spec := .compiled (.loaded accepted) assembled
  obtain ⟨faithful, _, _⟩ := envelope_copies_specification available files
  obtain ⟨_, named, _⟩ := envelope_copies_specification available ⟨[], []⟩
  refine ⟨loaded, a, envelope, accepted, assembled, made, faithful envelope made, docs,
    descriptions, ?_⟩
  cases failed : Envelope.ofSpec ⟨[], []⟩ a.spec with
  | ok _ =>
    rw [failed] at without
    cases without
  | error e =>
    obtain ⟨before, task, after, cause, same, unshippable, _, rfl⟩ := named e failed
    exact ⟨task, by rw [same]; simp, cause, unshippable, rfl⟩

/-- An envelope is named by the deployment and not by the configuration. -/
theorem envelope_named_by_deployment :
    let files := Workflow.besideQuery "ab" "one query" "SELECT 1"
    ∃ loaded envelope, Workflow.load files "/w" = .ok loaded ∧
      Envelope.ofSpec files loaded.spec = .ok envelope ∧ loaded.spec.configurationId = "c" ∧
      envelope.configurationId = "c_PROD" ∧
      envelope.configurationId ≠ loaded.spec.configurationId := by
  intro files
  have ran : (do
      let loaded ← (Workflow.loadDocument files "/w" "/"
        (Workflow.oneQuery "ab" "one query")).toOption
      let envelope ← (Envelope.ofSpec files loaded.spec).toOption
      some (loaded.spec.configurationId, envelope.configurationId)) = some ("c", "c_PROD") := by
    decide +kernel
  simp only [Option.bind_eq_bind, Option.bind_eq_some_iff, toOption_eq_some_iff,
    Option.some.injEq, Prod.mk.injEq] at ran
  obtain ⟨loaded, accepted, envelope, made, own, named⟩ := ran
  rw [← Workflow.load_besideQuery] at accepted
  exact ⟨loaded, envelope, accepted, made, own, named, by rw [own, named]; decide⟩

end Envelopes

end WorkflowCompiler.Publish
