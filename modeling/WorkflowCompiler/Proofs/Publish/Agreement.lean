import WorkflowCompiler.Proofs.Json.Lookup
import WorkflowCompiler.Proofs.Script.Reading
import WorkflowCompiler.Proofs.Script.Updated
import WorkflowCompiler.Proofs.Text.Base64
import WorkflowCompiler.Proofs.Workflow.Written
import WorkflowCompiler.Publish.Envelope

/-!
Scripts and envelope agree. The envelope holds a query under the name that both scripts have for
it, and what it holds is what the local script embeds: the text of the query's file.
-/
namespace WorkflowCompiler.Publish

open Json (Value Members)
open Script
open Workflow (Spec Task Settled QueryParameters)

namespace Envelope

section Texts

variable {part : TaskEntry → Option String} {entries : List TaskEntry}

theorem nodup_stored (distinct : (entries.map (·.task.id)).Nodup) :
    ((entries.filterMap fun e => (part e).map fun s => (e.task.id, Value.text s)).map
      (·.1)).Nodup := by
  refine List.Nodup.sublist ?_ distinct
  induction entries with
  | nil => exact .slnil
  | cons e entries ih =>
    replace ih := ih (List.nodup_cons.mp distinct).2
    cases h : part e with
    | none =>
      simp only [List.filterMap_cons, h, Option.map_none, List.map_cons]
      exact .cons _ ih
    | some s =>
      simp only [List.filterMap_cons, h, Option.map_some, List.map_cons]
      exact .cons_cons _ ih

theorem get?_textsOf (distinct : (entries.map (·.task.id)).Nodup) {e : TaskEntry} (he : e ∈ entries)
    {s : String} (hs : part e = some s) :
    (textsOf part entries).get? e.task.id = some (.text s) := by
  rw [textsOf, Members.get?_ofList (nodup_stored distinct)]
  refine Members.get?_of_mem (nodup_stored distinct) (List.mem_filterMap.mpr ⟨e, he, ?_⟩)
  rw [hs, Option.map_some]

theorem mem_keys_textsOf (distinct : (entries.map (·.task.id)).Nodup) {key : String} :
    key ∈ (textsOf part entries).map (·.1) ↔
      ∃ e ∈ entries, e.task.id = key ∧ (part e).isSome = true := by
  rw [Members.mem_keys_iff, textsOf, Members.get?_ofList (nodup_stored distinct),
    ← Members.mem_keys_iff, List.mem_map]
  simp only [List.mem_filterMap, Option.map_eq_some_iff, Option.isSome_iff_exists]
  constructor
  · rintro ⟨_, ⟨e, he, s, hs, rfl⟩, rfl⟩
    exact ⟨e, he, rfl, s, hs⟩
  · rintro ⟨e, he, rfl, s, hs⟩
    exact ⟨_, ⟨e, he, s, hs, rfl⟩, rfl⟩

end Texts

end Envelope

section Entries

variable {files : Files.Tree} {spec : Spec} {task updated : Task}

theorem sqlOf_of_kept (kept : Kept task updated) :
    TaskEntry.sqlOf files spec updated = TaskEntry.sqlOf files spec task := by
  by_cases query : task.kind = .query
  · rw [kept.query query]
  · rw [TaskEntry.sqlOf, TaskEntry.sqlOf, if_neg query, if_neg (kept.kind_eq ▸ query)]

theorem sqlOf_query (query : task.kind = .query) {p : QueryParameters} {body : ByteArray}
    (parameters : task.queryParameters = .ok p)
    (read : files.readBytes (spec.resolve p.sqlFile) = .ok body) :
    TaskEntry.sqlOf files spec task = .ok (some body) := by
  simp only [TaskEntry.sqlOf, if_pos query, parameters, read, Except.mapError, bind, Except.bind]

theorem ofTask_of_sqlOf {sql : Option ByteArray} (h : TaskEntry.sqlOf files spec task = .ok sql) :
    ∃ e, TaskEntry.ofTask files spec task = .ok e ∧ e.task.id = task.id ∧ e.sql = sql := by
  simp only [TaskEntry.ofTask, h, bind, Except.bind]
  exact ⟨_, rfl, rfl, rfl⟩

/-- What an envelope holds of a task comes from the task as it was before compilation. -/
def Entered (files : Files.Tree) (spec : Spec) (task : Task) (e : TaskEntry) : Prop :=
  e.task.id = task.id ∧ TaskEntry.sqlOf files spec task = .ok e.sql

/-- The tasks of a compiled specification are entered if each of its queries can be read. -/
theorem exists_entries {tasks : List Task} (kept : List.Forall₂ Kept spec.tasks tasks)
    (readable : ∀ task ∈ spec.tasks, ∃ sql, TaskEntry.sqlOf files spec task = .ok sql) :
    ∃ entries, List.Forall₂ (Entered files spec) spec.tasks entries ∧
      tasks.mapM (TaskEntry.ofTask files spec) = .ok entries := by
  simp only [mapM_eq_ok_iff]
  refine exists_forall₂_of_forall₂ kept fun task htask updated kept => ?_
  obtain ⟨sql, hsql⟩ := readable task htask
  obtain ⟨e, made, named, same⟩ := ofTask_of_sqlOf ((sqlOf_of_kept kept).trans hsql)
  exact ⟨e, ⟨named.trans kept.id_eq, same ▸ hsql⟩, made⟩

theorem ids_of_entered {tasks : List Task} {entries : List TaskEntry}
    (h : List.Forall₂ (Entered files spec) tasks entries) :
    entries.map (·.task.id) = tasks.map (·.id) := by
  induction h with
  | nil => rfl
  | cons first _ ih => rw [List.map_cons, List.map_cons, ih, first.1]

end Entries

def encodedQuery (e : TaskEntry) : Option String :=
  e.sql.map fun body => String.ofList (Text.Base64.encode body.toList)

theorem exists_encodedQuery {files : Files.Tree} {spec : Spec} {task : Task}
    {entries : List TaskEntry} {p : QueryParameters} {body : ByteArray}
    (entered : List.Forall₂ (Entered files spec) spec.tasks entries) (htask : task ∈ spec.tasks)
    (query : task.kind = .query) (parameters : task.queryParameters = .ok p)
    (read : files.readBytes (spec.resolve p.sqlFile) = .ok body) :
    ∃ e ∈ entries, e.task.id = task.id ∧
      encodedQuery e = some (String.ofList (Text.Base64.encode body.toList)) := by
  obtain ⟨e, he, same, stored⟩ := exists_mem_of_forall₂ entered.flip task htask
  rw [sqlOf_query query parameters read, Except.ok.injEq] at stored
  exact ⟨e, he, same, by rw [encodedQuery, ← stored, Option.map_some]⟩

theorem query_of_encodedQuery {files : Files.Tree} {spec : Spec} {task : Task} {e : TaskEntry}
    (entered : Entered files spec task e) (encoded : (encodedQuery e).isSome = true) :
    task.kind = .query := by
  obtain ⟨_, stored⟩ := entered
  by_contra other
  rw [TaskEntry.sqlOf, if_neg other, Except.ok.injEq] at stored
  simp [encodedQuery, ← stored] at encoded

theorem ofSpec_of_entries {files : Files.Tree} {spec : Spec} {entries : List TaskEntry}
    (h : spec.tasks.mapM (TaskEntry.ofTask files spec) = .ok entries) :
    ∃ envelope, Envelope.ofSpec files spec = .ok envelope ∧
      envelope.sql = Envelope.textsOf encodedQuery entries ∧
      envelope.configurationId = spec.deploymentName := by
  rw [Envelope.ofSpec, h]
  exact ⟨_, rfl, rfl, rfl⟩

/-- The envelope of a compiled specification can be made if each of its queries can be read. -/
theorem exists_envelope {files : Files.Tree} {spec : Spec} {graph : Workflow.Dependency.Graph}
    {subset : List String} {a : Artifact} (settled : Settled spec graph)
    (h : assemble files spec .deployable subset = .ok a)
    (readable : ∀ task ∈ spec.tasks, ∃ sql, TaskEntry.sqlOf files spec task = .ok sql) :
    ∃ envelope entries, Envelope.ofSpec files a.spec = .ok envelope ∧
      List.Forall₂ (Entered files spec) spec.tasks entries ∧
      envelope.sql = Envelope.textsOf encodedQuery entries ∧
      envelope.configurationId = spec.deploymentName := by
  obtain ⟨updated, kept⟩ := kept_of_assemble settled h
  obtain ⟨entries, entered, made⟩ := exists_entries kept readable
  have sameEntries : TaskEntry.ofTask files a.spec = TaskEntry.ofTask files spec := by
    rw [updated]
    rfl
  have sameName : a.spec.deploymentName = spec.deploymentName := by
    rw [updated]
    rfl
  rw [← sameEntries] at made
  obtain ⟨envelope, henvelope, sql, named⟩ := ofSpec_of_entries made
  exact ⟨envelope, entries, henvelope, entered, sql, named.trans sameName⟩

/-- A query where it is written three times: in the file, in the local script and in the envelope,
whose key for it both scripts state. -/
structure Shipped (files : Files.Tree) (spec : Spec) (build : Build) (envelope : Envelope)
    (task : Task) (p : QueryParameters) (sql encoded : String) : Prop where
  parameters : task.queryParameters = .ok p
  file : files.readBytes (spec.resolve p.sqlFile) = .ok sql.toUTF8
  node : literalAfter "        op_kwargs=\x7b\"sql_id\": "
    (below (headOf .deployable task.id) build.requested.source) = some (.text task.id)
  procedure : literalAfter "    execute_gbq(sql_id="
    (below (headOf .standalone task.id) build.allLocal.source) = some (.text task.id)
  workflow : literalAfter "                dag_name="
    (below (headOf .standalone task.id) build.allLocal.source) =
      some (.text envelope.configurationId)
  embedded : literalAfter "                local_sql_query="
    (below (headOf .standalone task.id) build.allLocal.source) = some (.text sql)
  entry : envelope.sql.get? task.id = some (.text encoded)
  decoded : Text.Base64.decode encoded.toList = some sql.toUTF8.toList

theorem assembled_of_buildLoaded {files : Files.Tree} {spec : Spec} {subset : List String}
    {build : Build} (h : buildLoaded files spec .deployable subset = .ok build) :
    assemble files spec .standalone [] = .ok build.allLocal ∧
      assemble files spec .deployable subset = .ok build.requested := by
  obtain ⟨allLocal, hlocal, h⟩ := bind_eq_ok_iff.mp h
  obtain ⟨requested, hrequested, h⟩ := bind_eq_ok_iff.mp h
  cases h
  exact ⟨hlocal, hrequested⟩

/-- The envelope of the deployable script's specification can always be made. Its keys are exactly
the ids of the queries, its configuration is named as the scripts name the workflow, and every
query is shipped as the local script embeds it. -/
theorem envelope_ships_embedded_queries {sources files : Files.Tree} {path : String}
    {loaded : Workflow.Loaded} {subset : List String} {build : Build}
    (accepted : Workflow.load sources path = .ok loaded)
    (built : buildLoaded files loaded.spec .deployable subset = .ok build) :
    ∃ envelope, Envelope.ofSpec files build.requested.spec = .ok envelope ∧
      (∀ id, id ∈ envelope.sql.map (·.1) ↔
        ∃ task ∈ loaded.spec.tasks, task.kind = .query ∧ task.id = id) ∧
      literalAfter "_dag_name = " (linesOf build.requested.source) =
        some (.text envelope.configurationId) ∧
      ∀ task ∈ loaded.spec.tasks, task.kind = .query → ∃ p sql encoded,
        Shipped files loaded.spec build envelope task p sql encoded := by
  have settled := Workflow.settled_of_load accepted
  obtain ⟨builtLocal, builtDeployable⟩ := assembled_of_buildLoaded built
  have procedures := fun (task : Task) (htask : task ∈ loaded.spec.tasks)
    (query : task.kind = .query) => exists_reads_procedure settled builtLocal htask query
  have readable : ∀ task ∈ loaded.spec.tasks,
      ∃ sql, TaskEntry.sqlOf files loaded.spec task = .ok sql := by
    intro task htask
    by_cases query : task.kind = .query
    · obtain ⟨p, sql, parameters, read, _⟩ := procedures task htask query
      exact ⟨_, sqlOf_query query parameters (Workflow.readText_eq_ok_iff.mp read)⟩
    · exact ⟨none, if_neg query⟩
  obtain ⟨envelope, entries, henvelope, entered, held, named⟩ :=
    exists_envelope settled builtDeployable readable
  have distinct : (entries.map (·.task.id)).Nodup := ids_of_entered entered ▸ settled.sound.distinct
  refine ⟨envelope, henvelope, fun id => ?_, named ▸ reads_name settled builtDeployable, ?_⟩
  · rw [held, Envelope.mem_keys_textsOf distinct]
    constructor
    · rintro ⟨e, he, rfl, encoded⟩
      obtain ⟨task, htask, own⟩ := exists_mem_of_forall₂ entered e he
      exact ⟨task, htask, query_of_encodedQuery own encoded, own.1.symm⟩
    · rintro ⟨task, htask, query, rfl⟩
      obtain ⟨p, sql, parameters, read, _⟩ := procedures task htask query
      obtain ⟨e, he, same, encoded⟩ := exists_encodedQuery entered htask query parameters
        (Workflow.readText_eq_ok_iff.mp read)
      exact ⟨e, he, same, encoded ▸ rfl⟩
  · intro task htask query
    obtain ⟨p, sql, parameters, read, procedure, workflow, embedded⟩ := procedures task htask query
    have file := Workflow.readText_eq_ok_iff.mp read
    obtain ⟨e, he, same, encoded⟩ := exists_encodedQuery entered htask query parameters file
    refine ⟨p, sql, String.ofList (Text.Base64.encode sql.toUTF8.toList), parameters, file,
      reads_node settled builtDeployable htask query, procedure, named ▸ workflow, embedded, ?_, ?_⟩
    · rw [held, ← same]
      exact Envelope.get?_textsOf distinct he encoded
    · rw [String.toList_ofList, Text.Base64.decode_encode]

/-- A query with line breaks, a quote and a character of two bytes. -/
theorem envelope_ships_embedded_queries_breaks :
    let files := Workflow.besideQuery "ab" "one query" "SELECT\r\n \"é\""
    ∃ loaded build envelope, Workflow.load files "/w" = .ok loaded ∧
      buildLoaded files loaded.spec .deployable [] = .ok build ∧
      Envelope.ofSpec files build.requested.spec = .ok envelope ∧
      ∃ task ∈ loaded.spec.tasks, task.id = "ab" ∧ ∃ p sql encoded,
        Shipped files loaded.spec build envelope task p sql encoded := by
  intro files
  obtain ⟨loaded, accepted, ⟨task, htask, named, query⟩, build, built⟩ : ∃ loaded,
      Workflow.load files "/w" = .ok loaded ∧
      (∃ task ∈ loaded.spec.tasks, task.id = "ab" ∧ task.kind = .query) ∧
      ∃ build, buildLoaded files loaded.spec .deployable [] = .ok build := by
    rw [Workflow.load_besideQuery]
    exact ⟨_, rfl, ⟨_, List.mem_cons_self, rfl, rfl⟩, _, rfl⟩
  obtain ⟨envelope, made, _, _, shipped⟩ := envelope_ships_embedded_queries accepted built
  exact ⟨loaded, build, envelope, accepted, built, made, task, htask, named,
    shipped task htask query⟩

end WorkflowCompiler.Publish
