import WorkflowCompiler.Proofs.Json.RoundTrip
import WorkflowCompiler.Proofs.Workflow.Load

/-!
Specifications in files. A document that has been written into a file is loaded as the document
itself. The documents here have the keys that every workflow needs and a list of tasks; each can
be laid down beside the files that its tasks name.
-/
namespace WorkflowCompiler.Workflow

open Json (Value Members Portable)

theorem load_of_written {files : Files.Tree} {path : String} {document : Value}
    (portable : Portable Json.depthLimit document)
    (written : files.readBytes path = .ok document.toText.toUTF8) :
    load files path = loadDocument files path (Files.directoryOf path) document := by
  simp only [load, loadText, readText_eq_ok_iff.mpr written, Json.parse_toText portable, bind,
    Except.bind, Except.mapError]

def rootDocument (configurationId description : String) (dependencies : List String)
    (tasks : List Members) : Value :=
  .object [
    ("configuration_id", .text configurationId),
    ("default_bq_dataset", .text "d"),
    ("default_gcp_project_id", .text "p"),
    ("default_write_disposition", .text "w"),
    ("schedule_interval", .text "None"),
    ("short_description", .text description),
    ("start_date", .text "2019,7,1"),
    ("task_dependencies", .texts dependencies),
    ("workflow", .list (tasks.map .object))]

theorem portable_object {depth : Nat} {members : Members}
    (ordered : (members.map (·.1)).Pairwise (· < ·)) (each : ∀ m ∈ members, Portable depth m.2) :
    Portable (depth + 1) (.object members) :=
  .object (List.pairwise_map.mp ordered) each

theorem portable_texts {depth : Nat} (texts : List String) : Portable (depth + 1) (.texts texts) :=
  .list (by simp [Portable.text])

/-- The tasks alone decide whether such a workflow can be written. -/
theorem portable_rootDocument {configurationId description : String} {dependencies : List String}
    {tasks : List Members} (tasksPortable : ∀ task ∈ tasks, Portable 125 (.object task)) :
    Portable Json.depthLimit (rootDocument configurationId description dependencies tasks) := by
  refine portable_object (by simp only [List.map_cons, List.map_nil]; decide) ?_
  simp only [List.forall_mem_cons, List.not_mem_nil, false_imp_iff, implies_true, and_true,
    Portable.text, true_and]
  exact ⟨portable_texts _, .list (List.forall_mem_map.mpr tasksPortable)⟩

def beside (document : Value) (others : List (List String × Files.Node)) : Files.Tree where
  nodes := (["w"], .file document.toText.toUTF8 false) :: others
  workingDirectory := []

theorem load_beside {document : Value} (portable : Portable Json.depthLimit document)
    (others : List (List String × Files.Node)) :
    load (beside document others) "/w" =
      loadDocument (beside document others) "/w" "/" document :=
  load_of_written portable rfl

section Tasks

/-- A query whose text is in the file `q`. -/
def queryTask (id : String) : Members := [
  ("id", .text id),
  ("sql_file", .text "q"),
  ("table_name", .text "t")]

def launchTask : Members := [
  ("id", .text "vm"),
  ("script_to_execute", .texts ["true"]),
  ("task_type", .text "vm_launcher")]

/-- A task that creates a table of the layout in the file `l`. -/
def creationTask (id : String) : Members := [
  ("bq_table", .text "t"),
  ("ddl_file", .text "l"),
  ("id", .text id),
  ("task_type", .text "create_gbq_table")]

def describedTask : Members := [
  ("doc_md", .text "m"),
  ("id", .text "ab"),
  ("short_description", .text " first "),
  ("sql_file", .text "q"),
  ("table_name", .text "t")]

variable (id : String)

theorem portable_queryTask : Portable 125 (.object (queryTask id)) := by
  refine portable_object ?_ (by simp [queryTask, Portable.text])
  simp only [queryTask, List.map_cons, List.map_nil]
  decide

theorem portable_launchTask : Portable 125 (.object launchTask) :=
  portable_object (by decide) (by simp [launchTask, Portable.text, portable_texts])

theorem portable_creationTask : Portable 125 (.object (creationTask id)) := by
  refine portable_object ?_ (by simp [creationTask, Portable.text])
  simp only [creationTask, List.map_cons, List.map_nil]
  decide

theorem portable_describedTask : Portable 125 (.object describedTask) :=
  portable_object (by decide) (by simp [describedTask, Portable.text])

theorem portable_documentedLaunch : Portable 125 (.object (("doc_md", .text "n") :: launchTask)) :=
  portable_object (by decide) (by simp [launchTask, Portable.text, portable_texts])

end Tasks

section Trees

def oneQuery (id description : String) : Value :=
  rootDocument "c" description [] [queryTask id]

def besideQuery (id description sql : String) : Files.Tree :=
  beside (oneQuery id description) [(["q"], .file sql.toUTF8 false)]

theorem load_besideQuery (id description sql : String) :
    load (besideQuery id description sql) "/w" =
      loadDocument (besideQuery id description sql) "/w" "/" (oneQuery id description) :=
  load_beside (portable_rootDocument (by simp [portable_queryTask])) _

/-- A workflow whose query waits for a machine launch. -/
def launchThenQuery : Value :=
  rootDocument "c" "s" ["vm >> ab"] [queryTask "ab", launchTask]

def besideLaunch : Files.Tree :=
  beside launchThenQuery [(["q"], .file "SELECT 1".toUTF8 false)]

theorem load_besideLaunch :
    load besideLaunch "/w" = loadDocument besideLaunch "/w" "/" launchThenQuery :=
  load_beside (portable_rootDocument (by simp [portable_queryTask, portable_launchTask])) _

def queries (ids dependencies : List String) : Value :=
  rootDocument "c" "s" dependencies (ids.map queryTask)

def besideQueries (ids dependencies : List String) : Files.Tree :=
  beside (queries ids dependencies) [(["q"], .file "SELECT 1".toUTF8 false)]

theorem portable_queries (ids dependencies : List String) :
    Portable Json.depthLimit (queries ids dependencies) :=
  portable_rootDocument (List.forall_mem_map.mpr fun id _ => portable_queryTask id)

theorem load_besideQueries (ids dependencies : List String) :
    load (besideQueries ids dependencies) "/w" =
      loadDocument (besideQueries ids dependencies) "/w" "/" (queries ids dependencies) :=
  load_beside (portable_queries ids dependencies) _

def tables (ids : List String) : Value :=
  rootDocument "c" "s" [] (ids.map creationTask)

/-- A layout that names no field for partitions. -/
def layout : Value :=
  .object [
    ("bq_table_description", .text "d"),
    ("bq_table_schema", .list []),
    ("bq_table_timepartitioning_field", .null)]

def besideTables (ids : List String) : Files.Tree :=
  beside (tables ids) [(["l"], .file layout.toText.toUTF8 false)]

theorem load_besideTables (ids : List String) : load (besideTables ids) "/w" =
    loadDocument (besideTables ids) "/w" "/" (tables ids) :=
  load_beside (portable_rootDocument
    (List.forall_mem_map.mpr fun id _ => portable_creationTask id)) _

/-- A workflow with a query and a machine launch that both name documentation. -/
def documented : Value :=
  rootDocument "c" "s" [] [describedTask, ("doc_md", .text "n") :: launchTask]

/-- There is the documentation of the query, and none of the machine launch. -/
def besideDocumentation : Files.Tree :=
  beside documented [
    (["q"], .file "SELECT 1".toUTF8 false),
    (["m"], .file "# Query".toUTF8 false)]

theorem load_besideDocumentation : load besideDocumentation "/w" =
    loadDocument besideDocumentation "/w" "/" documented :=
  load_beside (portable_rootDocument
    (by simp [portable_describedTask, portable_documentedLaunch])) _

def configured (configurationId : String) : Value :=
  rootDocument configurationId "s" [] [queryTask "ab"]

/-- There is a directory for temporary files. -/
def besideConfigured (configurationId : String) : Files.Tree :=
  beside (configured configurationId) [
    (["q"], .file "SELECT 1".toUTF8 false),
    (["tmp"], .directory)]

theorem load_besideConfigured (configurationId : String) :
    load (besideConfigured configurationId) "/w" =
      loadDocument (besideConfigured configurationId) "/w" "/" (configured configurationId) :=
  load_beside (portable_rootDocument (by simp [portable_queryTask])) _

end Trees

end WorkflowCompiler.Workflow
