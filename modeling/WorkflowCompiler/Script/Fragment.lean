import WorkflowCompiler.Script.Templates
import WorkflowCompiler.Workflow.Parameters
import WorkflowCompiler.Workflow.Spec
import WorkflowCompiler.Workflow.TableLayout
import WorkflowCompiler.Files.Tree

/-!
Fragments: the code of single tasks. A local fragment is a procedure, a deployable one a node of
the workflow. A machine launch has no local code, because nothing stands for it here.
-/
namespace WorkflowCompiler.Script

open Json (Value Members)
open Workflow (Task TableLayout)

inductive Mode
  /-- A script of its own that runs chosen tasks on this machine. -/
  | standalone
  /-- A script for the orchestration engine with all tasks and their wiring. -/
  | deployable
  deriving DecidableEq, Repr

def Mode.name : Mode → String
  | .standalone => "local"
  | .deployable => "deployable"

/-- What the code of a task depends on besides the task. -/
structure Context where
  deploymentName : String
  environment : String
  project : String
  dataset : String
  writeDisposition : String
  baseDirectory : String

def Context.ofSpec (spec : Workflow.Spec) : Context where
  deploymentName := spec.deploymentName
  environment := spec.environment
  project := spec.defaultProject
  dataset := spec.defaultDataset
  writeDisposition := spec.defaultWriteDisposition
  baseDirectory := spec.baseDirectory

namespace Context

def projectOf (ctx : Context) (task : Task) : String :=
  Text.trim (task.project.getD ctx.project)

def datasetOf (ctx : Context) (task : Task) : String :=
  Text.trim (task.dataset.getD ctx.dataset)

def writeDispositionOf (ctx : Context) (task : Task) : String :=
  Text.trim (task.writeDisposition.getD ctx.writeDisposition)

def resolve (ctx : Context) (path : String) : String :=
  Files.resolve ctx.baseDirectory path

/-- The text of a file that a task cannot do without. -/
def required (ctx : Context) (files : Files.Tree) (task : Task) (what path : String) :
    Except BuildError String :=
  let resolved := ctx.resolve path
  (files.readText resolved).mapError fun fault =>
    .taskFailed task.id ("cannot read " ++ what ++ " " ++ resolved ++ ": " ++ fault.message)

/-- The documentation of a task; a file that cannot be read counts as none. -/
def documentation? (ctx : Context) (files : Files.Tree) (task : Task) : Option String :=
  task.docFile.bind fun path => (files.readText (ctx.resolve path)).toOption

end Context

/-- The code of one task. -/
structure Fragment where
  taskId : String
  code : String
  /-- The procedure to call, in a local script. -/
  entryPoint : Option String
  /-- Parameters that the task has after compilation. -/
  updates : Members

def Fragment.ofCode (task : Task) (mode : Mode) (code : String) : Fragment where
  taskId := task.id
  code
  entryPoint := if mode = .standalone then some task.id else none
  updates := []

/-- The documentation of a query node: that of the task, then the query with its lines as
paragraphs and without backquotes. -/
def queryDocumentation (doc : Option String) (sql : String) : String :=
  let paragraphs := Text.replaceEach '\n' ['\n', '\n'] (Text.replaceEach '\x60' ['\x27'] sql.toList)
  doc.getD "" ++ "\n\n# **SQL Query**\n\n" ++ String.ofList paragraphs ++ "\n"

def compileQuery (ctx : Context) (files : Files.Tree) (mode : Mode) (task : Task)
    (p : Workflow.QueryParameters) : Except BuildError Fragment := do
  let sql ← ctx.required files task "SQL file" p.sqlFile
  let doc := match mode with
    | .standalone => ""
    | .deployable => queryDocumentation (ctx.documentation? files task) sql
  let values : Members := [
    ("task_id", .text task.id),
    ("environment", .text ctx.environment),
    ("dag_name", .text ctx.deploymentName),
    ("gcp_project_id", .text (ctx.projectOf task)),
    ("bq_dataset", .text (ctx.datasetOf task)),
    ("table_name", .text (Text.trim p.tableName)),
    ("write_disposition", .text (ctx.writeDispositionOf task)),
    ("sql_query_template", .text (Text.trim p.sqlQueryTemplate)),
    ("sql", .text sql),
    ("doc_md", .text doc)]
  let template := match mode with
    | .standalone => Templates.queryLocal
    | .deployable => Templates.queryDeployable
  .ok (.ofCode task mode (← template.render values))

/-- Documentation is read for deployable scripts only. -/
def documentationFor (ctx : Context) (files : Files.Tree) (mode : Mode) (task : Task) :
    Option String :=
  match mode with
  | .standalone => none
  | .deployable => ctx.documentation? files task

def compileCopy (ctx : Context) (files : Files.Tree) (mode : Mode) (task : Task)
    (p : Workflow.CopyParameters) : Except BuildError Fragment := do
  let values : Members := [
    ("task_id", .text task.id),
    ("source_gcp_project_id", .text (Text.trim p.sourceProject)),
    ("source_bq_dataset", .text (Text.trim p.sourceDataset)),
    ("source_bq_table", .text (Text.trim p.sourceTable)),
    ("destination_gcp_project_id", .text (ctx.projectOf task)),
    ("destination_bq_dataset", .text (ctx.datasetOf task)),
    ("destination_bq_table", .text (Text.trim p.destinationTable)),
    ("date_suffix", .flag p.dateSuffix),
    ("date_suffix_format", .text (Text.trim p.dateSuffixFormat)),
    ("doc_md", .ofText? (documentationFor ctx files mode task))]
  let template := match mode with
    | .standalone => Templates.copyLocal
    | .deployable => Templates.copyDeployable
  .ok (.ofCode task mode (← template.render values))

def loadLayout (ctx : Context) (files : Files.Tree) (task : Task) (path : String) :
    Except BuildError (TableLayout × Members) := do
  let text ← ctx.required files task "DDL file" path
  let malformed (detail : String) : BuildError := .malformedLayout (ctx.resolve path) detail
  let document ← (Value.parse text).mapError fun e => malformed e.message
  let .object members := document
    | .error (malformed "top-level value must be an object")
  let layout ← (TableLayout.decode document).mapError fun m => malformed m.message
  .ok (layout, members)

/-- The members of a layout that go into the parameters of the task. -/
def layoutUpdates (document : Members) : Members :=
  document.filter fun m => m.1 ∈ TableLayout.fieldNames

def compileCreate (ctx : Context) (files : Files.Tree) (mode : Mode) (task : Task)
    (p : Workflow.CreateParameters) : Except BuildError Fragment := do
  let (layout, document) ← loadLayout ctx files task p.layoutFile
  let values : Members := [
    ("task_id", .text task.id),
    ("gcp_project_id", .text (ctx.projectOf task)),
    ("bq_dataset", .text (ctx.datasetOf task)),
    ("bq_table", .text (Text.trim p.table)),
    ("force_delete", .flag p.forceDelete),
    ("description", .text (Text.trim layout.description)),
    ("schema", .list layout.schema),
    ("clustering_fields", layout.clustering?.elim .null .texts),
    ("time_partitioning", layout.timePartitioning?.getD .null),
    ("doc_md", .ofText? (documentationFor ctx files mode task))]
  let template := match mode with
    | .standalone => Templates.createLocal
    | .deployable => Templates.createDeployable
  let code ← template.render values
  .ok { Fragment.ofCode task mode code with updates := layoutUpdates document }

def compileMachine (ctx : Context) (files : Files.Tree) (mode : Mode) (task : Task)
    (p : Workflow.MachineParameters) : Except BuildError (Option Fragment) :=
  match mode with
  | .standalone => .ok none
  | .deployable => do
    let values : Members := [
      ("task_id", .text task.id),
      ("gcp_project_id", .text (ctx.projectOf task)),
      ("script_to_execute", .texts p.script),
      ("vm_delete", .flag p.delete),
      ("vm_working_directory", .text (Text.trim p.workingDirectory)),
      ("vm_compute_zone", .text (Text.trim p.computeZone)),
      ("vm_core_number", .text (Text.trim p.coreNumber)),
      ("vm_memory_amount", .text (Text.trim p.memoryAmount)),
      ("vm_disk_size", .text (Text.trim p.diskSize)),
      ("doc_md", .ofText? (ctx.documentation? files task))]
    .ok (some (.ofCode task mode (← Templates.machineDeployable.render values)))

/-- The code of a task; there may be none in a mode. -/
def compileTask (ctx : Context) (files : Files.Tree) (mode : Mode) (task : Task) :
    Except BuildError (Option Fragment) := do
  match ← task.decodeParameters.mapError fun m => .taskFailed task.id m.message with
  | .query p => some <$> compileQuery ctx files mode task p
  | .copyTable p => some <$> compileCopy ctx files mode task p
  | .createTable p => some <$> compileCreate ctx files mode task p
  | .launchMachine p => compileMachine ctx files mode task p

end WorkflowCompiler.Script
