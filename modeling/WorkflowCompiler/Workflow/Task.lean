import WorkflowCompiler.Json.Form
import WorkflowCompiler.Text.Blank

/-!
Tasks, the nodes of a workflow. A task has a few fields of its own; every other field of its
document belongs to the parameters of its kind and is kept as it is.
-/
namespace WorkflowCompiler.Workflow

open Json (Value Members Field Record Form Mismatch)

/-- What a task does. -/
inductive Kind
  | query
  | copyTable
  | createTable
  | launchMachine
  deriving DecidableEq, Repr

/-- The kind that a type names; a type that is absent or unknown makes a query. -/
def Kind.ofType (type : Option String) : Kind :=
  match type.map Text.trim with
  | some "copy_gbq_table" => .copyTable
  | some "create_gbq_table" => .createTable
  | some "vm_launcher" => .launchMachine
  | _ => .query

def Kind.name : Kind → String
  | .query => "query"
  | .copyTable => "copy_gbq_table"
  | .createTable => "create_gbq_table"
  | .launchMachine => "vm_launcher"

structure Task where
  id : String
  type : Option String
  shortDescription : Option String
  docFile : Option String
  project : Option String
  dataset : Option String
  writeDisposition : Option String
  temporaryTable : Option Bool
  /-- Every field that is none of the above. -/
  parameters : Members

namespace Task

def kind (task : Task) : Kind := Kind.ofType task.type

def record : Record where
  name := "TaskSpec"
  fields := [
    .needed "id" .text,
    .spare "task_type" (.optional .text),
    .spare "short_description" (.optional .text),
    .spare "doc_md" (.optional .text),
    .spare "gcp_project_id" (.optional .text),
    .spare "bq_dataset" (.optional .text),
    .spare "write_disposition" (.optional .text),
    .spare "temporary_table" (.optional .flag)]
  positional := false

def ofMembers (members : Members) : Task where
  id := (members.text? "id").getD ""
  type := members.text? "task_type"
  shortDescription := members.text? "short_description"
  docFile := members.text? "doc_md"
  project := members.text? "gcp_project_id"
  dataset := members.text? "bq_dataset"
  writeDisposition := members.text? "write_disposition"
  temporaryTable := members.flag? "temporary_table"
  parameters := members.filter fun m => (record.field? m.1).isNone

def decode (document : Value) : Except Mismatch Task := do
  .ok (ofMembers (← record.form.accept document).members)

/-- The document of a task; fields without a value are left out. -/
def toValue (task : Task) : Value :=
  let own := [
    ("id", some (Value.text task.id)),
    ("task_type", task.type.map .text),
    ("short_description", task.shortDescription.map .text),
    ("doc_md", task.docFile.map .text),
    ("gcp_project_id", task.project.map .text),
    ("bq_dataset", task.dataset.map .text),
    ("write_disposition", task.writeDisposition.map .text),
    ("temporary_table", task.temporaryTable.map .flag)]
  .object (Members.ofList ((own.filterMap fun m => m.2.map (m.1, ·)) ++ task.parameters))

end Task

end WorkflowCompiler.Workflow
