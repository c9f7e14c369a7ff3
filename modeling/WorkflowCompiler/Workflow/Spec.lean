import WorkflowCompiler.Workflow.Task
import WorkflowCompiler.Files.Path

/-!
Specifications of workflows. Fields that mean nothing to the compiler are kept, so that the
whole document can be written again.
-/
namespace WorkflowCompiler.Workflow

open Json (Value Members Field Record Form Mismatch)

inductive Schedule
  | unscheduled
  | interval (text : String)
  deriving DecidableEq, Repr

structure Spec where
  configurationId : String
  environment : String
  /-- The arguments of the start date's constructor. -/
  startDate : String
  scheduleInterval : String
  maxActiveRuns : Nat
  taskConcurrency : Nat
  catchup : Bool
  shortDescription : String
  docFile : Option String
  defaultProject : String
  defaultDataset : String
  defaultWriteDisposition : String
  /-- Dependency expressions, one a line. -/
  dependencies : List String
  tasks : List Task
  account : Option Value
  /-- Every field that is none of the above. -/
  extra : Members
  /-- Where relative paths in the specification start from. -/
  baseDirectory : String
  /-- The text of the documentation file. -/
  docText : Option String

namespace Spec

def record : Record where
  name := "WorkflowSpec"
  fields := [
    .needed "configuration_id" .text,
    .spare "environment" .text,
    .needed "start_date" .text,
    .needed "schedule_interval" .text,
    .spare "max_active_runs" (.natural 32 "u32"),
    .spare "task_concurrency" (.natural 32 "u32"),
    .spare "catchup" .flag,
    .needed "short_description" .text,
    .spare "doc_md" (.optional .text),
    .needed "default_gcp_project_id" .text,
    .needed "default_bq_dataset" .text,
    .needed "default_write_disposition" .text,
    .needed "task_dependencies" (.list .text),
    .needed "workflow" (.list Task.record.form),
    .spare "account" .any]
  positional := false

/-- The specification that the members of a document describe, defaults filled in. -/
def ofMembers (members : Members) : Spec where
  configurationId := (members.text? "configuration_id").getD ""
  environment := (members.text? "environment").getD "PROD"
  startDate := (members.text? "start_date").getD ""
  scheduleInterval := (members.text? "schedule_interval").getD ""
  maxActiveRuns := (members.nat? "max_active_runs").getD 1
  taskConcurrency := (members.nat? "task_concurrency").getD 5
  catchup := (members.flag? "catchup").getD false
  shortDescription := (members.text? "short_description").getD ""
  docFile := members.text? "doc_md"
  defaultProject := (members.text? "default_gcp_project_id").getD ""
  defaultDataset := (members.text? "default_bq_dataset").getD ""
  defaultWriteDisposition := (members.text? "default_write_disposition").getD ""
  dependencies := (members.texts? "task_dependencies").getD []
  tasks := ((members.items? "workflow").getD []).map fun v => Task.ofMembers v.members
  account := members.present? "account"
  extra := members.filter fun m => (record.field? m.1).isNone
  baseDirectory := ""
  docText := none

def decode (document : Value) : Except Mismatch Spec := do
  .ok (ofMembers (← record.form.accept document).members)

/-- The document of a specification; fields without a value are left out. -/
def toValue (spec : Spec) : Value :=
  let own := [
    ("configuration_id", some (Value.text spec.configurationId)),
    ("environment", some (.text spec.environment)),
    ("start_date", some (.text spec.startDate)),
    ("schedule_interval", some (.text spec.scheduleInterval)),
    ("max_active_runs", some (.ofNat spec.maxActiveRuns)),
    ("task_concurrency", some (.ofNat spec.taskConcurrency)),
    ("catchup", some (.flag spec.catchup)),
    ("short_description", some (.text spec.shortDescription)),
    ("doc_md", spec.docFile.map .text),
    ("default_gcp_project_id", some (.text spec.defaultProject)),
    ("default_bq_dataset", some (.text spec.defaultDataset)),
    ("default_write_disposition", some (.text spec.defaultWriteDisposition)),
    ("task_dependencies", some (.texts spec.dependencies)),
    ("workflow", some (.list (spec.tasks.map Task.toValue))),
    ("account", spec.account)]
  .object (Members.ofList ((own.filterMap fun m => m.2.map (m.1, ·)) ++ spec.extra))

/-- The name under which the workflow is deployed. -/
def deploymentName (spec : Spec) : String :=
  spec.configurationId ++ "_" ++ spec.environment

def schedule (spec : Spec) : Schedule :=
  match Text.trim spec.scheduleInterval with
  | "None" => .unscheduled
  | "unscheduled" => .unscheduled
  | interval => .interval interval

def task? (spec : Spec) (id : String) : Option Task :=
  spec.tasks.find? (·.id == id)

/-- The path that the specification means by a relative one. -/
def resolve (spec : Spec) (path : String) : String :=
  Files.resolve spec.baseDirectory path

end Spec

end WorkflowCompiler.Workflow
