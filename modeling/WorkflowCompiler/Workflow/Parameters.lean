import WorkflowCompiler.Workflow.Task

/-!
The parameters that each kind of task takes, with their defaults.
-/
namespace WorkflowCompiler.Workflow

open Json (Value Members Field Record Form Mismatch)

structure QueryParameters where
  sqlFile : String
  tableName : String
  sqlQueryTemplate : String

structure CopyParameters where
  sourceProject : String
  sourceDataset : String
  sourceTable : String
  destinationTable : String
  dateSuffix : Bool
  dateSuffixFormat : String

structure CreateParameters where
  layoutFile : String
  table : String
  forceDelete : Bool

/-- A script that runs on a machine of its own. Sizes are texts, also where a document gives
numbers. -/
structure MachineParameters where
  script : List String
  delete : Bool
  workingDirectory : String
  computeZone : String
  coreNumber : String
  memoryAmount : String
  diskSize : String

inductive Parameters
  | query (p : QueryParameters)
  | copyTable (p : CopyParameters)
  | createTable (p : CreateParameters)
  | launchMachine (p : MachineParameters)

def QueryParameters.record : Record where
  name := "QueryParams"
  fields := [
    .needed "sql_file" .text,
    .needed "table_name" .text,
    .spare "sql_query_template" .text]
  positional := true

def QueryParameters.ofMembers (members : Members) : QueryParameters where
  sqlFile := (members.text? "sql_file").getD ""
  tableName := (members.text? "table_name").getD ""
  sqlQueryTemplate := (members.text? "sql_query_template").getD ""

def CopyParameters.record : Record where
  name := "CopyTableParams"
  fields := [
    .needed "source_gcp_project_id" .text,
    .needed "source_bq_dataset" .text,
    .needed "source_bq_table" .text,
    .needed "destination_bq_table" .text,
    .spare "destination_bq_table_date_suffix" .flag,
    .spare "destination_bq_table_date_suffix_format" .text]
  positional := true

def CopyParameters.ofMembers (members : Members) : CopyParameters where
  sourceProject := (members.text? "source_gcp_project_id").getD ""
  sourceDataset := (members.text? "source_bq_dataset").getD ""
  sourceTable := (members.text? "source_bq_table").getD ""
  destinationTable := (members.text? "destination_bq_table").getD ""
  dateSuffix := (members.flag? "destination_bq_table_date_suffix").getD false
  dateSuffixFormat := (members.text? "destination_bq_table_date_suffix_format").getD ""

def CreateParameters.record : Record where
  name := "CreateTableParams"
  fields := [
    .needed "ddl_file" .text,
    .needed "bq_table" .text,
    .spare "force_delete" .flag]
  positional := true

def CreateParameters.ofMembers (members : Members) : CreateParameters where
  layoutFile := (members.text? "ddl_file").getD ""
  table := (members.text? "bq_table").getD ""
  forceDelete := (members.flag? "force_delete").getD false

def MachineParameters.record : Record where
  name := "VmLaunchParams"
  fields := [
    .needed "script_to_execute" (.list .text),
    .spare "vm_delete" .flag,
    .spare "vm_working_directory" .text,
    .spare "vm_compute_zone" .text,
    .spare "vm_core_number" .textOrNumber,
    .spare "vm_memory_amount" .textOrNumber,
    .spare "vm_disk_size" .textOrNumber]
  positional := true

def MachineParameters.ofMembers (members : Members) : MachineParameters where
  script := (members.texts? "script_to_execute").getD []
  delete := (members.flag? "vm_delete").getD false
  workingDirectory := (members.text? "vm_working_directory").getD "/tmp"
  computeZone := (members.text? "vm_compute_zone").getD "europe-west1-b"
  coreNumber := (members.text? "vm_core_number").getD "1"
  memoryAmount := (members.text? "vm_memory_amount").getD "4"
  diskSize := (members.text? "vm_disk_size").getD "10"

/-- The members of a record after all of them have the form it asks for. -/
def Task.membersAs (task : Task) (record : Record) : Except Mismatch Members := do
  .ok (← record.form.accept (.object task.parameters)).members

def Task.queryParameters (task : Task) : Except Mismatch QueryParameters := do
  .ok (.ofMembers (← task.membersAs QueryParameters.record))

def Task.decodeParameters (task : Task) : Except Mismatch Parameters :=
  match task.kind with
  | .query => do .ok (.query (← task.queryParameters))
  | .copyTable => do .ok (.copyTable (.ofMembers (← task.membersAs CopyParameters.record)))
  | .createTable => do .ok (.createTable (.ofMembers (← task.membersAs CreateParameters.record)))
  | .launchMachine => do
    .ok (.launchMachine (.ofMembers (← task.membersAs MachineParameters.record)))

end WorkflowCompiler.Workflow
