import WorkflowCompiler.Workflow.Checks

/-!
Loading a specification: the document is read, brought into normal form and checked.
-/
namespace WorkflowCompiler.Workflow

open Json (Value Members)

def requiredFields : List String :=
  ["configuration_id", "start_date", "schedule_interval", "short_description",
   "default_gcp_project_id", "default_bq_dataset", "default_write_disposition",
   "task_dependencies", "workflow"]

/-- The default dataset may go by a shorter name, which counts only where the full name is
absent. -/
def renameDefaultDataset (members : Members) : Members :=
  if members.contains "default_bq_dataset" then members
  else match members.get? "default_dataset" with
    | none => members
    | some v => (members.erase "default_dataset").insert "default_bq_dataset" v

/-- The first required field that is absent, at the root before the tasks. -/
def missingField? (members : Members) : Option String :=
  match requiredFields.find? (!members.contains ·) with
  | some name => some name
  | none =>
    let items := (members.items? "workflow").getD []
    (items.findIdx? fun item => (item.get? "id").isNone).map fun i =>
      "workflow[" ++ toString i ++ "].id"

/-- No required field is absent. -/
def requireFields (members : Members) : Except Rejection Unit :=
  match missingField? members with
  | some name => .error (.missingField name)
  | none => .ok ()

/-- White space around a task id does not count, and a query says whether its table is
temporary. -/
def Task.normalize (task : Task) : Task :=
  { task with
    id := Text.trim task.id
    temporaryTable :=
      if task.kind = .query then some (task.temporaryTable.getD false)
      else task.temporaryTable }

def Spec.normalize (spec : Spec) : Spec :=
  { spec with
    environment := Text.trim spec.environment
    tasks := spec.tasks.map Task.normalize }

/-- A specification in normal form with the graph of its dependencies. -/
structure Loaded where
  spec : Spec
  graph : Dependency.Graph

/-- The specification that a document describes, in normal form; `path` appears in errors only. -/
def describe (path base : String) (document : Value) : Except Rejection Spec := do
  let .object members := document
    | .error (.malformed path "top-level value must be an object")
  let members := renameDefaultDataset members
  requireFields members
  let spec ← (Spec.decode (.object members)).mapError fun m => .malformed path m.message
  let spec := { spec with baseDirectory := base }.normalize
  .ok { spec with startDate := ← StartDate.normalize spec.startDate }

def Spec.readDoc (files : Files.Tree) (spec : Spec) : Except Rejection Spec :=
  match spec.docFile with
  | none => .ok spec
  | some file => do
    let docPath := spec.resolve file
    let text ← (files.readText docPath).mapError (.unreadable docPath ·)
    .ok { spec with docText := some text }

/-- The specification in a document that has been read. -/
def loadDocument (files : Files.Tree) (path base : String) (document : Value) :
    Except Rejection Loaded := do
  let spec ← describe path base document
  let graph ← validate spec
  .ok ⟨← spec.readDoc files, graph⟩

def loadText (files : Files.Tree) (path base text : String) : Except Rejection Loaded := do
  let document ← (Value.parse text).mapError fun e => .malformed path e.message
  loadDocument files path base document

/-- The specification in a file. -/
def load (files : Files.Tree) (path : String) : Except Rejection Loaded := do
  let text ← (files.readText path).mapError (.unreadable path ·)
  loadText files path (Files.directoryOf path) text

end WorkflowCompiler.Workflow
