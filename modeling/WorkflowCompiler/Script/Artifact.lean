import WorkflowCompiler.Script.Fragment
import WorkflowCompiler.Script.Prelude
import WorkflowCompiler.Script.Helpers
import WorkflowCompiler.Script.Telemetry
import WorkflowCompiler.Workflow.Load

/-!
Artifacts: whole scripts. Every script begins with the prelude and the helpers. A local one goes
on with the procedures of the tasks asked for and ends with the entry point that calls them; a
deployable one goes on with its header, the nodes of all tasks and the status nodes, and ends
with the wiring.
-/
namespace WorkflowCompiler.Script

open Json (Value Members)
open Workflow (Spec Task)

def generatorVersion : String := "1.0.0"

def defaultOwner : String := "dagen"

/-- The type that deployed workflows are recorded under. -/
def deploymentType : String := "gbq-to-gbq"

structure Artifact where
  mode : Mode
  deploymentName : String
  source : String
  /-- The specification after compilation, which table layouts have been merged into. -/
  spec : Spec

def Artifact.fileName (artifact : Artifact) : String :=
  artifact.deploymentName ++ ".py"

def header (spec : Spec) : Except BuildError String :=
  Templates.deployHeader.render [
    ("owner", .text defaultOwner),
    ("retries", .ofNat 1),
    ("retry_delay_minutes", .ofNat 2),
    ("start_date", .text spec.startDate),
    ("dag_name", .text spec.deploymentName),
    ("dag_type", .text deploymentType),
    ("generator_version", .text generatorVersion),
    ("task_concurrency", .ofNat spec.taskConcurrency),
    ("max_active_runs", .ofNat spec.maxActiveRuns),
    ("schedule", match spec.schedule with
      | .unscheduled => .null
      | .interval text => .text text),
    ("catchup", .flag spec.catchup),
    ("description", .text spec.shortDescription),
    ("doc_md", .text (spec.docText.getD ""))]

def entryPoint (procedures : List String) : Except BuildError String :=
  Templates.localMain.render [("procedures", .texts procedures)]

def wiring (spec : Spec) : Except BuildError String :=
  Templates.wiring.render [
    ("dependency_lines", .texts spec.dependencies),
    ("task_ids", .texts (spec.tasks.map (·.id)))]

/-- The tasks that a script is made of: in a local script those asked for, in the order they
are asked for, and all of them if none is; in a deployable script always all. -/
def selectTasks (spec : Spec) (mode : Mode) (subset : List String) :
    Except BuildError (List Task) :=
  if mode = .deployable ∨ subset = [] then .ok spec.tasks
  else
    subset.mapM fun id =>
      let id := Text.trim id
      match spec.task? id with
      | some task => .ok task
      | none => .error (.unknownTask id)

/-- Puts parameters into the first task with an id. -/
def updateTask (id : String) (updates : Members) : List Task → List Task
  | [] => []
  | task :: rest =>
    if task.id = id then { task with parameters := task.parameters.extend updates } :: rest
    else task :: updateTask id updates rest

/-- The specification with what the fragments know about their tasks. -/
def updateSpec (spec : Spec) (fragments : List Fragment) : Spec :=
  { spec with
    tasks := fragments.foldl (fun tasks f => updateTask f.taskId f.updates tasks) spec.tasks }

def ending (spec : Spec) (mode : Mode) (fragments : List Fragment) :
    Except BuildError String :=
  match mode with
  | .standalone => entryPoint (fragments.filterMap (·.entryPoint))
  | .deployable => do .ok (telemetry ++ (← wiring spec))

/-- Makes a script of a specification. -/
def assemble (files : Files.Tree) (spec : Spec) (mode : Mode) (subset : List String) :
    Except BuildError Artifact := do
  let header ← match mode with
    | .standalone => .ok ""
    | .deployable => header spec
  let tasks ← selectTasks spec mode subset
  let compiled ← tasks.mapM (compileTask (.ofSpec spec) files mode)
  let fragments := compiled.filterMap id
  let ending ← ending spec mode fragments
  .ok {
    mode
    deploymentName := spec.deploymentName
    source := String.join ([prelude, helpers, header] ++ fragments.map (·.code) ++ [ending])
    spec := updateSpec spec fragments }

/-- The script asked for, together with the local script of all tasks. -/
structure Build where
  spec : Spec
  allLocal : Artifact
  requested : Artifact

/-- Both scripts of a specification. -/
def buildLoaded (files : Files.Tree) (spec : Spec) (mode : Mode) (subset : List String) :
    Except BuildError Build := do
  let allLocal ← assemble files spec .standalone []
  let requested ←
    if mode = .standalone ∧ subset = [] then .ok allLocal
    else assemble files spec mode subset
  .ok ⟨spec, allLocal, requested⟩

def loadSpec (files : Files.Tree) (path : String) : Except BuildError Spec :=
  match Workflow.load files path with
  | .ok loaded => .ok loaded.spec
  | .error rejection => .error (.rejected rejection)

/-- Both scripts of the specification in a file. -/
def build (files : Files.Tree) (path : String) (mode : Mode) (subset : List String) :
    Except BuildError Build := do
  buildLoaded files (← loadSpec files path) mode subset

end WorkflowCompiler.Script
