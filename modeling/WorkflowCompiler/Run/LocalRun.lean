import WorkflowCompiler.Run.Relay
import WorkflowCompiler.Script.Artifact
import WorkflowCompiler.Settings.Settings

/-!
Local runs: a script is written into a directory of its own, an interpreter is started with it,
and what the child process writes is handed on line by line. The directory does not outlive the
run.
-/
namespace WorkflowCompiler.Run

open Script (Artifact BuildError)

inductive Ending
  | exited (status : Nat)
  | killed (signal : Nat)
  deriving DecidableEq, Repr

/-- A killed process has no status of its own. -/
def Ending.status : Ending → Int
  | .exited status => status
  | .killed _ => -1

/-- What a child process does. -/
structure Child where
  output : Source
  errors : Source
  ending : Ending
  /-- The files after it. -/
  files : Files.Tree

/-- What starts an interpreter with the path of a script. -/
abbrev Launcher := Files.Tree → (interpreter script : String) → Except Files.Fault Child

inductive Failure
  | scratch (fault : Files.Fault)
  | spawn (command : String) (fault : Files.Fault)
  | stream (source : Stream) (detail : String)
  | wait (fault : Files.Fault)
  deriving Repr

def Failure.message : Failure → String
  | .scratch fault => "failed to prepare scratch script: " ++ fault.message
  | .spawn command fault => "spawn failed: " ++ command ++ ": " ++ fault.message
  | .stream source detail => "stream io error: " ++ source.name ++ " " ++ detail
  | .wait fault => "failed to wait for child process: " ++ fault.message

/-- What comes of a run: the lines that were handed on, and the exit status or a failure. -/
structure Outcome where
  lines : List Line
  result : Except Failure Int
  files : Files.Tree

/-- The lines of one stream. -/
def Outcome.linesOf (outcome : Outcome) (stream : Stream) : List String :=
  (outcome.lines.filter (·.stream = stream)).map (·.text)

def scratchLocation : Files.Location := ["tmp", "dagen-run-scratch"]

def scratchDirectory : String := "/tmp/dagen-run-scratch"

/-- Hands on what a child process writes and waits for its end. -/
def follow (capacity : Nat) (child : Child) : List Line × Except Failure Int :=
  let (output, outputTotal) := pumpLines child.output
  let (errors, errorsTotal) := pumpLines child.errors
  let lines := relayed capacity (output.map (⟨.output, ·⟩)) (errors.map (⟨.errors, ·⟩))
  match outputTotal, errorsTotal with
  | .error detail, _ => (lines, .error (.stream .output detail))
  | _, .error detail => (lines, .error (.stream .errors detail))
  | .ok _, .ok _ => (lines, .ok child.ending.status)

/-- Runs the script of an artifact. -/
def runArtifact (launch : Launcher) (files : Files.Tree) (settings : Settings.Runner)
    (artifact : Artifact) : Outcome :=
  let script := Files.join scratchDirectory artifact.fileName
  let prepared := files.set scratchLocation .directory
  match prepared.write script artifact.source.toUTF8 with
  | .error fault => ⟨[], .error (.scratch fault), files⟩
  | .ok ready =>
    match launch ready settings.interpreter script with
    | .error fault =>
      ⟨[], .error (.spawn settings.interpreter fault), ready.removeBelow scratchLocation⟩
    | .ok child =>
      let (lines, result) := follow (queueLength settings.lineCapacity) child
      ⟨lines, result, child.files.removeBelow scratchLocation⟩

/-- Runs the local script of the specification in a file. -/
def runLocal (launch : Launcher) (files : Files.Tree) (path : String) (subset : List String)
    (settings : Settings.Runner) : Except BuildError Outcome := do
  let spec ← Script.loadSpec files path
  let artifact ← Script.assemble files spec .standalone subset
  .ok (runArtifact launch files settings artifact)

end WorkflowCompiler.Run
