import WorkflowCompiler.Publish.Failure
import WorkflowCompiler.Run.LocalRun

/-!
Why a command fails.
-/
namespace WorkflowCompiler.CommandLine

inductive Failure
  | build (error : Script.BuildError)
  | run (failure : Run.Failure)
  | publish (failure : Publish.Failure)
  | command (detail : String)
  | settings (detail : String)
  | files (fault : Files.Fault)
  deriving Repr

namespace Failure

def message : Failure → String
  | build error => error.message
  | run failure => "local run failed: " ++ failure.message
  | publish failure => "publish failed: " ++ failure.message
  | command detail => "command failed: " ++ detail
  | settings detail => "config error: " ++ detail
  | files fault => "io error: " ++ fault.message

def code : Failure → Nat
  | build error => error.code
  | run _ => 20
  | publish failure => failure.code
  | command _ => 1
  | settings _ => 50
  | files _ => 1

end Failure

end WorkflowCompiler.CommandLine
