import WorkflowCompiler.Workflow.Rejection

/-!
Why no script can be made from a specification.
-/
namespace WorkflowCompiler.Script

inductive BuildError
  | rejected (rejection : Workflow.Rejection)
  | malformedLayout (path : String) (detail : String)
  | taskFailed (id : String) (cause : String)
  | unknownTask (id : String)
  | template (name : String) (detail : String)
  deriving Repr

namespace BuildError

def message : BuildError → String
  | rejected rejection => rejection.message
  | malformedLayout path detail => "error while parsing DDL JSON file " ++ path ++ ": " ++ detail
  | taskFailed id cause => "failed to compile task '" ++ id ++ "': " ++ cause
  | unknownTask id =>
    "the task \"" ++ id ++
      "\" requested for local execution does not exist in the workflow"
  | template name detail => "template error in " ++ name ++ ": " ++ detail

def code : BuildError → Nat
  | rejected rejection => rejection.code
  | malformedLayout _ _ => 2
  | taskFailed _ _ => 13
  | unknownTask _ => 10
  | template _ _ => 1

end BuildError

end WorkflowCompiler.Script
