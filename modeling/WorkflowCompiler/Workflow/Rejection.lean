import WorkflowCompiler.Files.Tree

/-!
Why a specification is rejected. The checks that look at many ids at once name all that
they object to, not only the first.
-/
namespace WorkflowCompiler.Workflow

inductive Rejection
  | unreadable (path : String) (fault : Files.Fault)
  | malformed (path : String) (detail : String)
  | missingField (name : String)
  | invalidField (name : String) (reason : String)
  | undeclaredTasks (ids : List String)
  | malformedIds (ids : List String)
  | duplicateIds (ids : List String)
  | malformedDependency (expression : String) (reason : String)
  | cycle (path : List String)
  deriving Repr

namespace Rejection

def undeclaredLine (id : String) : String :=
  "the task with ID \"" ++ id ++
    "\" is present in \"task_dependencies\" but not in \"workflow\""

def malformedLine (id : String) : String :=
  "the task ID \"" ++ id ++ "\" is malformed: first character must be a letter, " ++
    "letters, numbers and underscores may follow, the last character cannot be an underscore"

def duplicateLine (id : String) : String :=
  "the task ID \"" ++ id ++ "\" is declared more than once"

def listing (heading : String) (lines : List String) : String :=
  toString lines.length ++ heading ++ String.join (lines.map ("\n  - " ++ ·))

def message : Rejection → String
  | unreadable path fault => "failed to read " ++ path ++ ": " ++ fault.message
  | malformed path detail => "error while parsing JSON file " ++ path ++ ": " ++ detail
  | missingField name =>
    "required field '" ++ name ++ "' is missing from the workflow specification"
  | invalidField name reason => "invalid value for '" ++ name ++ "': " ++ reason
  | undeclaredTasks ids =>
    listing " task(s) referenced in task_dependencies are not declared in workflow:"
      (ids.map undeclaredLine)
  | malformedIds ids => listing " malformed task id(s):" (ids.map malformedLine)
  | duplicateIds ids => "duplicate task ids in workflow: " ++ String.intercalate ", " ids
  | malformedDependency expression reason =>
    "malformed dependency expression \"" ++ expression ++ "\": " ++ reason
  | cycle path => "circular dependency detected: " ++ String.intercalate " -> " path

def violations : Rejection → List String
  | undeclaredTasks ids => ids.map undeclaredLine
  | malformedIds ids => ids.map malformedLine
  | duplicateIds ids => ids.map duplicateLine
  | rejection => [rejection.message]

def code : Rejection → Nat
  | unreadable _ _ => 5
  | malformed _ _ => 2
  | missingField _ => 4
  | invalidField _ _ => 3
  | undeclaredTasks _ => 11
  | malformedIds _ => 3
  | duplicateIds _ => 3
  | malformedDependency _ _ => 11
  | cycle _ => 12

end Rejection

end WorkflowCompiler.Workflow
