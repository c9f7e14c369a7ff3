import WorkflowCompiler.Workflow.Dependency.Graph
import WorkflowCompiler.Workflow.Spec
import WorkflowCompiler.Workflow.StartDate

/-!
The checks that a specification passes before anything is made of it.
-/
namespace WorkflowCompiler.Workflow

/-- A letter, any number of letters, digits and underscores, and a letter or digit at the end:
at least two characters, all of them ASCII. -/
def isTaskId (id : String) : Bool :=
  match id.toList, id.toList.getLast? with
  | first :: _ :: _, some last =>
    Text.isAsciiLetter first &&
      id.toList.all (fun c => Text.isAsciiLetter c || Text.isAsciiDigit c || c == '_') &&
      last != '_'
  | _, _ => false

/-- The list without repetitions, each element where it stands first. -/
def firstOccurrences (ids : List String) : List String :=
  ids.foldl (fun seen id => if id ∈ seen then seen else seen ++ [id]) []

/-- Keeps an id among those seen, or, when it has been seen, among the repeated ones. -/
def noteId (state : List String × List String) (id : String) : List String × List String :=
  if id ∉ state.1 then (id :: state.1, state.2)
  else if id ∈ state.2 then state
  else (state.1, state.2 ++ [id])

/-- The elements that occur again, each where it occurs the second time. -/
def repeatedIds (ids : List String) : List String :=
  (ids.foldl noteId ([], [])).2

def objectTo (objection : List String → Rejection) : List String → Except Rejection Unit
  | [] => .ok ()
  | ids => .error (objection ids)

/-- No two tasks share an id. -/
def checkDistinctIds (tasks : List Task) : Except Rejection Unit :=
  objectTo .duplicateIds (repeatedIds (tasks.map (·.id)))

/-- Every id that a dependency mentions is the id of a task. -/
def checkDeclared (dependencies : List String) (tasks : List Task) : Except Rejection Unit :=
  let declared := tasks.map (·.id)
  objectTo .undeclaredTasks
    (firstOccurrences ((dependencies.flatMap Dependency.mentioned).filter (· ∉ declared)))

/-- Every task id is well formed. -/
def checkTaskIds (tasks : List Task) : Except Rejection Unit :=
  objectTo .malformedIds ((tasks.map (·.id)).filter (!isTaskId ·))

/-- All checks in their order; gives the graph of the dependencies. -/
def validate (spec : Spec) : Except Rejection Dependency.Graph := do
  let _ ← StartDate.normalize spec.startDate
  checkDistinctIds spec.tasks
  checkDeclared spec.dependencies spec.tasks
  checkTaskIds spec.tasks
  let graph ← Dependency.Graph.ofExpressions spec.dependencies
  graph.validate
  .ok graph

end WorkflowCompiler.Workflow
