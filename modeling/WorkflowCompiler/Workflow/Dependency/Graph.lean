import WorkflowCompiler.Workflow.Dependency.Expression

/-!
The graph of all dependencies, and the search for a cycle in it. The search goes depth first,
from the nodes in the order in which they were first named, so the cycle it reports is always
the same one.
-/
namespace WorkflowCompiler.Workflow.Dependency

/-- Nodes in the order of their first appearance, each with the nodes its edges lead to. This is
one list for a map from nodes to their targets and a list of the nodes in that order; a node that
only edges lead to is not in such a map and has no targets here. -/
structure Graph where
  nodes : List (String × List String)
  deriving Repr

namespace Graph

def empty : Graph := ⟨[]⟩

def ids (g : Graph) : List String := g.nodes.map (·.1)

def targets (g : Graph) (id : String) : List String :=
  ((g.nodes.find? (·.1 == id)).map (·.2)).getD []

/-- The edges, each once. -/
def edges (g : Graph) : List Edge :=
  g.nodes.flatMap fun node => node.2.map (node.1, ·)

def addNode (g : Graph) (id : String) : Graph :=
  if id ∈ g.ids then g else ⟨g.nodes ++ [(id, [])]⟩

/-- Adds an edge and the nodes it needs; an edge that is there already is not added again. -/
def addEdge (g : Graph) (edge : Edge) : Graph :=
  let g := (g.addNode edge.1).addNode edge.2
  ⟨g.nodes.map fun node =>
    if node.1 = edge.1 ∧ edge.2 ∉ node.2 then (node.1, node.2 ++ [edge.2]) else node⟩

def ofEdges (edges : List Edge) : Graph := edges.foldl addEdge empty

/-- The graph of all expressions; the first malformed one is the error. -/
def ofExpressions (expressions : List String) : Except Rejection Graph := do
  .ok (ofEdges (← expressions.mapM Dependency.edges).flatten)

def edgeCount (g : Graph) : Nat := g.nodes.foldr (fun node n => node.2.length + n) 0

/-- Where a search stands: it met a cycle, or it has visited some nodes and met none. -/
inductive Outcome
  | cycle (path : List String)
  | clear (visited : List String)
  deriving Repr

/-- Searches from one node after another for as long as no cycle is met; what one search has
visited the next one knows. -/
def searchEach (search : List String → String → Outcome) : List String → List String → Outcome
  | visited, [] => .clear visited
  | visited, id :: rest =>
    match search visited id with
    | .cycle path => .cycle path
    | .clear visited => searchEach search visited rest

/-- Visits a node at the end of a path. A target on the path closes a cycle; a target visited
before is not visited again. -/
def visit (g : Graph) : Nat → List String → List String → String → Outcome
  | 0, _, visited, _ => .clear visited
  | fuel + 1, path, visited, id =>
    let path := path ++ [id]
    searchEach (fun visited next =>
      if next ∈ path then .cycle (path.dropWhile (· != next) ++ [next])
      else if next ∈ visited then .clear visited
      else visit g fuel path visited next) (id :: visited) (g.targets id)

/-- Visits every node that no earlier visit came to. -/
def search (g : Graph) (fuel : Nat) : Outcome :=
  searchEach (fun visited id =>
    if id ∈ visited then .clear visited else g.visit fuel [] visited id) [] g.ids

/-- A cycle, from a node back to itself. A path has at most as many nodes as the graph. -/
def cycle? (g : Graph) : Option (List String) :=
  match g.search (g.nodes.length + 1) with
  | .cycle path => some path
  | .clear _ => none

/-- A graph with a cycle is refused. -/
def validate (g : Graph) : Except Rejection Unit :=
  match g.cycle? with
  | some path => .error (.cycle path)
  | none => .ok ()

end Graph

end WorkflowCompiler.Workflow.Dependency
