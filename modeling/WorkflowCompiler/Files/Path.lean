import WorkflowCompiler.Text.Blank

/-!
Paths as text. A path is a sequence of pieces between slashes; empty pieces and dots name nothing
of their own, except for a dot that begins a relative path.
-/
namespace WorkflowCompiler.Files

def isAbsolute (path : String) : Bool :=
  path.toList.head? == some '/'

/-- The second path seen from the first: appended after a slash, unless it is absolute. -/
def join (base path : String) : String :=
  if isAbsolute path then path
  else if base = "" ∨ base.toList.getLast? = some '/' then base ++ path
  else base ++ "/" ++ path

/-- A path as a document names it: white space around it does not count. -/
def resolve (base relative : String) : String :=
  join base (Text.trim relative)

/-- The pieces of a path, each with the characters up to its end. -/
def piecesFrom : (before piece : List Char) → List Char → List (List Char × List Char)
  | before, piece, [] => [(piece.reverse, before.reverse)]
  | before, piece, c :: rest =>
    if c = '/' then (piece.reverse, before.reverse) :: piecesFrom (c :: before) [] rest
    else piecesFrom (c :: before) (c :: piece) rest

/-- The path up to the end of each of its components, the root included. -/
def ancestors (path : String) : List String :=
  let rooted := isAbsolute path
  let named := (piecesFrom [] [] path.toList).filter fun (piece, upTo) =>
    piece ≠ [] && (piece ≠ ['.'] || (!rooted && upTo = ['.']))
  (if rooted then ["/"] else []) ++ named.map fun (_, upTo) => String.ofList upTo

/-- The directory a path is in, as text: empty for a single name, absent for the root. -/
def parent? (path : String) : Option String :=
  match (ancestors path).reverse with
  | [] => none
  | [last] => if last = "/" then none else some ""
  | _ :: previous :: _ => some previous

def directoryOf (path : String) : String :=
  match parent? path with
  | none => "."
  | some directory => if directory = "" then "." else directory

end WorkflowCompiler.Files
