import WorkflowCompiler.Files.Path

/-!
A tree of files and directories, with a working directory in it. Every operation states the
fault it ends in, in the order in which the pieces of a path are walked.
-/
namespace WorkflowCompiler.Files

inductive Fault
  | notFound
  | notDirectory
  | isDirectory
  | alreadyExists
  | nameTooLong
  | permissionDenied
  | notExecutable
  | notUtf8
  | nulInName
  | other (message : String)
  deriving DecidableEq, Repr

def Fault.message : Fault → String
  | .notFound => "No such file or directory (os error 2)"
  | .notDirectory => "Not a directory (os error 20)"
  | .isDirectory => "Is a directory (os error 21)"
  | .alreadyExists => "File exists (os error 17)"
  | .nameTooLong => "File name too long (os error 36)"
  | .permissionDenied => "Permission denied (os error 13)"
  | .notExecutable => "Exec format error (os error 8)"
  | .notUtf8 => "stream did not contain valid UTF-8"
  | .nulInName => "file name contained an unexpected NUL byte"
  | .other message => message

inductive Node
  | directory
  | file (content : ByteArray) (executable : Bool)
  deriving Inhabited

abbrev Location := List String

/-- Files and directories by location. The root is a directory without being listed. -/
structure Tree where
  nodes : List (Location × Node)
  workingDirectory : Location

/-- A name may have this many bytes. -/
def nameLimit : Nat := 255

/-- A path must have fewer bytes than this. -/
def pathLimit : Nat := 4096

namespace Tree

def node? (tree : Tree) (location : Location) : Option Node :=
  if location = [] then some .directory
  else (tree.nodes.find? (·.1 == location)).map (·.2)

def set (tree : Tree) (location : Location) (node : Node) : Tree :=
  { tree with nodes := (location, node) :: tree.nodes.filter (·.1 != location) }

/-- Where a walk along a path ends: at a node, or at a name that its directory does not have. -/
inductive Target
  | present (location : Location) (node : Node)
  | absent (location : Location)

/-- Follows the pieces of a path. Only a directory can be walked on from. -/
def walk (tree : Tree) : Location → Node → List String → Except Fault Target
  | location, node, [] => .ok (.present location node)
  | location, node, piece :: rest =>
    match node with
    | .file _ _ => .error .notDirectory
    | .directory =>
      if piece = "" ∨ piece = "." then walk tree location .directory rest
      else if piece = ".." then walk tree location.dropLast .directory rest
      else if nameLimit < piece.utf8ByteSize then .error .nameTooLong
      else
        let next := location ++ [piece]
        match tree.node? next with
        | some node => walk tree next node rest
        | none =>
          if rest.all (· == "") then .ok (.absent next) else .error .notFound

/-- The end of a path. -/
def locate (tree : Tree) (path : String) : Except Fault Target :=
  if path.toList.contains '\x00' then .error .nulInName
  else if path = "" then .error .notFound
  else if pathLimit ≤ path.utf8ByteSize then .error .nameTooLong
  else
    tree.walk (if isAbsolute path then [] else tree.workingDirectory) .directory
      (Text.splitAt '/' path)

def isDirectory (tree : Tree) (path : String) : Bool :=
  match tree.locate path with
  | .ok (.present _ .directory) => true
  | _ => false

def pathExists (tree : Tree) (path : String) : Bool :=
  match tree.locate path with
  | .ok (.present _ _) => true
  | _ => false

/-- The bytes of a file. -/
def readBytes (tree : Tree) (path : String) : Except Fault ByteArray := do
  match ← tree.locate path with
  | .present _ (.file content _) => .ok content
  | .present _ .directory => .error .isDirectory
  | .absent _ => .error .notFound

/-- The text of a file, whose bytes must be UTF-8. -/
def readText (tree : Tree) (path : String) : Except Fault String := do
  match String.fromUTF8? (← tree.readBytes path) with
  | some text => .ok text
  | none => .error .notUtf8

/-- Puts bytes into a file, which comes into being in an existing directory if need be. -/
def write (tree : Tree) (path : String) (content : ByteArray) : Except Fault Tree := do
  let toDirectory := path.toList.getLast? == some '/'
  match tree.locate path with
  | .ok (.present location (.file _ executable)) =>
    .ok (tree.set location (.file content executable))
  | .ok (.present _ .directory) => .error .isDirectory
  | .ok (.absent location) =>
    if toDirectory then .error .isDirectory
    else .ok (tree.set location (.file content false))
  | .error .notDirectory =>
    -- a file named as a directory is refused differently from one that is walked through
    match tree.locate (String.ofList (Text.dropEndWhile (· == '/') path.toList)) with
    | .ok (.present _ (.file _ _)) => .error .isDirectory
    | _ => .error .notDirectory
  | .error fault => .error fault

def createDirectory (tree : Tree) (path : String) : Except Fault Tree := do
  match ← tree.locate (String.ofList (trimSlashes path.toList)) with
  | .present _ _ => .error .alreadyExists
  | .absent location => .ok (tree.set location .directory)
where
  /-- Slashes at the end do not matter for a directory, but the root keeps its only one. -/
  trimSlashes (cs : List Char) : List Char :=
    let kept := Text.dropEndWhile (· == '/') cs
    if kept = [] then cs else kept

/-- Makes a directory and those above it that are missing; what exists already is no fault. -/
def createDirectoriesFrom (tree : Tree) : Nat → String → Except Fault Tree
  | steps, path =>
    if path = "" then .ok tree
    else
      match tree.createDirectory path with
      | .ok tree => .ok tree
      | .error .notFound =>
        match steps, parent? path with
        | steps + 1, some above => do
          let tree ← createDirectoriesFrom tree steps above
          match tree.createDirectory path with
          | .ok tree => .ok tree
          | .error fault => if tree.isDirectory path then .ok tree else .error fault
        | _, _ => .error (.other "failed to create whole tree")
      | .error fault => if tree.isDirectory path then .ok tree else .error fault

def createDirectories (tree : Tree) (path : String) : Except Fault Tree :=
  tree.createDirectoriesFrom path.length path

/-- The tree without a file; nothing changes if there is none. -/
def remove (tree : Tree) (path : String) : Tree :=
  match tree.locate path with
  | .ok (.present location (.file _ _)) =>
    { tree with nodes := tree.nodes.filter (·.1 != location) }
  | _ => tree

def removeBelow (tree : Tree) (location : Location) : Tree :=
  { tree with nodes := tree.nodes.filter fun n => !location.isPrefixOf n.1 }

end Tree

end WorkflowCompiler.Files
