import WorkflowCompiler.CommandLine.Program
import WorkflowCompiler.Machine.Program

/-!
The command line. What lies below the working directory and in the program's own directory is
read into a tree of files, the program is carried out on it, and what it changed is written back.
No web can be reached from here, so no certificate is understood either, and only the machine's own
programs run scripts.
-/
namespace WorkflowCompiler.Main

open CommandLine (World Exit)
open Files (Location Node Tree)

def depth : Nat := 16

def locationOf (path : String) : Location :=
  (Text.splitAt '/' path).filter (· ≠ "")

def pathOf (location : Location) : String :=
  "/" ++ "/".intercalate location

/-- A file that names its interpreter counts as executable. -/
def fileNode (content : ByteArray) : Node :=
  .file content ((content.toList.take 2) = [35, 33])

/-- What lies below a directory. Entries that cannot be read are left out. -/
def nodesBelow : Nat → (names : List Location) → IO (List (Location × Node))
  | 0, _ => return []
  | depth + 1, directories => do
    let mut nodes := []
    for directory in directories do
      let path ← IO.FS.realPath (pathOf directory)
      for entry in ← path.readDir do
        let location := directory ++ [entry.fileName]
        if ← entry.path.isDir then
          nodes := (location, .directory) :: (← nodesBelow depth [location]) ++ nodes
        else
          try nodes := (location, fileNode (← IO.FS.readBinFile entry.path)) :: nodes
          catch _ => pure ()
    return nodes

/-- The directories from the root to a place, without what lies in them. -/
def nodesAbove (location : Location) : List (Location × Node) :=
  (List.range location.length).map fun n => (location.take (n + 1), .directory)

def environmentNames : List String :=
  ["HOME", "USERPROFILE", "DAGEN_API_ENDPOINT", "DAGEN_API_TOKEN", "DAGEN_PYTHON", "RUST_LOG"]

/-- Writes the nodes of one tree that another does not have. -/
def writeChanges (old new : Tree) : IO Unit := do
  for (location, node) in new.nodes.reverse do
    match node, old.node? location with
    | .directory, none => IO.FS.createDirAll (pathOf location)
    | .file content _, some (.file before _) =>
      if content != before then IO.FS.writeBinFile (pathOf location) content
    | .file content _, _ => IO.FS.writeBinFile (pathOf location) content
    | _, _ => pure ()

end WorkflowCompiler.Main

open WorkflowCompiler in
def main (arguments : List String) : IO UInt32 := do
  let here := Main.locationOf (← IO.currentDir).toString
  let environment ← Main.environmentNames.filterMapM fun name => do
    return (← IO.getEnv name).map (name, ·)
  let find (name : String) : Option String := (environment.find? (·.1 == name)).map (·.2)
  let home := Main.locationOf ((find "HOME").getD "") ++ [".dagen"]
  let own ← try (do return Main.nodesAbove home ++ (← Main.nodesBelow Main.depth [home]))
    catch _ => pure []
  let files : Files.Tree :=
    { nodes := Main.nodesAbove here ++ Main.nodesAbove Run.scratchLocation.dropLast ++ own ++
        (← Main.nodesBelow Main.depth [here])
      workingDirectory := here }
  let world : CommandLine.World Unit :=
    { files
      environment := find
      input := []
      transport := fun _ _ => (.unreachable, ())
      web := ()
      launch := Machine.launch
      isIdentity := fun _ => false }
  let exit := world.main arguments
  Main.writeChanges files exit.files
  IO.print exit.output
  IO.eprint exit.errors
  return exit.status.toUInt32
