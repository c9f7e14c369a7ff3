import WorkflowCompiler.Machine.Shell.Run
import WorkflowCompiler.Run.LocalRun

/-!
The programs of a small machine: a shell, and three that print their argument, succeed and fail.
Others can be files of the tree that name the program which interprets them.
-/
namespace WorkflowCompiler.Machine

open Run (Child Ending Source)
open Shell (Bytes)

inductive Program
  | shell
  | cat
  | succeed
  | fail
  deriving DecidableEq, Repr

/-- The program of a name in the standard directories. -/
def Program.ofName? : String → Option Program
  | "sh" => some .shell
  | "cat" => some .cat
  | "true" => some .succeed
  | "false" => some .fail
  | _ => none

def Program.ofPath? (path : String) : Option Program :=
  match Text.splitAt '/' path with
  | ["", "bin", name] => ofName? name
  | ["", "usr", "bin", name] => ofName? name
  | _ => none

def sourceOf (bytes : Bytes) : Source :=
  ⟨if bytes = [] then [] else [Shell.octets bytes], none⟩

/-- How deep a script's commands may be nested, and how often its loops may go round. -/
def shellFuel : Nat := 1000000

def timeLimitSignal : Nat := 24

def runShell (files : Files.Tree) (arguments : List String) : Child :=
  match arguments with
  | [] => ⟨⟨[], none⟩, ⟨[], none⟩, .exited 0, files⟩
  | script :: others =>
    match files.readBytes script with
    | .error fault =>
      let complaint := "sh: 0: cannot open " ++ script ++ ": " ++ Shell.reason fault ++ "\n"
      ⟨⟨[], none⟩, sourceOf (Shell.bytesOf complaint), .exited 2, files⟩
    | .ok content =>
      let start := Shell.State.start (Shell.bytesOf script) (others.map Shell.bytesOf) files
      let last := Shell.runScript shellFuel (Shell.ofByteArray content) start
      let page (n : Nat) : Source := sourceOf (last.pages[n]?.getD []).reverse
      { output := page 0
        errors := page 1
        ending := match last.flow with
          | .killed signal => .killed signal
          | .outOfFuel => .killed timeLimitSignal
          | _ => .exited last.status
        files := last.files }

def Program.run (files : Files.Tree) (arguments : List String) : Program → Child
  | .shell => runShell files arguments
  | .cat =>
    let deed := Shell.cat ⟨[], files⟩ (arguments.map Shell.bytesOf)
    ⟨sourceOf deed.output, sourceOf deed.errors, .exited deed.status, files⟩
  | .succeed => ⟨⟨[], none⟩, ⟨[], none⟩, .exited 0, files⟩
  | .fail => ⟨⟨[], none⟩, ⟨[], none⟩, .exited 1, files⟩

/-- The interpreter that the first line of a file names, with one argument perhaps. -/
def interpreterLine? (content : ByteArray) : Option (String × Option String) :=
  match Shell.ofByteArray content with
  | '#' :: '!' :: rest =>
    let blank (c : Char) : Bool := c == ' ' || c == '\t'
    let line := Text.dropEndWhile blank ((rest.takeWhile (· ≠ '\n')).dropWhile blank)
    let name := line.takeWhile (!blank ·)
    let argument := (line.dropWhile (!blank ·)).dropWhile blank
    if name = [] then none
    else some (Shell.textOf name, if argument = [] then none else some (Shell.textOf argument))
  | _ => none

/-- Starts what a path leads to. A file that is no program of the machine's must be executable
and name its interpreter, which may be such a file again a few times. -/
def startPath (files : Files.Tree) : Nat → (path : String) → (arguments : List String) →
    Except Files.Fault Child
  | 0, _, _ => .error (.other "Too many levels of symbolic links (os error 40)")
  | nesting + 1, path, arguments =>
    match Program.ofPath? path with
    | some program => .ok (program.run files arguments)
    | none => do
      match ← files.locate path with
      | .absent _ => .error .notFound
      | .present _ .directory => .error .permissionDenied
      | .present _ (.file _ false) => .error .permissionDenied
      | .present _ (.file content true) =>
        match interpreterLine? content with
        | none => .error .notExecutable
        | some ("/usr/bin/env", some name) =>
          match Program.ofName? name with
          | some program => .ok (program.run files (path :: arguments))
          | none => .error .notFound
        | some (interpreter, argument) =>
          startPath files nesting interpreter (argument.toList ++ path :: arguments)

/-- Starts an interpreter with the path of a script. A name without a slash is looked for among
the programs of the standard directories. -/
def launch : Run.Launcher := fun files interpreter script =>
  if interpreter.toList.contains '\x00' then
    .error (.other "nul byte found in provided data")
  else if interpreter.toList.contains '/' then startPath files 5 interpreter [script]
  else
    match Program.ofName? interpreter with
    | some program => .ok (program.run files [script])
    | none => .error .notFound

end WorkflowCompiler.Machine
