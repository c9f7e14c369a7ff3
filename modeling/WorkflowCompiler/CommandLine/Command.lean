import WorkflowCompiler.CommandLine.Grammar

/-!
The commands of the program and how they are written.
-/
namespace WorkflowCompiler.CommandLine

structure CompileCommand where
  spec : String
  /-- A script for this machine is wanted. -/
  standalone : Bool
  tasks : List String
  output : Option String
  deriving DecidableEq, Repr

structure RunCommand where
  spec : String
  tasks : List String
  interpreter : Option String
  deriving DecidableEq, Repr

structure PublishCommand where
  spec : String
  profile : Option String
  assumeYes : Bool
  user : Option String
  deriving DecidableEq, Repr

inductive Command
  | compile (c : CompileCommand)
  | run (c : RunCommand)
  | publish (c : PublishCommand)
  | validate (spec : String)
  deriving DecidableEq, Repr

def specParameter : Parameter where
  name := "spec"
  isPath := true
  placeholder := "SPEC"

def localParameter : Parameter where
  name := "local"
  takesValue := false

def taskParameter : Parameter where
  name := "task"
  repeats := true
  placeholder := "TASKS"

def outputParameter : Parameter where
  name := "output"
  short := some 'o'
  isPath := true
  placeholder := "OUTPUT"

def interpreterParameter : Parameter where
  name := "python"
  placeholder := "PYTHON"

def profileParameter : Parameter where
  name := "profile"
  placeholder := "PROFILE"

def yesParameter : Parameter where
  name := "yes"
  short := some 'y'
  takesValue := false

def userParameter : Parameter where
  name := "user-id"
  placeholder := "USER_ID"

abbrev Given := List (Parameter × List String)

namespace Given

def values (given : Given) (p : Parameter) : List String :=
  (given.filter (·.1 == p)).flatMap (·.2)

def value? (given : Given) (p : Parameter) : Option String :=
  (given.values p).head?

def has (given : Given) (p : Parameter) : Bool :=
  given.any (·.1 == p)

def spec (given : Given) : String :=
  (given.value? specParameter).getD ""

end Given

def parseCompile (arguments : List String) : Except Fault Command := do
  let given : Given ← Grammar.parse
    ⟨[localParameter, taskParameter, outputParameter], [specParameter]⟩ arguments
  if given.has taskParameter && !given.has localParameter then
    .error (.missingParameter localParameter.shown)
  else .ok (.compile {
    spec := given.spec
    standalone := given.has localParameter
    tasks := given.values taskParameter
    output := given.value? outputParameter })

def parseRun (arguments : List String) : Except Fault Command := do
  let given : Given ← Grammar.parse ⟨[taskParameter, interpreterParameter], [specParameter]⟩
    arguments
  .ok (.run {
    spec := given.spec
    tasks := given.values taskParameter
    interpreter := given.value? interpreterParameter })

def parsePublish (arguments : List String) : Except Fault Command := do
  let given : Given ← Grammar.parse ⟨[profileParameter, yesParameter, userParameter],
    [specParameter]⟩ arguments
  .ok (.publish {
    spec := given.spec
    profile := given.value? profileParameter
    assumeYes := given.has yesParameter
    user := given.value? userParameter })

def parseValidate (arguments : List String) : Except Fault Command := do
  let given : Given ← Grammar.parse ⟨[], [specParameter]⟩ arguments
  .ok (.validate given.spec)

def commands : List (String × (List String → Except Fault Command)) :=
  [("compile", parseCompile), ("run", parseRun), ("publish", parsePublish),
    ("validate", parseValidate)]

def command? (name : String) : Option (List String → Except Fault Command) :=
  (commands.find? (·.1 == name)).map (·.2)

/-- A name that may stand where a command is expected. -/
def isCommandName (name : String) : Bool :=
  name == "help" || (command? name).isSome

/-- What can be asked for help: the program, one of its commands, or help. -/
def parseHelp : List String → Fault
  | [] => .helpWanted
  | [topic] => if isCommandName topic then .helpWanted else .unknownCommand topic
  | topic :: further :: _ =>
    if isCommandName topic then .unknownCommand further else .unknownCommand topic

/-- A list that begins with dashes has no command in it; what it asks for comes first. -/
def leadingDashes (argument : String) : List Char → Option Fault
  | ['-', '-', 'h', 'e', 'l', 'p'] => some .helpWanted
  | ['-', '-', 'v', 'e', 'r', 's', 'i', 'o', 'n'] => some .versionWanted
  | '-' :: '-' :: name =>
    let known := String.ofList (name.takeWhile (· ≠ '=')) ∈ ["help", "version"]
    some (if known then .surplusValue argument else .unknownArgument argument)
  | '-' :: 'h' :: _ => some .helpWanted
  | '-' :: 'V' :: _ => some .versionWanted
  | '-' :: _ :: _ => some (.unknownArgument argument)
  | _ => none

def parse : List String → Except Fault Command
  | [] => .error .noCommand
  | "--" :: rest =>
    match rest with
    | [] => .error .noCommand
    | a :: _ => .error (if isCommandName a then .unknownArgument a else .unknownCommand a)
  | a :: rest =>
    if a = "help" then .error (parseHelp rest)
    else match command? a with
      | some parseRest => parseRest rest
      | none => .error ((leadingDashes a a.toList).getD (.unknownCommand a))

def parseProgram : List String → Except Fault Command
  | [] => .error .noCommand
  | _ :: arguments => parse arguments

end WorkflowCompiler.CommandLine
