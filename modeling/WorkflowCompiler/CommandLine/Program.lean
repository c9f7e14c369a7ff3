import WorkflowCompiler.CommandLine.Command
import WorkflowCompiler.CommandLine.Failure
import WorkflowCompiler.Publish.Client
import WorkflowCompiler.Publish.Flow
import WorkflowCompiler.Publish.Terminal
import WorkflowCompiler.Settings.Logging

/-!
The program: a command is carried out in a world of files, an environment, an input and a web,
and leaves behind texts on both outputs and an exit status.
-/
namespace WorkflowCompiler.CommandLine

open Http (Transport)

/-- What the program finds. -/
structure World (σ : Type) where
  files : Files.Tree
  environment : Settings.Environment
  input : List UInt8
  transport : Transport σ
  web : σ
  launch : Run.Launcher
  /-- What the library for connections takes for a certificate with its key. -/
  isIdentity : ByteArray → Bool := fun _ => false

/-- What the program leaves behind. -/
structure Report (σ : Type) where
  result : Except Failure Int
  output : String
  errors : String
  files : Files.Tree
  /-- What is left of the input. -/
  unread : List UInt8
  web : σ

variable {σ : Type}

namespace World

/-- A report in which nothing has happened but what is stated. -/
def report (world : World σ) (result : Except Failure Int) (output : String := "") : Report σ where
  result
  output
  errors := ""
  files := world.files
  unread := world.input
  web := world.web

/-- Writes a script, making the directories for it. -/
def writeScript (files : Files.Tree) (path source : String) :
    Except Files.Fault Files.Tree := do
  let files ← match Files.parent? path with
    | some directory => if directory = "" then .ok files else files.createDirectories directory
    | none => .ok files
  files.write path source.toUTF8

def compile (world : World σ) (c : CompileCommand) : Report σ :=
  let mode : Script.Mode := if c.standalone then .standalone else .deployable
  match Script.build world.files c.spec mode c.tasks with
  | .error e => world.report (.error (.build e))
  | .ok build =>
    let path := c.output.getD build.requested.fileName
    match writeScript world.files path build.requested.source with
    | .error fault => world.report (.error (.files fault))
    | .ok files =>
      { world.report (.ok 0) (mode.name ++ " script written to " ++ path ++ "\n") with files }

def validate (world : World σ) (spec : String) : Report σ :=
  match Workflow.load world.files spec with
  | .error r => world.report (.error (.build (.rejected r)))
  | .ok l =>
    world.report (.ok 0) (l.spec.deploymentName ++ ": " ++ toString l.spec.tasks.length ++
      " task(s), " ++ toString l.graph.edgeCount ++ " dependency edge(s), OK\n")

/-- The interpreter that the command asks for goes before that of the settings. -/
def runnerOf (c : RunCommand) (settings : Settings) : Settings.Runner :=
  match c.interpreter.filter (!Text.isBlankText ·) with
  | some interpreter => { settings.runner with interpreter }
  | none => settings.runner

def printed (lines : List String) : String :=
  String.join (lines.map (· ++ "\n"))

def run (world : World σ) (settings : Settings) (c : RunCommand) : Report σ :=
  match Run.runLocal world.launch world.files c.spec c.tasks (runnerOf c settings) with
  | .error e => world.report (.error (.build e))
  | .ok outcome =>
    { world.report (outcome.result.mapError .run) (printed (outcome.linesOf .output)) with
      errors := printed (outcome.linesOf .errors)
      files := outcome.files }

def outcomeText : Publish.Outcome → String
  | .published message => message ++ "\n"
  | .declined => "Publish cancelled, nothing was sent.\n"

def publish (world : World σ) (settings : Settings) (c : PublishCommand) : Report σ :=
  match Publish.Client.build world.files settings.api world.isIdentity with
  | .error fault => world.report (.error (.settings fault.message))
  | .ok client =>
    let options : Publish.Options :=
      { profile := c.profile <|> settings.api.projectProfile
        user := c.user.getD settings.api.userId
        assumeYes := c.assumeYes }
    let (result, course) :=
      (Publish.publish world.files c.spec (client.service world.transport) options).run
        ⟨world.web, Publish.Terminal.console world.input, []⟩
    let screen := Publish.Terminal.screen course.events
    let unread := Publish.Terminal.unread world.input course.console.replies
    match result with
    | .ok outcome =>
      { world.report (.ok 0) (screen ++ outcomeText outcome) with
        unread, web := course.service }
    | .error failure =>
      { world.report (.error (.publish failure)) screen with unread, web := course.service }

def execute (world : World σ) (settings : Settings) : Command → Report σ
  | .compile c => world.compile c
  | .run c => world.run settings c
  | .publish c => world.publish settings c
  | .validate spec => world.validate spec

/-- The settings in force; without them no command is carried out. -/
def settings (world : World σ) : Except Failure Settings :=
  (Settings.load world.files world.environment).mapError fun f => .settings f.message

def perform (world : World σ) (command : Command) : Report σ :=
  match world.settings with
  | .error failure => world.report (.error failure)
  | .ok settings => world.execute settings command

def performLogged (world : World σ) (command : Command) : Report σ :=
  match world.settings with
  | .error failure => world.report (.error failure)
  | .ok settings =>
    match settings.logging.setUp world.files world.environment with
    | .error failure => world.report (.error (.command failure.message))
    | .ok files => { world with files }.execute settings command

end World

def Report.status (report : Report σ) : Int :=
  match report.result with
  | .ok status => status
  | .error failure => failure.code

def usage : String := "Usage: dagen <COMMAND>\n"

def Fault.message : Fault → String
  | .helpWanted => "Compile workflow specifications into orchestration scripts\n\n" ++ usage
  | .versionWanted => "dagen " ++ Script.generatorVersion ++ "\n"
  | .noCommand => "Compile workflow specifications into orchestration scripts\n\n" ++ usage
  | .missingValue shown =>
    "error: a value is required for '" ++ shown ++ "' but none was supplied\n\n" ++
      "For more information, try '--help'.\n"
  | .unknownCommand argument => "error: unrecognized subcommand '" ++ argument ++ "'\n\n" ++ usage
  | .unknownArgument argument =>
    "error: unexpected argument '" ++ argument ++ "' found\n\n" ++ usage
  | .missingParameter shown =>
    "error: the following required arguments were not provided:\n  " ++ shown ++ "\n\n" ++ usage
  | .repeatedParameter shown =>
    "error: the argument '" ++ shown ++ "' cannot be used multiple times\n\n" ++ usage
  | .surplusValue shown => "error: unexpected value for '" ++ shown ++ "' found\n\n" ++ usage

/-- Being asked for help or the version is no error. -/
def Fault.isAnswer : Fault → Bool
  | .helpWanted => true
  | .versionWanted => true
  | _ => false

structure Exit (σ : Type) where
  status : Nat
  output : String
  errors : String
  files : Files.Tree
  unread : List UInt8
  web : σ

def World.refuse (world : World σ) (fault : Fault) : Exit σ where
  status := if fault.isAnswer then 0 else 2
  output := if fault.isAnswer then fault.message else ""
  errors := if fault.isAnswer then "" else fault.message
  files := world.files
  unread := world.input
  web := world.web

/-- The whole program. A failure is printed; the system sees the last eight bits of a status. -/
def World.main (world : World σ) (arguments : List String) : Exit σ :=
  match parse arguments with
  | .error fault => world.refuse fault
  | .ok command =>
    let report := world.performLogged command
    let failure := match report.result with
      | .ok _ => ""
      | .error failure => failure.message ++ "\n"
    { status := (report.status % 256).toNat
      output := report.output
      errors := report.errors ++ failure
      files := report.files
      unread := report.unread
      web := report.web }

end WorkflowCompiler.CommandLine
