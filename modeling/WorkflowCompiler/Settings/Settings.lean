import WorkflowCompiler.Files.Tree
import WorkflowCompiler.Json.Form
import WorkflowCompiler.Settings.Toml

/-!
Settings of the program: where they come from, what is in them, and what they are by default.
The environment goes before any file, and the file in the data directory before the one in the
working directory; the two files are never mixed.
-/
namespace WorkflowCompiler

open Json (Value Members Record)

namespace Settings

structure Logging where
  enabled : Bool := true
  console : Bool := true
  file : Bool := false
  level : String := "info"
  directory : Option String := none

structure Api where
  endpoint : String := ""
  token : String := ""
  userId : String := ""
  projectProfile : Option String := none
  verifyTls : Bool := true
  clientCertificate : Option String := none
  timeout : Nat := 60000

structure Runner where
  interpreter : String := "python3"
  lineCapacity : Nat := 1024

def Logging.record : Record where
  name := "LoggingConfig"
  fields := [
    .spare "enabled" .flag,
    .spare "console" .flag,
    .spare "file" .flag,
    .spare "level" .text,
    .spare "directory" (.optional .text)]
  positional := true

def Logging.ofMembers (members : Members) : Logging where
  enabled := (members.flag? "enabled").getD true
  console := (members.flag? "console").getD true
  file := (members.flag? "file").getD false
  level := (members.text? "level").getD "info"
  directory := members.text? "directory"

def Api.record : Record where
  name := "ApiConfig"
  fields := [
    .spare "endpoint" .text,
    .spare "token" .text,
    .spare "user_id" .text,
    .spare "project_profile" (.optional .text),
    .spare "verify_tls" .flag,
    .spare "client_cert" (.optional .text),
    .spare "timeout_ms" (.natural 64 "u64")]
  positional := true

def Api.ofMembers (members : Members) : Api where
  endpoint := (members.text? "endpoint").getD ""
  token := (members.text? "token").getD ""
  userId := (members.text? "user_id").getD ""
  projectProfile := members.text? "project_profile"
  verifyTls := (members.flag? "verify_tls").getD true
  clientCertificate := members.text? "client_cert"
  timeout := (members.nat? "timeout_ms").getD 60000

def Runner.record : Record where
  name := "RunnerConfig"
  fields := [
    .spare "interpreter" .text,
    .spare "line_channel_capacity" (.natural 64 "usize")]
  positional := true

def Runner.ofMembers (members : Members) : Runner where
  interpreter := (members.text? "interpreter").getD "python3"
  lineCapacity := (members.nat? "line_channel_capacity").getD 1024

def Logging.decode (document : Value) : Except Json.Mismatch Logging := do
  .ok (ofMembers (← record.form.accept document).members)

def Api.decode (document : Value) : Except Json.Mismatch Api := do
  .ok (ofMembers (← record.form.accept document).members)

def record : Record where
  name := "AppConfig"
  fields := [
    .spare "logging" Logging.record.form,
    .spare "api" Api.record.form,
    .spare "runner" Runner.record.form]
  positional := true

end Settings

structure Settings where
  logging : Settings.Logging := {}
  api : Settings.Api := {}
  runner : Settings.Runner := {}

namespace Settings

def ofMembers (members : Members) : Settings where
  logging := .ofMembers (((members.get? "logging").getD .null).members)
  api := .ofMembers (((members.get? "api").getD .null).members)
  runner := .ofMembers (((members.get? "runner").getD .null).members)

inductive Failure
  | noHome
  | unreadable (fault : Files.Fault)
  | invalid (path : String) (detail : String)
  deriving Repr

def Failure.message : Failure → String
  | .noHome => "Cannot determine home directory"
  | .unreadable fault => fault.message
  | .invalid path detail => "invalid config " ++ path ++ ": " ++ detail

def readFile (files : Files.Tree) (path : String) : Except Failure Settings := do
  let text ← (files.readText path).mapError .unreadable
  match Toml.parse? text with
  | none => .error (.invalid path "malformed document")
  | some document =>
    match record.form.accept document with
    | .ok v => .ok (ofMembers v.members)
    | .error m => .error (.invalid path m.message)

/-- Logs go below the data directory if no other directory is given. -/
def fillLogDirectory (dataDirectory : String) (settings : Settings) : Settings :=
  match settings.logging.directory.filter (!Text.isBlankText ·) with
  | some _ => settings
  | none =>
    { settings with
      logging := { settings.logging with directory := some (Files.join dataDirectory "logs") } }

/-- The settings of the files in two directories, the first of which goes before the other. -/
def loadFiles (files : Files.Tree) (dataDirectory workingDirectory : String) :
    Except Failure Settings := do
  let own := Files.join dataDirectory "config.toml"
  let here := Files.join workingDirectory "config.toml"
  let settings ←
    if files.pathExists own then readFile files own
    else if files.pathExists here then readFile files here
    else .ok {}
  .ok (settings.fillLogDirectory dataDirectory)

abbrev Environment := String → Option String

/-- Values that are not blank go before what the files say. -/
def override (environment : Environment) (settings : Settings) : Settings :=
  let given (name : String) : Option String := (environment name).filter (!Text.isBlankText ·)
  { settings with
    api := { settings.api with
      endpoint := (given "DAGEN_API_ENDPOINT").getD settings.api.endpoint
      token := (given "DAGEN_API_TOKEN").getD settings.api.token }
    runner := { settings.runner with
      interpreter := (given "DAGEN_PYTHON").getD settings.runner.interpreter } }

def dataDirectory (environment : Environment) : Except Failure String :=
  match environment "HOME", environment "USERPROFILE" with
  | some home, _ => .ok (Files.join home ".dagen")
  | none, some home => .ok (Files.join home ".dagen")
  | none, none => .error .noHome

def load (files : Files.Tree) (environment : Environment) : Except Failure Settings := do
  let settings ← loadFiles files (← dataDirectory environment) "."
  .ok (settings.override environment)

end Settings

end WorkflowCompiler
