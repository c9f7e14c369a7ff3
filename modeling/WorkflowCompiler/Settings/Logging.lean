import WorkflowCompiler.Settings.Settings

/-!
Setting up the log. Nothing is written here; what counts is which settings are refused. A level
filter is a list of directives, each a level, a target, or a target with a level.
-/
namespace WorkflowCompiler.Settings.Logging

/-- Why no log is set up. -/
inductive Failure
  | level
  | directory (fault : Files.Fault)
  deriving Repr

def Failure.message : Failure → String
  | .level => "error parsing level filter: expected one of \"off\", \"error\", \"warn\", " ++
    "\"info\", \"debug\", \"trace\", or a number 0-5"
  | .directory fault => "create log dir failed: " ++ fault.message

/-- The text names a level. -/
def isLevel (s : String) : Bool :=
  Text.lowerAscii s ∈ ["off", "error", "warn", "info", "debug", "trace"] ||
    s ∈ ["0", "1", "2", "3", "4", "5"]

/-- A directive with one equals sign has a level after it, or nothing; one with more has none. -/
def isDirective (s : String) : Bool :=
  match Text.splitAt '=' s with
  | [_] => true
  | [_, level] => level = "" || isLevel level
  | _ => false

def isFilter (s : String) : Bool :=
  (Text.splitAt ',' s).all isDirective

/-- Sets up the log: the level is looked at first, unless the environment gives one, and a log
file calls for its directory. -/
def setUp (files : Files.Tree) (environment : Environment) (logging : Logging) :
    Except Failure Files.Tree :=
  if !logging.enabled then .ok files
  else
    let given := (environment "RUST_LOG").filter (!Text.isBlankText ·)
    if given.isNone && !isFilter logging.level then .error .level
    else if logging.file then
      let directory := Text.trim (logging.directory.getD "")
      if directory = "" then .ok files
      else (files.createDirectories directory).mapError .directory
    else .ok files

end WorkflowCompiler.Settings.Logging
