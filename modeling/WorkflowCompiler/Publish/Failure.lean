import WorkflowCompiler.Script.BuildError

/-!
Why a publication fails. Failures tell whether the service refused, could not be reached, or the
user did not decide.
-/
namespace WorkflowCompiler.Publish

inductive Breakdown
  /-- No answer came in time. -/
  | timeout
  /-- Nobody could be reached. -/
  | connect
  /-- The connection ended before an answer. -/
  | request
  /-- The answer could not be read, or says something else than it should. -/
  | decode
  /-- There was no request that could have been sent. -/
  | unknown
  deriving DecidableEq, Repr

def Breakdown.name : Breakdown → String
  | timeout => "timeout"
  | connect => "connect"
  | request => "request"
  | decode => "decode"
  | unknown => "unknown"

inductive Failure
  /-- The deployment exists and nobody said that it may be replaced. -/
  | conflict (deployment : String)
  /-- The service answered with a status that stands for refusal. -/
  | refused (status : Nat) (url : String) (body : String)
  | network (breakdown : Breakdown) (url : String) (detail : String)
  | encoding (detail : String)
  | prompt (detail : String)
  | settings (detail : String)
  | build (error : Script.BuildError)
  deriving Repr

namespace Failure

def message : Failure → String
  | conflict deployment =>
    "deployment '" ++ deployment ++ "' already exists and the overwrite was not confirmed"
  | refused status url body =>
    "remote API returned status " ++ toString status ++ " for " ++ url ++ ": " ++ body
  | network breakdown url detail =>
    "remote API request failed kind=" ++ breakdown.name ++ " url=" ++ url ++ ": " ++ detail
  | encoding detail => "failed to encode transport payload: " ++ detail
  | prompt detail => "prompt failed: " ++ detail
  | settings detail => "config error: " ++ detail
  | build error => error.message

def code : Failure → Nat
  | conflict _ => 41
  | refused _ _ _ => 42
  | network _ _ _ => 40
  | encoding _ => 1
  | prompt _ => 1
  | settings _ => 50
  | build error => error.code

end Failure

end WorkflowCompiler.Publish
