import WorkflowCompiler.Publish.Envelope

/-!
Messages to the service and what they are answered with.
-/
namespace WorkflowCompiler.Publish

open Json (Value)

/-- The question whether a deployment exists. -/
structure Inquiry where
  fileName : String
  profile : String
  deriving DecidableEq, Repr

def Inquiry.toValue (i : Inquiry) : Value :=
  .object [
    ("resource", .text "check_dag_exists"),
    ("dag_file", .object [("name", .text i.fileName)]),
    ("project_profile", .text i.profile)]

/-- The answer to the question. -/
inductive Existence
  | present (message : String)
  | absent
  deriving DecidableEq, Repr

/-- A script under the name of its file, in opaque form. -/
structure SealedFile where
  name : String
  data : String
  deriving DecidableEq, Repr

def SealedFile.toValue (f : SealedFile) : Value :=
  .object [("name", .text f.name), ("data", .text f.data)]

/-- What installs a deployment. -/
structure Submission where
  /-- The envelope in opaque form. -/
  resource : String
  deployable : SealedFile
  /-- The script that runs all tasks on one machine. -/
  localScript : SealedFile
  profile : String
  user : String
  clientType : String
  clientVersion : String
  deriving DecidableEq, Repr

def Submission.toValue (s : Submission) : Value :=
  .object [
    ("resource", .text s.resource),
    ("dag_file", s.deployable.toValue),
    ("python_script", s.localScript.toValue),
    ("project_profile", .text s.profile),
    ("uid", .text s.user),
    ("client_type", .text s.clientType),
    ("client_version", .text s.clientVersion)]

/-- The service that deployments are installed at, with a state of its own. -/
structure Service (σ : Type) where
  /-- The profiles that a user may choose from. -/
  profiles : String → σ → Except Failure (List String) × σ
  check : Inquiry → σ → Except Failure Existence × σ
  /-- Installs a deployment; the answer is a message. -/
  submit : Submission → σ → Except Failure String × σ

end WorkflowCompiler.Publish
