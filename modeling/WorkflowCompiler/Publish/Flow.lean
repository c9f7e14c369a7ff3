import WorkflowCompiler.Publish.Prompt

/-!
Publication: choosing a profile, asking the service whether the deployment exists, asking the
user whether it may be replaced, and sending it. Nothing is sent without permission.
-/
namespace WorkflowCompiler.Publish

open Dialogue
open Script (Artifact)

/-- What is to be published, and for whom. -/
structure Request where
  deployable : Artifact
  /-- The script that runs all tasks on one machine, which is sent along. -/
  localScript : Artifact
  /-- The profile, unless the user is to choose one. -/
  profile : Option String
  user : String
  /-- An existing deployment may be replaced without asking. -/
  assumeYes : Bool

inductive Outcome
  | published (message : String)
  /-- The user does not want the deployment replaced; nothing was sent. -/
  | declined
  deriving DecidableEq, Repr

/-- A profile that says something, without white space around it. -/
def Request.statedProfile (request : Request) : Option String :=
  (request.profile.map Text.trim).filter (· ≠ "")

def Request.submission (request : Request) (envelope : Envelope) (profile : String) :
    Submission where
  resource := Opaque.encode envelope.toValue
  deployable := ⟨request.deployable.fileName, Opaque.encode (.text request.deployable.source)⟩
  localScript := ⟨request.deployable.fileName, Opaque.encode (.text request.localScript.source)⟩
  profile
  user := request.user
  clientType
  clientVersion := Script.generatorVersion

variable {σ : Type}

def obtainProfile (service : Service σ) (request : Request) : Dialogue σ String :=
  match request.statedProfile with
  | some profile => return profile
  | none => do
    chooseProfile (← call (.profilesListed request.user) (service.profiles request.user))

/-- Finds out whether the deployment may be sent. -/
def permission (service : Service σ) (request : Request) (profile : String) :
    Dialogue σ Bool := do
  let inquiry : Inquiry := ⟨request.deployable.fileName, profile⟩
  match ← call (.checked inquiry) (service.check inquiry) with
  | .absent => return true
  | .present _ =>
    if request.assumeYes then return true
    else confirmOverwrite request.deployable.deploymentName

/-- Publishes artifacts that have been made before. -/
def publishArtifacts (files : Files.Tree) (service : Service σ) (request : Request) :
    Dialogue σ Outcome := do
  let profile ← obtainProfile service request
  if ← permission service request profile then
    match Envelope.ofSpec files request.deployable.spec with
    | .error e => throw (.build e)
    | .ok envelope =>
      let submission := request.submission envelope profile
      return .published (← call (.submitted submission) (service.submit submission))
  else return .declined

/-- The choices that do not come from a specification. -/
structure Options where
  profile : Option String
  user : String
  assumeYes : Bool

/-- Makes both scripts of the specification in a file and publishes them. -/
def publish (files : Files.Tree) (path : String) (service : Service σ) (options : Options) :
    Dialogue σ Outcome :=
  match Script.build files path .deployable [] with
  | .error e => throw (.build e)
  | .ok build =>
    publishArtifacts files service {
      deployable := build.requested
      localScript := build.allLocal
      profile := options.profile
      user := options.user
      assumeYes := options.assumeYes }

end WorkflowCompiler.Publish
