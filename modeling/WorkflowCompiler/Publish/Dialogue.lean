import WorkflowCompiler.Publish.Message

/-!
Dialogues with the service and the user. A dialogue keeps a record of what was asked of either,
in order, and stops at the first failure. The user's replies are given beforehand: a dialogue
takes one for each question.
-/
namespace WorkflowCompiler.Publish

/-- What a question is met with. -/
inductive Reply
  | line (text : String)
  /-- There is nobody left to reply. -/
  | ended
  | broken (detail : String)
  deriving DecidableEq, Repr

/-- Where the user is asked. -/
structure Console where
  /-- The replies to come; after the last one the input has ended. -/
  replies : List Reply
  /-- Why statements do not reach the user, if they do not. -/
  statementFault : Option String := none
  /-- Why questions do not reach the user, if they do not. An empty one needs no way. -/
  questionFault : Option String := none

/-- What the service or the user got to see. -/
inductive Event
  | profilesListed (user : String)
  | checked (inquiry : Inquiry)
  | submitted (submission : Submission)
  | said (text : String)
  | asked (question : String)
  deriving DecidableEq, Repr

structure Course (σ : Type) where
  service : σ
  console : Console
  events : List Event

/-- A dialogue that ends in a value or a failure. -/
abbrev Dialogue (σ α : Type) := ExceptT Failure (StateM (Course σ)) α

namespace Dialogue

variable {σ α : Type}

def run (d : Dialogue σ α) (course : Course σ) : Except Failure α × Course σ :=
  StateT.run (ExceptT.run d) course

def record (event : Event) : Dialogue σ Unit :=
  modify fun c => { c with events := c.events ++ [event] }

def say (text : String) : Dialogue σ Unit := do
  match (← get).console.statementFault with
  | some fault => throw (.prompt fault)
  | none => record (.said text)

def reply : Dialogue σ Reply := do
  match (← get).console.replies with
  | [] => return .ended
  | r :: rest =>
    modify fun c => { c with console := { c.console with replies := rest } }
    return r

def ask (question : String) : Dialogue σ (Option String) := do
  match (← get).console.questionFault with
  | some fault => if question ≠ "" then throw (.prompt fault)
  | none => pure ()
  record (.asked question)
  match ← reply with
  | .line text => return some text
  | .ended => return none
  | .broken detail => throw (.prompt detail)

/-- Asks until an answer decides, with a complaint after each that does not. Without an answer
the dialogue ends in `ended`. Every question but the last takes a reply, so one question more
than there are replies is enough. -/
def askUntil (question complaint : String) (decide : String → Option α) (ended : Failure) :
    Nat → Dialogue σ α
  | 0 => throw ended
  | questions + 1 => do
    match ← ask question with
    | none => throw ended
    | some answer =>
      match decide answer with
      | some a => return a
      | none =>
        say complaint
        askUntil question complaint decide ended questions

def askForDecision (question complaint : String) (decide : String → Option α) (ended : Failure) :
    Dialogue σ α := do
  askUntil question complaint decide ended ((← get).console.replies.length + 1)

/-- Lets the service do something and records it. -/
def call (event : Event) (act : σ → Except Failure α × σ) : Dialogue σ α := do
  record event
  let (result, service) := act (← get).service
  modify fun c => { c with service }
  match result with
  | .ok a => return a
  | .error failure => throw failure

end Dialogue

end WorkflowCompiler.Publish
