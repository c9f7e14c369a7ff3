import WorkflowCompiler.Publish.Dialogue
import WorkflowCompiler.Text.Utf8

/-!
The user at a terminal: replies are the lines of its input, and what is said and asked appears
on its screen. A reply is read when it is needed and not before.
-/
namespace WorkflowCompiler.Publish.Terminal

/-- Adds a byte to the first line; a line feed is a line of its own before it. -/
def lineOnto (byte : UInt8) : List (List UInt8) → List (List UInt8)
  | lines =>
    if byte = 10 then [byte] :: lines
    else match lines with
      | [] => [[byte]]
      | line :: rest => (byte :: line) :: rest

/-- The lines of an input, each with the line feed that ends it. Only the last may lack one. -/
def rawLines (input : List UInt8) : List (List UInt8) :=
  input.foldr lineOnto []

/-- What a line says; carriage returns and line feeds at its end do not belong to it. -/
def replyOf (line : List UInt8) : Reply :=
  match Text.decodeUtf8? line with
  | none => .broken Files.Fault.notUtf8.message
  | some text =>
    .line (String.ofList (Text.dropEndWhile (fun c => c = '\r' || c = '\n') text.toList))

def console (input : List UInt8) : Console where
  replies := (rawLines input).map replyOf

/-- A console whose screen takes nothing. -/
def closedConsole (input : List UInt8) : Console where
  replies := (rawLines input).map replyOf
  statementFault := some "screen closed"
  questionFault := some "screen closed"

/-- The input after as many lines as replies were taken. -/
def unread (input : List UInt8) (left : List Reply) : List UInt8 :=
  let lines := rawLines input
  (lines.drop (lines.length - left.length)).flatten

def shown : Event → String
  | .said text => text ++ "\n"
  | .asked question => question
  | _ => ""

def screen (events : List Event) : String :=
  String.join (events.map shown)

end WorkflowCompiler.Publish.Terminal
