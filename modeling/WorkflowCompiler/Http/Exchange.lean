import WorkflowCompiler.Http.Url
import WorkflowCompiler.Json.Value
import WorkflowCompiler.Text.Marked

/-!
Exchanges with a web server. What carries them out is left open: a transport turns a request
into what comes of it, and may have a state.
-/
namespace WorkflowCompiler.Http

inductive Method
  | put
  | post
  deriving DecidableEq, Repr

def Method.name : Method → String
  | .put => "PUT"
  | .post => "POST"

structure Request where
  method : Method
  url : Url
  authorization : Option String
  body : Json.Value

inductive Exchange
  | answered (status : Nat) (body : List UInt8)
  /-- The answer ended before its body did. -/
  | cutShort
  /-- No connection came about. -/
  | unreachable
  /-- The connection ended without an answer. -/
  | dropped
  /-- No answer came in time. -/
  | timedOut
  deriving DecidableEq, Repr

/-- What carries out requests. -/
abbrev Transport (σ : Type) := Request → σ → Exchange × σ

/-- A text can be the value of a header: it has no control characters but tabs. -/
def isHeaderValue (s : String) : Bool :=
  s.toList.all fun c => c == '\t' || (' ' ≤ c && c ≠ '\x7f')

/-- Answers with these statuses have no body. -/
def isBodiless (status : Nat) : Bool :=
  status = 204 || status = 304

def bodyText (status : Nat) (body : List UInt8) : String :=
  if isBodiless status then "" else Text.decodeMarked body

end WorkflowCompiler.Http
