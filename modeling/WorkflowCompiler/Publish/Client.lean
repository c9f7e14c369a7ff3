import WorkflowCompiler.Http.Exchange
import WorkflowCompiler.Publish.Message
import WorkflowCompiler.Settings.Settings

/-!
The service as it is reached over the web. Each request carries a payload, each answer a message
in a payload; the status tells what the answer means.
-/
namespace WorkflowCompiler.Publish

open Json (Value Form Record)
open Http (Exchange Transport)

structure Client where
  token : String
  deploymentUrl : String
  profilesUrl : String
  deriving DecidableEq, Repr

inductive ClientFault
  | unreadableCertificate (path : String) (fault : Files.Fault)
  | malformedCertificate
  | noEndpoint
  deriving DecidableEq, Repr

def ClientFault.message : ClientFault → String
  | .unreadableCertificate path fault =>
    "cannot read client certificate " ++ path ++ ": " ++ fault.message
  | .malformedCertificate => "builder error"
  | .noEndpoint => "api.endpoint is not configured"

namespace Client

/-- A certificate that is named has to be a file that can be read, and its bytes a certificate with
its key. What these are is for the library that makes connections to say. -/
def checkCertificate (files : Files.Tree) (isIdentity : ByteArray → Bool) (path : Option String) :
    Except ClientFault Unit :=
  match path.filter (!Text.isBlankText ·) with
  | none => .ok ()
  | some path =>
    match files.readBytes path with
    | .error fault => .error (.unreadableCertificate path fault)
    | .ok content => if isIdentity content then .ok () else .error .malformedCertificate

/-- An endpoint without white space around it and without slashes at its end. -/
def normalizedEndpoint (endpoint : String) : String :=
  String.ofList (Text.dropEndWhile (· == '/') (Text.trimmed endpoint.toList))

/-- The way to the service that the settings describe. Without a reader of certificates none is
understood. -/
def build (files : Files.Tree) (api : Settings.Api)
    (isIdentity : ByteArray → Bool := fun _ => false) : Except ClientFault Client := do
  checkCertificate files isIdentity api.clientCertificate
  let endpoint := normalizedEndpoint api.endpoint
  if endpoint = "" then .error .noEndpoint
  else .ok {
    token := api.token
    deploymentUrl := endpoint ++ "/dag-generator-v2"
    profilesUrl := endpoint ++ "/project-profile" }

def authorization (client : Client) : Option String :=
  if Text.isBlankText client.token then none else some ("Bearer " ++ client.token)

def request? (client : Client) (method : Http.Method) (url : String) (payload : Value) :
    Option Http.Request := do
  let target ← Http.Url.parse? url
  if client.authorization.all Http.isHeaderValue then
    some ⟨method, target, client.authorization, .object [("payload", payload)]⟩
  else none

variable {σ : Type}

def exchange (client : Client) (transport : Transport σ) (method : Http.Method) (url : String)
    (payload : Value) (state : σ) : Except Failure (Nat × String) × σ :=
  match client.request? method url payload with
  | none => (.error (.network .unknown url "builder error"), state)
  | some request =>
    let (outcome, state) := transport request state
    let unsent := "error sending request for url (" ++ url ++ ")"
    match outcome with
    | .answered status body => (.ok (status, Http.bodyText status body), state)
    | .cutShort => (.error (.network .decode url "error decoding response body"), state)
    | .unreachable => (.error (.network .connect url unsent), state)
    | .dropped => (.error (.network .request url unsent), state)
    | .timedOut => (.error (.network .timeout url unsent), state)

def previewLimit : Nat := 512

def preview (body : String) : String :=
  let cs := Text.trimmed body.toList
  if cs = [] then "<empty body>"
  else if previewLimit < cs.length then String.ofList (cs.take previewLimit) ++ "..."
  else String.ofList cs

def responseForm (message : Form) : Form :=
  Record.form {
    name := "ApiResponse"
    fields := [.needed "payload" (Record.form {
      name := "ApiMessage"
      fields := [.needed "message" message]
      positional := true })]
    positional := true }

def message? (form : Form) (url body : String) : Except Failure Value :=
  match (responseForm form).parse body with
  | .ok v => .ok ((((v.get? "payload").getD .null).get? "message").getD .null)
  | .error e =>
    .error (.network .decode url
      ("failed to decode response body: " ++ e.message ++ " | body=" ++ preview body))

/-- A message as text: a text as it is, any other value in JSON. -/
def shownMessage : Value → String
  | .text s => s
  | v => v.toText

def isSuccess (status : Nat) : Bool :=
  200 ≤ status && status < 300

/-- The message of a successful answer; any other answer is a refusal. -/
def successMessage (form : Form) (url : String) (answer : Nat × String) :
    Except Failure Value :=
  if isSuccess answer.1 then message? form url answer.2
  else .error (.refused answer.1 url answer.2)

/-- What an answer says about the existence of a deployment. That it exists is believed even if
the message is not understood. -/
def existence (url : String) (answer : Nat × String) : Except Failure Existence :=
  match answer.1 with
  | 404 => .ok .absent
  | 200 =>
    match message? .any url answer.2 with
    | .ok v => .ok (.present (shownMessage v))
    | .error _ => .ok (.present (preview answer.2))
  | status => .error (.refused status url answer.2)

def ask {α : Type} (client : Client) (transport : Transport σ) (method : Http.Method)
    (url : String) (payload : Value) (read : Nat × String → Except Failure α) (state : σ) :
    Except Failure α × σ :=
  let (answer, state) := client.exchange transport method url payload state
  (answer.bind read, state)

def service (client : Client) (transport : Transport σ) : Service σ where
  profiles user :=
    client.ask transport .post client.profilesUrl (.object [("uid", .text user)]) fun answer => do
      match ← successMessage (.list .text) client.profilesUrl answer with
      | .list items => .ok (items.filterMap fun
          | .text s => some s
          | _ => none)
      | _ => .ok []
  check inquiry :=
    client.ask transport .put client.deploymentUrl inquiry.toValue
      (existence client.deploymentUrl)
  submit submission :=
    client.ask transport .put client.deploymentUrl submission.toValue fun answer => do
      .ok (shownMessage (← successMessage .any client.deploymentUrl answer))

end Client

end WorkflowCompiler.Publish
