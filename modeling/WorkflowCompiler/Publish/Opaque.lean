import WorkflowCompiler.Json.Form
import WorkflowCompiler.Publish.Failure
import WorkflowCompiler.Text.Base64
import WorkflowCompiler.Text.Utf8

/-!
Opaque data: a value as the base64 text of its compact JSON text.
-/
namespace WorkflowCompiler.Publish.Opaque

open Json (Value Form)

def encode (v : Value) : String :=
  String.ofList (Text.Base64.encode (Text.encodeUtf8 v.toText))

def bytes (data : String) : Except Failure (List UInt8) :=
  match Text.Base64.decode data.toList with
  | some bytes => .ok bytes
  | none => .error (.encoding "invalid base64")

def decode (form : Form) (data : String) : Except Failure Value := do
  match Text.decodeUtf8? (← bytes data) with
  | none => .error (.encoding "invalid unicode code point")
  | some text => (form.parse text).mapError fun e => .encoding e.message

def decodeText (data : String) : Except Failure String := do
  match ← decode .text data with
  | .text s => .ok s
  | _ => .error (.encoding "expected a string")

end WorkflowCompiler.Publish.Opaque
