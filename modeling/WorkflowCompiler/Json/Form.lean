import WorkflowCompiler.Json.Skim
import WorkflowCompiler.Json.Writer
import WorkflowCompiler.Text.Quoted

/-!
Forms that a value is expected to have. A form can be held against a value that is already
there, or it can direct the reading of a text. The two differ in one respect: a text may not
give a field of a record twice, while a value holds each key once anyway.
-/
namespace WorkflowCompiler.Json

inductive Mismatch
  | invalidType (found : Value) (expected : String)
  | invalidValue (found : Value) (expected : String)
  | invalidLength (length : Nat) (expected : String)
  | missingField (name : String)
  | neitherTextNorNumber (found : Value)
  deriving Repr

def Value.describe : Value → String
  | .null => "null"
  | .flag b => "boolean `" ++ (if b then "true" else "false") ++ "`"
  | .number (.integer n) => "integer `" ++ toString n ++ "`"
  | .number (.double x) => "floating point `" ++ String.ofList (x.write doubleLayout) ++ "`"
  | .text s => "string " ++ Text.quoted s
  | .list _ => "sequence"
  | .object _ => "map"

def Mismatch.message : Mismatch → String
  | .invalidType found expected => "invalid type: " ++ found.describe ++ ", expected " ++ expected
  | .invalidValue found expected =>
    "invalid value: " ++ found.describe ++ ", expected " ++ expected
  | .invalidLength length expected =>
    "invalid length " ++ toString length ++ ", expected " ++ expected
  | .missingField name => "missing field `" ++ name ++ "`"
  | .neitherTextNorNumber found => "expected a string or a number, got " ++ found.toText

/-- A form: how a value is held against it, and how a text is read by it. -/
structure Form where
  /-- The value in its usual shape, if it has the form. -/
  accept : Value → Except Mismatch Value
  /-- Reads a value of the form with at most so many brackets inside one another. -/
  read : Nat → List Char → Reading (Before Value)

namespace Form

/-- Reading a value first and holding it against the form afterwards. -/
def readThenAccept (accept : Value → Except Mismatch Value) (depth : Nat) (cs : List Char) :
    Reading (Before Value) := do
  let (v, rest) ← value depth cs
  match accept v with
  | .ok v => .ok (v, rest)
  | .error _ => fault .misfit rest

/-- A form that asks nothing of the inside of a value. -/
def ofAccept (accept : Value → Except Mismatch Value) : Form where
  accept := accept
  read := readThenAccept accept

def any : Form := ofAccept .ok

def text : Form := ofAccept fun
  | .text s => .ok (.text s)
  | v => .error (.invalidType v "a string")

def flag : Form := ofAccept fun
  | .flag b => .ok (.flag b)
  | v => .error (.invalidType v "a boolean")

def natural (bits : Nat) (name : String) : Form := ofAccept fun
  | .number (.integer n) =>
    if 0 ≤ n ∧ n < Int.pow 2 bits then .ok (.number (.integer n))
    else .error (.invalidValue (.number (.integer n)) name)
  | v => .error (.invalidType v name)

/-- A text, or a number, which stands for its text. -/
def textOrNumber : Form := ofAccept fun
  | .text s => .ok (.text s)
  | .number n => .ok (.text (String.ofList (n.write doubleLayout)))
  | v => .error (.neitherTextNorNumber v)

def optional (form : Form) : Form := ofAccept fun
  | .null => .ok .null
  | v => form.accept v

def list (item : Form) : Form where
  accept := fun
    | .list found => do .ok (.list (← found.mapM item.accept))
    | v => .error (.invalidType v "a sequence")
  read depth cs :=
    match skipGaps cs, depth with
    | '[' :: rest, depth + 1 => do
      let (found, rest) ← items (item.read depth) rest
      .ok (.list found, rest)
    | rest, _ => unexpected rest

/-- Objects whose members have one form; a repeated key counts the last time. -/
def map (item : Form) : Form where
  accept := fun
    | .object found => do .ok (.object (← found.mapM fun m => do .ok (m.1, ← item.accept m.2)))
    | v => .error (.invalidType v "a map")
  read depth cs :=
    match skipGaps cs, depth with
    | '\x7b' :: rest, depth + 1 => do
      let (found, rest) ← members (fun _ => item.read depth) rest
      .ok (.object (Members.ofList found), rest)
    | rest, _ => unexpected rest

end Form

structure Field where
  name : String
  required : Bool
  form : Form

def Field.needed (name : String) (form : Form) : Field := ⟨name, true, form⟩

def Field.spare (name : String) (form : Form) : Field := ⟨name, false, form⟩

/-- A record: an object with known fields, in a fixed order. -/
structure Record where
  name : String
  fields : List Field
  /-- A list of the fields' values in their order is accepted as well. -/
  positional : Bool

namespace Record

def title (r : Record) : String := "struct " ++ r.name

def field? (r : Record) (name : String) : Option Field :=
  r.fields.find? (·.name == name)

def missing? (r : Record) (found : Members) : Option String :=
  (r.fields.find? fun f => f.required && !found.contains f.name).map (·.name)

/-- Holds the members that are fields against their forms, in the order of the keys; only when
all fit, missing fields are looked for. Other members stay as they are. -/
def acceptMembers (r : Record) (found : Members) : Except Mismatch Value := do
  let kept ← found.mapM fun m => do
    match r.field? m.1 with
    | some f => .ok (m.1, ← f.form.accept m.2)
    | none => .ok m
  match r.missing? found with
  | some name => .error (.missingField name)
  | none => .ok (.object kept)

def acceptItems (r : Record) : Nat → List Field → List Value → Except Mismatch Members
  | _, [], [] => .ok []
  | taken, [], rest => .error (.invalidLength (taken + rest.length) "fewer elements in array")
  | taken, f :: fields, [] =>
    if f.required then
      .error (.invalidLength taken
        (r.title ++ " with " ++ toString r.fields.length ++ " elements"))
    else r.acceptItems taken fields []
  | taken, f :: fields, v :: rest => do
    let v ← f.form.accept v
    let others ← r.acceptItems (taken + 1) fields rest
    .ok (others.insert f.name v)

/-- The fields' values after an opening bracket, in order, up to and with the closing one. -/
def readItems (depth : Nat) : List Field → List Char → Reading (Before (List (String × Value)))
  | [], cs =>
    match skipGaps cs with
    | ']' :: rest => .ok ([], rest)
    | rest => unexpected rest
  | f :: fields, cs => do
    let (v, rest) ← f.form.read depth cs
    let rest ← match skipGaps rest, fields with
      | ',' :: rest, _ :: _ => .ok rest
      | rest, [] => .ok rest
      | rest, _ :: _ => unexpected rest
    let (others, rest) ← readItems depth fields rest
    .ok ((f.name, v) :: others, rest)

/-- The members of the record in a text; what is no field is passed over. -/
def readMembers (r : Record) (depth : Nat) (cs : List Char) : Reading (Before Value) := do
  let (found, rest) ← members (fun key cs =>
    match r.field? key with
    | some f => do
      let (v, rest) ← f.form.read depth cs
      .ok (some v, rest)
    | none => do .ok (none, ← skim cs)) cs
  let known := found.filterMap fun m => m.2.map (m.1, ·)
  match r.fields.find? fun f => 1 < known.countP (·.1 == f.name) with
  | some f => fault (.repeatedField f.name) rest
  | none =>
    let kept := Members.ofList known
    if (r.missing? kept).isSome then fault .misfit rest else .ok (.object kept, rest)

def form (r : Record) : Form where
  accept := fun
    | .object found => r.acceptMembers found
    | .list found =>
      if r.positional then do .ok (.object (← r.acceptItems 0 r.fields found))
      else .error (.invalidType (.list found) r.title)
    | v => .error (.invalidType v r.title)
  read depth cs :=
    match skipGaps cs, depth with
    | '\x7b' :: rest, depth + 1 => r.readMembers depth rest
    | '[' :: rest, depth + 1 =>
      if r.positional then do
        let (found, rest) ← readItems depth r.fields rest
        .ok (.object (Members.ofList found), rest)
      else unexpected ('[' :: rest)
    | rest, _ => unexpected rest

end Record

def Form.parse (form : Form) (s : String) : Except SyntaxError Value :=
  (whole (form.read depthLimit s.toList)).mapError (·.locate s.toList)

end WorkflowCompiler.Json
