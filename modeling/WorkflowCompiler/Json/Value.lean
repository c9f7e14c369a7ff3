import WorkflowCompiler.Decimal.Shortest

/-!
JSON values. An object keeps its members sorted by key and holds each key once, so the order in
which a document names them leaves no trace.
-/
namespace WorkflowCompiler.Json

/-- A number is an integer or a double, never both. -/
inductive Number
  | integer (n : Int)
  | double (x : Decimal.Binary64)
  deriving DecidableEq, Repr, Inhabited

inductive Value
  | null
  | flag (b : Bool)
  | number (n : Number)
  | text (s : String)
  | list (items : List Value)
  | object (members : List (String × Value))
  deriving Repr, Inhabited

/-- The members of an object. -/
abbrev Members := List (String × Value)

namespace Members

def get? (members : Members) (key : String) : Option Value :=
  (members.find? (·.1 == key)).map (·.2)

def contains (members : Members) (key : String) : Bool :=
  members.any (·.1 == key)

/-- Puts a value under a key, at its place in the order; a value already there is replaced. -/
def insert (key : String) (value : Value) : Members → Members
  | [] => [(key, value)]
  | (k, v) :: rest =>
    if key == k then (key, value) :: rest
    else if key < k then (key, value) :: (k, v) :: rest
    else (k, v) :: insert key value rest

def erase (members : Members) (key : String) : Members :=
  members.filter (·.1 != key)

/-- Later entries replace earlier ones of the same key. -/
def ofList (entries : List (String × Value)) : Members :=
  entries.foldl (fun members entry => members.insert entry.1 entry.2) []

/-- The members of the second object, put into the first. -/
def extend (members updates : Members) : Members :=
  updates.foldl (fun members entry => members.insert entry.1 entry.2) members

def text? (members : Members) (key : String) : Option String :=
  (members.get? key).bind fun
    | .text s => some s
    | _ => none

def flag? (members : Members) (key : String) : Option Bool :=
  (members.get? key).bind fun
    | .flag b => some b
    | _ => none

def nat? (members : Members) (key : String) : Option Nat :=
  (members.get? key).bind fun
    | .number (.integer (.ofNat n)) => some n
    | _ => none

def items? (members : Members) (key : String) : Option (List Value) :=
  (members.get? key).bind fun
    | .list found => some found
    | _ => none

def texts? (members : Members) (key : String) : Option (List String) :=
  (members.items? key).map (·.filterMap fun
    | .text s => some s
    | _ => none)

/-- The value under a key, where null counts as none. -/
def present? (members : Members) (key : String) : Option Value :=
  (members.get? key).bind fun
    | .null => none
    | v => some v

/-- The keys increase from each member to the next. -/
def Sorted (members : Members) : Prop :=
  members.Pairwise fun a b => a.1 < b.1

end Members

def Value.ofNat (n : Nat) : Value := .number (.integer n)

def Value.ofText? (s : Option String) : Value := s.elim .null .text

def Value.texts (texts : List String) : Value := .list (texts.map .text)

/-- The members of an object; no other value has any. -/
def Value.members : Value → Members
  | .object members => members
  | _ => []

def Value.get? (v : Value) (key : String) : Option Value :=
  v.members.get? key

end WorkflowCompiler.Json
