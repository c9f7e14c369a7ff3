import WorkflowCompiler.Json.Value

/-!
Writing values as text. Several notations share one shape and differ only in how they spell the
three constants, the separators, texts and doubles.
-/
namespace WorkflowCompiler.Json

def hexDigit (n : Nat) : Char :=
  if n < 10 then Char.ofNat (48 + n) else Char.ofNat (87 + n)

def escaped (c : Char) : List Char :=
  if c = '"' then ['\\', '"']
  else if c = '\\' then ['\\', '\\']
  else if c = '\n' then ['\\', 'n']
  else if c = '\r' then ['\\', 'r']
  else if c = '\t' then ['\\', 't']
  else if c = '\x08' then ['\\', 'b']
  else if c = '\x0c' then ['\\', 'f']
  else if c.toNat < 32 then
    ['\\', 'u', '0', '0', hexDigit (c.toNat / 16), hexDigit (c.toNat % 16)]
  else [c]

def writeText (s : String) : List Char :=
  '"' :: s.toList.flatMap escaped ++ ['"']

/-- Doubles are written in full from a hundred thousandth up to sixteen whole digits. -/
def doubleLayout : Decimal.Layout where
  inFull := fun leading => -5 ≤ leading && leading ≤ 15
  plus := true

/-- The words, separators and atoms of a notation. -/
structure Spelling where
  null : List Char
  yes : List Char
  no : List Char
  comma : List Char
  colon : List Char
  text : String → List Char
  double : Decimal.Layout

def compact : Spelling where
  null := "null".toList
  yes := "true".toList
  no := "false".toList
  comma := [',']
  colon := [':']
  text := writeText
  double := doubleLayout

def Number.write (layout : Decimal.Layout) : Number → List Char
  | .integer n => (toString n).toList
  | .double x => x.write layout

mutual

def write (s : Spelling) : Value → List Char
  | .null => s.null
  | .flag b => if b then s.yes else s.no
  | .number n => n.write s.double
  | .text t => s.text t
  | .list items => '[' :: writeItems s items ++ [']']
  | .object members => '\x7b' :: writeMembers s members ++ ['\x7d']
termination_by structural v => v

def writeItems (s : Spelling) : List Value → List Char
  | [] => []
  | [v] => write s v
  | v :: w :: rest => write s v ++ s.comma ++ writeItems s (w :: rest)
termination_by structural items => items

def writeMember (s : Spelling) : String × Value → List Char
  | (key, v) => s.text key ++ s.colon ++ write s v
termination_by structural member => member

def writeMembers (s : Spelling) : List (String × Value) → List Char
  | [] => []
  | [m] => writeMember s m
  | m :: n :: rest => writeMember s m ++ s.comma ++ writeMembers s (n :: rest)
termination_by structural members => members

end

def Value.toText (v : Value) : String :=
  String.ofList (write compact v)

end WorkflowCompiler.Json
