import WorkflowCompiler.Json.Value

/-!
The tables of a settings file. A header opens a table once; dotted keys open tables too, which
headers may not open again; an array of tables grows with each of its headers.
-/
namespace WorkflowCompiler.Settings

open Json (Value Members)

inductive Origin
  /-- As part of the path in a header of a table below it. -/
  | implied
  /-- By a header of its own. -/
  | headed
  /-- As part of a dotted key. -/
  | dotted
  deriving DecidableEq, Repr

inductive Node
  | leaf (v : Value)
  | table (origin : Origin) (entries : List (String × Node))
  | tables (items : List (List (String × Node)))

/-- The entries of a table, in the order of the file. -/
abbrev Entries := List (String × Node)

namespace Entries

def get? (entries : Entries) (key : String) : Option Node :=
  (entries.find? (·.1 == key)).map (·.2)

/-- Puts a node in the place of one that is there, or at the end. -/
def set (entries : Entries) (key : String) (node : Node) : Entries :=
  if entries.any (·.1 == key) then
    entries.map fun e => if e.1 == key then (key, node) else e
  else entries ++ [(key, node)]

def changeLast (change : Entries → Option Entries) : List Entries → Option (List Entries)
  | [] => none
  | [last] => do some [← change last]
  | first :: rest => do some (first :: (← changeLast change rest))

/-- Opens what a header names: at the end of the path `finish` says what becomes of the node
that may be there; tables on the way are implied. -/
def openAt (finish : Option Node → Option Node) : List String → Entries → Option Entries
  | [], _ => none
  | [key], entries => do some (entries.set key (← finish (entries.get? key)))
  | key :: rest, entries => do
    match entries.get? key with
    | none => some (entries.set key (.table .implied (← openAt finish rest [])))
    | some (.table origin inner) =>
      some (entries.set key (.table origin (← openAt finish rest inner)))
    | some (.tables items) =>
      some (entries.set key (.tables (← changeLast (openAt finish rest) items)))
    | some (.leaf _) => none

/-- A table may be opened by a header unless it was opened by a header or a dotted key. -/
def openTable (path : List String) (entries : Entries) : Option Entries :=
  openAt (fun
    | none => some (.table .headed [])
    | some (.table .implied inner) => some (.table .headed inner)
    | _ => none) path entries

def openTables (path : List String) (entries : Entries) : Option Entries :=
  openAt (fun
    | none => some (.tables [[]])
    | some (.tables items) => some (.tables (items ++ [[]]))
    | _ => none) path entries

/-- Gives a key its only value; `path` are the parts of a dotted key before the last. -/
def assign (value : Value) (key : String) : List String → Entries → Option Entries
  | [], entries =>
    if (entries.get? key).isSome then none else some (entries ++ [(key, .leaf value)])
  | step :: rest, entries => do
    match entries.get? step with
    | none => some (entries.set step (.table .dotted (← assign value key rest [])))
    | some (.table .headed _) => none
    | some (.table .implied inner) =>
      if rest = [] then none
      else some (entries.set step (.table .implied (← assign value key rest inner)))
    | some (.table .dotted inner) =>
      some (entries.set step (.table .dotted (← assign value key rest inner)))
    | some (.tables items) =>
      if rest = [] then none
      else some (entries.set step (.tables (← changeLast (assign value key rest) items)))
    | some (.leaf _) => none

def changeAt (change : Entries → Option Entries) : List String → Entries → Option Entries
  | [], entries => change entries
  | key :: rest, entries => do
    match entries.get? key with
    | some (.table origin inner) =>
      some (entries.set key (.table origin (← changeAt change rest inner)))
    | some (.tables items) =>
      some (entries.set key (.tables (← changeLast (changeAt change rest) items)))
    | _ => none

end Entries

mutual

def Node.toValue : Node → Value
  | .leaf v => v
  | .table _ entries => .object (Members.ofList (entriesToValues entries))
  | .tables items => .list (tablesToValues items)
termination_by structural n => n

def entryToValue : String × Node → String × Value
  | (key, node) => (key, node.toValue)
termination_by structural e => e

def entriesToValues : List (String × Node) → List (String × Value)
  | [] => []
  | e :: rest => entryToValue e :: entriesToValues rest
termination_by structural es => es

def tablesToValues : List (List (String × Node)) → List Value
  | [] => []
  | t :: rest => .object (Members.ofList (entriesToValues t)) :: tablesToValues rest
termination_by structural ts => ts

end

def Entries.toValue (entries : Entries) : Value :=
  .object (Members.ofList (entriesToValues entries))

end WorkflowCompiler.Settings
