import WorkflowCompiler.Script.BuildError
import WorkflowCompiler.Script.Literal
import WorkflowCompiler.Text.Quoted

/-!
Templates: pieces of a script with named holes. A hole is filled from a record of values. What a
specification says gets into a script through holes only, and all but the raw ones turn it into
a literal, which never spans lines.
-/
namespace WorkflowCompiler.Script

open Json (Value Members)

/-- A stretch of fixed text or a hole. -/
inductive Hole
  | text (s : String)
  /-- The value as it is. -/
  | raw (name : String)
  /-- The value as the literal of a text. -/
  | quoted (name : String)
  /-- The value as a literal. -/
  | literal (name : String)
  deriving DecidableEq, Repr

inductive Part
  | holes (body : List Hole)
  /-- A body that is there if the named value is neither null nor false, zero or empty. -/
  | whenSet (name : String) (body : List Hole)
  /-- A body for each item of the named list, under a name of its own. -/
  | each (item list : String) (body : List Hole)
  deriving DecidableEq, Repr

structure Template where
  name : String
  parts : List Part
  deriving Repr

/-- Values inside a list that is shown as it is. -/
def shownInside : Json.Spelling where
  null := "none".toList
  yes := "true".toList
  no := "false".toList
  comma := [',', ' ']
  colon := [':', ' ']
  text := fun s => (Text.quoted s).toList
  double := ⟨fun leading => -4 ≤ leading && leading ≤ 15, false⟩

/-- A value as it is: texts without quotes, doubles always in full. -/
def shown : Value → List Char
  | .text s => s.toList
  | .number n => n.write ⟨fun _ => true, false⟩
  | v => Json.write shownInside v

/-- The value counts as set. -/
def isSet : Value → Bool
  | .null => false
  | .flag b => b
  | .number (.integer n) => n != 0
  | .number (.double x) => x.magnitude.significand != 0
  | .text s => s != ""
  | .list items => !items.isEmpty
  | .object members => !members.isEmpty

def itemsOf? : Value → Option (List Value)
  | .null => some []
  | .list items => some items
  | .text s => some (s.toList.map fun c => .text c.toString)
  | .object members => some (members.map fun m => .text m.1)
  | _ => none

def lookUp (values : Members) (name : String) : Except String Value :=
  match values.get? name with
  | some v => .ok v
  | none => .error (name ++ " is not defined")

def Hole.fill (values : Members) : Hole → Except String (List Char)
  | .text s => .ok s.toList
  | .raw name => do .ok (shown (← lookUp values name))
  | .quoted name => do .ok (Json.writeText (String.ofList (shown (← lookUp values name))))
  | .literal name => do .ok (Json.write python (← lookUp values name))

/-- The text of holes in a row. -/
def fillAll (values : Members) (body : List Hole) : Except String (List Char) := do
  .ok (← body.mapM (·.fill values)).flatten

def Part.fill (values : Members) : Part → Except String (List Char)
  | .holes body => fillAll values body
  | .whenSet name body => do
    if isSet (← lookUp values name) then fillAll values body else .ok []
  | .each item list body => do
    match itemsOf? (← lookUp values list) with
    | some items =>
      .ok (← items.mapM fun v => fillAll ((item, v) :: values) body).flatten
    | none => .error (list ++ " is no list")

/-- The text of a template whose names have these values. -/
def Template.render (t : Template) (values : Members) : Except BuildError String :=
  match t.parts.mapM (·.fill values) with
  | .ok texts => .ok (String.ofList texts.flatten)
  | .error detail => .error (.template t.name detail)

end WorkflowCompiler.Script
