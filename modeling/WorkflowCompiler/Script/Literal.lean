import WorkflowCompiler.Json.Writer

/-!
Values as Python literals. Texts keep their JSON spelling: its escapes mean the same in Python,
so a literal evaluates to the text it was made from.
-/
namespace WorkflowCompiler.Script

/-- Constants are capitalised and separators are followed by a space. -/
def python : Json.Spelling where
  null := "None".toList
  yes := "True".toList
  no := "False".toList
  comma := [',', ' ']
  colon := [':', ' ']
  text := Json.writeText
  double := Json.doubleLayout

/-- The literal of a value. -/
def literal (v : Json.Value) : String :=
  String.ofList (Json.write python v)

def textLiteral (s : String) : String :=
  String.ofList (Json.writeText s)

end WorkflowCompiler.Script
