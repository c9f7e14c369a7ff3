import WorkflowCompiler.Text.Alphanumeric
import WorkflowCompiler.Text.Blank
import WorkflowCompiler.Decimal.Shortest
import WorkflowCompiler.Workflow.Rejection

/-!
Start dates. A start date is three to six numbers between commas; it ends up between the
parentheses of a constructor, so it is stored in one canonical form without leading zeros.
-/
namespace WorkflowCompiler.Workflow.StartDate

/-- Each number is below this one. -/
def bound : Nat := Nat.pow 2 32

/-- The number that a part writes, white space around it aside. -/
def partValue? (part : List Char) : Option Nat :=
  let digits := Text.trimmed part
  if digits = [] ∨ !digits.all Text.isAsciiDigit then none
  else
    let n := digits.foldl (fun n c => n * 10 + (c.toNat - 48)) 0
    if n < bound then some n else none

def numbers? (s : List Char) : Option (List Nat) := do
  let numbers ← (Text.splitAtEach (· == ',') s).mapM partValue?
  if 3 ≤ numbers.length ∧ numbers.length ≤ 6 then some numbers else none

def write (numbers : List Nat) : List Char :=
  [',', ' '].intercalate (numbers.map Decimal.digitsOf)

/-- The canonical form of a start date. -/
def normalize (s : String) : Except Rejection String :=
  match numbers? s.toList with
  | some numbers => .ok (String.ofList (write numbers))
  | none =>
    .error (.invalidField "start_date"
      ("expected 3 to 6 comma-separated integers (e.g. \"2019, 7, 1\"), got \"" ++ s ++ "\""))

end WorkflowCompiler.Workflow.StartDate
