import WorkflowCompiler.Publish.Dialogue

/-!
The two questions that a publication may put to the user.
-/
namespace WorkflowCompiler.Publish

open Dialogue

/-- What an answer to a yes-or-no question means; white space and case do not count. -/
def yesOrNo? (answer : String) : Option Bool :=
  match Text.lowerAscii (Text.trim answer) with
  | "y" => some true
  | "yes" => some true
  | "n" => some false
  | "no" => some false
  | _ => none

def overwriteQuestion (deployment : String) : String :=
  "The deployment " ++ deployment ++ " already exists, do you want to overwrite it y/n ? : "

/-- Asks whether a deployment may be replaced. No answer is no permission. -/
def confirmOverwrite {σ : Type} (deployment : String) : Dialogue σ Bool :=
  askForDecision (overwriteQuestion deployment) "Please answer y or n." yesOrNo?
    (.conflict deployment)

/-- The value of a number in decimal digits, if it fits into so many bits; a plus sign may go
before it. -/
def natural? (bits : Nat) (s : String) : Option Nat :=
  let digits := match s.toList with
    | '+' :: rest => rest
    | cs => cs
  if digits ≠ [] ∧ digits.all Char.isDigit then
    let n := digits.foldl (fun n c => 10 * n + (c.toNat - '0'.toNat)) 0
    if n < Nat.pow 2 bits then some n else none
  else none

/-- The item that an answer chooses by its number, counted from one. -/
def choice? (items : List String) (answer : String) : Option String :=
  match natural? 64 (Text.trim answer) with
  | some (n + 1) => items[n]?
  | _ => none

def numbered (items : List String) : List String :=
  items.mapIdx fun i item => toString (i + 1) ++ " - " ++ item

/-- Texts in the order of their code points. -/
def sortedTexts (items : List String) : List String :=
  items.mergeSort fun a b => decide (a ≤ b)

def chooseProfile {σ : Type} (profiles : List String) : Dialogue σ String := do
  if profiles = [] then
    throw (.settings "no project profile is available for this user")
  let sorted := sortedTexts profiles
  say "Available project profiles:"
  (numbered sorted).forM say
  askForDecision ("Select a project profile (1-" ++ toString sorted.length ++ "): ")
    "Invalid selection." (choice? sorted)
    (.prompt "input ended before a project profile was selected")

end WorkflowCompiler.Publish
