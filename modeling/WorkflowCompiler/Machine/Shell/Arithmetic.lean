import WorkflowCompiler.Machine.Shell.Word

/-!
Arithmetic in shell scripts: integers, variables, and operators from comparison down to
multiplication. A comparison is one if it holds and zero if not.
-/
namespace WorkflowCompiler.Machine.Shell.Arithmetic

def integer? (cs : Bytes) : Option Int :=
  let cs := (cs.dropWhile (· = ' ')).reverse.dropWhile (· = ' ') |>.reverse
  match cs with
  | '-' :: digits => (natural? digits).map fun n => - Int.ofNat n
  | '+' :: digits => (natural? digits).map Int.ofNat
  | digits => (natural? digits).map Int.ofNat
where
  natural? (digits : Bytes) : Option Nat :=
    if digits ≠ [] ∧ digits.all Char.isDigit then
      some (digits.foldl (fun n c => 10 * n + (c.toNat - 48)) 0)
    else none

/-- Binary operators by how strongly they bind, the weakest first. Of two that begin alike the
longer one comes first. -/
def levels : List (List String) :=
  [["||"], ["&&"], ["==", "!="], ["<=", ">=", "<", ">"], ["+", "-"], ["*", "/", "%"]]

def truth (b : Bool) : Int := if b then 1 else 0

def apply (operator : String) (a b : Int) : Option Int :=
  match operator with
  | "||" => some (truth (a ≠ 0 || b ≠ 0))
  | "&&" => some (truth (a ≠ 0 && b ≠ 0))
  | "==" => some (truth (a == b))
  | "!=" => some (truth (a != b))
  | "<=" => some (truth (a ≤ b))
  | ">=" => some (truth (b ≤ a))
  | "<" => some (truth (a < b))
  | ">" => some (truth (b < a))
  | "+" => some (a + b)
  | "-" => some (a - b)
  | "*" => some (a * b)
  | "/" => if b = 0 then none else some (a.tdiv b)
  | "%" => if b = 0 then none else some (a.tmod b)
  | _ => none

def skipBlanks : Bytes → Bytes :=
  List.dropWhile fun c => c = ' ' || c = '\t' || c = '\n'

mutual

/-- Operands with operators between them that bind at least as strongly as a level. -/
def operation (value : Bytes → Int) : Nat → List (List String) → Bytes → Option (Int × Bytes)
  | 0, _, _ => none
  | fuel + 1, [], cs => operand value fuel (skipBlanks cs)
  | fuel + 1, operators :: stronger, cs => do
    let (a, rest) ← operation value fuel stronger cs
    operations value fuel operators stronger a rest
termination_by structural fuel => fuel

/-- What follows a first operand, taken together from the left. -/
def operations (value : Bytes → Int) : Nat → List String → List (List String) → Int → Bytes →
    Option (Int × Bytes)
  | 0, _, _, _, _ => none
  | fuel + 1, operators, stronger, a, cs =>
    let cs := skipBlanks cs
    match startsWith? operators cs with
    | none => some (a, cs)
    | some (operator, rest) => do
      let (b, rest) ← operation value fuel stronger rest
      operations value fuel operators stronger (← apply operator a b) rest
termination_by structural fuel => fuel

/-- A number, a variable, a sign before an operand, or parentheses. -/
def operand (value : Bytes → Int) : Nat → Bytes → Option (Int × Bytes)
  | 0, _ => none
  | fuel + 1, cs =>
    match cs with
    | '(' :: rest => do
      let (a, rest) ← operation value fuel levels rest
      match skipBlanks rest with
      | ')' :: rest => some (a, rest)
      | _ => none
    | '-' :: rest => do
      let (a, rest) ← operand value fuel (skipBlanks rest)
      some (-a, rest)
    | '+' :: rest => operand value fuel (skipBlanks rest)
    | '!' :: rest => do
      let (a, rest) ← operand value fuel (skipBlanks rest)
      some (truth (a == 0), rest)
    | '$' :: rest => operand value fuel rest
    | c :: rest =>
      if c.isDigit then do
        let n ← integer? (c :: rest.takeWhile Char.isDigit)
        some (n, rest.dropWhile Char.isDigit)
      else if isNameStart c then
        some (value (c :: rest.takeWhile isNamePart), rest.dropWhile isNamePart)
      else none
    | [] => none
termination_by structural fuel => fuel

end

def evaluate? (value : Bytes → Int) (expression : Bytes) : Option Int := do
  match ← operation value (20 * expression.length + 20) levels expression with
  | (a, rest) => if skipBlanks rest = [] then some a else none

end WorkflowCompiler.Machine.Shell.Arithmetic
