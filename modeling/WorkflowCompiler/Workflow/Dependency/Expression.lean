import WorkflowCompiler.Text.Alphanumeric
import WorkflowCompiler.Text.Blank
import WorkflowCompiler.Workflow.Rejection

/-!
Dependency expressions such as `a >> [b, c] >> d` and `e << f`. An expression is a chain of
operands, each a task id or a list of task ids, with an operator between neighbours. It stands
for the edges that every operator puts between all members of its two operands.
-/
namespace WorkflowCompiler.Workflow.Dependency

/-- The direction of an operator: the left operand runs before or after the right one. -/
inductive Operator
  | before
  | after
  deriving DecidableEq, Repr

inductive Token
  | id (name : String)
  | operator (o : Operator)
  | opening
  | closing
  | comma
  deriving DecidableEq, Repr

/-- Why a text is no expression. Places count tokens from one. -/
inductive Flaw
  | lineBreak
  | loneAngle (c : Char)
  | unexpectedCharacter (c : Char)
  | operatorExpected (place : Nat)
  | operandExpected (place : Nat)
  | operandMissing
  | groupMemberExpected
  | groupUnterminated
  deriving DecidableEq, Repr

def Flaw.message : Flaw → String
  | lineBreak => "line break inside expression"
  | loneAngle c => "lone '" ++ c.toString ++ "', expected '" ++ c.toString ++ c.toString ++ "'"
  | unexpectedCharacter c => "unexpected character '" ++ c.toString ++ "'"
  | operatorExpected place => "expected '>>' or '<<' at token " ++ toString place
  | operandExpected place => "expected a task id or '[' at token " ++ toString place
  | operandMissing => "expression ends with an operator"
  | groupMemberExpected => "expected a task id inside '[...]'"
  | groupUnterminated => "unterminated group, expected ',' or ']'"

/-- The characters that task ids are read from. -/
def isIdCharacter (c : Char) : Bool :=
  Text.isAlphanumeric c || c == '_'

/-- The tokens of an expression; ids are as long as they can be. -/
def tokens : List Char → Except Flaw (List Token)
  | [] => .ok []
  | c :: rest =>
    if c = '\n' ∨ c = '\r' then .error .lineBreak
    else if Text.isBlank c then tokens rest
    else if c = '[' then do .ok (.opening :: (← tokens rest))
    else if c = ']' then do .ok (.closing :: (← tokens rest))
    else if c = ',' then do .ok (.comma :: (← tokens rest))
    else if c = '>' ∨ c = '<' then
      match rest with
      | [] => .error (.loneAngle c)
      | d :: rest =>
        if d = c then do
          .ok (.operator (if c = '>' then .before else .after) :: (← tokens rest))
        else .error (.loneAngle c)
    else if isIdCharacter c then do
      let name := String.ofList (c :: rest.takeWhile isIdCharacter)
      .ok (.id name :: (← tokens (rest.dropWhile isIdCharacter)))
    else .error (.unexpectedCharacter c)
termination_by cs => cs.length
decreasing_by
  all_goals simp only [List.length_cons]
  all_goals first
    | omega
    | exact Nat.lt_succ_of_le (List.dropWhile_suffix _).length_le

structure Chain where
  first : List String
  rest : List (Operator × List String)
  deriving Repr

/-- The ids of a list after its opening bracket, `kept` being those already read; one comma may
stand before the closing bracket. -/
def group (kept : List String) : List Token → Except Flaw (List String × List Token)
  | .id name :: .comma :: .closing :: rest => .ok (kept ++ [name], rest)
  | .id name :: .comma :: rest => group (kept ++ [name]) rest
  | .id name :: .closing :: rest => .ok (kept ++ [name], rest)
  | .id _ :: _ => .error .groupUnterminated
  | _ => .error .groupMemberExpected

/-- One operand; `place` is the place of its first token. -/
def operand (place : Nat) : List Token → Except Flaw (List String × List Token)
  | .id name :: rest => .ok ([name], rest)
  | .opening :: rest => group [] rest
  | [] => .error .operandMissing
  | _ => .error (.operandExpected place)

theorem length_group_lt {kept : List String} {ts : List Token}
    {r : List String × List Token} (h : group kept ts = .ok r) : r.2.length < ts.length := by
  fun_induction group kept ts with
  | case1 => cases h; simp only [List.length_cons]; omega
  | case2 _ _ _ _ ih => have := ih h; simp only [List.length_cons]; omega
  | case3 => cases h; simp only [List.length_cons]; omega
  | case4 => cases h
  | case5 => cases h

theorem length_operand_lt {place : Nat} {ts : List Token}
    {r : List String × List Token} (h : operand place ts = .ok r) : r.2.length < ts.length := by
  unfold operand at h
  split at h
  · cases h; simp
  · have := length_group_lt h; simp only [List.length_cons]; omega
  · cases h
  · cases h

/-- The operators and operands after the first operand; `total` is the number of all tokens. -/
def links (total : Nat) : List Token → Except Flaw (List (Operator × List String))
  | [] => .ok []
  | .operator o :: rest =>
    match _read : operand (total - rest.length + 1) rest with
    | .error flaw => .error flaw
    | .ok (ids, rest') => do .ok ((o, ids) :: (← links total rest'))
  | t :: rest => .error (.operatorExpected (total - (t :: rest).length + 1))
termination_by ts => ts.length
decreasing_by
  have := length_operand_lt _read
  simp only [List.length_cons]
  simp only at this
  omega

/-- The chain that tokens make up; there is none without tokens. -/
def chain? (ts : List Token) : Except Flaw (Option Chain) :=
  match ts with
  | [] => .ok none
  | _ => do
    let (first, rest) ← operand 1 ts
    .ok (some ⟨first, ← links ts.length rest⟩)

/-- The chain that a text writes. -/
def parse (expression : String) : Except Flaw (Option Chain) := do
  chain? (← tokens expression.toList)

/-- An edge leads from the task that runs first to the one that runs after it. -/
abbrev Edge := String × String

def Operator.edges (o : Operator) (left right : List String) : List Edge :=
  left.flatMap fun l => right.map fun r =>
    match o with
    | .before => (l, r)
    | .after => (r, l)

def edgesFrom (left : List String) : List (Operator × List String) → List Edge
  | [] => []
  | (o, right) :: rest => o.edges left right ++ edgesFrom right rest

def Chain.edges (c : Chain) : List Edge := edgesFrom c.first c.rest

/-- The edges that an expression stands for. -/
def edges (expression : String) : Except Rejection (List Edge) :=
  match parse expression with
  | .error flaw => .error (.malformedDependency expression flaw.message)
  | .ok none => .ok []
  | .ok (some chain) => .ok chain.edges

/-- The text with a space in place of each operator, bracket and comma. -/
def withoutOperators : List Char → List Char
  | '>' :: '>' :: rest => ' ' :: withoutOperators rest
  | '<' :: '<' :: rest => ' ' :: withoutOperators rest
  | c :: rest =>
    (if c = '[' ∨ c = ']' ∨ c = ',' then ' ' else c) :: withoutOperators rest
  | [] => []

/-- The ids that an expression mentions, also one that does not parse. -/
def mentioned (expression : String) : List String :=
  (Text.wordsOf (withoutOperators expression.toList)).map String.ofList

end WorkflowCompiler.Workflow.Dependency
