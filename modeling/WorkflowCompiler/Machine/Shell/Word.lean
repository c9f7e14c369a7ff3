/-!
Words of shell scripts. A script is read as a sequence of bytes, each of which stands as the
character of its number. Quotes keep the characters between them from their special meaning.
-/
namespace WorkflowCompiler.Machine.Shell

/-- Bytes, each as a character. -/
abbrev Bytes := List Char

/-- A part of a word. What is quoted is never cut at blanks. -/
inductive Piece
  | plain (text : Bytes) (quoted : Bool)
  | parameter (name : Bytes) (quoted : Bool)
  | arithmetic (expression : Bytes) (quoted : Bool)
  /-- The output of a script. -/
  | script (text : Bytes) (quoted : Bool)
  deriving DecidableEq, Repr

abbrev Word := List Piece

inductive Token
  | word (w : Word)
  | newline
  | operator (text : String)
  | redirection (descriptor : Option Nat) (text : String)
  /-- A quote or bracket is never closed, so that no tokens can be told from here on. -/
  | unclosed
  deriving DecidableEq, Repr

def isNameStart (c : Char) : Bool := c.isAlpha || c == '_'

def isNamePart (c : Char) : Bool := c.isAlphanum || c == '_'

def isName : Bytes → Bool
  | [] => false
  | c :: rest => isNameStart c && rest.all isNamePart

def endsWord (c : Char) : Bool :=
  c ∈ [' ', '\t', '\n', ';', '&', '|', '<', '>', '(', ')']

/-- The text up to the parenthesis that closes one opened before, and what comes after it. -/
def untilClosed : Nat → Bytes → Option (Bytes × Bytes)
  | _, [] => none
  | depth, c :: rest =>
    if c = ')' then
      match depth with
      | 0 => some ([], rest)
      | depth + 1 => (untilClosed depth rest).map fun (a, b) => (c :: a, b)
    else
      let depth := if c = '(' then depth + 1 else depth
      (untilClosed depth rest).map fun (a, b) => (c :: a, b)

def dollar (quoted : Bool) : Bytes → Option (Piece × Bytes)
  | '(' :: '(' :: rest => do
    let (expression, rest) ← untilClosed 0 rest
    match rest with
    | ')' :: rest => some (.arithmetic expression quoted, rest)
    | _ => none
  | '(' :: rest => do
    let (text, rest) ← untilClosed 0 rest
    some (.script text quoted, rest)
  | '\x7b' :: rest =>
    let name := rest.takeWhile (· ≠ '\x7d')
    match rest.dropWhile (· ≠ '\x7d') with
    | _ :: rest => some (.parameter name quoted, rest)
    | [] => none
  | c :: rest =>
    if isNameStart c then
      some (.parameter (c :: rest.takeWhile isNamePart) quoted, rest.dropWhile isNamePart)
    else if c.isDigit || c ∈ ['#', '?', '$', '@', '*'] then some (.parameter [c] quoted, rest)
    else some (.plain ['$'] quoted, c :: rest)
  | [] => some (.plain ['$'] quoted, [])

/-- The pieces between double quotes, and what comes after the closing one. -/
def inQuotes : Nat → Bytes → Option (Word × Bytes)
  | 0, _ => none
  | fuel + 1, cs =>
    match cs with
    | [] => none
    | '"' :: rest => some ([], rest)
    | '\\' :: '\n' :: rest => inQuotes fuel rest
    | '\\' :: c :: rest => do
      let text := if c ∈ ['$', '\x60', '"', '\\'] then [c] else ['\\', c]
      let (pieces, rest) ← inQuotes fuel rest
      some (.plain text true :: pieces, rest)
    | '$' :: rest => do
      let (piece, rest) ← dollar true rest
      let (pieces, rest) ← inQuotes fuel rest
      some (piece :: pieces, rest)
    | '\x60' :: rest => do
      let text := rest.takeWhile (· ≠ '\x60')
      let (pieces, rest) ← inQuotes fuel ((rest.dropWhile (· ≠ '\x60')).drop 1)
      some (.script text true :: pieces, rest)
    | c :: rest => do
      let (pieces, rest) ← inQuotes fuel rest
      some (.plain [c] true :: pieces, rest)

def word : Nat → Bytes → Option (Word × Bytes)
  | 0, _ => none
  | fuel + 1, cs =>
    match cs with
    | [] => some ([], [])
    | '\\' :: '\n' :: rest => word fuel rest
    | '\\' :: c :: rest => do
      let (pieces, rest) ← word fuel rest
      some (.plain [c] true :: pieces, rest)
    | '\x27' :: rest => do
      let text := rest.takeWhile (· ≠ '\x27')
      match rest.dropWhile (· ≠ '\x27') with
      | [] => none
      | _ :: rest =>
        let (pieces, rest) ← word fuel rest
        some (.plain text true :: pieces, rest)
    | '"' :: rest => do
      let (inside, rest) ← inQuotes fuel rest
      let (pieces, rest) ← word fuel rest
      some (.plain [] true :: inside ++ pieces, rest)
    | '\x60' :: rest => do
      let text := rest.takeWhile (· ≠ '\x60')
      let (pieces, rest) ← word fuel ((rest.dropWhile (· ≠ '\x60')).drop 1)
      some (.script text false :: pieces, rest)
    | '$' :: rest => do
      let (piece, rest) ← dollar false rest
      let (pieces, rest) ← word fuel rest
      some (piece :: pieces, rest)
    | c :: rest =>
      if endsWord c then some ([], c :: rest)
      else do
        let isPlain (c : Char) : Bool := !endsWord c && c ∉ ['\\', '\x27', '"', '\x60', '$']
        let text := c :: rest.takeWhile isPlain
        let (pieces, rest) ← word fuel (rest.dropWhile isPlain)
        some (.plain text false :: pieces, rest)

/-- Operators that are no redirections; longer ones come before those they begin with. -/
def operators : List String := ["&&", "||", ";;", ";", "&", "|", "(", ")"]

def redirections : List String := [">>", ">&", "<&", ">", "<"]

/-- The first of some texts that characters begin with, and what comes after it. -/
def startsWith? (texts : List String) (cs : Bytes) : Option (String × Bytes) :=
  (texts.find? fun t => t.toList.isPrefixOf cs).map fun t => (t, cs.drop t.length)

/-- The tokens of a script. Each takes at least one character, so that there are enough steps
if there is one more than characters. -/
def tokensFrom : Nat → Bytes → List Token
  | 0, _ => [.unclosed]
  | fuel + 1, cs =>
    match cs with
    | [] => []
    | '\n' :: rest => .newline :: tokensFrom fuel rest
    | '#' :: rest => tokensFrom fuel (rest.dropWhile (· ≠ '\n'))
    | '\\' :: '\n' :: rest => tokensFrom fuel rest
    | c :: rest =>
      if c = ' ' ∨ c = '\t' then tokensFrom fuel rest
      else
        let digits := cs.takeWhile Char.isDigit
        match startsWith? redirections (cs.dropWhile Char.isDigit) with
        | some (text, rest) =>
          let descriptor := if digits = [] then none else (String.ofList digits).toNat?
          .redirection descriptor text :: tokensFrom fuel rest
        | none =>
          match startsWith? operators cs with
          | some (text, rest) => .operator text :: tokensFrom fuel rest
          | none =>
            match word (cs.length + 1) cs with
            | some (w, rest) => .word w :: tokensFrom fuel rest
            | none => [.unclosed]

def tokens (script : Bytes) : List Token := tokensFrom (script.length + 1) script

end WorkflowCompiler.Machine.Shell
