import WorkflowCompiler.Machine.Shell.Word

/-!
Commands of shell scripts, and how they are read.
-/
namespace WorkflowCompiler.Machine.Shell

structure Redirection where
  descriptor : Nat
  operator : String
  target : Word
  deriving DecidableEq, Repr

inductive Command
  | skip
  | simple (assignments : List (Bytes × Word)) (words : List Word)
      (redirections : List Redirection)
  | sequence (first second : Command)
  /-- The second if the first succeeds. -/
  | both (first second : Command)
  /-- The second if the first fails. -/
  | either (first second : Command)
  | negated (command : Command)
  | pipe (first second : Command)
  | branch (condition body otherwise : Command)
  /-- The body as long as the condition has the outcome stated. -/
  | loop (outcome : Bool) (condition body : Command)
  | each (name : Bytes) (words : List Word) (body : Command)
  | grouped (body : Command) (redirections : List Redirection)
  /-- In a shell of its own. -/
  | enclosed (body : Command) (redirections : List Redirection)
  /-- Started without waiting for its end. -/
  | background (body : Command)
  deriving Repr

def Token.bare? : Token → Option String
  | .word [.plain text false] => some (String.ofList text)
  | _ => none

/-- Words that end a list of commands where a command could begin. -/
def closingWords : List String := ["then", "else", "elif", "fi", "do", "done", "\x7d"]

def skipNewlines : List Token → List Token :=
  List.dropWhile (· = .newline)

def assignment? : Word → Option (Bytes × Word)
  | .plain text false :: rest =>
    let name := text.takeWhile (· ≠ '=')
    match text.dropWhile (· ≠ '=') with
    | [] => none
    | _ :: value =>
      if isName name then some (name, .plain value true :: rest) else none
  | _ => none

def Redirection.of (descriptor : Option Nat) (operator : String) (target : Word) : Redirection :=
  ⟨descriptor.getD (if operator.toList.head? = some '<' then 0 else 1), operator, target⟩

def leadingRedirections : List Token → List Redirection × List Token
  | .redirection d op :: .word w :: rest =>
    let (others, rest) := leadingRedirections rest
    (.of d op w :: others, rest)
  | rest => ([], rest)

/-- Assignments, words and redirections up to the next operator. -/
def simpleCommand : (started : Bool) → List Token →
    (List (Bytes × Word) × List Word × List Redirection) × List Token
  | _, .redirection d op :: .word w :: rest =>
    let ((assignments, words, redirections), rest) := simpleCommand true rest
    ((assignments, words, .of d op w :: redirections), rest)
  | started, .word w :: rest =>
    match started, assignment? w with
    | false, some a =>
      let ((assignments, words, redirections), rest) := simpleCommand false rest
      ((a :: assignments, words, redirections), rest)
    | _, _ =>
      let ((assignments, words, redirections), rest) := simpleCommand true rest
      ((assignments, w :: words, redirections), rest)
  | _, rest => (([], [], []), rest)

def expect (name : String) : List Token → Option (List Token)
  | t :: rest => if t.bare? = some name then some rest else none
  | [] => none

def listWords : List Token → List Word × List Token
  | .word w :: rest =>
    let (words, rest) := listWords rest
    (w :: words, rest)
  | rest => ([], rest)

mutual

/-- Commands one after another, up to a word or operator that closes them, or up to the end of
the line if only a line is wanted. -/
def commands : Nat → (oneLine : Bool) → List Token → Option (Command × List Token)
  | 0, _, _ => none
  | fuel + 1, oneLine, ts =>
    match if oneLine then ts else skipNewlines ts with
    | [] => some (.skip, [])
    | .newline :: rest => some (.skip, rest)
    | t :: rest =>
      let closes := match t with
        | .operator op => op == ")" || op == ";;"
        | t => t.bare?.any (· ∈ closingWords)
      if closes then some (.skip, t :: rest)
      else do
        let (first, rest) ← conditional fuel (t :: rest)
        match rest with
        | .operator ";" :: rest => do
          let (second, rest) ← commands fuel oneLine rest
          some (.sequence first second, rest)
        | .operator "&" :: rest => do
          let (second, rest) ← commands fuel oneLine rest
          some (.sequence (.background first) second, rest)
        | .newline :: rest =>
          if oneLine then some (first, rest)
          else do
            let (second, rest) ← commands fuel oneLine rest
            some (.sequence first second, rest)
        | rest => some (first, rest)
termination_by structural fuel => fuel

/-- Commands that depend on the outcome of the ones before them. -/
def conditional : Nat → List Token → Option (Command × List Token)
  | 0, _ => none
  | fuel + 1, ts => do
    let (first, rest) ← pipeline fuel ts
    conditionalRest fuel first rest
termination_by structural fuel => fuel

def conditionalRest : Nat → Command → List Token → Option (Command × List Token)
  | 0, _, _ => none
  | fuel + 1, first, ts =>
    match ts with
    | .operator "&&" :: rest => do
      let (second, rest) ← pipeline fuel (skipNewlines rest)
      conditionalRest fuel (.both first second) rest
    | .operator "||" :: rest => do
      let (second, rest) ← pipeline fuel (skipNewlines rest)
      conditionalRest fuel (.either first second) rest
    | rest => some (first, rest)
termination_by structural fuel => fuel

/-- Commands whose output is the input of the next. -/
def pipeline : Nat → List Token → Option (Command × List Token)
  | 0, _ => none
  | fuel + 1, ts =>
    match expect "!" ts with
    | some rest => do
      let (command, rest) ← pipeline fuel rest
      some (.negated command, rest)
    | none => do
      let (first, rest) ← single fuel ts
      match rest with
      | .operator "|" :: rest => do
        let (second, rest) ← pipeline fuel (skipNewlines rest)
        some (.pipe first second, rest)
      | rest => some (first, rest)
termination_by structural fuel => fuel

def single : Nat → List Token → Option (Command × List Token)
  | 0, _ => none
  | fuel + 1, ts =>
    match ts with
    | .operator "(" :: rest => do
      let (body, rest) ← commands fuel false rest
      match rest with
      | .operator ")" :: rest =>
        let (redirections, rest) := leadingRedirections rest
        some (.enclosed body redirections, rest)
      | _ => none
    | t :: rest =>
      match t.bare? with
      | some "if" => branches fuel rest
      | some "while" => repeated fuel true rest
      | some "until" => repeated fuel false rest
      | some "for" =>
        match rest with
        | .word [.plain name false] :: rest => do
          let rest ← expect "in" (skipNewlines rest)
          let (words, rest) := listWords rest
          let rest := match rest with
            | .operator ";" :: rest => rest
            | rest => rest
          let rest ← expect "do" (skipNewlines rest)
          let (body, rest) ← commands fuel false rest
          let rest ← expect "done" rest
          let (redirections, rest) := leadingRedirections rest
          some (.grouped (.each name words body) redirections, rest)
        | _ => none
      | some "\x7b" => do
        let (body, rest) ← commands fuel false rest
        let rest ← expect "\x7d" rest
        let (redirections, rest) := leadingRedirections rest
        some (.grouped body redirections, rest)
      | _ =>
        let ((assignments, words, redirections), after) := simpleCommand false (t :: rest)
        if after.length = rest.length + 1 then none
        else some (.simple assignments words redirections, after)
    | [] => none
termination_by structural fuel => fuel

/-- What comes after `if` or `elif`. -/
def branches : Nat → List Token → Option (Command × List Token)
  | 0, _ => none
  | fuel + 1, ts => do
    let (condition, rest) ← commands fuel false ts
    let rest ← expect "then" rest
    let (body, rest) ← commands fuel false rest
    match expect "elif" rest with
    | some rest => do
      let (otherwise, rest) ← branches fuel rest
      some (.branch condition body otherwise, rest)
    | none =>
      let (otherwise, rest) ← match expect "else" rest with
        | some rest => commands fuel false rest
        | none => some (.skip, rest)
      let rest ← expect "fi" rest
      let (redirections, rest) := leadingRedirections rest
      some (.grouped (.branch condition body otherwise) redirections, rest)
termination_by structural fuel => fuel

/-- What comes after `while` or `until`. -/
def repeated : Nat → Bool → List Token → Option (Command × List Token)
  | 0, _, _ => none
  | fuel + 1, outcome, ts => do
    let (condition, rest) ← commands fuel false ts
    let rest ← expect "do" rest
    let (body, rest) ← commands fuel false rest
    let rest ← expect "done" rest
    let (redirections, rest) := leadingRedirections rest
    some (.grouped (.loop outcome condition body) redirections, rest)
termination_by structural fuel => fuel

end

def stepsFor (ts : List Token) : Nat := 8 * ts.length + 8

def Command.parse? (script : Bytes) : Option Command :=
  let ts := tokens script
  match commands (stepsFor ts) false ts with
  | some (command, []) => some command
  | _ => none

/-- The command on the first line of some tokens, and the tokens after it. A command that is not
closed on one line goes on over the next ones. -/
def Command.line? (ts : List Token) : Option (Command × List Token) := do
  let (command, rest) ← commands (stepsFor ts) true ts
  if rest.length < ts.length then some (command, rest) else none

end WorkflowCompiler.Machine.Shell
