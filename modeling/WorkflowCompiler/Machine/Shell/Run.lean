import WorkflowCompiler.Machine.Shell.Command
import WorkflowCompiler.Machine.Shell.Utility

/-!
What scripts do. A shell goes through the lines of a script with a state of variables,
descriptors and files. Fuel bounds how deep commands are nested and how often loops go round; a
script that is still going when it is used up has not ended.
-/
namespace WorkflowCompiler.Machine.Shell

/-- Where what is written to a descriptor goes. -/
inductive Sink
  /-- To a page of the state. -/
  | page (number : Nat)
  | file (path : String)
  | nowhere
  deriving DecidableEq, Repr

/-- Whether a shell goes on. -/
inductive Flow
  | running
  | exited
  | killed (signal : Nat)
  /-- On the way out of so many loops. -/
  | leaving (loops : Nat)
  /-- On the way to the next round of the loop so many loops further out. -/
  | resuming (loops : Nat)
  | outOfFuel
  deriving DecidableEq, Repr

/-- A command that is to be run without being waited for. -/
structure Job where
  body : Command
  /-- The variables that have a value. -/
  bindings : List (Bytes × Bytes)
  sinks : List (Nat × Sink)

structure State where
  /-- What the script is called by. -/
  name : Bytes
  arguments : List Bytes
  bindings : List (Bytes × Bytes)
  /-- The status of the last command. -/
  status : Nat
  flow : Flow
  /-- The open descriptors. -/
  sinks : List (Nat × Sink)
  /-- What was written to each page, from its end. -/
  pages : List Bytes
  input : Bytes
  files : Files.Tree
  jobs : List Job

namespace State

/-- A shell that writes its output to the first page and its errors to the second. -/
def start (name : Bytes) (arguments : List Bytes) (files : Files.Tree) : State where
  name
  arguments
  bindings := []
  status := 0
  flow := .running
  sinks := [(1, .page 0), (2, .page 1)]
  pages := [[], []]
  input := []
  files
  jobs := []

def sink? (s : State) (descriptor : Nat) : Option Sink :=
  (s.sinks.find? (·.1 == descriptor)).map (·.2)

def close (s : State) (descriptor : Nat) : State :=
  { s with sinks := s.sinks.filter (·.1 != descriptor) }

def attach (s : State) (descriptor : Nat) (sink : Sink) : State :=
  { s with sinks := (descriptor, sink) :: (s.close descriptor).sinks }

/-- Writes to a descriptor. To a closed one nothing can be written. -/
def emit (s : State) (descriptor : Nat) (text : Bytes) : Option State :=
  if text = [] then some s
  else
    match s.sink? descriptor with
    | none => none
    | some .nowhere => some s
    | some (.page n) => some { s with pages := s.pages.modify n fun page => text.reverseAux page }
    | some (.file path) =>
      match s.files.readBytes path with
      | .error _ => none
      | .ok content =>
        (s.files.write path (content ++ toByteArray text)).toOption.map fun files =>
          { s with files }

def ended (s : State) (status : Nat) : State := { s with status }

def complained (s : State) (text : String) (status : Nat) : State :=
  let text := bytesOf (textOf s.name ++ ": " ++ text ++ "\n")
  { (s.emit 2 text).getD s with status }

def set (s : State) (name value : Bytes) : State :=
  { s with bindings := (name, value) :: s.bindings.filter (·.1 != name) }

def unset (s : State) (name : Bytes) : State :=
  { s with bindings := s.bindings.filter (·.1 != name) }

def process : Bytes := bytesOf "4711"

def parameter? (s : State) (name : Bytes) : Option Bytes :=
  if name = ['#'] then some (digitsOf 10 1 s.arguments.length)
  else if name = ['?'] then some (digitsOf 10 1 s.status)
  else if name = ['$'] then some process
  else if name = ['@'] ∨ name = ['*'] then some (joined s.arguments)
  else if name = ['0'] then some s.name
  else if name.all Char.isDigit then s.arguments[number name - 1]?
  else (s.bindings.find? (·.1 == name)).map (·.2)

def integer (s : State) (name : Bytes) : Int :=
  ((s.parameter? name).bind Arithmetic.integer?).getD 0

end State

/-- The fields that words become, the last one first and each from its end. The last may not be
complete yet. -/
structure Fields where
  complete : List Bytes
  begun : Option Bytes

namespace Fields

def none : Fields := ⟨[], .none⟩

def append (f : Fields) (text : Bytes) : Fields :=
  { f with begun := some (text.reverseAux (f.begun.getD [])) }

def close (f : Fields) : Fields :=
  match f.begun with
  | .none => f
  | some text => ⟨text :: f.complete, .none⟩

def isBlank (c : Char) : Bool := c == ' ' || c == '\t' || c == '\n'

def appendCut : Fields → Bytes → Fields
  | f, [] => f
  | f, c :: rest => (if isBlank c then f.close else f.append [c]).appendCut rest

def appendEach : Fields → List Bytes → Fields
  | f, [] => f
  | f, [text] => f.append text
  | f, text :: rest => (f.append text).close.appendEach rest

def toList (f : Fields) : List Bytes := f.close.complete.reverse.map List.reverse

end Fields

/-- The pieces of a text as if it stood between double quotes. -/
def quotedPieces (text : Bytes) : Word :=
  match inQuotes (text.length + 2) (text ++ ['"']) with
  | some (pieces, []) => pieces
  | _ => [.plain text true]

/-- What a parameter's name says about it when there is no value: the name, whether an empty
value counts as none, whether it is the absence that matters, and the text instead. -/
def alternative? (name : Bytes) : Option (Bytes × Bool × Char × Bytes) :=
  let plain := name.takeWhile isNamePart
  match name.drop plain.length with
  | ':' :: c :: text => if c ∈ ['-', '+', '='] then some (plain, true, c, text) else none
  | c :: text => if c ∈ ['-', '+', '='] ∧ plain ≠ [] then some (plain, false, c, text) else none
  | [] => none

def signal? (name : Bytes) : Option Nat :=
  let text := String.ofList name
  if name ≠ [] ∧ name.all Char.isDigit then some (number name)
  else
    let names := [("HUP", 1), ("INT", 2), ("QUIT", 3), ("ILL", 4), ("TRAP", 5), ("ABRT", 6),
      ("BUS", 7), ("FPE", 8), ("KILL", 9), ("USR1", 10), ("SEGV", 11), ("USR2", 12),
      ("PIPE", 13), ("ALRM", 14), ("TERM", 15)]
    (names.find? fun n => n.1 == text || "SIG" ++ n.1 == text).map (·.2)

/-- Whether a signal ends a process that does nothing about it. -/
def isDeadly (signal : Nat) : Bool := signal ∉ [0, 17, 18, 23, 28]

/-- Sends a signal, which the shell itself can be the target of. -/
def kill (s : State) : List Bytes → State
  | ['-', 's'] :: name :: targets => send s (signal? name) targets
  | ('-' :: name) :: targets => send s (signal? name) targets
  | targets => send s (some 15) targets
where
  send (s : State) (signal : Option Nat) (targets : List Bytes) : State :=
    match signal with
    | none => s.complained "kill: bad signal" 2
    | some signal =>
      if targets = [] then s.complained "kill: no process" 2
      else if targets.contains State.process then
        if isDeadly signal then { s with flow := .killed signal } else s.ended 0
      else s.complained "kill: No such process" 1

def exitStatus (value : Int) : Nat := (value % 256).toNat

/-- Gives the words of a line to variables, the last of which takes what is left. -/
def assignWords : State → List Bytes → Bytes → State
  | s, [], _ => s
  | s, [name], line =>
    let line := line.dropWhile Fields.isBlank
    s.set name (line.reverse.dropWhile Fields.isBlank).reverse
  | s, name :: names, line =>
    let line := line.dropWhile Fields.isBlank
    assignWords (s.set name (line.takeWhile (!Fields.isBlank ·))) names
      (line.dropWhile (!Fields.isBlank ·))

def readLine (s : State) (names : List Bytes) : State :=
  let names := names.filter (· ≠ ['-', 'r'])
  let line := s.input.takeWhile (· ≠ '\n')
  match s.input.dropWhile (· ≠ '\n') with
  | [] => { assignWords s names line with input := [], status := 1 }
  | _ :: rest => { assignWords s names line with input := rest, status := 0 }

def loopCount : List Bytes → Nat
  | [] => 1
  | count :: _ => max 1 (number count)

def special? (name : String) (arguments : List Bytes) (s : State) : Option State :=
  match name with
  | "exit" =>
    match arguments with
    | [] => some { s with flow := .exited }
    | status :: _ =>
      match (Arithmetic.integer? status).filter (0 ≤ ·) with
      | some status => some { s with flow := .exited, status := exitStatus status }
      | none =>
        some { s.complained ("exit: Illegal number: " ++ textOf status) 2 with flow := .exited }
  | "kill" => some (kill s arguments)
  | "break" => some { s.ended 0 with flow := .leaving (loopCount arguments) }
  | "continue" => some { s.ended 0 with flow := .resuming (loopCount arguments) }
  | "shift" => some { s.ended 0 with arguments := s.arguments.drop (loopCount arguments) }
  | "unset" => some ((arguments.foldl State.unset s).ended 0)
  | "export" =>
    some ((arguments.foldl (fun s argument =>
      match argument.dropWhile (· ≠ '=') with
      | [] => s
      | _ :: value => s.set (argument.takeWhile (· ≠ '=')) value) s).ended 0)
  | "set" => some (s.ended 0)
  | "trap" => some (s.ended 0)
  | "read" => some (readLine s arguments)
  | _ => none

/-- The name of a utility that is called by a path of a standard directory. -/
def utilityName (name : Bytes) : String :=
  let text := String.ofList name
  if name = bytesOf "/bin/" ++ lastName name ∨ name = bytesOf "/usr/bin/" ++ lastName name then
    String.ofList (lastName name)
  else text

def invoke (s : State) (name : Bytes) (arguments : List Bytes) : State :=
  match special? (String.ofList name) arguments s with
  | some s => s
  | none =>
    match utility? (utilityName name) arguments ⟨s.input, s.files⟩ with
    | none => s.complained (textOf name ++ ": not found") 127
    | some deed =>
      let s := { s with input := deed.input, files := deed.files }
      let written := (s.emit 1 deed.output).map (·.ended deed.status)
      let s := written.getD (s.complained (textOf name ++ ": I/O error") 1)
      (s.emit 2 deed.errors).getD s

def open? (s : State) (r : Redirection) (target : Bytes) : Except State State :=
  let path := textOf target
  match r.operator with
  | ">" =>
    match special? path with
    | some (some copied) => duplicate copied
    | some none => .ok (s.attach r.descriptor .nowhere)
    | none => create path ByteArray.empty
  | ">>" =>
    match special? path with
    | some (some copied) => duplicate copied
    | some none => .ok (s.attach r.descriptor .nowhere)
    | none =>
      match s.files.readBytes path with
      | .ok content => create path content
      | .error _ => create path ByteArray.empty
  | "<" =>
    if path = "/dev/null" then .ok { s with input := [] }
    else
      match s.files.readBytes path with
      | .ok content => .ok { s with input := ofByteArray content }
      | .error fault =>
        .error (s.complained ("cannot open " ++ path ++ ": " ++ reason fault) 2)
  | ">&" =>
    if target = ['-'] then .ok (s.close r.descriptor)
    else if target.all Char.isDigit then duplicate (number target)
    else .error (s.complained "Bad fd number" 2)
  | _ => .ok { s with input := [] }
where
  /-- Names of the system's own: a descriptor, or what takes everything. -/
  special? (path : String) : Option (Option Nat) :=
    match path with
    | "/dev/null" => some none
    | "/dev/stdout" => some (some 1)
    | "/dev/stderr" => some (some 2)
    | _ => none
  duplicate (copied : Nat) : Except State State :=
    match s.sink? copied with
    | some sink => .ok (s.attach r.descriptor sink)
    | none => .error (s.complained (toString copied ++ ": Bad file descriptor") 2)
  create (path : String) (content : ByteArray) : Except State State :=
    match s.files.write path content with
    | .ok files => .ok ({ s with files }.attach r.descriptor (.file path))
    | .error fault =>
      .error (s.complained ("cannot create " ++ path ++ ": " ++ reason fault) 2)

def State.restored (after before : State) (rs : List Redirection) : State :=
  let fed := rs.any fun r => r.operator = "<" ∨ r.operator = "<&"
  { after with
    sinks := before.sinks
    input := if fed then before.input else after.input }

/-- What a shell that was started by another leaves to it: files, pages and input, but no
variables and descriptors, and its end only if a signal brought it. -/
def State.leftTo (inner outer : State) : State :=
  { outer with
    status := inner.status
    flow := match inner.flow with
      | .killed signal => .killed signal
      | .outOfFuel => .outOfFuel
      | _ => .running
    pages := inner.pages
    input := inner.input
    files := inner.files
    jobs := inner.jobs }

/-- Whether the value of a word is in part what a script writes. -/
def Word.runsScript (w : Word) : Bool :=
  w.any fun
    | .script _ _ => true
    | _ => false

/-- What a round of a loop leaves for the loop: whether it goes on, and the flow. -/
def afterRound : Flow → Bool × Flow
  | .running => (true, .running)
  | .leaving 0 => (false, .running)
  | .leaving 1 => (false, .running)
  | .leaving (n + 1) => (false, .leaving n)
  | .resuming 0 => (true, .running)
  | .resuming 1 => (true, .running)
  | .resuming (n + 1) => (false, .resuming n)
  | flow => (false, flow)

mutual

def execute : Nat → Command → State → State
  | 0, _, s => { s with flow := .outOfFuel }
  | fuel + 1, command, s =>
    if s.flow ≠ .running then s
    else
      match command with
      | .skip => s
      | .simple assignments words redirections =>
        simple fuel assignments words redirections s
      | .sequence first second => execute fuel second (execute fuel first s)
      | .both first second =>
        let s := execute fuel first s
        if s.status = 0 then execute fuel second s else s
      | .either first second =>
        let s := execute fuel first s
        if s.status ≠ 0 then execute fuel second s else s
      | .negated body =>
        let s := execute fuel body s
        if s.flow ≠ .running then s else s.ended (if s.status = 0 then 1 else 0)
      | .pipe first second =>
        let (text, s) := capture fuel first s
        if s.flow ≠ .running then s
        else
          let fed := execute fuel second { s with input := text }
          { fed.leftTo s with input := s.input }
      | .branch condition body otherwise =>
        let s := execute fuel condition s
        if s.flow ≠ .running then s
        else if s.status = 0 then execute fuel body s
        else execute fuel otherwise (s.ended 0)
      | .loop outcome condition body => loop fuel outcome condition body 0 s
      | .each name words body =>
        let (fields, s) := expand fuel words s
        each fuel name fields body s
      | .grouped body redirections =>
        match redirect fuel redirections s with
        | .error s => s
        | .ok inside => (execute fuel body inside).restored s redirections
      | .enclosed body redirections =>
        match redirect fuel redirections s with
        | .error s => s
        | .ok inside => ((execute fuel body inside).leftTo s).restored s redirections
      | .background body =>
        { s.ended 0 with jobs := s.jobs ++ [⟨body, s.bindings, s.sinks⟩] }
termination_by structural fuel => fuel

/-- Goes round as long as the condition has the outcome stated. The status is that of the last
round. -/
def loop : Nat → (outcome : Bool) → (condition body : Command) → (status : Nat) → State → State
  | 0, _, _, _, _, s => { s with flow := .outOfFuel }
  | fuel + 1, outcome, condition, body, status, s =>
    let s := execute fuel condition s
    let (goesOn, flow) := afterRound s.flow
    if s.flow ≠ .running then
      if goesOn then loop fuel outcome condition body status { s with flow } else { s with flow }
    else if (s.status == 0) != outcome then s.ended status
    else
      let s := execute fuel body s
      let (goesOn, flow) := afterRound s.flow
      if goesOn then loop fuel outcome condition body s.status { s with flow }
      else { s with flow }
termination_by structural fuel => fuel

def each : Nat → Bytes → List Bytes → Command → State → State
  | 0, _, _, _, s => { s with flow := .outOfFuel }
  | _ + 1, _, [], _, s => s
  | fuel + 1, name, field :: rest, body, s =>
    let s := execute fuel body (s.set name field)
    let (goesOn, flow) := afterRound s.flow
    if goesOn then each fuel name rest body { s with flow } else { s with flow }
termination_by structural fuel => fuel

def capture : Nat → Command → State → Bytes × State
  | 0, _, s => ([], { s with flow := .outOfFuel })
  | fuel + 1, command, s =>
    let page := s.pages.length
    let inside := { s with pages := s.pages ++ [[]] }.attach 1 (.page page)
    let after := (execute fuel command inside).leftTo s
    ((after.pages[page]?.getD []).reverse, { after with pages := after.pages.take page })
termination_by structural fuel => fuel

def expandPiece : Nat → Piece → Fields × State → Fields × State
  | 0, _, (f, s) => (f, { s with flow := .outOfFuel })
  | fuel + 1, piece, (f, s) =>
    let add (text : Bytes) (quoted : Bool) (s : State) : Fields × State :=
      (if quoted then f.append text else f.appendCut text, s)
    match piece with
    | .plain text _ => (f.append text, s)
    | .parameter name quoted =>
      if name = ['@'] ∧ quoted then (f.appendEach s.arguments, s)
      else
        match name with
        | '#' :: c :: rest => add (digitsOf 10 1 ((s.parameter? (c :: rest)).getD []).length) quoted s
        | _ =>
          match alternative? name with
          | none => add ((s.parameter? name).getD []) quoted s
          | some (plain, emptyCounts, kind, text) =>
            let value := (s.parameter? plain).filter fun v => !(emptyCounts && v == [])
            let (wanted, given) := if kind = '+' then (value.map fun _ => text, some [])
              else (if value.isSome then none else some text, value)
            match wanted with
            | none => add (given.getD []) quoted s
            | some text =>
              let (instead, s) := (quotedPieces text).foldl
                (fun state piece => expandPiece fuel piece state) (Fields.none, s)
              let text := joined instead.toList
              add text quoted (if kind = '=' then s.set plain text else s)
    | .arithmetic expression quoted =>
      let (fields, s) := (quotedPieces expression).foldl
        (fun state piece => expandPiece fuel piece state) (Fields.none, s)
      match Arithmetic.evaluate? s.integer (joined fields.toList) with
      | some value => add (digitsOf 10 1 value) quoted s
      | none => (f, { s.complained "arithmetic expression" 2 with flow := .exited })
    | .script text quoted =>
      match Command.parse? text with
      | none => (f, { s.complained "Syntax error" 2 with flow := .exited })
      | some command =>
        let (written, s) := capture fuel command s
        add (written.reverse.dropWhile (· = '\n')).reverse quoted s
termination_by structural fuel => fuel

def expand : Nat → List Word → State → List Bytes × State
  | 0, _, s => ([], { s with flow := .outOfFuel })
  | fuel + 1, words, s =>
    let (fields, s) := words.foldl (fun (f, s) w =>
      let (f, s) := w.foldl (fun state piece => expandPiece fuel piece state) (f, s)
      (f.close, s)) (Fields.none, s)
    (fields.toList, s)
termination_by structural fuel => fuel

/-- The text of a word that is not cut into fields. -/
def expandWhole : Nat → Word → State → Bytes × State
  | 0, _, s => ([], { s with flow := .outOfFuel })
  | fuel + 1, w, s =>
    let whole := w.map fun
      | .plain text _ => Piece.plain text true
      | .parameter name _ => Piece.parameter name true
      | .arithmetic expression _ => Piece.arithmetic expression true
      | .script text _ => Piece.script text true
    let (fields, s) := expand fuel [whole] s
    (joined fields, s)
termination_by structural fuel => fuel

/-- Redirects one after another. If one fails, the others are not tried. -/
def redirect : Nat → List Redirection → State → Except State State
  | 0, _, s => .error { s with flow := .outOfFuel }
  | fuel + 1, rs, s =>
    rs.foldlM (fun s r =>
      let (target, s) := expandWhole fuel r.target s
      open? s r target) s
termination_by structural fuel => fuel

/-- Carries out a command that is a name with arguments, or gives variables values if there is
no name. -/
def simple : Nat → List (Bytes × Word) → List Word → List Redirection → State → State
  | 0, _, _, _, s => { s with flow := .outOfFuel }
  | fuel + 1, assignments, words, redirections, before =>
    let (fields, s) := expand fuel words before
    let assigned (s : State) : State := assignments.foldl (fun s a =>
      let (value, s) := expandWhole fuel a.2 s
      s.set a.1 value) s
    if s.flow ≠ .running then s
    else
      match redirect fuel redirections s with
      | .error s => s
      | .ok inside =>
        match fields with
        | [] =>
          let after := assigned inside
          let ranScript := words.any Word.runsScript || assignments.any (Word.runsScript ·.2)
          (if ranScript then after else after.ended 0).restored s redirections
        | ['e', 'x', 'e', 'c'] :: [] => (assigned inside).ended 0
        | ['e', 'x', 'e', 'c'] :: name :: arguments =>
          { invoke (assigned inside) name arguments with flow := .exited }
        | ['w', 'a', 'i', 't'] :: _ => (wait fuel inside).ended 0
        | name :: arguments =>
          let after := invoke (assigned inside) name arguments
          let keeps := (special? (String.ofList name) arguments inside).isSome
          let bindings := if keeps ∨ assignments = [] then after.bindings else s.bindings
          { after with bindings }.restored s redirections
termination_by structural fuel => fuel

/-- Runs the jobs that were started in the background, in the order of their start. -/
def wait : Nat → State → State
  | 0, s => { s with flow := .outOfFuel }
  | fuel + 1, s =>
    s.jobs.foldl (fun s job =>
      let inside := { s with bindings := job.bindings, sinks := job.sinks, flow := .running }
      { (execute fuel job.body inside).leftTo s with status := s.status, flow := s.flow })
      { s with jobs := [] }
termination_by structural fuel => fuel

end

/-- Goes through the lines of a script. A line that cannot be read ends it, after the ones
before it were carried out. -/
def executeLines (fuel : Nat) : Nat → List Token → State → State
  | 0, _, s => { s with flow := .outOfFuel }
  | _ + 1, [], s => s
  | lines + 1, ts, s =>
    if s.flow ≠ .running then s
    else
      match Command.line? ts with
      | none => { s.complained "Syntax error" 2 with flow := .exited }
      | some (command, rest) => executeLines fuel lines rest (execute fuel command s)

def runScript (fuel : Nat) (script : Bytes) (s : State) : State :=
  let ts := tokens script
  wait fuel (executeLines fuel (ts.length + 1) ts s)

end WorkflowCompiler.Machine.Shell
