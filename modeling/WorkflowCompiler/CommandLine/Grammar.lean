import WorkflowCompiler.Text.Blank

/-!
Grammars of argument lists. A grammar has named parameters, which begin with dashes, and
parameters that go by position. An argument list is read from left to right; the values of a
parameter are looked at when the next parameter begins, or at the end.
-/
namespace WorkflowCompiler.CommandLine

/-- What is wrong with an argument list, or what it asks for instead of a command. -/
inductive Fault
  | helpWanted
  | versionWanted
  | noCommand
  | unknownCommand (argument : String)
  | unknownArgument (argument : String)
  /-- A parameter that cannot be left out, or one that another parameter calls for. -/
  | missingParameter (shown : String)
  | repeatedParameter (shown : String)
  /-- No value, or an empty one where a path is wanted. -/
  | missingValue (shown : String)
  | surplusValue (shown : String)
  deriving DecidableEq, Repr

structure Parameter where
  name : String
  /-- The name after a single dash. -/
  short : Option Char := none
  takesValue : Bool := true
  /-- It may be given many times. -/
  repeats : Bool := false
  /-- Its value is a path, which cannot be empty. -/
  isPath : Bool := false
  /-- How its value is called. -/
  placeholder : String := ""
  deriving DecidableEq, Repr

def Parameter.shown (p : Parameter) : String :=
  if p.takesValue then "--" ++ p.name ++ " <" ++ p.placeholder ++ ">" else "--" ++ p.name

structure Grammar where
  named : List Parameter
  positional : List Parameter

/-- What a name after dashes stands for. Every grammar knows help. -/
inductive Name
  | help
  | parameter (p : Parameter)
  | unknown

def Grammar.long (g : Grammar) (name : String) : Name :=
  if name = "help" then .help
  else match g.named.find? (·.name == name) with
    | some p => .parameter p
    | none => .unknown

def Grammar.short (g : Grammar) (c : Char) : Name :=
  if c = 'h' then .help
  else match g.named.find? (·.short == some c) with
    | some p => .parameter p
    | none => .unknown

/-- A parameter with values whose number and content are still to be looked at. -/
structure Pending where
  parameter : Parameter
  /-- Messages show a named parameter otherwise than one that goes by position. -/
  shown : String
  values : List String

/-- How far an argument list has been read. -/
structure Progress where
  given : List (Parameter × List String)
  pending : Option Pending
  /-- The next argument is a value unless it begins with a dash. -/
  awaiting : Bool
  /-- The parameters by position that are still to come. -/
  rest : List Parameter

namespace Progress

def accept (s : Progress) (p : Parameter) (shown : String) (values : List String) :
    Except Fault Progress :=
  if p.takesValue ∧ values = [] then .error (.missingValue shown)
  else if !p.repeats && s.given.any (·.1 == p) then .error (.repeatedParameter shown)
  else if p.isPath && values.any (· == "") then .error (.missingValue shown)
  else .ok { s with given := s.given ++ [(p, values)], pending := none }

def settle (s : Progress) : Except Fault Progress :=
  match s.pending with
  | none => .ok s
  | some p => { s with pending := none }.accept p.parameter p.shown p.values

/-- A parameter that has all it needs. -/
def give (s : Progress) (p : Parameter) (values : List String) : Except Fault Progress := do
  let s ← s.settle
  let s ← s.accept p p.shown values
  .ok { s with awaiting := false }

/-- A parameter whose value is to come. -/
def await (s : Progress) (p : Parameter) : Except Fault Progress := do
  let s ← s.settle
  .ok { s with pending := some ⟨p, p.shown, []⟩, awaiting := true }

/-- An argument that begins with two dashes. -/
def long (g : Grammar) (s : Progress) (argument name : String) (value : Option String) :
    Except Fault Progress :=
  match g.long name, value with
  | .unknown, _ => .error (.unknownArgument argument)
  | .help, some _ => .error (.surplusValue "--help")
  | .help, none => do
    let _ ← s.settle
    .error .helpWanted
  | .parameter p, some v =>
    if p.takesValue then s.give p [v] else .error (.surplusValue p.shown)
  | .parameter p, none => if p.takesValue then s.await p else s.give p []

/-- The letters of an argument that begins with one dash. A parameter that takes a value takes
the rest of the argument, if there is one, as its value. -/
def shorts (g : Grammar) (argument : String) : Progress → List Char → Except Fault Progress
  | s, [] => .ok s
  | s, c :: letters =>
    match g.short c with
    | .unknown => .error (.unknownArgument argument)
    | .help => do
      let _ ← s.settle
      .error .helpWanted
    | .parameter p =>
      if p.takesValue then
        match letters with
        | [] => s.await p
        | '=' :: value => s.give p [String.ofList value]
        | value => s.give p [String.ofList value]
      else do
        shorts g argument (← s.give p []) letters

/-- An argument that is no parameter's name nor value: it takes the next position. -/
def place (s : Progress) (argument : String) : Except Fault Progress :=
  match s.rest with
  | [] => .error (.unknownArgument argument)
  | p :: rest => do
    let s ← s.settle
    .ok { s with
      pending := some ⟨p, "<" ++ p.placeholder ++ ">", [argument]⟩, awaiting := false, rest }

def value (s : Progress) (argument : String) : Except Fault Progress :=
  match s.awaiting, s.pending with
  | true, some p =>
    .ok { s with pending := some { p with values := p.values ++ [argument] }, awaiting := false }
  | _, _ => s.place argument

/-- An argument before two dashes on their own. -/
def argument (g : Grammar) (s : Progress) (argument : String) : Except Fault Progress :=
  match argument.toList with
  | '-' :: '-' :: name =>
    let value := match name.dropWhile (· ≠ '=') with
      | [] => none
      | _ :: value => some (String.ofList value)
    s.long g argument (String.ofList (name.takeWhile (· ≠ '='))) value
  | '-' :: c :: letters => shorts g argument s (c :: letters)
  | _ => s.value argument

/-- Reads an argument list; after two dashes on their own all goes by position. -/
def read (g : Grammar) : Progress → List String → Except Fault Progress
  | s, [] => s.settle
  | s, a :: rest => do
    if a = "--" then (← rest.foldlM place s).settle
    else read g (← s.argument g a) rest

end Progress

def Grammar.parse (g : Grammar) (arguments : List String) :
    Except Fault (List (Parameter × List String)) := do
  let s ← Progress.read g ⟨[], none, false, g.positional⟩ arguments
  match g.positional.find? fun p => s.given.all (·.1 != p) with
  | some p => .error (.missingParameter ("<" ++ p.placeholder ++ ">"))
  | none => .ok s.given

end WorkflowCompiler.CommandLine
