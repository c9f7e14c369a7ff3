import WorkflowCompiler.Files.Tree
import WorkflowCompiler.Machine.Shell.Escape
import WorkflowCompiler.Text.Utf8

/-!
Utilities that scripts call. Each is a function from its arguments, its input and the files to
what it writes, its status and the files afterwards.
-/
namespace WorkflowCompiler.Machine.Shell

def bytesOf (text : String) : Bytes :=
  (Text.encodeUtf8 text).map fun b => Char.ofNat b.toNat

def octets (bytes : Bytes) : List UInt8 :=
  bytes.map fun c => UInt8.ofNat c.toNat

def textOf (bytes : Bytes) : String := Text.decodeTolerantly (octets bytes)

def ofByteArray (content : ByteArray) : Bytes :=
  content.toList.map fun b => Char.ofNat b.toNat

def toByteArray (bytes : Bytes) : ByteArray := ⟨(octets bytes).toArray⟩

/-- What a utility does. -/
structure Deed where
  output : Bytes
  errors : Bytes
  status : Nat
  /-- What is left of the input. -/
  input : Bytes
  files : Files.Tree

/-- What a utility finds. -/
structure Setting where
  input : Bytes
  files : Files.Tree

namespace Setting

def writes (setting : Setting) (output : Bytes) : Deed := ⟨output, [], 0, setting.input, setting.files⟩

def ends (setting : Setting) (status : Nat) : Deed := ⟨[], [], status, setting.input, setting.files⟩

def complains (setting : Setting) (errors : String) (status : Nat) : Deed :=
  ⟨[], bytesOf (errors ++ "\n"), status, setting.input, setting.files⟩

end Setting

/-- Why a file cannot be had, without the number that the system has for it. -/
def reason (fault : Files.Fault) : String :=
  String.ofList (Text.dropEndWhile (· == ' ') (fault.message.toList.takeWhile (· != '(')))

def joined (arguments : List Bytes) : Bytes := [' '].intercalate arguments

/-- Writes its arguments with their escapes replaced, and ends the line unless told not to. -/
def echo (arguments : List Bytes) : Bytes :=
  let (arguments, lineEnd) := match arguments with
    | ['-', 'n'] :: rest => (rest, [])
    | arguments => (arguments, ['\n'])
  let (text, ends) := unescape (joined arguments)
  if ends then text else text ++ lineEnd

/-- Whether an expression about texts, numbers and files holds; there is none if it is no
expression. -/
def holds (files : Files.Tree) : Nat → List Bytes → Option Bool
  | 0, _ => none
  | _ + 1, [] => some false
  | _ + 1, [text] => some (text ≠ [])
  | _ + 1, [operator, operand] =>
    let path := textOf operand
    match String.ofList operator with
    | "!" => some (operand = [])
    | "-n" => some (operand ≠ [])
    | "-z" => some (operand = [])
    | "-e" => some (files.pathExists path)
    | "-d" => some (files.isDirectory path)
    | "-f" => some (files.pathExists path && !files.isDirectory path)
    | "-r" => some (files.pathExists path)
    | "-w" => some (files.pathExists path)
    | "-s" => some ((files.readBytes path).toOption.any (·.size ≠ 0))
    | "-x" => match files.locate path with
      | .ok (.present _ .directory) => some true
      | .ok (.present _ (.file _ executable)) => some executable
      | _ => some false
    | _ => none
  | fuel + 1, a :: operator :: b :: rest =>
    if rest = [] ∧ a ≠ ['!'] then
      let numbers (compare : Int → Int → Bool) : Option Bool := do
        some (compare (← Arithmetic.integer? a) (← Arithmetic.integer? b))
      match String.ofList operator with
      | "=" => some (a = b)
      | "!=" => some (a ≠ b)
      | "-eq" => numbers (· == ·)
      | "-ne" => numbers (· != ·)
      | "-lt" => numbers (· < ·)
      | "-le" => numbers (· ≤ ·)
      | "-gt" => numbers (fun m n => n < m)
      | "-ge" => numbers (fun m n => n ≤ m)
      | "-a" => some (a ≠ [] ∧ b ≠ [])
      | "-o" => some (a ≠ [] ∨ b ≠ [])
      | _ => none
    else if a = ['!'] then (holds files fuel (operator :: b :: rest)).map (!·)
    else
      let expression := a :: operator :: b :: rest
      match expression.span (· ≠ ['-', 'o']) with
      | (first, _ :: second) => do
        some ((← holds files fuel first) || (← holds files fuel second))
      | (_, []) =>
        match expression.span (· ≠ ['-', 'a']) with
        | (first, _ :: second) => do
          some ((← holds files fuel first) && (← holds files fuel second))
        | (_, []) => none

def test (setting : Setting) (arguments : List Bytes) : Deed :=
  match holds setting.files (arguments.length + 1) arguments with
  | some true => setting.ends 0
  | some false => setting.ends 1
  | none => setting.complains "test: bad expression" 2

def lastName (path : Bytes) : Bytes :=
  let kept := (path.reverse.dropWhile (· = '/')).reverse
  if kept = [] then path.take 1 else (kept.reverse.takeWhile (· ≠ '/')).reverse

def withoutLastName (path : Bytes) : Bytes :=
  let kept := path.reverse.dropWhile (· = '/')
  if kept = [] then (if path = [] then ['.'] else ['/'])
  else
    let above := kept.dropWhile (· ≠ '/')
    if above = [] then ['.']
    else
      let above := (above.dropWhile (· = '/')).reverse
      if above = [] then ['/'] else above

/-- A name without an ending, which must not be all of it. -/
def withoutEnding (ending name : Bytes) : Bytes :=
  if ending.isSuffixOf name ∧ ending ≠ name then name.take (name.length - ending.length) else name

/-- Files one after another; a dash stands for the input. -/
def cat (setting : Setting) : List Bytes → Deed
  | [] => setting.ends 0
  | path :: rest =>
    if path = ['-'] then
      let others := cat { setting with input := [] } rest
      { others with output := setting.input ++ others.output }
    else
      let others := cat setting rest
      match setting.files.readBytes (textOf path) with
      | .ok content => { others with output := ofByteArray content ++ others.output }
      | .error fault =>
        let complaint := bytesOf ("cat: " ++ textOf path ++ ": " ++ reason fault ++ "\n")
        { others with errors := complaint ++ others.errors, status := 1 }

def seq (first step last : Int) : Bytes :=
  if step = 0 then []
  else
    let count := if 0 < step then (last - first) / step + 1 else (first - last) / (-step) + 1
    ((List.range count.toNat).map fun (n : Nat) =>
      digitsOf 10 1 (first + step * n) ++ ['\n']).flatten

def firstLines : Nat → Bytes → Bytes
  | 0, _ => []
  | lines + 1, input =>
    let line := input.takeWhile (· ≠ '\n')
    match input.dropWhile (· ≠ '\n') with
    | [] => line
    | _ :: rest => line ++ '\n' :: firstLines lines rest

def print (setting : Setting) : List Bytes → Deed
  | [] => setting.complains "printf: usage: printf format [arg ...]" 2
  | pattern :: arguments =>
    let formatted := format pattern arguments
    let complaints := formatted.refused.map fun argument =>
      bytesOf ("printf: " ++ textOf argument ++ ": expected numeric value\n")
    let status := if formatted.known then (if complaints = [] then 0 else 1) else 2
    { setting.writes formatted.text with errors := complaints.flatten, status }

def copy (setting : Setting) (source target : Bytes) : Deed :=
  match setting.files.readBytes (textOf source) with
  | .error fault =>
    setting.complains ("cp: cannot stat '" ++ textOf source ++ "': " ++ reason fault) 1
  | .ok content =>
    let target := if setting.files.isDirectory (textOf target) then target ++ ['/'] ++ lastName source
      else target
    match setting.files.write (textOf target) content with
    | .ok files => { setting.ends 0 with files }
    | .error fault =>
      setting.complains ("cp: cannot create regular file '" ++ textOf target ++ "': " ++
        reason fault) 1

def utility? (name : String) (arguments : List Bytes) (setting : Setting) : Option Deed :=
  match name, arguments with
  | "echo", arguments => some (setting.writes (echo arguments))
  | "printf", arguments => some (print setting arguments)
  | "true", _ => some (setting.ends 0)
  | ":", _ => some (setting.ends 0)
  | "false", _ => some (setting.ends 1)
  | "sleep", _ => some (setting.ends 0)
  | "test", arguments => some (test setting arguments)
  | "[", arguments =>
    if arguments.getLast? = some [']'] then some (test setting arguments.dropLast)
    else some (setting.complains "[: missing ]" 2)
  | "cat", [] => some { setting.writes setting.input with input := [] }
  | "cat", paths => some (cat setting paths)
  | "basename", [path] => some (setting.writes (lastName path ++ ['\n']))
  | "basename", [path, ending] =>
    some (setting.writes (withoutEnding ending (lastName path) ++ ['\n']))
  | "dirname", [path] => some (setting.writes (withoutLastName path ++ ['\n']))
  | "pwd", [] =>
    some (setting.writes
      (bytesOf ("/" ++ "/".intercalate setting.files.workingDirectory ++ "\n")))
  | "cp", [source, target] => some (copy setting source target)
  | "head", [['-', 'n'], count] =>
    some { setting.writes (firstLines (number count) setting.input) with input := [] }
  | "seq", arguments =>
    match arguments.mapM Arithmetic.integer? with
    | some [last] => some (setting.writes (seq 1 1 last))
    | some [first, last] => some (setting.writes (seq first 1 last))
    | some [first, step, last] => some (setting.writes (seq first step last))
    | _ => some (setting.complains "seq: invalid argument" 1)
  | _, _ => none

end WorkflowCompiler.Machine.Shell
