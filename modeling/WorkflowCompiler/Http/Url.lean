import WorkflowCompiler.Text.Blank
import WorkflowCompiler.Text.Utf8

/-!
Absolute URLs of the web: a host to connect to and a target to ask it for. Reading brings the
path into the form in which it is sent.
-/
namespace WorkflowCompiler.Http

structure Url where
  scheme : String
  /-- The host, with its port if one is given. -/
  authority : String
  /-- Path and query, as they are sent. -/
  target : String
  deriving DecidableEq, Repr

namespace Url

def hexDigit (n : Nat) : Char :=
  if n < 10 then Char.ofNat (48 + n) else Char.ofNat (55 + n)

def percent (c : Char) : List Char :=
  (Text.encodeUtf8 c.toString).flatMap fun byte =>
    ['%', hexDigit (byte.toNat / 16), hexDigit (byte.toNat % 16)]

/-- A character that may stand in a target as it is, apart from some exceptions. -/
def isPlain (exceptions : List Char) (c : Char) : Bool :=
  '!' ≤ c && c ≤ '~' && c ∉ exceptions

def encodeWith (exceptions : List Char) (cs : List Char) : List Char :=
  cs.flatMap fun c => if isPlain exceptions c then [c] else percent c

def pathExceptions : List Char := ['"', '#', '<', '>', '?', '^', '\x60', '\x7b', '\x7d']

def queryExceptions : List Char := ['"', '#', '<', '>', '\x27']

def isSlash (c : Char) : Bool := c == '/' || c == '\\'

def isHere (piece : List Char) : Bool :=
  Text.lowerAscii (String.ofList piece) ∈ [".", "%2e"]

def isAbove (piece : List Char) : Bool :=
  Text.lowerAscii (String.ofList piece) ∈ ["..", ".%2e", "%2e.", "%2e%2e"]

/-- Adds pieces to a path, the last piece of which comes first. -/
def walk : (path pieces : List (List Char)) → List (List Char)
  | path, [] => path
  | path, [last] =>
    if isAbove last then [] :: path.tail
    else if isHere last then [] :: path
    else last :: path
  | path, piece :: rest =>
    if isAbove piece then walk path.tail rest
    else if isHere piece then walk path rest
    else walk (piece :: path) rest

/-- A path as it is sent; what precedes its first slash is empty. -/
def sentPath (path : List Char) : List Char :=
  match Text.splitAtEach isSlash path with
  | _ :: first :: rest =>
    (walk [] (first :: rest)).reverse.flatMap fun piece =>
      '/' :: encodeWith pathExceptions piece
  | _ => ['/']

/-- Path and query as they are sent; what comes after a number sign is not. -/
def sentTarget (cs : List Char) : List Char :=
  let cs := cs.takeWhile (· ≠ '#')
  let path := sentPath (cs.takeWhile (· ≠ '?'))
  match cs.dropWhile (· ≠ '?') with
  | _ :: query => path ++ '?' :: encodeWith queryExceptions query
  | [] => path

def isForbiddenInHost (c : Char) : Bool :=
  c ≤ ' ' || c == '\x7f' || c ∈ ['#', '/', ':', '<', '>', '?', '@', '[', '\\', ']', '^', '|', '%']

def number? (base : Nat) (cs : List Char) : Option Nat :=
  cs.foldlM (fun n c => do
    let d ← if c.isDigit then some (c.toNat - 48)
      else if 'a' ≤ c.toLower ∧ c.toLower ≤ 'f' then some (c.toLower.toNat - 87)
      else none
    if d < base then some (n * base + d) else none) 0

/-- The number that a part of an address writes: hexadecimal after `0x`, octal after a zero,
decimal otherwise. -/
def addressPart? (cs : List Char) : Option Nat :=
  match cs with
  | [] => none
  | '0' :: x :: digits =>
    if x.toLower = 'x' then number? 16 digits else number? 8 (x :: digits)
  | digits => number? 10 digits

/-- The parts of a host between dots, the last of which may be followed by a dot. -/
def labels (host : List Char) : List (List Char) :=
  let parts := Text.splitAtEach (· == '.') host
  if parts.length > 1 ∧ parts.getLast? = some [] then parts.dropLast else parts

/-- A host that ends in a number has to be an address. -/
def endsInNumber (host : List Char) : Bool :=
  match (labels host).getLast? with
  | none => false
  | some last => last ≠ [] && (last.all Char.isDigit || (addressPart? last).isSome)

/-- Up to four numbers, the last of which stands for all bytes that the others leave. -/
def isAddress (host : List Char) : Bool :=
  let parts := labels host
  match parts.mapM addressPart? with
  | none => false
  | some numbers =>
    numbers.length ≤ 4 && numbers.dropLast.all (· < 256) &&
      numbers.getLast?.any (· < Nat.pow 256 (5 - numbers.length))

def isPort (cs : List Char) : Bool :=
  cs.all Char.isDigit && cs.foldl (fun n c => 10 * n + (c.toNat - 48)) 0 < 65536

def isAuthority (cs : List Char) : Bool :=
  match cs with
  | '[' :: rest =>
    let inside := rest.takeWhile (· ≠ ']')
    let address := inside.all fun c => c.isDigit || c == ':' || c == '.' ||
      ('a' ≤ c.toLower && c.toLower ≤ 'f')
    match rest.dropWhile (· ≠ ']') with
    | [']'] => inside ≠ [] && address
    | ']' :: ':' :: port => inside ≠ [] && address && isPort port
    | _ => false
  | _ =>
    let host := cs.takeWhile (· ≠ ':')
    host ≠ [] && !host.any isForbiddenInHost && (!endsInNumber host || isAddress host) &&
      match cs.dropWhile (· ≠ ':') with
      | _ :: port => isPort port
      | [] => true

/-- What follows a scheme: slashes, an authority and a target. -/
def afterScheme? (scheme : String) (cs : List Char) : Option Url :=
  let cs := cs.dropWhile isSlash
  let ends (c : Char) : Bool := isSlash c || c == '?' || c == '#'
  let authority := cs.takeWhile (!ends ·)
  let host := ((Text.splitAtEach (· == '@') authority).getLast?).getD []
  if isAuthority host then
    some ⟨scheme, String.ofList host, String.ofList (sentTarget (cs.dropWhile (!ends ·)))⟩
  else none

/-- The URL that a text writes; tabs and line ends in it do not count. -/
def parse? (s : String) : Option Url :=
  let cs := s.toList.filter fun c => c ≠ '\t' && c ≠ '\n' && c ≠ '\r'
  let cs := Text.dropEndWhile (· ≤ ' ') (cs.dropWhile (· ≤ ' '))
  let scheme := Text.lowerAscii (String.ofList (cs.takeWhile (· ≠ ':')))
  if scheme ∈ ["http", "https"] then
    match cs.dropWhile (· ≠ ':') with
    | _ :: rest => afterScheme? scheme rest
    | [] => none
  else none

end Url

end WorkflowCompiler.Http
