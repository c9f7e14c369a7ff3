import WorkflowCompiler.Settings.Document
import WorkflowCompiler.Text.Alphanumeric
import WorkflowCompiler.Text.Blank

/-!
Reading TOML. Every reader takes the characters that are left and gives its result with the
characters after it, or nothing. Settings hold texts, truth values and integers; doubles carry no
meaning for them and are kept as zero, dates as objects that no setting can be mistaken for.
-/
namespace WorkflowCompiler.Settings.Toml

open Json (Value)

abbrev Reader (α : Type) := List Char → Option (α × List Char)

def skipSpaces (cs : List Char) : List Char :=
  cs.dropWhile fun c => c = ' ' || c = '\t'

/-- Characters that may stand in a text or a comment as they are. -/
def isPlain (c : Char) : Bool :=
  c = '\t' || (32 ≤ c.toNat && c.toNat ≠ 127)

def newline? : List Char → Option (List Char)
  | '\n' :: rest => some rest
  | '\r' :: '\n' :: rest => some rest
  | _ => none

def skipComment : List Char → List Char
  | '#' :: rest => rest.dropWhile isPlain
  | cs => cs

/-- What follows the end of a line, which a comment may precede. -/
def endLine? (cs : List Char) : Option (List Char) :=
  match skipComment (skipSpaces cs) with
  | [] => some []
  | rest => newline? rest

/-- What follows white space, comments and line breaks. -/
def skipLines : Nat → List Char → List Char
  | 0, cs => cs
  | fuel + 1, cs =>
    let rest := skipComment (skipSpaces cs)
    match newline? rest with
    | some rest => skipLines fuel rest
    | none => rest

def skipBlankLines (cs : List Char) : List Char := skipLines cs.length cs

def hexNumber? (cs : List Char) : Option Nat :=
  cs.foldlM (fun n c => do
    let d ← if Text.isAsciiDigit c then some (c.toNat - 48)
      else if 'a' ≤ c ∧ c ≤ 'f' then some (c.toNat - 87)
      else if 'A' ≤ c ∧ c ≤ 'F' then some (c.toNat - 55)
      else none
    some (n * 16 + d)) 0

def codePoint (count : Nat) : Reader Char := fun cs => do
  if cs.length < count then none
  else
    let n ← hexNumber? (cs.take count)
    if n.isValidChar then some (Char.ofNat n, cs.drop count) else none

def escape : Reader Char
  | 'b' :: rest => some ('\x08', rest)
  | 't' :: rest => some ('\t', rest)
  | 'n' :: rest => some ('\n', rest)
  | 'f' :: rest => some ('\x0c', rest)
  | 'r' :: rest => some ('\r', rest)
  | '"' :: rest => some ('"', rest)
  | '\\' :: rest => some ('\\', rest)
  | 'u' :: rest => codePoint 4 rest
  | 'U' :: rest => codePoint 8 rest
  | _ => none

/-- The inside of a text on one line, up to and with the closing quote. -/
def basicBody : Nat → List Char → Reader String
  | 0, _, _ => none
  | fuel + 1, kept, cs =>
    match cs with
    | '"' :: rest => some (String.ofList kept.reverse, rest)
    | '\\' :: rest => do
      let (c, rest) ← escape rest
      basicBody fuel (c :: kept) rest
    | c :: rest => if isPlain c then basicBody fuel (c :: kept) rest else none
    | [] => none

def literalBody (cs : List Char) : Option (String × List Char) :=
  let inside := cs.takeWhile fun c => isPlain c && c != '\x27'
  match cs.drop inside.length with
  | '\x27' :: rest => some (String.ofList inside, rest)
  | _ => none

/-- Quotes inside or at the end of a text over several lines: three of them end it, and up to
two more stand right before those. Gives whether it ended. -/
def quoteRun (quote : Char) (kept cs : List Char) : Bool × List Char × List Char :=
  let count := min 5 (cs.takeWhile (· == quote)).length
  if 3 ≤ count then (true, List.replicate (count - 3) quote ++ kept, cs.drop count)
  else (false, List.replicate count quote ++ kept, cs.drop count)

/-- White space and line breaks after a backslash at the end of a line. -/
def skipFolded (cs : List Char) : Option (List Char) := do
  let rest ← newline? (skipSpaces cs)
  some (rest.dropWhile fun c => c = ' ' || c = '\t' || c = '\n' || c = '\r')

/-- The inside of a text over several lines, up to and with the closing quotes. -/
def longBody (quote : Char) (escapes : Bool) : Nat → List Char → Reader String
  | 0, _, _ => none
  | fuel + 1, kept, cs =>
    match cs with
    | [] => none
    | c :: rest =>
      if c = quote then
        match quoteRun quote kept cs with
        | (true, kept, rest) => some (String.ofList kept.reverse, rest)
        | (false, kept, rest) => longBody quote escapes fuel kept rest
      else if c = '\\' ∧ escapes then
        match skipFolded rest with
        | some rest => longBody quote escapes fuel kept rest
        | none => do
          let (c, rest) ← escape rest
          longBody quote escapes fuel (c :: kept) rest
      else
        match newline? cs with
        | some rest => longBody quote escapes fuel ('\n' :: kept) rest
        | none => if isPlain c then longBody quote escapes fuel (c :: kept) rest else none

/-- What follows a line break right after the opening quotes, which does not count. -/
def skipFirstBreak (cs : List Char) : List Char := (newline? cs).getD cs

def shortText : Reader String
  | '"' :: rest => basicBody (rest.length + 1) [] rest
  | '\x27' :: rest => literalBody rest
  | _ => none

def text : Reader String
  | '"' :: '"' :: '"' :: rest => longBody '"' true (rest.length + 1) [] (skipFirstBreak rest)
  | '\x27' :: '\x27' :: '\x27' :: rest =>
    longBody '\x27' false (rest.length + 1) [] (skipFirstBreak rest)
  | cs => shortText cs

def isKeyCharacter (c : Char) : Bool :=
  Text.isAsciiLetter c || Text.isAsciiDigit c || c == '_' || c == '-'

def keyPart (cs : List Char) : Option (String × List Char) :=
  match cs.takeWhile isKeyCharacter with
  | [] => shortText cs
  | bare => some (String.ofList bare, cs.drop bare.length)

def dottedKey : Nat → Reader (List String)
  | 0, _ => none
  | fuel + 1, cs => do
    let (part, rest) ← keyPart (skipSpaces cs)
    match skipSpaces rest with
    | '.' :: rest => do
      let (parts, rest) ← dottedKey fuel rest
      some (part :: parts, rest)
    | rest => some ([part], rest)

def key (cs : List Char) : Option (List String × List Char) := dottedKey (cs.length + 1) cs

/-- The digits of a number, where an underscore may stand between any two. -/
def grouped? (isDigit : Char → Bool) (cs : List Char) : Option (List Char) :=
  let groups := Text.splitAtEach (· == '_') cs
  if groups.all fun g => !g.isEmpty && g.all isDigit then some groups.flatten else none

def unsigned (cs : List Char) : Bool × List Char :=
  match cs with
  | '-' :: rest => (true, rest)
  | '+' :: rest => (false, rest)
  | _ => (false, cs)

def wholeDigits? (cs : List Char) : Option (List Char) := do
  let digits ← grouped? Text.isAsciiDigit cs
  match digits with
  | '0' :: _ :: _ => none
  | _ => some digits

def based? (base : Nat) (cs : List Char) : Option Nat := do
  let digits ← grouped? (fun c => (hexNumber? [c]).any (· < base)) cs
  some (digits.foldl (fun n c => n * base + (hexNumber? [c]).getD 0) 0)

/-- A signed 64-bit integer. -/
def integer? (cs : List Char) : Option Int :=
  let inRange (n : Int) : Option Int := if -Int.pow 2 63 ≤ n ∧ n < Int.pow 2 63 then some n else none
  match cs with
  | '0' :: 'x' :: rest => (based? 16 rest).bind fun n => inRange n
  | '0' :: 'o' :: rest => (based? 8 rest).bind fun n => inRange n
  | '0' :: 'b' :: rest => (based? 2 rest).bind fun n => inRange n
  | _ =>
    let (negative, digits) := unsigned cs
    (wholeDigits? digits).bind fun digits =>
      let n : Nat := digits.foldl (fun n c => n * 10 + (c.toNat - 48)) 0
      inRange (if negative then -n else n)

/-- The characters write a double: a fraction or an exponent or both, or a special value. -/
def isDouble (cs : List Char) : Bool :=
  let (_, body) := unsigned cs
  let isExponent (cs : List Char) : Bool := (grouped? Text.isAsciiDigit (unsigned cs).2).isSome
  if body = "inf".toList ∨ body = "nan".toList then true
  else
    match Text.splitAtEach (fun c => c == 'e' || c == 'E') body with
    | [number] =>
      match Text.splitAtEach (· == '.') number with
      | [whole, fraction] =>
        (wholeDigits? whole).isSome && (grouped? Text.isAsciiDigit fraction).isSome
      | _ => false
    | [number, exponent] =>
      isExponent exponent &&
      match Text.splitAtEach (· == '.') number with
      | [whole] => (wholeDigits? whole).isSome
      | [whole, fraction] =>
        (wholeDigits? whole).isSome && (grouped? Text.isAsciiDigit fraction).isSome
      | _ => false
    | _ => false

def fixed? (count : Nat) (cs : List Char) : Option Nat :=
  if cs.length = count ∧ cs.all Text.isAsciiDigit then
    some (cs.foldl (fun n c => n * 10 + (c.toNat - 48)) 0)
  else none

def daysIn (year month : Nat) : Nat :=
  if month = 2 then
    if (year % 4 = 0 ∧ year % 100 ≠ 0) ∨ year % 400 = 0 then 29 else 28
  else if month = 4 ∨ month = 6 ∨ month = 9 ∨ month = 11 then 30
  else 31

def isDate (cs : List Char) : Bool :=
  match Text.splitAtEach (· == '-') cs with
  | [year, month, day] =>
    match fixed? 4 year, fixed? 2 month, fixed? 2 day with
    | some y, some m, some d => 1 ≤ m && m ≤ 12 && 1 ≤ d && d ≤ daysIn y m
    | _, _, _ => false
  | _ => false

def isClock (cs : List Char) : Bool :=
  match Text.splitAtEach (· == ':') cs with
  | [hour, minute] =>
    match fixed? 2 hour, fixed? 2 minute with
    | some h, some m => h < 24 && m < 60
    | _, _ => false
  | _ => false

def isTime (cs : List Char) : Bool :=
  match Text.splitAtEach (· == '.') cs with
  | whole :: rest =>
    isClock (whole.take 5) && (whole.drop 5).head? == some ':' &&
      (fixed? 2 (whole.drop 6)).any (· ≤ 60) &&
      match rest with
      | [] => true
      | [fraction] => !fraction.isEmpty && fraction.all Text.isAsciiDigit
      | _ => false
  | [] => false

def isOffsetTime (cs : List Char) : Bool :=
  match cs.reverse with
  | z :: rest =>
    if z = 'Z' ∨ z = 'z' then isTime rest.reverse
    else
      let offset := cs.drop (cs.length - 6)
      let sign := offset.head?
      (sign == some '+' || sign == some '-') && isClock (offset.drop 1) &&
        isTime (cs.take (cs.length - 6))
  | [] => false

def isMoment (cs : List Char) : Bool :=
  let time := cs.drop 11
  isDate cs || isTime cs ||
    (isDate (cs.take 10) &&
      (cs[10]? == some 'T' || cs[10]? == some 't' || cs[10]? == some ' ') &&
      (isTime time || isOffsetTime time))

def isAtomCharacter (c : Char) : Bool :=
  Text.isAsciiLetter c || Text.isAsciiDigit c || c == '_' || c == '-' || c == '+' || c == '.' ||
    c == ':'

/-- The characters of a number, truth value, date or time; a date and its time may have a space
between them. -/
def atomCharacters (cs : List Char) : List Char :=
  let run := cs.takeWhile isAtomCharacter
  match cs.drop run.length with
  | ' ' :: rest =>
    if isDate run && isClock (rest.take 5) then run ++ ' ' :: rest.takeWhile isAtomCharacter
    else run
  | _ => run

/-- A value that is neither a text nor a list nor a table. -/
def atom (cs : List Char) : Option (Value × List Char) := do
  let run := atomCharacters cs
  let rest := cs.drop run.length
  if run = "true".toList then some (.flag true, rest)
  else if run = "false".toList then some (.flag false, rest)
  else match integer? run with
    | some n => some (.number (.integer n), rest)
    | none =>
      if isDouble run then some (.number (.double default), rest)
      else if isMoment run then some (.object [("moment", .text (String.ofList run))], rest)
      else none

def assignment (value : Reader Value) (entries : Entries) (change : (Entries → Option Entries) →
    Entries → Option Entries) : Reader Entries := fun cs => do
  let (parts, rest) ← key cs
  match rest with
  | '=' :: rest => do
    let (v, rest) ← value (skipSpaces rest)
    let last ← parts.getLast?
    some (← change (Entries.assign v last parts.dropLast) entries, rest)
  | _ => none

def listItems (value : Reader Value) : Nat → List Value → Reader Value
  | 0, _, _ => none
  | fuel + 1, kept, cs =>
    match skipBlankLines cs with
    | ']' :: rest => some (.list kept.reverse, rest)
    | cs => do
      let (v, rest) ← value cs
      match skipBlankLines rest with
      | ',' :: rest => listItems value fuel (v :: kept) rest
      | ']' :: rest => some (.list (v :: kept).reverse, rest)
      | _ => none

def tableItems (value : Reader Value) : Nat → Entries → Reader Value
  | 0, _, _ => none
  | fuel + 1, entries, cs => do
    let (entries, rest) ← assignment value entries (fun change => change) cs
    match skipSpaces rest with
    | ',' :: rest => tableItems value fuel entries rest
    | '\x7d' :: rest => some (entries.toValue, rest)
    | _ => none

/-- A value with at most so many brackets inside one another. -/
def value : Nat → Reader Value
  | 0, _ => none
  | depth + 1, cs =>
    match cs with
    | '[' :: rest => listItems (value depth) (rest.length + 1) [] rest
    | '\x7b' :: rest =>
      match skipSpaces rest with
      | '\x7d' :: rest => some (.object [], rest)
      | rest => tableItems (value depth) (rest.length + 1) [] rest
    | '"' :: _ => (text cs).map fun (s, rest) => (.text s, rest)
    | '\x27' :: _ => (text cs).map fun (s, rest) => (.text s, rest)
    | _ => atom cs

def depthLimit : Nat := 80

/-- A header, with the characters after its line: the path and whether it names an array. -/
def tableHeader (cs : List Char) : Option ((List String × Bool) × List Char) :=
  match cs with
  | '[' :: '[' :: rest => do
    let (path, rest) ← key rest
    match rest with
    | ']' :: ']' :: rest => do some ((path, true), ← endLine? rest)
    | _ => none
  | '[' :: rest => do
    let (path, rest) ← key rest
    match rest with
    | ']' :: rest => do some ((path, false), ← endLine? rest)
    | _ => none
  | _ => none

/-- The lines of a file; `path` is what the last header named. -/
def fileLines : Nat → List String → Entries → List Char → Option Entries
  | 0, _, _, _ => none
  | fuel + 1, path, entries, cs =>
    match skipBlankLines cs with
    | [] => some entries
    | '[' :: rest => do
      let ((path, array), rest) ← tableHeader ('[' :: rest)
      let entries ← if array then entries.openTables path else entries.openTable path
      fileLines fuel path entries rest
    | cs => do
      let (entries, rest) ←
        assignment (value depthLimit) entries (fun change => Entries.changeAt change path) cs
      fileLines fuel path entries (← endLine? rest)

/-- The value of a whole file; a byte order mark at its beginning does not count. -/
def parse? (s : String) : Option Value :=
  let cs := match s.toList with
    | '\uFEFF' :: rest => rest
    | cs => cs
  (fileLines (cs.length + 1) [] [] cs).map Entries.toValue

end WorkflowCompiler.Settings.Toml
