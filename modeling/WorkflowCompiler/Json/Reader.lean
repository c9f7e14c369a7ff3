import WorkflowCompiler.Json.Numeral

/-!
Reading JSON text. Each reader takes the characters that are left and gives what it read
together with the characters after it. Nesting is limited, and the limit is what the recursion
runs on.
-/
namespace WorkflowCompiler.Json

/-- Why a text is no JSON document. -/
inductive Flaw
  | unexpectedEnd
  | unexpected (c : Char)
  | unfinishedEscape
  | loneSurrogate
  | rawControl
  | numberTooGreat
  | tooDeep
  | repeatedField (name : String)
  | misfit
  deriving DecidableEq, Repr

/-- A flaw and how many characters were left when it was met. -/
structure Fault where
  flaw : Flaw
  remaining : Nat
  deriving DecidableEq, Repr

/-- What a reader gives: a result and the characters after it. -/
abbrev Reading := Except Fault

/-- A result of reading and the characters after it. -/
abbrev Before (α : Type) := α × List Char

def fault {α : Type} (flaw : Flaw) (rest : List Char) : Reading α :=
  .error ⟨flaw, rest.length⟩

def unexpected {α : Type} : List Char → Reading α
  | [] => fault .unexpectedEnd []
  | c :: rest => fault (.unexpected c) (c :: rest)

def isGap (c : Char) : Bool :=
  c == ' ' || c == '\n' || c == '\r' || c == '\t'

def skipGaps (cs : List Char) : List Char :=
  cs.dropWhile isGap

def hexValue? (c : Char) : Option Nat :=
  let n := c.toNat
  if 48 ≤ n ∧ n ≤ 57 then some (n - 48)
  else if 97 ≤ n ∧ n ≤ 102 then some (n - 87)
  else if 65 ≤ n ∧ n ≤ 70 then some (n - 55)
  else none

def hexValues? (a b c d : Char) : Option Nat := do
  some ((← hexValue? a) * 4096 + (← hexValue? b) * 256 + (← hexValue? c) * 16 + (← hexValue? d))

def shortEscape? (c : Char) : Option Char :=
  if c = '"' then some '"'
  else if c = '\\' then some '\\'
  else if c = '/' then some '/'
  else if c = 'n' then some '\n'
  else if c = 'r' then some '\r'
  else if c = 't' then some '\t'
  else if c = 'b' then some '\x08'
  else if c = 'f' then some '\x0c'
  else none

def isHighSurrogate (n : Nat) : Bool := 0xD800 ≤ n && n ≤ 0xDBFF

def isLowSurrogate (n : Nat) : Bool := 0xDC00 ≤ n && n ≤ 0xDFFF

/-- The inside of a quoted text, up to and with the closing quote; `kept` is what was read so
far, last character first. -/
def textBody (kept : List Char) : List Char → Reading (Before String)
  | [] => fault .unexpectedEnd []
  | '"' :: rest => .ok (String.ofList kept.reverse, rest)
  | '\\' :: 'u' :: a :: b :: c :: d :: rest =>
    match hexValues? a b c d with
    | none => fault .unfinishedEscape rest
    | some n =>
      if isHighSurrogate n then
        match rest with
        | '\\' :: 'u' :: e :: f :: g :: h :: rest =>
          match hexValues? e f g h with
          | none => fault .unfinishedEscape rest
          | some m =>
            if isLowSurrogate m then
              textBody (Char.ofNat (0x10000 + (n - 0xD800) * 1024 + (m - 0xDC00)) :: kept) rest
            else fault .loneSurrogate rest
        | _ => fault .loneSurrogate rest
      else if isLowSurrogate n then fault .loneSurrogate rest
      else textBody (Char.ofNat n :: kept) rest
  | '\\' :: c :: rest =>
    match shortEscape? c with
    | some e => textBody (e :: kept) rest
    | none => fault .unfinishedEscape (c :: rest)
  | c :: rest =>
    if c.toNat < 32 then fault .rawControl (c :: rest) else textBody (c :: kept) rest

def isDigit (c : Char) : Bool := '0' ≤ c && c ≤ '9'

def digitValue (c : Char) : Nat := c.toNat - 48

/-- The digits at the front, of which there must be one. -/
def digits (cs : List Char) : Reading (Before (List Nat)) :=
  match cs.takeWhile isDigit with
  | [] => unexpected cs
  | found => .ok (found.map digitValue, cs.dropWhile isDigit)

/-- The whole part of a number, which has no leading zero. -/
def wholePart : List Char → Reading (Before (List Nat))
  | '0' :: rest =>
    match rest with
    | c :: _ => if isDigit c then unexpected rest else .ok ([0], rest)
    | [] => .ok ([0], [])
  | cs => digits cs

def fractionPart : List Char → Reading (Before (Option (List Nat)))
  | '.' :: rest => do
    let (found, rest) ← digits rest
    .ok (some found, rest)
  | cs => .ok (none, cs)

def ofDigits (found : List Nat) : Nat :=
  found.foldl (fun n d => n * 10 + d) 0

def exponentPart : List Char → Reading (Before (Option Int))
  | c :: rest =>
    if c = 'e' ∨ c = 'E' then
      match rest with
      | '-' :: rest => do
        let (found, rest) ← digits rest
        .ok (some (-(ofDigits found : Int)), rest)
      | '+' :: rest => do
        let (found, rest) ← digits rest
        .ok (some (ofDigits found : Int), rest)
      | _ => do
        let (found, rest) ← digits rest
        .ok (some (ofDigits found : Int), rest)
    else .ok (none, c :: rest)
  | [] => .ok (none, [])

def sign : List Char → Bool × List Char
  | '-' :: rest => (true, rest)
  | cs => (false, cs)

def numeral (cs : List Char) : Reading (Before Numeral) := do
  let (negative, unsigned) := sign cs
  let (whole, rest) ← wholePart unsigned
  let (fraction, rest) ← fractionPart rest
  let (exponent, rest) ← exponentPart rest
  .ok ({ negative, whole
         fraction := fraction.getD []
         exponent := exponent.getD 0
         integral := fraction.isNone && exponent.isNone }, rest)

def number (cs : List Char) : Reading (Before Number) := do
  let (written, rest) ← numeral cs
  match written.value? with
  | some n => .ok (n, rest)
  | none => fault .numberTooGreat rest

def word (letters : List Char) (v : Value) (cs : List Char) : Reading (Before Value) :=
  if letters.isPrefixOf cs then .ok (v, cs.drop letters.length) else unexpected cs

/-- The items of a list after the first, `kept` being those before, last one first. -/
def moreItems {α : Type} (item : List Char → Reading (Before α)) :
    Nat → List α → List Char → Reading (Before (List α))
  | 0, _, cs => fault .unexpectedEnd cs
  | fuel + 1, kept, cs => do
    let (v, rest) ← item cs
    match skipGaps rest with
    | ',' :: rest => moreItems item fuel (v :: kept) rest
    | ']' :: rest => .ok ((v :: kept).reverse, rest)
    | rest => unexpected rest

def items {α : Type} (item : List Char → Reading (Before α)) (cs : List Char) : Reading (Before (List α)) :=
  match skipGaps cs with
  | ']' :: rest => .ok ([], rest)
  | _ => moreItems item cs.length [] cs

/-- One member of an object: a quoted key, a colon and what the key asks for. -/
def member {α : Type} (item : String → List Char → Reading (Before α)) (cs : List Char) :
    Reading (Before (String × α)) :=
  match skipGaps cs with
  | '"' :: rest => do
    let (key, rest) ← textBody [] rest
    match skipGaps rest with
    | ':' :: rest => do
      let (v, rest) ← item key rest
      .ok ((key, v), rest)
    | rest => unexpected rest
  | rest => unexpected rest

def moreMembers {α : Type} (item : String → List Char → Reading (Before α)) :
    Nat → List (String × α) → List Char → Reading (Before (List (String × α)))
  | 0, _, cs => fault .unexpectedEnd cs
  | fuel + 1, kept, cs => do
    let (m, rest) ← member item cs
    match skipGaps rest with
    | ',' :: rest => moreMembers item fuel (m :: kept) rest
    | '\x7d' :: rest => .ok ((m :: kept).reverse, rest)
    | rest => unexpected rest

/-- The members after an opening brace, up to and with the closing one, as they stand. -/
def members {α : Type} (item : String → List Char → Reading (Before α)) (cs : List Char) :
    Reading (Before (List (String × α))) :=
  match skipGaps cs with
  | '\x7d' :: rest => .ok ([], rest)
  | _ => moreMembers item cs.length [] cs

/-- A value whose lists and objects are read by `nested`, if they may occur at all. -/
def valueWith (nested : Option (List Char → Reading (Before Value))) (cs : List Char) : Reading (Before Value) :=
  match skipGaps cs with
  | '"' :: rest => do
    let (s, rest) ← textBody [] rest
    .ok (.text s, rest)
  | '[' :: rest =>
    match nested with
    | none => fault .tooDeep rest
    | some inner => do
      let (found, rest) ← items inner rest
      .ok (.list found, rest)
  | '\x7b' :: rest =>
    match nested with
    | none => fault .tooDeep rest
    | some inner => do
      let (found, rest) ← members (fun _ => inner) rest
      .ok (.object (Members.ofList found), rest)
  | 'n' :: rest => word "null".toList .null ('n' :: rest)
  | 't' :: rest => word "true".toList (.flag true) ('t' :: rest)
  | 'f' :: rest => word "false".toList (.flag false) ('f' :: rest)
  | rest => do
    let (n, rest) ← number rest
    .ok (.number n, rest)

/-- A value with at most `depth` lists and objects inside one another. -/
def value : Nat → List Char → Reading (Before Value)
  | 0 => valueWith none
  | depth + 1 => valueWith (some (value depth))

def depthLimit : Nat := 127

/-- A result after which nothing but white space follows. -/
def whole {α : Type} (reading : Reading (Before α)) : Reading α := do
  let (v, rest) ← reading
  match skipGaps rest with
  | [] => .ok v
  | rest => unexpected rest

/-- A place in a text: lines and columns count from one. -/
structure Place where
  line : Nat
  column : Nat
  deriving DecidableEq, Repr

def Place.after (cs : List Char) : Place :=
  cs.foldl (fun place c =>
    if c = '\n' then ⟨place.line + 1, 1⟩ else ⟨place.line, place.column + 1⟩) ⟨1, 1⟩

structure SyntaxError where
  flaw : Flaw
  place : Place
  deriving DecidableEq, Repr

def Fault.locate (f : Fault) (cs : List Char) : SyntaxError :=
  ⟨f.flaw, Place.after (cs.take (cs.length - f.remaining))⟩

def Flaw.message : Flaw → String
  | .unexpectedEnd => "the text ends too early"
  | .unexpected _ => "unexpected character"
  | .unfinishedEscape => "unknown escape"
  | .loneSurrogate => "half of a surrogate pair"
  | .rawControl => "control character inside a text"
  | .numberTooGreat => "number out of range"
  | .tooDeep => "nested too deeply"
  | .repeatedField name => "field " ++ name ++ " is given twice"
  | .misfit => "value of another type"

def SyntaxError.message (e : SyntaxError) : String :=
  e.flaw.message ++ " at line " ++ toString e.place.line ++ " column " ++ toString e.place.column

/-- The value that a text writes. -/
def Value.parse (s : String) : Except SyntaxError Value :=
  (whole (value depthLimit s.toList)).mapError (·.locate s.toList)

end WorkflowCompiler.Json
