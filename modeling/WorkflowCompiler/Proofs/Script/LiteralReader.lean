import WorkflowCompiler.Json.Reader

/-!
What Python makes of a literal. The reader takes a literal from the front of a text and gives its
value and the text after it. It covers the constants, numbers, texts in double quotes, lists and
dictionaries with texts as keys, and it gives nothing where Python would give something else:
leading zeros, three quotes in a row, line breaks inside a text and escapes that are not listed
here are all refused.
-/
namespace WorkflowCompiler.Script

open Json (Value Number Members)

/-- The characters that may follow a backslash, with what the two stand for. A slash is not among
them: Python keeps the backslash before it. -/
def shortEscapes : List (Char × Char) :=
  [('"', '"'), ('\\', '\\'), ('\x27', '\x27'), ('n', '\n'), ('r', '\r'), ('t', '\t'),
   ('b', '\x08'), ('f', '\x0c'), ('a', '\x07'), ('v', '\x0b')]

/-- The inside of a text, up to and with the closing quote; `kept` is what was read so far, last
character first. Python does not join two halves of a surrogate pair. -/
def textBody (kept : List Char) : List Char → Option (String × List Char)
  | [] => none
  | '"' :: rest => some (String.ofList kept.reverse, rest)
  | '\\' :: 'u' :: a :: b :: c :: d :: rest =>
    match Json.hexValues? a b c d with
    | none => none
    | some n =>
      if Json.isHighSurrogate n || Json.isLowSurrogate n then none
      else textBody (Char.ofNat n :: kept) rest
  | '\\' :: c :: rest =>
    match shortEscapes.lookup c with
    | some e => textBody (e :: kept) rest
    | none => none
  | c :: rest =>
    if c = '\n' ∨ c = '\r' ∨ c = '\x00' ∨ c = '\\' then none else textBody (c :: kept) rest

/-- A text after its opening quote. Two more quotes would open a text of another kind. -/
def readText : List Char → Option (String × List Char)
  | '"' :: '"' :: _ => none
  | cs => textBody [] cs

def endsToken : List Char → Bool
  | [] => true
  | c :: _ => c.toNat < 128 && !c.isAlphanum && c != '_' && c != '.'

def constants : List (String × Value) :=
  [("None", .null), ("True", .flag true), ("False", .flag false)]

def readConstant (cs : List Char) : Option (Value × List Char) :=
  constants.findSome? fun (name, v) =>
    (name.toList.isPrefixOf? cs).bind fun rest => if endsToken rest then some (v, rest) else none

/-- The value of a written number. Integers are exact, whatever their size, and any other number
is the double nearest to it, unless it is greater than all of them. -/
def numberOf? (written : Json.Numeral) : Option Number :=
  if written.integral then
    let n : Int := Json.ofDigits written.whole
    some (.integer (if written.negative then -n else n))
  else
    let coefficient := Json.ofDigits (written.whole ++ written.fraction)
    let power : Int := written.exponent - written.fraction.length
    let magnitude := Decimal.Magnitude.ofRatio? (coefficient * Nat.pow 10 power.toNat)
      (Nat.pow 10 (-power).toNat)
    magnitude.map fun x => .double ⟨written.negative, x⟩

def readNumber (cs : List Char) : Option (Value × List Char) := do
  let (written, rest) ← (Json.numeral cs).toOption
  if endsToken rest then some (.number (← numberOf? written), rest) else none

/-- Gives a key of a dictionary a value. A key that is there keeps its place. -/
def assign (members : Members) (key : String) (v : Value) : Members :=
  if members.contains key then members.map fun m => if m.1 = key then (key, v) else m
  else members ++ [(key, v)]

mutual

/-- A literal; the recursion runs on a number that the length of the text bounds. -/
def readValue : Nat → List Char → Option (Value × List Char)
  | 0, _ => none
  | _ + 1, '"' :: rest => (readText rest).map fun (s, rest) => (.text s, rest)
  | fuel + 1, '[' :: rest => do
    let (items, rest) ← readItems fuel (Json.skipGaps rest)
    some (.list items, rest)
  | fuel + 1, '\x7b' :: rest => do
    let (members, rest) ← readMembers fuel [] (Json.skipGaps rest)
    some (.object members, rest)
  | _ + 1, cs => (readConstant cs).or (readNumber cs)
termination_by structural fuel => fuel

def readItems : Nat → List Char → Option (List Value × List Char)
  | 0, _ => none
  | _ + 1, ']' :: rest => some ([], rest)
  | fuel + 1, cs => do
    let (v, rest) ← readValue fuel cs
    match Json.skipGaps rest with
    | ']' :: rest => some ([v], rest)
    | ',' :: rest => do
      let (others, rest) ← readItems fuel (Json.skipGaps rest)
      some (v :: others, rest)
    | _ => none
termination_by structural fuel => fuel

def readMember : Nat → List Char → Option ((String × Value) × List Char)
  | 0, _ => none
  | fuel + 1, '"' :: rest => do
    let (key, rest) ← readText rest
    match Json.skipGaps rest with
    | ':' :: rest => do
      let (v, rest) ← readValue fuel (Json.skipGaps rest)
      some ((key, v), rest)
    | _ => none
  | _ + 1, _ => none
termination_by structural fuel => fuel

/-- The members of a dictionary after those that are `kept`, up to and with the closing brace; a
comma may follow the last. -/
def readMembers : Nat → Members → List Char → Option (Members × List Char)
  | 0, _, _ => none
  | _ + 1, kept, '\x7d' :: rest => some (kept, rest)
  | fuel + 1, kept, cs => do
    let ((key, v), rest) ← readMember fuel cs
    match Json.skipGaps rest with
    | '\x7d' :: rest => some (assign kept key v, rest)
    | ',' :: rest => readMembers fuel (assign kept key v) (Json.skipGaps rest)
    | _ => none
termination_by structural fuel => fuel

end

def readLiteral (cs : List Char) : Option (Value × List Char) :=
  readValue cs.length cs

end WorkflowCompiler.Script
