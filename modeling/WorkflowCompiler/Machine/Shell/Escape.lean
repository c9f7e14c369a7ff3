import WorkflowCompiler.Machine.Shell.Arithmetic

/-!
Backslash escapes, and formats that place arguments in a text.
-/
namespace WorkflowCompiler.Machine.Shell

def controlOf? : Char → Option Char
  | 'a' => some '\x07'
  | 'b' => some '\x08'
  | 'f' => some '\x0c'
  | 'n' => some '\n'
  | 'r' => some '\x0d'
  | 't' => some '\t'
  | 'v' => some '\x0b'
  | '\\' => some '\\'
  | _ => none

def isOctal (c : Char) : Bool := '0' ≤ c && c ≤ '7'

/-- The byte that at most so many octal digits at the beginning of a text give, and what comes
after them. -/
def octal (limit : Nat) (cs : Bytes) : Char × Bytes :=
  let digits := (cs.take limit).takeWhile isOctal
  (Char.ofNat (digits.foldl (fun n c => 8 * n + (c.toNat - 48)) 0 % 256), cs.drop digits.length)

/-- A text with its escapes replaced. Octal digits follow a zero. Nothing is written after
`\c`, as the second part tells. -/
def unescapeFrom : Nat → Bytes → Bytes × Bool
  | 0, _ => ([], false)
  | fuel + 1, cs =>
    match cs with
    | [] => ([], false)
    | '\\' :: 'c' :: _ => ([], true)
    | '\\' :: '0' :: rest =>
      let (c, rest) := octal 3 rest
      let (others, ends) := unescapeFrom fuel rest
      (c :: others, ends)
    | '\\' :: c :: rest =>
      let (others, ends) := unescapeFrom fuel rest
      match controlOf? c with
      | some control => (control :: others, ends)
      | none => ('\\' :: c :: others, ends)
    | c :: rest =>
      let (others, ends) := unescapeFrom fuel rest
      (c :: others, ends)

def unescape (cs : Bytes) : Bytes × Bool := unescapeFrom (cs.length + 1) cs

inductive Slot
  | fixed (text : Bytes)
  /-- An argument, shown as a letter asks, to the left or padded with zeros, in a width, with
  so many characters or digits. -/
  | argument (letter : Char) (leftward zeros : Bool) (width : Nat) (precision : Option Nat)
  deriving DecidableEq, Repr

def number (digits : Bytes) : Nat := digits.foldl (fun n c => 10 * n + (c.toNat - 48)) 0

def slot (cs : Bytes) : Option (Slot × Bytes) :=
  let flags := cs.takeWhile (· ∈ ['-', '0', '+', ' ', '#'])
  let cs := cs.drop flags.length
  let width := cs.takeWhile Char.isDigit
  let cs := cs.drop width.length
  let (precision, cs) := match cs with
    | '.' :: rest => (some (number (rest.takeWhile Char.isDigit)), rest.dropWhile Char.isDigit)
    | cs => (none, cs)
  match cs with
  | c :: rest =>
    some (.argument c (flags.contains '-') (flags.contains '0') (number width) precision, rest)
  | [] => none

def slotsFrom : Nat → Bytes → List Slot
  | 0, _ => []
  | fuel + 1, cs =>
    match cs with
    | [] => []
    | '%' :: '%' :: rest => .fixed ['%'] :: slotsFrom fuel rest
    | '%' :: rest =>
      match slot rest with
      | some (slot, rest) => slot :: slotsFrom fuel rest
      | none => [.fixed ['%']]
    | '\\' :: c :: rest =>
      if isOctal c then
        let (byte, rest) := octal 3 (c :: rest)
        .fixed [byte] :: slotsFrom fuel rest
      else
        match controlOf? c with
        | some control => .fixed [control] :: slotsFrom fuel rest
        | none => .fixed (if c = '"' then ['"'] else ['\\', c]) :: slotsFrom fuel rest
    | c :: rest => .fixed [c] :: slotsFrom fuel rest

def slots (format : Bytes) : List Slot := slotsFrom (format.length + 1) format

def Slot.takesArgument : Slot → Bool
  | .fixed _ => false
  | .argument .. => true

def inWidth (leftward : Bool) (fill : Char) (width : Nat) (text : Bytes) : Bytes :=
  let padding := List.replicate (width - text.length) fill
  if leftward then text ++ List.replicate (width - text.length) ' ' else padding ++ text

/-- The number that an argument is: decimal, or octal after a zero, or hexadecimal; or the code
of a character after a quote. -/
def numberOf? (argument : Bytes) : Option Int :=
  match argument with
  | [] => some 0
  | '\x27' :: c :: _ => some c.toNat
  | '"' :: c :: _ => some c.toNat
  | '0' :: 'x' :: digits => inBase 16 digits
  | '0' :: d :: digits => inBase 8 (d :: digits)
  | argument => Arithmetic.integer? argument
where
  digit? (c : Char) : Option Nat :=
    if c.isDigit then some (c.toNat - 48)
    else if 'a' ≤ c ∧ c ≤ 'f' then some (c.toNat - 87)
    else if 'A' ≤ c ∧ c ≤ 'F' then some (c.toNat - 55)
    else none
  inBase (base : Nat) (digits : Bytes) : Option Int :=
    (digits.foldlM (fun n c => do
      let d ← digit? c
      if d < base then some (base * n + d) else none) 0).map Int.ofNat

/-- Digits of a number, with zeros before them up to a least count. -/
def digitsOf (base least : Nat) (value : Int) : Bytes :=
  let digits := Nat.toDigits base value.natAbs
  let digits := List.replicate (least - digits.length) '0' ++ digits
  if value < 0 then '-' :: digits else digits

/-- An argument in its place. There is none if the letter means nothing; the flag tells whether
the argument was of the right form, and the last part that nothing more is to be written. -/
def Slot.show? (argument : Bytes) : Slot → Option (Bytes × Bool × Bool)
  | .fixed text => some (text, true, false)
  | .argument letter leftward zeros width precision =>
    let text (shown : Bytes) : Bytes :=
      inWidth leftward ' ' width (match precision with
        | some n => shown.take n
        | none => shown)
    let integer (base : Nat) : Bytes × Bool × Bool :=
      let value := numberOf? argument
      let shown := digitsOf base (precision.getD 1) (value.getD 0)
      let shown := if zeros && !leftward && precision.isNone then
          match shown with
          | '-' :: digits => '-' :: inWidth false '0' (width - 1) digits
          | digits => inWidth false '0' width digits
        else inWidth leftward ' ' width shown
      (shown, value.isSome, false)
    match letter with
    | 's' => some (text argument, true, false)
    | 'b' =>
      let (shown, ends) := unescape argument
      some (text shown, true, ends)
    | 'c' => some (inWidth leftward ' ' width (argument.take 1), true, false)
    | 'd' => some (integer 10)
    | 'i' => some (integer 10)
    | 'u' => some (integer 10)
    | 'o' => some (integer 8)
    | 'x' => some (integer 16)
    | 'X' =>
      let (shown, valid, ends) := integer 16
      some (shown.map Char.toUpper, valid, ends)
    | _ => none

/-- What formatting writes, the arguments that were not of the form asked for, and whether every
letter was known. -/
structure Formatted where
  text : Bytes
  refused : List Bytes
  known : Bool

/-- The parts of a format in order, once. An argument that is missing counts as empty. -/
def formatOnce : List Slot → List Bytes → Formatted × List Bytes × Bool
  | [], arguments => (⟨[], [], true⟩, arguments, false)
  | slot :: rest, arguments =>
    let (argument, arguments) :=
      if slot.takesArgument then (arguments.headD [], arguments.drop 1) else ([], arguments)
    match slot.show? argument with
    | none => (⟨[], [], false⟩, [], true)
    | some (text, valid, ends) =>
      let refused := if valid then [] else [argument]
      if ends then (⟨text, refused, true⟩, [], true)
      else
        let (others, arguments, ends) := formatOnce rest arguments
        (⟨text ++ others.text, refused ++ others.refused, others.known⟩, arguments, ends)

/-- A format is used again as long as arguments are left that it takes. -/
def formatFrom (slots : List Slot) : Nat → List Bytes → Formatted
  | 0, _ => ⟨[], [], true⟩
  | rounds + 1, arguments =>
    let (first, left, ends) := formatOnce slots arguments
    if ends ∨ left = [] ∨ !slots.any Slot.takesArgument then first
    else
      let others := formatFrom slots rounds left
      ⟨first.text ++ others.text, first.refused ++ others.refused, others.known⟩

def format (format : Bytes) (arguments : List Bytes) : Formatted :=
  formatFrom (slots format) (arguments.length + 1) arguments

end WorkflowCompiler.Machine.Shell
