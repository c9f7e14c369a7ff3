import WorkflowCompiler.Json.Reader

/-!
Passing over a value that nobody asks for. Only its grammar is looked at: it may nest to any
depth, its numbers may be of any size and its escapes need not make characters. The brackets
that are open are kept on a stack, so no nesting is too deep.
-/
namespace WorkflowCompiler.Json

/-- A bracket that is open. -/
inductive Bracket
  | list
  | object
  deriving DecidableEq, Repr

/-- What the grammar wants next. -/
inductive Want
  | value
  | key
  | separator
  deriving DecidableEq, Repr

def skimText : List Char → Reading (List Char)
  | [] => fault .unexpectedEnd []
  | '"' :: rest => .ok rest
  | '\\' :: 'u' :: a :: b :: c :: d :: rest =>
    if (hexValues? a b c d).isSome then skimText rest else fault .unfinishedEscape rest
  | '\\' :: c :: rest =>
    if (shortEscape? c).isSome then skimText rest else fault .unfinishedEscape rest
  | c :: rest =>
    if c.toNat < 32 then fault .rawControl (c :: rest) else skimText rest

/-- Passes over what is wanted and, until every bracket is closed, over what it calls for. -/
def skimFrom : Nat → List Bracket → Want → List Char → Reading (List Char)
  | 0, _, _, cs => fault .unexpectedEnd cs
  | fuel + 1, opened, .value, cs =>
    match skipGaps cs with
    | '"' :: rest => do skimFrom fuel opened .separator (← skimText rest)
    | '[' :: rest =>
      match skipGaps rest with
      | ']' :: rest => skimFrom fuel opened .separator rest
      | rest => skimFrom fuel (.list :: opened) .value rest
    | '\x7b' :: rest =>
      match skipGaps rest with
      | '\x7d' :: rest => skimFrom fuel opened .separator rest
      | rest => skimFrom fuel (.object :: opened) .key rest
    | 'n' :: rest => do
      skimFrom fuel opened .separator (← word "null".toList .null ('n' :: rest)).2
    | 't' :: rest => do
      skimFrom fuel opened .separator (← word "true".toList .null ('t' :: rest)).2
    | 'f' :: rest => do
      skimFrom fuel opened .separator (← word "false".toList .null ('f' :: rest)).2
    | rest => do skimFrom fuel opened .separator (← numeral rest).2
  | fuel + 1, opened, .key, cs =>
    match skipGaps cs with
    | '"' :: rest => do
      match skipGaps (← skimText rest) with
      | ':' :: rest => skimFrom fuel opened .value rest
      | rest => unexpected rest
    | rest => unexpected rest
  | _ + 1, [], .separator, cs => .ok cs
  | fuel + 1, bracket :: opened, .separator, cs =>
    match bracket, skipGaps cs with
    | .list, ',' :: rest => skimFrom fuel (.list :: opened) .value rest
    | .list, ']' :: rest => skimFrom fuel opened .separator rest
    | .object, ',' :: rest => skimFrom fuel (.object :: opened) .key rest
    | .object, '\x7d' :: rest => skimFrom fuel opened .separator rest
    | _, rest => unexpected rest

/-- What follows one value; each step takes a character, so their number is fuel enough. -/
def skim (cs : List Char) : Reading (List Char) :=
  skimFrom (cs.length + 1) [] .value cs

end WorkflowCompiler.Json
