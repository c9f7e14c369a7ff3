import WorkflowCompiler.Text.Printable

/-!
Text shown between double quotes in a message, so that nothing in it can be mistaken for the
message itself: quotes and backslashes are escaped, and what leaves no mark of its own is
written as its code point.
-/
namespace WorkflowCompiler.Text

def hexDigits (n : Nat) : List Char :=
  Nat.toDigits 16 n

def quotedChar (c : Char) : List Char :=
  if c = '\x00' then ['\\', '0']
  else if c = '\t' then ['\\', 't']
  else if c = '\r' then ['\\', 'r']
  else if c = '\n' then ['\\', 'n']
  else if c = '"' then ['\\', '"']
  else if c = '\\' then ['\\', '\\']
  else if isPrintable c then [c]
  else '\\' :: 'u' :: '\x7b' :: hexDigits c.toNat ++ ['\x7d']

def quoted (s : String) : String :=
  String.ofList ('"' :: s.toList.flatMap quotedChar ++ ['"'])

end WorkflowCompiler.Text
