import WorkflowCompiler.Text.Utf8

/-!
Reading bytes whose encoding a byte order mark may tell. Without a mark they are UTF-8. Reading
is tolerant: the replacement character stands for what is no character.
-/
namespace WorkflowCompiler.Text

/-- A value in the range that pairs of units are made of: the first or the second of a pair. -/
def isLeadingUnit (n : Nat) : Bool := 0xD800 ≤ n && n < 0xDC00

def isTrailingUnit (n : Nat) : Bool := 0xDC00 ≤ n && n < 0xE000

def ofUnits : List Nat → List Char
  | [] => []
  | [u] => [if isLeadingUnit u || isTrailingUnit u then '\uFFFD' else Char.ofNat u]
  | u :: v :: rest =>
    if isLeadingUnit u then
      if isTrailingUnit v then
        Char.ofNat (0x10000 + (u - 0xD800) * 0x400 + (v - 0xDC00)) :: ofUnits rest
      else '\uFFFD' :: ofUnits (v :: rest)
    else if isTrailingUnit u then '\uFFFD' :: ofUnits (v :: rest)
    else Char.ofNat u :: ofUnits (v :: rest)

/-- The units of a byte sequence. A byte left over is a unit that stands for no character. -/
def unitsOf (join : UInt8 → UInt8 → Nat) : List UInt8 → List Nat
  | [] => []
  | [_] => [0xFFFD]
  | a :: b :: rest => join a b :: unitsOf join rest

/-- The text of bytes in the encoding that their mark tells. -/
def decodeMarked : List UInt8 → String
  | 0xEF :: 0xBB :: 0xBF :: rest => decodeTolerantly rest
  | 0xFF :: 0xFE :: rest =>
    String.ofList (ofUnits (unitsOf (fun a b => a.toNat + 256 * b.toNat) rest))
  | 0xFE :: 0xFF :: rest =>
    String.ofList (ofUnits (unitsOf (fun a b => 256 * a.toNat + b.toNat) rest))
  | bytes => decodeTolerantly bytes

end WorkflowCompiler.Text
