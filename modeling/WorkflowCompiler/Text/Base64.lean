/-!
Base64 with the standard alphabet and required padding. Reading is the exact inverse of writing:
white space, missing padding and leftover bits are refused.
-/
namespace WorkflowCompiler.Text.Base64

def digit (n : Nat) : Char :=
  if n < 26 then Char.ofNat (65 + n)
  else if n < 52 then Char.ofNat (97 + (n - 26))
  else if n < 62 then Char.ofNat (48 + (n - 52))
  else if n = 62 then '+'
  else '/'

def digitValue? (c : Char) : Option Nat :=
  let n := c.toNat
  if 65 ≤ n ∧ n ≤ 90 then some (n - 65)
  else if 97 ≤ n ∧ n ≤ 122 then some (n - 97 + 26)
  else if 48 ≤ n ∧ n ≤ 57 then some (n - 48 + 52)
  else if c = '+' then some 62
  else if c = '/' then some 63
  else none

/-- Three bytes become four digits; one or two left over are padded. -/
def encode : List UInt8 → List Char
  | [] => []
  | [a] =>
    [digit (a.toNat / 4), digit (a.toNat % 4 * 16), '=', '=']
  | [a, b] =>
    [digit (a.toNat / 4), digit (a.toNat % 4 * 16 + b.toNat / 16),
     digit (b.toNat % 16 * 4), '=']
  | a :: b :: c :: rest =>
    digit (a.toNat / 4) :: digit (a.toNat % 4 * 16 + b.toNat / 16) ::
      digit (b.toNat % 16 * 4 + c.toNat / 64) :: digit (c.toNat % 64) :: encode rest

/-- The bytes that are written this way, if any are. -/
def decode : List Char → Option (List UInt8)
  | [] => some []
  | a :: b :: c :: d :: rest => do
    let p ← digitValue? a
    let q ← digitValue? b
    if rest = [] ∧ d = '=' then
      if c = '=' then
        if q % 16 = 0 then some [UInt8.ofNat (p * 4 + q / 16)] else none
      else
        let r ← digitValue? c
        if r % 4 = 0 then
          some [UInt8.ofNat (p * 4 + q / 16), UInt8.ofNat (q % 16 * 16 + r / 4)]
        else none
    else
      let r ← digitValue? c
      let s ← digitValue? d
      let bytes ← decode rest
      some (UInt8.ofNat (p * 4 + q / 16) :: UInt8.ofNat (q % 16 * 16 + r / 4) ::
        UInt8.ofNat (r % 4 * 64 + s) :: bytes)
  | _ => none

theorem digitValue?_digit : ∀ n, n < 64 → digitValue? (digit n) = some n := by decide

end WorkflowCompiler.Text.Base64
