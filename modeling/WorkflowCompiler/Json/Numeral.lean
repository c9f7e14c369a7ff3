import WorkflowCompiler.Json.Value

/-!
The value of a written number. An integer that fits 64 bits is kept exactly; any other number
becomes a double. The digits are first gathered into a significand of 64 bits, which is then
multiplied or divided by a power of ten, each step rounding once.
-/
namespace WorkflowCompiler.Json

/-- A number as it is written. -/
structure Numeral where
  negative : Bool
  whole : List Nat
  fraction : List Nat
  exponent : Int
  /-- There is neither a fraction nor an exponent. -/
  integral : Bool
  deriving Repr

def significandBound : Nat := Nat.pow 2 64

/-- Appends digits to a significand for as long as it stays in bounds; gives the digits left. -/
def absorb : Nat → List Nat → Nat × List Nat
  | significand, [] => (significand, [])
  | significand, digit :: rest =>
    if significand * 10 + digit < significandBound then
      absorb (significand * 10 + digit) rest
    else (significand, digit :: rest)

def powerOfTen (n : Nat) : Decimal.Magnitude :=
  (Decimal.Magnitude.ofNat? (Nat.pow 10 n)).getD ⟨0, Decimal.leastExponent⟩

/-- Multiplies by a power of ten. No single step goes beyond 308 places; a longer way down is
taken in steps, of which a significand of 64 bits survives two. -/
def scaleByTen? : Nat → Decimal.Magnitude → Int → Option Decimal.Magnitude
  | steps, x, exponent =>
    if exponent.natAbs ≤ 308 then
      if 0 ≤ exponent then x.mul? (powerOfTen exponent.natAbs)
      else x.div? (powerOfTen exponent.natAbs)
    else if x.significand = 0 then some x
    else if 0 ≤ exponent then none
    else match steps with
      | 0 => some ⟨0, Decimal.leastExponent⟩
      | steps + 1 => do scaleByTen? steps (← x.div? (powerOfTen 308)) (exponent + 308)

/-- The number that is written, unless it is greater than every double. -/
def Numeral.value? (numeral : Numeral) : Option Number :=
  let whole := absorb 0 numeral.whole
  if numeral.integral ∧ whole.2 = [] ∧ !numeral.negative then
    some (.integer whole.1)
  else if numeral.integral ∧ whole.2 = [] ∧ whole.1 ≠ 0 ∧ whole.1 ≤ Nat.pow 2 63 then
    some (.integer (-whole.1))
  else
    let all := absorb whole.1 numeral.fraction
    let exponent : Int :=
      whole.2.length - ((numeral.fraction.length - all.2.length : Nat) : Int) + numeral.exponent
    ((Decimal.Magnitude.ofNat? all.1).bind (scaleByTen? 4 · exponent)).map fun x =>
      .double ⟨numeral.negative, x⟩

end WorkflowCompiler.Json
