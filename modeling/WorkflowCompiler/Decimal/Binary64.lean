/-!
Finite double precision numbers and their arithmetic, carried out exactly on natural numbers and
then rounded to the nearest double, a tie going to the even significand.
-/
namespace WorkflowCompiler.Decimal

/-- The non-negative finite double `significand * 2 ^ exponent`. -/
structure Magnitude where
  significand : Nat
  exponent : Int
  deriving DecidableEq, Repr, Inhabited

/-- A finite double; zero has two signs. -/
structure Binary64 where
  negative : Bool
  magnitude : Magnitude
  deriving DecidableEq, Repr, Inhabited

def leastExponent : Int := -1074

def greatestExponent : Int := 971

/-- A quotient rounded to the nearest natural number, a half to the even neighbour. -/
def roundQuotient (numerator denominator : Nat) : Nat :=
  let quotient := numerator / denominator
  let twice := 2 * (numerator % denominator)
  if twice < denominator then quotient
  else if denominator < twice then quotient + 1
  else quotient + quotient % 2

def dividedByTwoPow (numerator denominator : Nat) (exponent : Int) : Nat × Nat :=
  if 0 ≤ exponent then (numerator, denominator * Nat.pow 2 exponent.toNat)
  else (numerator * Nat.pow 2 (-exponent).toNat, denominator)

/-- The double nearest to a fraction, unless the fraction is too great for any. -/
def Magnitude.ofRatio? (numerator denominator : Nat) : Option Magnitude :=
  if numerator = 0 then some ⟨0, leastExponent⟩
  else
    let estimate : Int := (numerator.log2 : Int) - denominator.log2 - 53
    let low := max leastExponent estimate
    let atLow := dividedByTwoPow numerator denominator low
    let exponent := if atLow.1 / atLow.2 < Nat.pow 2 53 then low else low + 1
    let ratio := dividedByTwoPow numerator denominator exponent
    let significand := roundQuotient ratio.1 ratio.2
    let rounded : Magnitude :=
      if significand = Nat.pow 2 53 then ⟨Nat.pow 2 52, exponent + 1⟩ else ⟨significand, exponent⟩
    if rounded.exponent ≤ greatestExponent then some rounded else none

def Magnitude.ratio (x : Magnitude) : Nat × Nat :=
  dividedByTwoPow x.significand 1 (-x.exponent)

def Magnitude.ofNat? (n : Nat) : Option Magnitude :=
  ofRatio? n 1

def Magnitude.mul? (x y : Magnitude) : Option Magnitude :=
  ofRatio? (x.ratio.1 * y.ratio.1) (x.ratio.2 * y.ratio.2)

def Magnitude.div? (x y : Magnitude) : Option Magnitude :=
  ofRatio? (x.ratio.1 * y.ratio.2) (x.ratio.2 * y.ratio.1)

end WorkflowCompiler.Decimal
