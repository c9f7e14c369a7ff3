import WorkflowCompiler.Decimal.Binary64

/-!
The shortest decimal text of a double: the fewest digits that read back as the same double, and
of the numbers with that many digits the nearest one.
-/
namespace WorkflowCompiler.Decimal

/-- The number `coefficient * 10 ^ power`. -/
structure Scaled where
  coefficient : Nat
  power : Int
  deriving DecidableEq, Repr, Inhabited

def digitsOf (n : Nat) : List Char :=
  Nat.toDigits 10 n

/-- The greatest `k` with `10 ^ k` at most the positive fraction. -/
def leadingPower (numerator denominator : Nat) : Int :=
  if denominator ≤ numerator then
    ((digitsOf (numerator / denominator)).length : Int) - 1
  else
    let inverse := (denominator + numerator - 1) / numerator
    0 - ((digitsOf (inverse - 1)).length : Int)

/-- The reals that round to a double, in units of a quarter of its last place. Both ends belong
to them exactly when the significand is even. -/
structure Neighbourhood where
  low : Nat
  middle : Nat
  high : Nat
  closed : Bool

def Magnitude.neighbourhood (x : Magnitude) : Neighbourhood :=
  let below := if x.significand = Nat.pow 2 52 ∧ leastExponent < x.exponent then 1 else 2
  { low := 4 * x.significand - below
    middle := 4 * x.significand
    high := 4 * x.significand + 2
    closed := x.significand % 2 = 0 }

/-- The best number with the given last decimal place that lies in the neighbourhood: of the two
around the double the nearer one, and the even one when both are as near. -/
def Magnitude.onGrid? (x : Magnitude) (power : Int) : Option Scaled :=
  let around := x.neighbourhood
  let unit := dividedByTwoPow 1 1 (2 - x.exponent)
  -- a grid number `c` and a point `p` of the neighbourhood compare as `c * g` and `p * u`
  let g := unit.2 * Nat.pow 10 power.toNat
  let u := unit.1 * Nat.pow 10 (-power).toNat
  let inside (c : Nat) : Bool :=
    if around.closed then around.low * u ≤ c * g && c * g ≤ around.high * u
    else around.low * u < c * g && c * g < around.high * u
  let floor := around.middle * u / g
  let belowBy := around.middle * u - floor * g
  let aboveBy := (floor + 1) * g - around.middle * u
  match inside floor, inside (floor + 1) with
  | false, false => none
  | true, false => some ⟨floor, power⟩
  | false, true => some ⟨floor + 1, power⟩
  | true, true =>
    if belowBy < aboveBy ∨ (belowBy = aboveBy ∧ floor % 2 = 0) then some ⟨floor, power⟩
    else some ⟨floor + 1, power⟩

/-- The shortest number that reads back as the double: seventeen digits always do. -/
def Magnitude.shortest (x : Magnitude) : Scaled :=
  if x.significand = 0 then ⟨0, 0⟩
  else
    let ratio := x.ratio
    let leading := leadingPower ratio.1 ratio.2
    ((List.range 17).findSome? fun count : Nat => x.onGrid? (leading - count)).getD ⟨0, 0⟩

/-- The digits without trailing zeros and the power of ten of the first of them. -/
def Scaled.significant (x : Scaled) : List Char × Int :=
  let digits := digitsOf x.coefficient
  let kept := (digits.reverse.dropWhile (· == '0')).reverse
  if kept = [] then (['0'], 0) else (kept, x.power + (digits.length - 1))

/-- A number written out in full, with at least one decimal. -/
def positional (digits : List Char) (leading : Int) : List Char :=
  if leading < 0 then
    '0' :: '.' :: List.replicate (-leading - 1).toNat '0' ++ digits
  else
    let whole := leading.toNat + 1
    let fraction := digits.drop whole
    digits.take whole ++ List.replicate (whole - digits.length) '0' ++
      '.' :: (if fraction = [] then ['0'] else fraction)

/-- A number written with one digit before the point and a power of ten. -/
def exponential (plus : Bool) (digits : List Char) (leading : Int) : List Char :=
  let fraction := digits.drop 1
  digits.take 1 ++ (if fraction = [] then [] else '.' :: fraction) ++
    'e' :: (if leading < 0 then ['-'] else if plus then ['+'] else []) ++
      digitsOf leading.natAbs

/-- How doubles are written: which leading powers of ten are written in full, and whether the
power of the others has a sign when it is positive. -/
structure Layout where
  inFull : Int → Bool
  plus : Bool

def Binary64.write (layout : Layout) (x : Binary64) : List Char :=
  let significant := x.magnitude.shortest.significant
  let body :=
    if layout.inFull significant.2 then positional significant.1 significant.2
    else exponential layout.plus significant.1 significant.2
  if x.negative then '-' :: body else body

end WorkflowCompiler.Decimal
