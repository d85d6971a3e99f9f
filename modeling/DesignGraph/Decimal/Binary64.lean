/-!
# Binary64 numbers

The finite numbers of the 64-bit binary format as exact integers: a sign, a significand
below 2^53 and a power of two. Products and quotients are rounded to the nearest such
number, a tie going to the even significand; what is too large for the format has no
result.
-/

namespace DesignGraph.Decimal

/-- The number `significand * 2^exponent`, or its negative. -/
structure Binary64 where
  negative : Bool
  significand : Nat
  exponent : Int
  deriving DecidableEq, Repr

namespace Binary64

def leastExponent : Int := -1074

def largestExponent : Int := 971

def zero (negative : Bool) : Binary64 := ⟨negative, 0, leastExponent⟩

/-- The quotient rounded to the nearest integer, a tie to the even one. -/
def roundQuotient (num den : Nat) : Nat :=
  let quotient := num / den
  let twice := 2 * (num % den)
  if twice < den then quotient
  else if twice = den then quotient + quotient % 2
  else quotient + 1

/-- The fraction `num / den` divided by a power of two. -/
def scaleDown (num den : Nat) (exponent : Int) : Nat × Nat :=
  match exponent with
  | .ofNat n => (num, den * Nat.pow 2 n)
  | .negSucc n => (num * Nat.pow 2 (n + 1), den)

/-- The exponent that gives the fraction a significand of 53 bits, but no less than the
least one. -/
def exponentFor (num den : Nat) : Int :=
  let guess : Int := (num.log2 : Int) - den.log2 - 52
  let (n, d) := scaleDown num den guess
  max leastExponent (if n < d * Nat.pow 2 52 then guess - 1 else guess)

/-- The number nearest to `num / den`; none when that is too large. -/
def ofFraction? (negative : Bool) (num den : Nat) : Option Binary64 :=
  if num = 0 then some (zero negative)
  else
    let exponent := exponentFor num den
    let (n, d) := scaleDown num den exponent
    let rounded := roundQuotient n d
    let (significand, exponent) :=
      if rounded = Nat.pow 2 53 then (Nat.pow 2 52, exponent + 1) else (rounded, exponent)
    if exponent > largestExponent then none else some ⟨negative, significand, exponent⟩

def fraction (x : Binary64) : Nat × Nat :=
  match x.exponent with
  | .ofNat n => (x.significand * Nat.pow 2 n, 1)
  | .negSucc n => (x.significand, Nat.pow 2 (n + 1))

def mul? (x y : Binary64) : Option Binary64 :=
  let (xn, xd) := x.fraction
  let (yn, yd) := y.fraction
  ofFraction? (x.negative != y.negative) (xn * yn) (xd * yd)

/-- The quotient by a number other than zero, rounded. -/
def div? (x y : Binary64) : Option Binary64 :=
  let (xn, xd) := x.fraction
  let (yn, yd) := y.fraction
  ofFraction? (x.negative != y.negative) (xn * yd) (xd * yn)

end Binary64

end DesignGraph.Decimal
