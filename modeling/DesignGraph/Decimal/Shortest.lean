import DesignGraph.Decimal.Binary64

/-!
# Shortest decimals

The fewest digits that are read back as the same binary number, and of those the nearest
to it. On the grid of decimals with a given number of digits only the two neighbours of
the number itself can be the nearest, so each grid is tried at these two.
-/

namespace DesignGraph.Decimal

/-- The decimal `digits * 10^exponent`. -/
structure Scientific where
  digits : Nat
  exponent : Int
  deriving DecidableEq, Repr

namespace Scientific

def fraction (d : Scientific) : Nat × Nat :=
  match d.exponent with
  | .ofNat n => (d.digits * Nat.pow 10 n, 1)
  | .negSucc n => (d.digits, Nat.pow 10 (n + 1))

/-- The decimal without zeros at the end of its digits; at most `places` are looked at. -/
def stripZeros : Nat → Scientific → Scientific
  | 0, d => d
  | places + 1, d =>
    if d.digits ≠ 0 ∧ d.digits % 10 = 0 then stripZeros places ⟨d.digits / 10, d.exponent + 1⟩
    else d

end Scientific

def fractionLt (x y : Nat × Nat) : Bool := x.1 * y.2 < y.1 * x.2

def fractionDistance (x y : Nat × Nat) : Nat × Nat :=
  ((x.1 * y.2 - y.1 * x.2) + (y.1 * x.2 - x.1 * y.2), x.2 * y.2)

namespace Binary64

/-- Half way to the next smaller and the next larger number. Below a power of two the
smaller neighbour is nearer, unless the exponent is already the least. -/
def bounds (x : Binary64) : (Nat × Nat) × (Nat × Nat) :=
  let quarter (n : Nat) : Nat × Nat :=
    let (num, den) := fraction { x with significand := n }
    (num, den * 4)
  let narrow := x.significand = Nat.pow 2 52 ∧ x.exponent > leastExponent
  (quarter (4 * x.significand - (if narrow then 1 else 2)), quarter (4 * x.significand + 2))

/-- The decimal is read as this number; the bounds themselves are when the significand
is even. -/
def readsFrom (x : Binary64) (d : Scientific) : Bool :=
  let (low, high) := x.bounds
  if x.significand % 2 = 0 then !fractionLt d.fraction low && !fractionLt high d.fraction
  else fractionLt low d.fraction && fractionLt d.fraction high

/-- The number of places by which a fraction below one has to be multiplied by ten to
reach one, counted up to a limit. -/
def leadingZeros (num den : Nat) : Nat → Nat
  | 0 => 0
  | limit + 1 => if num < den then leadingZeros (num * 10) den limit + 1 else 0

/-- The power of ten of the number's first digit. -/
def decimalExponent (x : Binary64) : Int :=
  let (num, den) := x.fraction
  if num < den then -(leadingZeros num den 400 : Int)
  else ((Nat.toDigits 10 (num / den)).length : Int) - 1

/-- The two neighbours of the number on the grid of this power of ten. -/
def neighbours (x : Binary64) (exponent : Int) : Scientific × Scientific :=
  let (num, den) := x.fraction
  let floor := match exponent with
    | .ofNat n => num / (den * Nat.pow 10 n)
    | .negSucc n => num * Nat.pow 10 (n + 1) / den
  (⟨floor, exponent⟩, ⟨floor + 1, exponent⟩)

/-- The neighbour on the grid that is read as the number, the nearer one if both are; a
tie goes to the even digits. -/
def onGrid? (x : Binary64) (exponent : Int) : Option Scientific :=
  let (below, above) := x.neighbours exponent
  match x.readsFrom below, x.readsFrom above with
  | true, true =>
    let down := fractionDistance x.fraction below.fraction
    let up := fractionDistance x.fraction above.fraction
    if fractionLt down up then some below
    else if fractionLt up down then some above
    else if below.digits % 2 = 0 then some below
    else some above
  | true, false => some below
  | false, true => some above
  | false, false => none

/-- The first hit on the grids that start at this power of ten and become finer. -/
def shortestFrom (x : Binary64) : Nat → Int → Scientific
  | 0, exponent => (x.neighbours exponent).1
  | grids + 1, exponent =>
    match x.onGrid? exponent with
    | some d => d
    | none => shortestFrom x grids (exponent - 1)

/-- The shortest decimal that is read as the number. Seventeen digits always are enough. -/
def shortest (x : Binary64) : Scientific :=
  (x.shortestFrom 17 x.decimalExponent).stripZeros 20

end Binary64

end DesignGraph.Decimal
