import DesignGraph.Decimal.Shortest

/-!
# JSON numbers

A number without fraction and exponent stays an integer while it fits 64 bits; any other
one is a binary number. Digits are gathered into a significand of at most 64 bits; those
beyond it only move the decimal point, and the significand is then scaled by a power of
ten. A result too large for the format is refused.

A binary number is written with the fewest digits that are read back, as a plain decimal
with at least one digit after the point from 0.00001 up to sixteen digits before the
point, and in scientific notation with a signed exponent otherwise.
-/

namespace DesignGraph.Json

open Decimal

/-- A number as a program holds it. -/
inductive Number where
  | integer (n : Int)
  | binary (x : Binary64)
  deriving DecidableEq, Repr

/-- A number as it is written: sign, digits before the point, digits after it, and a
signed exponent. -/
structure Numeral where
  negative : Bool
  whole : List Nat
  fraction : Option (List Nat)
  exponent : Option (Bool × List Nat)
  deriving DecidableEq, Repr

namespace Numeral

/-- The largest significand that is gathered. -/
def largestSignificand : Nat := Nat.pow 2 64 - 1

/-- The largest power of ten that is a binary number. -/
def largestPower : Nat := 308

def largestExponent : Nat := Nat.pow 2 31 - 1

/-- The significand after the next digits and how many of them it took in. -/
def gather (significand : Nat) : List Nat → Nat × Nat
  | [] => (significand, 0)
  | digit :: rest =>
    if significand * 10 + digit ≤ largestSignificand then
      let (final, taken) := gather (significand * 10 + digit) rest
      (final, taken + 1)
    else (significand, 0)

def digitsValue (digits : List Nat) : Nat := digits.foldl (fun n d => n * 10 + d) 0

def powerOfTen (n : Nat) : Binary64 :=
  (Binary64.ofFraction? false (Nat.pow 10 n) 1).getD (.zero false)

/-- The number divided by powers of ten until the rest of the exponent is in reach. -/
def scaleDown (x : Binary64) : Nat → Nat → Option Binary64
  | 0, _ => some x
  | rounds + 1, exponent =>
    if exponent ≤ largestPower then x.div? (powerOfTen exponent)
    else if x.significand = 0 then some x
    else
      match x.div? (powerOfTen largestPower) with
      | some y => scaleDown y rounds (exponent - largestPower)
      | none => none

/-- The significand scaled by a power of ten. Two thousand is more than any exponent
that leaves something of a significand of 64 bits. -/
def scale (x : Binary64) (exponent : Int) : Option Binary64 :=
  match exponent with
  | .ofNat n =>
    if n ≤ largestPower then x.mul? (powerOfTen n)
    else if x.significand = 0 then some x
    else none
  | .negSucc n => scaleDown x 8 (n + 1)

/-- The written exponent; beyond the largest one only its sign counts. -/
def exponentValue (exponent : Option (Bool × List Nat)) : Int :=
  match exponent with
  | none => 0
  | some (negative, digits) =>
    let size : Int := digitsValue digits
    if negative then -size else size

/-- The written exponent is too large to be gathered. -/
def exponentOverflows (exponent : Option (Bool × List Nat)) : Bool :=
  match exponent with
  | none => false
  | some (_, digits) => digitsValue digits > largestExponent

def size? (n : Numeral) : Option Binary64 :=
  let (whole, taken) := gather 0 n.whole
  let (significand, places) := gather whole (n.fraction.getD [])
  let moved : Int := (n.whole.length - taken : Nat) - (places : Int)
  if exponentOverflows n.exponent then
    if significand = 0 ∨ exponentValue n.exponent < 0 then some (.zero false) else none
  else
    (Binary64.ofFraction? false significand 1).bind fun x =>
      scale x (moved + exponentValue n.exponent)

def value? (n : Numeral) : Option Number :=
  let size := digitsValue n.whole
  let plain := n.fraction.isNone && n.exponent.isNone
  if plain && !n.negative && size ≤ largestSignificand then some (.integer size)
  else if plain && n.negative && 0 < size && size ≤ Nat.pow 2 63 then some (.integer (-size))
  else (n.size?).map fun x => .binary { x with negative := n.negative }

end Numeral

namespace Number

def digitChars (n : Nat) : List Char := Nat.toDigits 10 n

/-- A decimal with these digits whose first one stands at this power of ten, as a plain
decimal. -/
def positional (digits : List Char) (exponent : Int) : List Char :=
  match exponent with
  | .negSucc n => '0' :: '.' :: (List.replicate n '0' ++ digits)
  | .ofNat n =>
    let after := digits.drop (n + 1)
    digits.take (n + 1) ++ List.replicate (n + 1 - digits.length) '0' ++
      '.' :: (if after.isEmpty then ['0'] else after)

/-- The same decimal in scientific notation. -/
def scientific (digits : List Char) (exponent : Int) : List Char :=
  let after := digits.drop 1
  digits.take 1 ++ (if after.isEmpty then [] else '.' :: after) ++
    'e' :: (if exponent < 0 then '-' else '+') :: digitChars exponent.natAbs

def binaryText (x : Binary64) : List Char :=
  let sign := if x.negative then ['-'] else []
  if x.significand = 0 then sign ++ ['0', '.', '0']
  else
    let d := x.shortest
    let digits := digitChars d.digits
    let exponent := d.exponent + digits.length - 1
    sign ++ if -5 ≤ exponent ∧ exponent ≤ 15 then positional digits exponent
      else scientific digits exponent

def text : Number → List Char
  | .integer (.ofNat n) => digitChars n
  | .integer (.negSucc n) => '-' :: digitChars (n + 1)
  | .binary x => binaryText x

/-- An integer is written with its sign and its decimal digits. -/
theorem ofList_text_integer (n : Int) : String.ofList (integer n).text = toString n := by
  cases n with
  | ofNat n => rfl
  | negSucc n =>
    refine String.toList_inj.mp ?_
    have hneg : toString (Int.negSucc n) = "-" ++ Nat.repr (n + 1) := rfl
    rw [hneg, String.toList_append, String.toList_ofList, Nat.toList_repr]
    rfl

end Number

end DesignGraph.Json
