/-!
# Digits

Numbers as they are written with digits of a radix, the letters serving as digits from
ten on.
-/

namespace DesignGraph.Text

/-- The value of a digit of the radix; the case of a letter does not matter. -/
def digitValue? (radix : Nat) (c : Char) : Option Nat :=
  let value :=
    if c.isDigit then c.toNat - '0'.toNat
    else if c.isAlpha then c.toLower.toNat - 'a'.toNat + 10
    else radix
  if value < radix then some value else none

/-- The number that the digits spell. No digit spells none. -/
def number? (radix : Nat) (text : List Char) : Option Nat :=
  if text.isEmpty then none
  else text.foldlM (fun n c => (digitValue? radix c).map (n * radix + ·)) 0

def decimal (n : Nat) : List Char := Nat.toDigits 10 n

/-- The number with digits of sixteen, in lower case. -/
def hexadecimal (n : Nat) : List Char := Nat.toDigits 16 n

end DesignGraph.Text
