import DesignGraph.Text.Digits
import DesignGraph.Text.Pieces

/-!
# Numeric addresses of four bytes

Such an address is read generously: its numbers may be octal or hexadecimal, and the last
one may stand for all the bytes that are left. It is written as four numbers with dots
between them. Which names have to be addresses is decided by their last part alone.
-/

namespace DesignGraph.Address

open Text

/-- An address of four bytes. -/
structure Ipv4 where
  number : UInt32
  deriving DecidableEq, Repr

namespace Ipv4

/-- A number of an address: hexadecimal after a zero and an x, octal after a zero, decimal
otherwise. The marker alone stands for zero. -/
def readNumber? : List Char → Option Nat
  | ['0'] => some 0
  | '0' :: 'x' :: digits => if digits.isEmpty then some 0 else number? 16 digits
  | '0' :: 'X' :: digits => if digits.isEmpty then some 0 else number? 16 digits
  | '0' :: digits => number? 8 digits
  | digits => number? 10 digits

/-- The parts of a name; a dot at its end is left out. -/
def nameParts (name : List Char) : List (List Char) :=
  let parts := pieces '.' name
  if parts.getLast? = some [] then parts.dropLast else parts

/-- The name can only be an address: its last part is made of digits or is a number. -/
def isMeant (name : List Char) : Bool :=
  ((nameParts name).getLast?).any fun part =>
    (!part.isEmpty && part.all Char.isDigit) || (readNumber? part).isSome

/-- One more than the greatest last number after this many others, which stand for a byte
each. -/
def lastBound (others : Nat) : Nat := Nat.pow 0x100 (4 - others)

/-- The number that the parts of an address stand for. All but the last stand for a byte. -/
def join? (numbers : List Nat) : Option Nat := do
  let last ← numbers.getLast?
  let bytes := numbers.dropLast
  let bound := lastBound bytes.length
  if 4 < numbers.length || bytes.any (255 < ·) || bound ≤ last then none
  else return bytes.foldl (fun n b => n * 0x100 + b) 0 * bound + last

def read? (name : List Char) : Option Ipv4 := do
  let number ← join? (← (nameParts name).mapM readNumber?)
  return ⟨UInt32.ofNat number⟩

/-- The bytes of the address, the highest first. -/
def bytes (address : Ipv4) : List Nat :=
  let n := address.number.toNat
  [n / 0x1000000, n / 0x10000 % 0x100, n / 0x100 % 0x100, n % 0x100]

def text (address : Ipv4) : List Char := ['.'].intercalate (address.bytes.map decimal)

end Ipv4

end DesignGraph.Address
